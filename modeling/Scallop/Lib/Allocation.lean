import Mathlib.Data.List.Dedup
import Scallop.Lib.UnorderedMap

/-!
# Numbers given to keys

* `firstFree` : the least number that no key has; `firstFree_isSome` : there is one while fewer
  numbers are given than there are;
* `assign` : the number of a key, which it gets now if it has none;
* `Numbering` : every key that needs a number has one of its own; `Numbering.assign` : so it is with
  one more; `Grows` : no number is changed;
* `Numbered` : no two keys have the same number, whatever keys there are; `Numbered.assign`;
* `Room` : there are numbers for some more keys; `room_cons` : iff the first of them gets one and
  there are numbers for the others.
-/

namespace Allocation

/-- The first of `i`, `i + 1`, ..., `i + n - 1` that is not taken. -/
def firstFree (taken : List Nat) : Nat → Nat → Option Nat
  | _, 0 => none
  | i, n + 1 => if i ∈ taken then firstFree taken (i + 1) n else some i

theorem firstFree_some {taken : List Nat} {i n k : Nat} (h : firstFree taken i n = some k) :
    k ∉ taken ∧ i ≤ k := by
  induction n generalizing i with
  | zero => cases h
  | succ n ih =>
      rw [firstFree] at h
      split at h
      next =>
        obtain ⟨hk, hle⟩ := ih h
        exact ⟨hk, by omega⟩
      next hi =>
        obtain rfl := Option.some.inj h
        exact ⟨hi, Nat.le_refl i⟩

theorem firstFree_none {taken : List Nat} {i n : Nat} (h : firstFree taken i n = none) :
    List.range' i n ⊆ taken := by
  induction n generalizing i with
  | zero => exact List.nil_subset _
  | succ n ih =>
      rw [firstFree] at h
      split at h
      next hi => exact List.cons_subset.mpr ⟨hi, ih h⟩
      next => cases h

/-- Fewer numbers are taken than there are: one is free. -/
theorem firstFree_isSome {taken : List Nat} {n : Nat} (i : Nat) (h : taken.length < n) :
    ∃ k, firstFree taken i n = some k := by
  cases hf : firstFree taken i n with
  | some k => exact ⟨k, rfl⟩
  | none =>
      have hle := (List.subperm_of_subset List.nodup_range' (firstFree_none hf)).length_le
      rw [List.length_range'] at hle
      omega

variable {κ : Type}

def taken (m : UnorderedMap κ Nat) : List Nat := m.entries.map Sigma.snd

theorem length_taken (m : UnorderedMap κ Nat) : (taken m).length = m.keys.length := by
  rw [taken, List.length_map, AList.keys, List.keys, List.length_map]

variable [DecidableEq κ] {m : UnorderedMap κ Nat} {dom : κ → Prop} {k : κ} {v : Nat}

theorem mem_taken (h : m.lookup k = some v) : v ∈ taken m :=
  List.mem_map.mpr ⟨⟨k, v⟩, AList.mem_lookup_iff.mp h, rfl⟩

/-- The keys that need a number have one, which is not zero and which no other one has. -/
structure Numbering (dom : κ → Prop) (m : UnorderedMap κ Nat) : Prop where
  has : ∀ k, (∃ v, m.lookup k = some v) ↔ dom k
  inj : ∀ {k k' v}, m.lookup k = some v → m.lookup k' = some v → k = k'
  pos : ∀ {k v}, m.lookup k = some v → 0 < v

theorem numbering_empty : Numbering (fun _ : κ => False) ∅ where
  has _ := iff_of_false (fun h => nomatch h.choose_spec) id
  inj h := nomatch h
  pos h := nomatch h

theorem Numbering.congr {dom' : κ → Prop} (h : Numbering dom m) (hd : ∀ k, dom k ↔ dom' k) :
    Numbering dom' m where
  has k := (h.has k).trans (hd k)
  inj := h.inj
  pos := h.pos

/-- A key without a number gets one that is not taken. -/
theorem Numbering.extend (h : Numbering dom m) (hk : m.lookup k = none) (hv : v ∉ taken m)
    (hpos : 0 < v) : Numbering (fun l => dom l ∨ l = k) (m.insert k v) where
  has l := by
    by_cases hl : l = k
    · subst hl
      exact iff_of_true ⟨v, AList.lookup_insert m⟩ (.inr rfl)
    · rw [AList.lookup_insert_ne hl, h.has]
      exact (or_iff_left hl).symm
  inj {l l' w} hl hl' := by
    rcases UnorderedMap.lookup_insert_iff.mp hl with ⟨rfl, rfl⟩ | ⟨hne, hold⟩
    · rcases UnorderedMap.lookup_insert_iff.mp hl' with ⟨rfl, -⟩ | ⟨-, hold'⟩
      · rfl
      · exact absurd (mem_taken hold') hv
    · rcases UnorderedMap.lookup_insert_iff.mp hl' with ⟨rfl, rfl⟩ | ⟨-, hold'⟩
      · exact absurd (mem_taken hold) hv
      · exact h.inj hold hold'
  pos {l w} hl := by
    rcases UnorderedMap.lookup_insert_iff.mp hl with ⟨-, rfl⟩ | ⟨-, hl⟩
    · exact hpos
    · exact h.pos hl

/-- Fewer keys have a number than need one, while one that needs one has none. -/
theorem Numbering.length_lt (h : Numbering dom m) {ks : List κ} (hks : ∀ l, dom l → l ∈ ks)
    (hk : k ∈ ks) (hnone : m.lookup k = none) : m.keys.length < ks.dedup.length := by
  have hnotMem : k ∉ m.keys := by
    rw [← AList.mem_keys, ← AList.lookup_isSome, hnone]
    decide
  have hsub : k :: m.keys ⊆ ks.dedup := by
    intro l hl
    rw [List.mem_dedup]
    rcases List.mem_cons.mp hl with rfl | hl
    · exact hk
    · have hsome := AList.lookup_isSome.mpr (AList.mem_keys.mpr hl)
      exact hks l ((h.has l).mp (Option.isSome_iff_exists.mp hsome))
  have hnodup : (k :: m.keys).Nodup := List.nodup_cons.mpr ⟨hnotMem, m.nodupKeys⟩
  exact (List.subperm_of_subset hnodup hsub).length_le

/-- The number of a key, which it gets now if it has none; not if `limit` keys have one. (The search
finds a number: `firstFree_isSome`.) -/
def assign (limit : Nat) (m : UnorderedMap κ Nat) (k : κ) : Option (UnorderedMap κ Nat) :=
  if (m.lookup k).isSome then some m
  else if m.keys.length = limit then none
  else some (m.insert k ((firstFree (taken m) 1 limit).getD 0))

def Grows (m m' : UnorderedMap κ Nat) : Prop :=
  ∀ ⦃k v⦄, m.lookup k = some v → m'.lookup k = some v

theorem Grows.refl (m : UnorderedMap κ Nat) : Grows m m := fun _ _ h => h

theorem Grows.trans {m m' m'' : UnorderedMap κ Nat} (h : Grows m m') (h' : Grows m' m'') :
    Grows m m'' := fun _ _ hl => h' (h hl)

theorem Grows.lookup_iff {m m' : UnorderedMap κ Nat} (h : Grows m m') (hk : ∃ v, m.lookup k = some v) :
    m'.lookup k = some v ↔ m.lookup k = some v := by
  refine ⟨fun hv => ?_, fun hv => h hv⟩
  obtain ⟨w, hw⟩ := hk
  rw [hw, ← h hw, hv]

theorem grows_insert (hk : m.lookup k = none) (v : Nat) : Grows m (m.insert k v) := by
  intro l w hl
  have hne : l ≠ k := by
    rintro rfl
    rw [hk] at hl
    cases hl
  rw [AList.lookup_insert_ne hne, hl]

theorem grows_assign {limit : Nat} {m' : UnorderedMap κ Nat} (h : assign limit m k = some m') :
    Grows m m' := by
  unfold assign at h
  split at h
  next =>
    obtain rfl := Option.some.inj h
    exact .refl m
  next hk =>
    split at h
    next => cases h
    next =>
      obtain rfl := Option.some.inj h
      exact grows_insert (Option.not_isSome_iff_eq_none.mp hk) _

/-- While there are numbers for all, a key that needs one gets one. -/
theorem Numbering.assign (h : Numbering dom m) {ks : List κ} {limit : Nat}
    (hks : ∀ l, dom l → l ∈ ks) (hk : k ∈ ks) (hlimit : ks.dedup.length ≤ limit) :
    ∃ m', assign limit m k = some m' ∧ Numbering (fun l => dom l ∨ l = k) m' := by
  unfold Allocation.assign
  by_cases hsome : (m.lookup k).isSome = true
  · have hdom := (h.has k).mp (Option.isSome_iff_exists.mp hsome)
    refine ⟨m, if_pos hsome, h.congr fun l => (or_iff_left_of_imp ?_).symm⟩
    rintro rfl
    exact hdom
  · have hnone := Option.not_isSome_iff_eq_none.mp hsome
    have hlt := h.length_lt hks hk hnone
    obtain ⟨v, hv⟩ := firstFree_isSome 1 (show (taken m).length < limit by rw [length_taken]; omega)
    obtain ⟨hfree, hpos⟩ := firstFree_some hv
    rw [if_neg hsome, if_neg (by omega), hv]
    exact ⟨_, rfl, h.extend hnone hfree hpos⟩

/-- There are no more numbers than `limit`, and no two keys have the same. -/
def Numbered (limit : Nat) (m : UnorderedMap κ Nat) : Prop :=
  (∃ dom, Numbering dom m) ∧ m.keys.length ≤ limit

theorem numbered_empty (limit : Nat) : Numbered limit (∅ : UnorderedMap κ Nat) :=
  ⟨⟨_, numbering_empty⟩, Nat.zero_le limit⟩

theorem Numbered.inj {limit : Nat} (h : Numbered limit m) {k k' : κ} {v : Nat} (hk : m.lookup k = some v)
    (hk' : m.lookup k' = some v) : k = k' := by
  obtain ⟨⟨dom, hnum⟩, -⟩ := h
  exact hnum.inj hk hk'

/-- However many numbers are given: a key gets one of its own, or the numbers have run out. -/
theorem Numbered.assign {limit : Nat} {m' : UnorderedMap κ Nat} (h : Numbered limit m)
    (ha : assign limit m k = some m') : Numbered limit m' ∧ ∃ v, m'.lookup k = some v := by
  obtain ⟨⟨dom, hnum⟩, hlen⟩ := h
  unfold Allocation.assign at ha
  split at ha
  next hsome =>
    obtain rfl := Option.some.inj ha
    exact ⟨⟨⟨dom, hnum⟩, hlen⟩, Option.isSome_iff_exists.mp hsome⟩
  next hnone =>
    split at ha
    next => cases ha
    next hne =>
      obtain rfl := Option.some.inj ha
      have hk := Option.not_isSome_iff_eq_none.mp hnone
      have hlt : m.keys.length < limit := Nat.lt_of_le_of_ne hlen hne
      obtain ⟨v, hv⟩ := firstFree_isSome 1 (show (taken m).length < limit by rw [length_taken]; exact hlt)
      obtain ⟨hfree, hpos⟩ := firstFree_some hv
      have hnotMem : k ∉ m := by
        rw [← AList.lookup_isSome, hk]
        decide
      rw [hv]
      refine ⟨⟨⟨_, hnum.extend hk hfree hpos⟩, ?_⟩, v, AList.lookup_insert m⟩
      show (m.insert k v).keys.length ≤ limit
      rw [AList.keys_insert, List.length_cons, List.erase_of_not_mem hnotMem]
      exact hlt

/-- There are numbers for `ks` as well. -/
def Room (limit : Nat) (m : UnorderedMap κ Nat) (ks : List κ) : Prop := (ks ++ m.keys).dedup.length ≤ limit

theorem Numbered.room_nil {limit : Nat} (h : Numbered limit m) : Room limit m [] := by
  unfold Room
  have hnodup : m.keys.Nodup := m.nodupKeys
  rw [List.nil_append, List.dedup_eq_self.mpr hnodup]
  exact h.2

/-- There are numbers for some keys iff the first gets one and there are numbers for the others. -/
theorem room_cons {limit : Nat} {ks : List κ} :
    Room limit m (k :: ks) ↔ ∃ m', Allocation.assign limit m k = some m' ∧ Room limit m' ks := by
  unfold Room Allocation.assign
  by_cases hsome : (m.lookup k).isSome = true
  · have hmem : k ∈ ks ++ m.keys := List.mem_append_right ks (AList.mem_keys.mp (AList.lookup_isSome.mp hsome))
    rw [if_pos hsome, List.cons_append, List.dedup_cons_of_mem hmem]
    exact ⟨fun hle => ⟨m, rfl, hle⟩, fun ⟨m', hm', hle⟩ => Option.some.inj hm' ▸ hle⟩
  · have hnot : k ∉ m.keys := fun hk => hsome (AList.lookup_isSome.mpr (AList.mem_keys.mpr hk))
    rw [if_neg hsome]
    split
    next hfull =>
      have hsub : k :: m.keys ⊆ (k :: ks ++ m.keys).dedup := by
        intro l hl
        rw [List.mem_dedup, List.cons_append]
        obtain rfl | hl := List.mem_cons.mp hl
        · exact List.mem_cons_self
        · exact List.mem_cons_of_mem _ (List.mem_append_right ks hl)
      have hlen := (List.subperm_of_subset (List.nodup_cons.mpr ⟨hnot, m.nodupKeys⟩) hsub).length_le
      rw [List.length_cons, hfull] at hlen
      exact ⟨fun hle => by omega, fun hex => nomatch hex.choose_spec.1⟩
    next =>
      have hlen (v : Nat) : (ks ++ (m.insert k v).keys).dedup.length = (k :: ks ++ m.keys).dedup.length := by
        rw [AList.keys_insert, List.erase_of_not_mem hnot]
        exact (List.perm_middle.dedup).length_eq
      constructor
      · intro hle
        exact ⟨_, rfl, (hlen _).symm ▸ hle⟩
      · rintro ⟨m', hm', hle⟩
        obtain rfl := Option.some.inj hm'
        exact hlen _ ▸ hle

/-- There are numbers for some keys, and for all that need one. -/
theorem Numbering.room (h : Numbering dom m) {ks ls : List κ} {limit : Nat} (hls : ∀ k, dom k → k ∈ ls)
    (hlimit : (ls ++ ks).dedup.length ≤ limit) : Room limit m ks := by
  refine Nat.le_trans (List.subperm_of_subset (ks ++ m.keys).nodup_dedup fun k hk => ?_).length_le hlimit
  rw [List.mem_dedup, List.mem_append]
  obtain hk | hk := List.mem_append.mp (List.mem_dedup.mp hk)
  · exact .inr hk
  · have hsome := AList.lookup_isSome.mpr (AList.mem_keys.mpr hk)
    exact .inl (hls k ((h.has k).mp (Option.isSome_iff_exists.mp hsome)))

end Allocation
