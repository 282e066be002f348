import Mathlib.Data.List.AList
import Mathlib.Data.List.Find
import Mathlib.Data.List.Sort

/-!
# Unordered maps

An unordered map has one value for a key, and no order that a program may rely on.

* `UnorderedMap` : association lists, with `AList.lookup` and `AList.insert`;
* `WalkOrder` : an order in which a container is walked, whatever it is;
* `findIf` : the first value that meets a predicate; `findIf_some`, `findIf_none`, and
  `findIf_unique`, `findIf_eq_findIf`, for which the order does not matter;
* `WalksByKey` : the order of the keys does not change with the values; `findIf_of_walksByKey`;
* `WalkOrder.byRank` : an order by the keys; `walksByKey_byRank`.
-/

abbrev UnorderedMap (κ α : Type) := AList fun _ : κ => α

structure WalkOrder where
  walk : {α : Type} → List α → List α
  perm : ∀ {α : Type} (xs : List α), (walk xs).Perm xs

instance : Inhabited WalkOrder := ⟨id, fun _ => .refl _⟩

open scoped Classical in
/-- The order by the ranks of the keys, in the containers of one type. -/
noncomputable def WalkOrder.byRank {κ : Type} (α : Type) (rank : κ → Nat) : WalkOrder where
  walk {β} xs :=
    if h : (Sigma fun _ : κ => α) = β then
      h ▸ (h ▸ xs : List (Sigma fun _ : κ => α)).mergeSort fun e e' => decide (rank e.1 ≤ rank e'.1)
    else xs
  perm {β} xs := by
    by_cases h : (Sigma fun _ : κ => α) = β
    · subst h
      rw [dif_pos rfl]
      exact List.mergeSort_perm xs _
    · rw [dif_neg h]

theorem WalkOrder.byRank_walk {κ α : Type} (rank : κ → Nat) (xs : List (Sigma fun _ : κ => α)) :
    (WalkOrder.byRank α rank).walk xs = xs.mergeSort fun e e' => decide (rank e.1 ≤ rank e'.1) := by
  unfold WalkOrder.byRank
  dsimp only
  rw [dif_pos rfl]

namespace UnorderedMap

variable {κ α : Type} [DecidableEq κ] {o : WalkOrder} {m : UnorderedMap κ α} {p : α → Bool}
variable {k : κ} {a : α}

/-- The first value that meets `p`, with its key. -/
def findIf (o : WalkOrder) (m : UnorderedMap κ α) (p : α → Bool) : Option (κ × α) :=
  ((o.walk m.entries).find? fun e => p e.2).map fun e => (e.1, e.2)

theorem mem_walk : (⟨k, a⟩ : Sigma fun _ : κ => α) ∈ o.walk m.entries ↔ m.lookup k = some a := by
  rw [(o.perm m.entries).mem_iff, ← AList.mem_lookup_iff, Option.mem_def]

theorem findIf_some (h : findIf o m p = some (k, a)) : m.lookup k = some a ∧ p a = true := by
  obtain ⟨e, he, heq⟩ := Option.map_eq_some_iff.mp h
  obtain ⟨rfl, rfl⟩ := Prod.mk.inj heq
  have hp := List.find?_some he
  exact ⟨mem_walk.mp (List.mem_of_find?_eq_some he), hp⟩

theorem findIf_none (h : findIf o m p = none) (hk : m.lookup k = some a) : p a = false := by
  have hall := List.find?_eq_none.mp (Option.map_eq_none_iff.mp h) ⟨k, a⟩ (mem_walk.mpr hk)
  simpa using hall

theorem findIf_isSome (hk : m.lookup k = some a) (hp : p a = true) :
    ∃ k' a', findIf o m p = some (k', a') := by
  cases h : findIf o m p with
  | none =>
      have hno := findIf_none h hk
      rw [hp] at hno
      exact absurd hno (by decide)
  | some e => exact ⟨e.1, e.2, rfl⟩

/-- A value that no other one could be taken for is found. -/
theorem findIf_unique (hk : m.lookup k = some a) (hp : p a = true)
    (huniq : ∀ k' a', m.lookup k' = some a' → p a' = true → k' = k) :
    findIf o m p = some (k, a) := by
  obtain ⟨k', a', h⟩ := findIf_isSome (o := o) hk hp
  obtain ⟨hk', hp'⟩ := findIf_some h
  obtain rfl := huniq k' a' hk' hp'
  rw [h, Option.some.inj (hk'.symm.trans hk)]

/-- Where at most one key has a value that meets `p`, the order does not matter. -/
theorem findIf_eq_findIf {o' : WalkOrder}
    (huniq : ∀ k a k' a', m.lookup k = some a → m.lookup k' = some a' → p a = true → p a' = true →
      k = k') : findIf o m p = findIf o' m p := by
  cases h : findIf o' m p with
  | none =>
      cases h' : findIf o m p with
      | none => rfl
      | some e =>
          obtain ⟨hk, hp⟩ := findIf_some h'
          have hno := findIf_none h hk
          rw [hp] at hno
          exact absurd hno (by decide)
  | some e =>
      obtain ⟨hk, hp⟩ := findIf_some h
      exact findIf_unique hk hp fun k' a' hk' hp' => huniq k' a' e.1 e.2 hk' hk hp' hp

/-- The keys of a map are walked in an order that does not change with their values. -/
def WalksByKey (o : WalkOrder) (m : UnorderedMap κ α) : Prop :=
  ∀ m' : UnorderedMap κ α, (∀ k, k ∈ m' ↔ k ∈ m) →
    (o.walk m'.entries).map Sigma.fst = (o.walk m.entries).map Sigma.fst

/-- Values that `p` does not tell apart are found under the same key. -/
theorem findIf_of_walksByKey {m' : UnorderedMap κ α} (h : WalksByKey o m) (hkeys : ∀ k, k ∈ m' ↔ k ∈ m)
    (hp : ∀ k a a', m.lookup k = some a → m'.lookup k = some a' → p a' = p a) :
    (findIf o m' p).map Prod.fst = (findIf o m p).map Prod.fst := by
  obtain ⟨q, hq⟩ : ∃ q : κ → Bool, ∀ k, q k = ((m.lookup k).map p).getD false := ⟨_, fun _ => rfl⟩
  have hfind {n : UnorderedMap κ α} (hn : ∀ k a, n.lookup k = some a → p a = q k) :
      (findIf o n p).map Prod.fst = ((o.walk n.entries).map Sigma.fst).find? q := by
    have hcongr : (o.walk n.entries).find? (fun e => p e.2) =
        (o.walk n.entries).find? (q ∘ Sigma.fst) := by
      apply List.find?_congr
      intro e he
      exact hn e.1 e.2 (mem_walk.mp he)
    rw [findIf, List.find?_map, hcongr, Option.map_map]
    rfl
  have hm (k : κ) (a : α) (ha : m.lookup k = some a) : p a = q k := by
    rw [hq, ha]
    rfl
  have hm' (k : κ) (a' : α) (ha' : m'.lookup k = some a') : p a' = q k := by
    have hk : k ∈ m := (hkeys k).mp (AList.lookup_isSome.mp (by rw [ha']; rfl))
    obtain ⟨a, ha⟩ := Option.isSome_iff_exists.mp (AList.lookup_isSome.mpr hk)
    exact (hp k a a' ha ha').trans (hm k a ha)
  rw [hfind hm', hfind hm, h m' hkeys]

omit [DecidableEq κ] in
theorem walksByKey_byRank {rank : κ → Nat} (hrank : Function.Injective rank) (m : UnorderedMap κ α) :
    WalksByKey (WalkOrder.byRank α rank) m := by
  intro m' hkeys
  have hsorted (m : UnorderedMap κ α) :
      (((WalkOrder.byRank α rank).walk m.entries).map Sigma.fst).Pairwise fun k k' => rank k ≤ rank k' := by
    rw [WalkOrder.byRank_walk, List.pairwise_map]
    have h := @List.pairwise_mergeSort _ (fun e e' : Sigma fun _ : κ => α => decide (rank e.1 ≤ rank e'.1))
      (by simp only [decide_eq_true_eq]; omega) (by simp only [Bool.or_eq_true, decide_eq_true_eq]; omega) m.entries
    simpa only [decide_eq_true_eq] using h
  have hkeysOf (m : UnorderedMap κ α) : (((WalkOrder.byRank α rank).walk m.entries).map Sigma.fst).Perm m.keys :=
    ((WalkOrder.byRank α rank).perm m.entries).map Sigma.fst
  have hperm : m'.keys.Perm m.keys := (List.perm_ext_iff_of_nodup m'.keys_nodup m.keys_nodup).mpr hkeys
  refine ((hkeysOf m').trans (hperm.trans (hkeysOf m).symm)).eq_of_pairwise ?_ (hsorted m') (hsorted m)
  exact fun k k' _ _ h h' => hrank (Nat.le_antisymm h h')

theorem lookup_insert_iff {k' : κ} {a' : α} : (m.insert k a).lookup k' = some a' ↔
    (k' = k ∧ a = a') ∨ (k' ≠ k ∧ m.lookup k' = some a') := by
  by_cases h : k' = k
  · subst h
    rw [AList.lookup_insert, Option.some.injEq]
    exact ⟨fun h => .inl ⟨rfl, h⟩, fun h => h.elim And.right fun h => absurd rfl h.1⟩
  · rw [AList.lookup_insert_ne h]
    exact ⟨fun hl => .inr ⟨h, hl⟩, fun hl => hl.elim (fun hl => absurd hl.1 h) And.right⟩

end UnorderedMap
