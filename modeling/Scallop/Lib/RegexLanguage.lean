import Scallop.Lib.Regex

/-!
# What a match of a regular expression is

* `Takes r m as m'` : the expression takes the whole text `as`, and its groups turn `m` into `m'`;
* `run_takes`, `fullMatch_takes` : what the search finds is taken; `run_isSome`, `fullMatch_isSome` : it
  finds something if there is anything to take;
* one lemma for each expression says which texts it takes; for a repeated class see `takes_star_one`,
  `takes_plus_one` and `takes_upTo_one`;
* `groups`, `get_of_fullMatch` : what a group holds after a match; `Within` : the characters of a match;
  `apart`, `fullMatch_of_apart` : expressions that match no text both.
-/

namespace Regex

/-- The expression takes the text, and its groups turn the first captures into the second. -/
inductive Takes : Regex → Captures → List Char → Captures → Prop
  | empty {m} : Takes empty m [] m
  | text {m} (s : String) : Takes (text s) m s.toList m
  | one {p m} {c : Char} (h : p c = true) : Takes (one p) m [c] m
  | seq {r s m m' m'' as bs} (h : Takes r m as m') (h' : Takes s m' bs m'') : Takes (seq r s) m (as ++ bs) m''
  | left {r s m m' as} (h : Takes r m as m') : Takes (alt r s) m as m'
  | right {r s m m' as} (h : Takes s m as m') : Takes (alt r s) m as m'
  | none {r m} : Takes (star r) m [] m
  | more {r m m' m'' as bs} (h : Takes r m as m') (hne : as ≠ []) (h' : Takes (star r) m' bs m'') :
      Takes (star r) m (as ++ bs) m''
  | group {r m m' as} (i : Nat) (h : Takes r m as m') : Takes (group i r) m as ((i, as) :: m')

variable {β : Type} {r s : Regex} {cs as : List Char} {m m' : Captures} {p : Char → Bool}

/-! ## The search -/

/-- What a search finds is a beginning that the expression takes, and a rest that what follows takes. -/
def Sound (r : Regex) : Prop :=
  ∀ ⦃β : Type⦄ ⦃k : Captures → List Char → Option β⦄ ⦃m : Captures⦄ ⦃cs : List Char⦄ ⦃x : β⦄,
    r.run k m cs = some x → ∃ as rest m', cs = as ++ rest ∧ Takes r m as m' ∧ k m' rest = some x

/-- The induction is on the number of rounds that are left. -/
theorem loop_takes (ih : Sound r) {k : Captures → List Char → Option β} {x : β} {n : Nat}
    (h : loop r.run k n m cs = some x) :
    ∃ as rest m', cs = as ++ rest ∧ Takes (star r) m as m' ∧ k m' rest = some x := by
  induction n generalizing m cs with
  | zero => exact ⟨[], cs, m, rfl, .none, h⟩
  | succ n hn =>
      rw [loop] at h
      rcases Option.or_eq_some_iff.mp h with h | ⟨-, h⟩
      · obtain ⟨as, rest, m', rfl, has, hrest⟩ := ih h
        split at hrest
        next hlt =>
          have hne : as ≠ [] := by
            rintro rfl
            exact Nat.lt_irrefl _ hlt
          obtain ⟨bs, rest, m'', rfl, hbs, hk⟩ := hn hrest
          exact ⟨as ++ bs, rest, m'', (List.append_assoc ..).symm, .more has hne hbs, hk⟩
        next => cases hrest
      · exact ⟨[], cs, m, rfl, .none, h⟩

theorem run_takes (r : Regex) : Sound r := by
  induction r with
  | empty =>
      intro β k m cs x h
      exact ⟨[], cs, m, rfl, .empty, h⟩
  | text s =>
      intro β k m cs x h
      obtain ⟨rest, hrest, hk⟩ := Option.bind_eq_some_iff.mp h
      obtain ⟨w, rfl, hw⟩ := List.dropPrefix?_eq_some_iff.mp hrest
      obtain rfl := eq_of_beq hw
      exact ⟨s.toList, rest, m, rfl, .text s, hk⟩
  | one p =>
      intro β k m cs x h
      cases cs with
      | nil => cases h
      | cons c cs =>
          replace h : (if p c then k m cs else none) = some x := h
          split at h
          next hc => exact ⟨[c], cs, m, rfl, .one hc, h⟩
          next => cases h
  | seq r s hr hs =>
      intro β k m cs x h
      obtain ⟨as, rest, m', rfl, has, h⟩ := hr h
      obtain ⟨bs, rest, m'', rfl, hbs, hk⟩ := hs h
      exact ⟨as ++ bs, rest, m'', (List.append_assoc ..).symm, .seq has hbs, hk⟩
  | alt r s hr hs =>
      intro β k m cs x h
      rcases Option.or_eq_some_iff.mp h with h | ⟨-, h⟩
      · obtain ⟨as, rest, m', hcs, has, hk⟩ := hr h
        exact ⟨as, rest, m', hcs, .left has, hk⟩
      · obtain ⟨as, rest, m', hcs, has, hk⟩ := hs h
        exact ⟨as, rest, m', hcs, .right has, hk⟩
  | star r hr =>
      intro β k m cs x h
      exact loop_takes hr h
  | group i r hr =>
      intro β k m cs x h
      obtain ⟨as, rest, m', rfl, has, hk⟩ := hr h
      rw [List.length_append, Nat.add_sub_cancel, List.take_left] at hk
      exact ⟨as, rest, (i, as) :: m', rfl, .group i has, hk⟩

theorem fullMatch_takes {t : String} (h : r.fullMatch t = some m) : Takes r [] t.toList m := by
  obtain ⟨as, rest, m', hcs, has, hk⟩ := run_takes r h
  unfold finish at hk
  split at hk
  next hnil =>
    obtain rfl := Option.some.inj hk
    rwa [hcs, hnil, List.append_nil]
  next => cases hk

/-- Where the expression takes a beginning, and what follows a rest, the search finds a match. -/
theorem run_isSome {rest : List Char} (h : Takes r m as m') {k : Captures → List Char → Option β}
    (hk : (k m' rest).isSome) : (r.run k m (as ++ rest)).isSome := by
  induction h generalizing k rest with
  | empty => exact hk
  | text s =>
      rw [run_text]
      exact hk
  | one hc =>
      show (if _ then k _ rest else none).isSome
      rw [if_pos hc]
      exact hk
  | seq _ _ ih ih' =>
      rw [List.append_assoc]
      exact ih (ih' hk)
  | left _ ih =>
      show (Option.or _ _).isSome
      rw [Option.isSome_or, ih hk]
      rfl
  | right _ ih =>
      show (Option.or _ _).isSome
      rw [Option.isSome_or, ih hk, Bool.or_true]
  | none =>
      show (Option.or _ _).isSome
      rw [Option.isSome_or, List.nil_append, hk, Bool.or_true]
  | @more r m m' m'' as bs _ hne _ ih ih' =>
      have hpos := List.length_pos_of_ne_nil hne
      show (Option.or _ _).isSome
      rw [List.append_assoc, Option.isSome_or, ih, Bool.true_or]
      have hlt : (bs ++ rest).length < (as ++ (bs ++ rest)).length := by
        simp only [List.length_append]
        omega
      rw [if_pos hlt, loop_fuel r.run k hlt (Nat.lt_succ_self _)]
      exact ih' hk
  | @group r m m' as i _ ih =>
      apply ih
      rw [List.length_append, Nat.add_sub_cancel, List.take_left]
      exact hk

/-- The search decides whether a whole text is taken. -/
theorem fullMatch_isSome {t : String} : (r.fullMatch t).isSome ↔ ∃ m, Takes r [] t.toList m := by
  constructor
  · intro h
    obtain ⟨m, hm⟩ := Option.isSome_iff_exists.mp h
    exact ⟨m, fullMatch_takes hm⟩
  · intro ⟨m, hm⟩
    have hfinish : (finish m []).isSome := rfl
    have hrun := run_isSome hm hfinish
    rwa [List.append_nil] at hrun

/-! ## The texts that are taken -/

theorem takes_text {t : String} : Takes (text t) m as m' ↔ as = t.toList ∧ m' = m := by
  constructor
  · intro h
    cases h
    exact ⟨rfl, rfl⟩
  · intro ⟨has, hm⟩
    subst has hm
    exact .text t

theorem takes_one : Takes (one p) m as m' ↔ ∃ c, as = [c] ∧ p c = true ∧ m' = m := by
  constructor
  · intro h
    cases h with
    | one hc => exact ⟨_, rfl, hc, rfl⟩
  · intro ⟨c, has, hc, hm⟩
    subst has hm
    exact .one hc

theorem takes_seq : Takes (r ++ s) m cs m' ↔ ∃ as bs m₁, cs = as ++ bs ∧ Takes r m as m₁ ∧ Takes s m₁ bs m' := by
  constructor
  · intro h
    cases h with
    | seq h h' => exact ⟨_, _, _, rfl, h, h'⟩
  · intro ⟨as, bs, m₁, hcs, h, h'⟩
    subst hcs
    exact .seq h h'

theorem takes_alt : Takes (alt r s) m as m' ↔ Takes r m as m' ∨ Takes s m as m' := by
  constructor
  · intro h
    cases h with
    | left h => exact .inl h
    | right h => exact .inr h
  · intro h
    exact h.elim .left .right

theorem takes_empty : Takes empty m as m' ↔ as = [] ∧ m' = m := by
  constructor
  · intro h
    cases h
    exact ⟨rfl, rfl⟩
  · intro ⟨has, hm⟩
    subst has hm
    exact .empty

theorem takes_opt : Takes (opt r) m as m' ↔ Takes r m as m' ∨ as = [] ∧ m' = m := by
  unfold opt
  rw [takes_alt, takes_empty]

theorem takes_group {i : Nat} : Takes (group i r) m as m' ↔ ∃ m₁, Takes r m as m₁ ∧ m' = (i, as) :: m₁ := by
  constructor
  · intro h
    cases h with
    | group i h => exact ⟨_, h, rfl⟩
  · intro ⟨m₁, h, hm⟩
    subst hm
    exact .group i h

theorem takes_anyOf {ws : List String} : Takes (anyOf ws) m as m' ↔ (∃ w ∈ ws, as = w.toList) ∧ m' = m := by
  induction ws using anyOf.induct with
  | case1 => simp [anyOf, takes_one]
  | case2 w => simp [anyOf, takes_text]
  | case3 w ws hne ih =>
      rw [anyOf]
      · rw [takes_alt, takes_text, ih, List.exists_mem_cons_iff, or_and_right]
      · exact hne

/-- A class that is repeated takes the texts over it. -/
theorem takes_star_one : Takes (star (one p)) m as m' ↔ (∀ a ∈ as, p a = true) ∧ m' = m := by
  constructor
  · intro h
    generalize hr : star (one p) = r at h
    induction h with
    | none => exact ⟨List.forall_mem_nil _, rfl⟩
    | more h _ h' _ ih =>
        obtain rfl := star.inj hr
        obtain ⟨c, rfl, hc, rfl⟩ := takes_one.mp h
        obtain ⟨hbs, rfl⟩ := ih rfl
        exact ⟨List.forall_mem_cons.mpr ⟨hc, hbs⟩, rfl⟩
    | _ => cases hr
  · intro ⟨has, hm⟩
    subst hm
    induction as with
    | nil => exact .none
    | cons a as ih =>
        obtain ⟨ha, has⟩ := List.forall_mem_cons.mp has
        exact .more (.one ha) (List.cons_ne_nil _ _) (ih has)

theorem takes_plus_one : Takes (plus (one p)) m as m' ↔ as ≠ [] ∧ (∀ a ∈ as, p a = true) ∧ m' = m := by
  unfold plus
  rw [takes_seq]
  constructor
  · intro ⟨bs, cs, m₁, hcs, h, h'⟩
    obtain ⟨c, rfl, hc, rfl⟩ := takes_one.mp h
    obtain ⟨hcs', rfl⟩ := takes_star_one.mp h'
    subst hcs
    exact ⟨List.cons_ne_nil _ _, List.forall_mem_cons.mpr ⟨hc, hcs'⟩, rfl⟩
  · intro ⟨hne, has, hm⟩
    obtain ⟨a, as, rfl⟩ := List.exists_cons_of_ne_nil hne
    obtain ⟨ha, has⟩ := List.forall_mem_cons.mp has
    exact ⟨[a], as, m, rfl, .one ha, takes_star_one.mpr ⟨has, hm⟩⟩

theorem takes_atMost_one {n : Nat} :
    Takes (atMost (one p) n) m as m' ↔ as.length ≤ n ∧ (∀ a ∈ as, p a = true) ∧ m' = m := by
  induction n generalizing as with
  | zero =>
      unfold atMost
      rw [takes_empty]
      constructor
      · intro ⟨has, hm⟩
        subst has
        exact ⟨Nat.le_refl _, List.forall_mem_nil _, hm⟩
      · intro ⟨has, _, hm⟩
        exact ⟨List.length_eq_zero_iff.mp (Nat.le_zero.mp has), hm⟩
  | succ n ih =>
      unfold atMost
      rw [takes_opt, takes_seq]
      constructor
      · intro h
        rcases h with ⟨bs, cs, m₁, hcs, h, h'⟩ | ⟨has, hm⟩
        · obtain ⟨c, rfl, hc, rfl⟩ := takes_one.mp h
          obtain ⟨hlen, hcs', rfl⟩ := ih.mp h'
          subst hcs
          exact ⟨Nat.succ_le_succ hlen, List.forall_mem_cons.mpr ⟨hc, hcs'⟩, rfl⟩
        · subst has
          exact ⟨Nat.zero_le _, List.forall_mem_nil _, hm⟩
      · intro ⟨hlen, has, hm⟩
        cases as with
        | nil => exact .inr ⟨rfl, hm⟩
        | cons a as =>
            obtain ⟨ha, has⟩ := List.forall_mem_cons.mp has
            exact .inl ⟨[a], as, m, rfl, .one ha, ih.mpr ⟨Nat.le_of_succ_le_succ hlen, has, hm⟩⟩

theorem takes_upTo_one {n : Nat} :
    Takes (upTo (one p) n) m as m' ↔ as ≠ [] ∧ as.length ≤ n + 1 ∧ (∀ a ∈ as, p a = true) ∧ m' = m := by
  unfold upTo
  rw [takes_seq]
  constructor
  · intro ⟨bs, cs, m₁, hcs, h, h'⟩
    obtain ⟨c, rfl, hc, rfl⟩ := takes_one.mp h
    obtain ⟨hlen, hcs', rfl⟩ := takes_atMost_one.mp h'
    subst hcs
    exact ⟨List.cons_ne_nil _ _, Nat.succ_le_succ hlen, List.forall_mem_cons.mpr ⟨hc, hcs'⟩, rfl⟩
  · intro ⟨hne, hlen, has, hm⟩
    obtain ⟨a, as, rfl⟩ := List.exists_cons_of_ne_nil hne
    obtain ⟨ha, has⟩ := List.forall_mem_cons.mp has
    exact ⟨[a], as, m, rfl, .one ha, takes_atMost_one.mpr ⟨Nat.le_of_succ_le_succ hlen, has, hm⟩⟩

/-! ## Groups -/

/-- What may stand in the groups of a number. -/
def groups (i : Nat) : Regex → List Regex
  | seq r s => groups i r ++ groups i s
  | alt r s => groups i r ++ groups i s
  | star r => groups i r
  | group j r => if j = i then r :: groups i r else groups i r
  | _ => []

/-- Whether every match uses a group of the number. -/
def uses (i : Nat) : Regex → Bool
  | seq r s => uses i r || uses i s
  | alt r s => uses i r && uses i s
  | group j r => j = i || uses i r
  | _ => false

/-- What a group holds afterwards it held before, or it is a part of the text that the group's expression takes. -/
theorem Takes.lookup (h : Takes r m as m') (i : Nat) : m'.lookup i = m.lookup i ∨
    ∃ g ∈ r.groups i, ∃ bs m₁ m₂, m'.lookup i = some bs ∧ Takes g m₁ bs m₂ ∧ bs <:+: as := by
  induction h with
  | empty => exact .inl rfl
  | text s => exact .inl rfl
  | one h => exact .inl rfl
  | none => exact .inl rfl
  | seq _ _ ih ih' =>
      rcases ih' with heq | ⟨g, hg, bs, m₁, m₂, hlookup, htakes, hpart⟩
      · rw [heq]
        rcases ih with heq | ⟨g, hg, bs, m₁, m₂, hlookup, htakes, hpart⟩
        · exact .inl heq
        · exact .inr ⟨g, List.mem_append_left _ hg, bs, m₁, m₂, hlookup, htakes,
            hpart.trans (List.prefix_append ..).isInfix⟩
      · exact .inr ⟨g, List.mem_append_right _ hg, bs, m₁, m₂, hlookup, htakes,
          hpart.trans (List.suffix_append ..).isInfix⟩
  | left _ ih => exact ih.imp_right fun ⟨g, hg, h⟩ => ⟨g, List.mem_append_left _ hg, h⟩
  | right _ ih => exact ih.imp_right fun ⟨g, hg, h⟩ => ⟨g, List.mem_append_right _ hg, h⟩
  | more _ _ _ ih ih' =>
      rcases ih' with heq | ⟨g, hg, bs, m₁, m₂, hlookup, htakes, hpart⟩
      · rw [heq]
        rcases ih with heq | ⟨g, hg, bs, m₁, m₂, hlookup, htakes, hpart⟩
        · exact .inl heq
        · exact .inr ⟨g, hg, bs, m₁, m₂, hlookup, htakes, hpart.trans (List.prefix_append ..).isInfix⟩
      · exact .inr ⟨g, hg, bs, m₁, m₂, hlookup, htakes, hpart.trans (List.suffix_append ..).isInfix⟩
  | @group r m m' as j h ih =>
      rw [groups, List.lookup_cons]
      by_cases hij : i = j
      · rw [beq_iff_eq.mpr hij, if_pos hij.symm]
        exact .inr ⟨r, List.mem_cons_self, as, m, m', rfl, h, List.infix_rfl⟩
      · rw [beq_eq_false_iff_ne.mpr hij, if_neg fun hji => hij hji.symm]
        exact ih

theorem Takes.isSome_lookup (h : Takes r m as m') {i : Nat} (hm : (m.lookup i).isSome) : (m'.lookup i).isSome := by
  rcases h.lookup i with heq | ⟨_, _, bs, _, _, hlookup, _⟩
  · rwa [heq]
  · rw [hlookup]
    rfl

theorem Takes.isSome_of_uses (h : Takes r m as m') {i : Nat} (hi : r.uses i = true) : (m'.lookup i).isSome := by
  induction h with
  | seq h h' ih ih' =>
      rcases (Bool.or_eq_true _ _).mp hi with hi | hi
      · exact h'.isSome_lookup (ih hi)
      · exact ih' hi
  | left _ ih => exact ih ((Bool.and_eq_true _ _).mp hi).1
  | right _ ih => exact ih ((Bool.and_eq_true _ _).mp hi).2
  | @group r m m' as j h ih =>
      rw [List.lookup_cons]
      by_cases hij : i = j
      · rw [beq_iff_eq.mpr hij]
        rfl
      · rw [beq_eq_false_iff_ne.mpr hij]
        rcases (Bool.or_eq_true _ _).mp hi with hi | hi
        · exact absurd (of_decide_eq_true hi).symm hij
        · exact ih hi
  | empty => cases hi
  | text s => cases hi
  | one h => cases hi
  | none => cases hi
  | more => cases hi

/-- What is read of a group is a part of the text that the group's expression takes, or nothing. -/
theorem get_of_fullMatch {t : String} (h : r.fullMatch t = some m) (i : Nat) : m.get i = "" ∨
    ∃ g ∈ r.groups i, ∃ m₁ m₂, Takes g m₁ (m.get i).toList m₂ ∧ (m.get i).toList <:+: t.toList := by
  unfold Captures.get
  rcases (fullMatch_takes h).lookup i with heq | ⟨g, hg, bs, m₁, m₂, hlookup, htakes, hpart⟩
  · left
    rw [heq]
    rfl
  · right
    rw [hlookup, Option.getD_some, String.toList_ofList]
    exact ⟨g, hg, m₁, m₂, htakes, hpart⟩

/-- Where every match uses the group, its expression takes what is read of it. -/
theorem takes_get {t : String} {g : Regex} {i : Nat} (h : r.fullMatch t = some m) (hi : r.uses i = true)
    (hg : r.groups i = [g]) : ∃ m₁ m₂, Takes g m₁ (m.get i).toList m₂ := by
  have hsome := (fullMatch_takes h).isSome_of_uses hi
  unfold Captures.get
  rcases (fullMatch_takes h).lookup i with heq | ⟨g', hg', bs, m₁, m₂, hlookup, htakes, hpart⟩
  · rw [heq] at hsome
    cases hsome
  · rw [hg] at hg'
    obtain rfl := List.mem_singleton.mp hg'
    rw [hlookup, Option.getD_some, String.toList_ofList]
    exact ⟨m₁, m₂, htakes⟩

/-! ## Characters -/

/-- Every character of a match belongs to a class. -/
def Within (p : Char → Bool) : Regex → Prop
  | empty => True
  | text s => ∀ c ∈ s.toList, p c = true
  | one q => ∀ c, q c = true → p c = true
  | seq r s => Within p r ∧ Within p s
  | alt r s => Within p r ∧ Within p s
  | star r => Within p r
  | group _ r => Within p r

theorem within_anyOf {ws : List String} (h : ∀ w ∈ ws, ∀ c ∈ w.toList, p c = true) : (anyOf ws).Within p := by
  induction ws using anyOf.induct with
  | case1 =>
      intro _ hc
      cases hc
  | case2 w => exact h w List.mem_cons_self
  | case3 w ws hne ih =>
      obtain ⟨hw, hws⟩ := List.forall_mem_cons.mp h
      rw [anyOf]
      · exact ⟨hw, ih hws⟩
      · exact hne

theorem Takes.within (h : Takes r m as m') (hr : r.Within p) : ∀ c ∈ as, p c = true := by
  induction h with
  | empty => exact List.forall_mem_nil _
  | text s => exact hr
  | one h => exact List.forall_mem_singleton.mpr (hr _ h)
  | seq _ _ ih ih' => exact List.forall_mem_append.mpr ⟨ih hr.1, ih' hr.2⟩
  | left _ ih => exact ih hr.1
  | right _ ih => exact ih hr.2
  | none => exact List.forall_mem_nil _
  | more _ _ _ ih ih' => exact List.forall_mem_append.mpr ⟨ih hr, ih' hr⟩
  | group i _ ih => exact ih hr

theorem within_of_fullMatch {t : String} (h : r.fullMatch t = some m) (hr : r.Within p) : ∀ c ∈ t.toList, p c = true :=
  (fullMatch_takes h).within hr

/-! ## Expressions that begin differently -/

def apart (r s : Regex) : Bool := r.heads.all fun p => s.heads.all (clash · p)

theorem fullMatch_of_apart {t : String} (h : r.fullMatch t = some m) (hapart : r.apart s = true) :
    s.fullMatch t = Option.none := by
  obtain ⟨p, hp, hprefix⟩ := exists_head h
  apply fullMatch_of_clash (q := String.ofList p)
  · unfold clashes
    rw [String.toList_ofList]
    exact List.all_eq_true.mp hapart p hp
  · rwa [String.toList_ofList]

end Regex
