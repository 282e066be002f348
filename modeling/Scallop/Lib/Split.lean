import Mathlib.Data.List.Infix

/-!
# Texts that are split at a delimiter

* `find?` : the first occurrence of a delimiter; `find?_eq_some_iff`, `find?_eq_none_iff`;
* `Splits d s parts` : `parts` stand between the occurrences of `d` that a scan from left to right finds;
  `Splits.cons`, `Splits.join`, `Splits.not_inside`;
* `OnlyAtJoints` : a delimiter occurs in a join at the joints only; `splits_join`.
-/

namespace Split

variable {α : Type} {d s p rest : List α} {k : Nat} {parts : List (List α)}

/-! ## Occurrences -/

section Occurrences
variable [DecidableEq α]

/-- The first place where `d` stands. -/
def find? (d : List α) : List α → Option Nat
  | [] => if d = [] then some 0 else none
  | a :: s => if d <+: a :: s then some 0 else (find? d s).map (· + 1)

theorem find?_of_begins (h : d <+: s) : find? d s = some 0 := by
  cases s with
  | nil => rw [find?, if_pos (List.prefix_nil.mp h)]
  | cons a s => rw [find?, if_pos h]

theorem find?_cons_of_not {a : α} (h : ¬ d <+: a :: s) : find? d (a :: s) = (find? d s).map (· + 1) := by
  rw [find?, if_neg h]

theorem find?_eq_none_iff : find? d s = none ↔ ∀ k, ¬ d <+: s.drop k := by
  induction s with
  | nil =>
      simp only [find?, List.drop_nil, List.prefix_nil]
      split <;> simp [*]
  | cons a s ih =>
      by_cases h : d <+: a :: s
      · rw [find?_of_begins h]
        simp only [reduceCtorEq, false_iff, not_forall, not_not]
        exact ⟨0, h⟩
      · rw [find?_cons_of_not h, Option.map_eq_none_iff, ih]
        constructor
        · intro hs k
          cases k with
          | zero => exact h
          | succ k => exact hs k
        · intro hs k
          exact hs (k + 1)

theorem find?_eq_some_iff : find? d s = some k ↔
    k ≤ s.length ∧ d <+: s.drop k ∧ ∀ j < k, ¬ d <+: s.drop j := by
  induction s generalizing k with
  | nil =>
      simp only [find?, List.drop_nil, List.prefix_nil, List.length_nil, Nat.le_zero]
      split
      · rename_i h
        simp only [Option.some.injEq, h, not_true_eq_false, true_and]
        constructor
        · rintro rfl
          exact ⟨rfl, fun _ hj => absurd hj (Nat.not_lt_zero _)⟩
        · intro hk
          exact hk.1.symm
      · rename_i h
        simp [h]
  | cons a s ih =>
      by_cases h : d <+: a :: s
      · rw [find?_of_begins h, Option.some.injEq]
        constructor
        · rintro rfl
          exact ⟨Nat.zero_le _, h, fun _ hj => absurd hj (Nat.not_lt_zero _)⟩
        · intro ⟨_, _, hfirst⟩
          by_contra hne
          exact hfirst 0 (Nat.pos_of_ne_zero fun hk => hne hk.symm) h
      · rw [find?_cons_of_not h, Option.map_eq_some_iff]
        constructor
        · rintro ⟨k, hk, rfl⟩
          obtain ⟨hle, hpre, hfirst⟩ := ih.mp hk
          refine ⟨Nat.succ_le_succ hle, hpre, fun j hj => ?_⟩
          cases j with
          | zero => exact h
          | succ j => exact hfirst j (Nat.lt_of_succ_lt_succ hj)
        · intro ⟨hle, hpre, hfirst⟩
          cases k with
          | zero => exact absurd hpre h
          | succ k =>
              exact ⟨k, ih.mpr ⟨Nat.le_of_succ_le_succ hle, hpre,
                fun j hj => hfirst (j + 1) (Nat.succ_lt_succ hj)⟩, rfl⟩

end Occurrences

/-! ## Splits -/

/-- The parts of a text, each up to the first occurrence of `d` in what is left. -/
inductive Splits (d : List α) : List α → List (List α) → Prop
  | last {s : List α} (h : ∀ k, ¬ d <+: s.drop k) : Splits d s [s]
  | cut {p rest : List α} {parts : List (List α)} (h : ∀ k < p.length, ¬ d <+: (p ++ d ++ rest).drop k)
      (hrest : Splits d rest parts) : Splits d (p ++ d ++ rest) (p :: parts)

theorem Splits.ne_nil (h : Splits d s parts) : parts ≠ [] := by
  cases h <;> exact List.cons_ne_nil _ _

theorem Splits.cons {a : α} (h : Splits d s (p :: parts)) (ha : ¬ d <+: a :: s) :
    Splits d (a :: s) ((a :: p) :: parts) := by
  cases h with
  | last h =>
      apply Splits.last
      intro k
      cases k with
      | zero => exact ha
      | succ k => exact h k
  | @cut _ rest _ h hrest =>
      rw [← List.cons_append, ← List.cons_append]
      refine Splits.cut ?_ hrest
      intro k hk
      cases k with
      | zero => exact ha
      | succ k => exact h k (Nat.lt_of_succ_lt_succ hk)

/-- Parts with a delimiter between two of them. -/
def join (d : List α) : List (List α) → List α
  | [] => []
  | [p] => p
  | p :: q :: parts => p ++ d ++ join d (q :: parts)

theorem join_cons (h : parts ≠ []) : join d (p :: parts) = p ++ d ++ join d parts := by
  obtain ⟨q, qs, rfl⟩ := List.exists_cons_of_ne_nil h
  rfl

theorem Splits.join (h : Splits d s parts) : Split.join d parts = s := by
  induction h with
  | last h => rfl
  | cut h hrest ih => rw [join_cons hrest.ne_nil, ih]

theorem Splits.not_inside (h : Splits d s parts) (hd : d ≠ []) (hp : p ∈ parts) : ¬ d <:+: p := by
  induction h with
  | last h =>
      obtain rfl := List.mem_singleton.mp hp
      intro hpart
      obtain ⟨t, hpre, hsuf⟩ := List.infix_iff_prefix_suffix.mp hpart
      rw [List.suffix_iff_eq_drop.mp hsuf] at hpre
      exact h _ hpre
  | @cut q rest parts h hrest ih =>
      rcases List.mem_cons.mp hp with rfl | hp
      · intro ⟨before, after, hbetween⟩
        apply h before.length
        · rw [← hbetween]
          have hpos := List.length_pos_of_ne_nil hd
          simp only [List.length_append]
          omega
        · rw [← hbetween, List.append_assoc, List.append_assoc, List.append_assoc, List.drop_left]
          exact List.prefix_append _ _
      · exact ih hp

/-! ## Joins -/

/-- The places of the delimiters that a join puts in. -/
def IsJoint (d : List α) (parts : List (List α)) (k : Nat) : Prop :=
  ∃ i, i + 1 < parts.length ∧ k = (join d (parts.take (i + 1))).length

/-- A delimiter stands in a join at the joints only. -/
def OnlyAtJoints (d : List α) (parts : List (List α)) : Prop :=
  ∀ k, d <+: (join d parts).drop k → IsJoint d parts k

theorem isJoint_cons (h : parts ≠ []) : IsJoint d (p :: parts) k ↔
    k = p.length ∨ ∃ j, IsJoint d parts j ∧ k = p.length + d.length + j := by
  have htake (i : Nat) : (join d ((p :: parts).take (i + 2))).length =
      p.length + d.length + (join d (parts.take (i + 1))).length := by
    have hne : parts.take (i + 1) ≠ [] := by simp [h]
    rw [List.take_succ_cons, join_cons hne, List.length_append, List.length_append]
  constructor
  · rintro ⟨i, hi, rfl⟩
    cases i with
    | zero => exact .inl rfl
    | succ i => exact .inr ⟨_, ⟨i, Nat.lt_of_succ_lt_succ hi, rfl⟩, htake i⟩
  · rintro (rfl | ⟨_, ⟨i, hi, rfl⟩, rfl⟩)
    · exact ⟨0, Nat.succ_lt_succ (List.length_pos_of_ne_nil h), rfl⟩
    · exact ⟨i + 1, Nat.succ_lt_succ hi, (htake i).symm⟩

theorem splits_join (hd : d ≠ []) (hne : parts ≠ []) (h : OnlyAtJoints d parts) : Splits d (join d parts) parts := by
  induction parts with
  | nil => exact absurd rfl hne
  | cons p parts ih =>
      by_cases hlast : parts = []
      · subst hlast
        apply Splits.last
        intro k hk
        obtain ⟨i, hi, -⟩ := h k hk
        simp at hi
      · have hpos := List.length_pos_of_ne_nil hd
        have hjoin := join_cons (d := d) (p := p) hlast
        rw [hjoin]
        apply Splits.cut
        · intro k hk hpre
          rw [← hjoin] at hpre
          rcases (isJoint_cons hlast).mp (h k hpre) with rfl | ⟨j, -, rfl⟩ <;> omega
        · apply ih hlast
          intro k hk
          have hdrop : (join d (p :: parts)).drop (p.length + d.length + k) = (join d parts).drop k := by
            rw [hjoin, ← List.drop_drop, List.drop_left' List.length_append]
          rcases (isJoint_cons hlast).mp (h _ (hdrop ▸ hk)) with heq | ⟨j, hj, heq⟩
          · omega
          · obtain rfl : k = j := by omega
            exact hj

end Split
