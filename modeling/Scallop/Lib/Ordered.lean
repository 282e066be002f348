import Mathlib.Data.List.Basic
import Mathlib.Data.List.Induction

/-!
# Lists in order

* `List.concatNew` : a new element comes at the end, one that is there changes nothing; `foldl_concatNew` :
  with several elements, that is `List.eraseDups`;
* `List.takeWhile_congr` : conditions that agree on a list take the same part of it.
-/

namespace List

variable {α : Type*} [DecidableEq α] {l : List α} {a : α}

/-- The list with an element at its end, unless it has it. -/
def concatNew (l : List α) (a : α) : List α := if a ∈ l then l else l ++ [a]

theorem concatNew_of_mem (h : a ∈ l) : l.concatNew a = l := if_pos h

theorem concatNew_of_notMem (h : a ∉ l) : l.concatNew a = l ++ [a] := if_neg h

theorem mem_concatNew {b : α} : b ∈ l.concatNew a ↔ b ∈ l ∨ b = a := by
  unfold concatNew
  split
  · exact ⟨.inl, fun h => h.elim (fun h => h) fun h => h ▸ ‹a ∈ l›⟩
  · rw [mem_append, mem_singleton]

theorem mem_foldl_concatNew {as : List α} {b : α} : b ∈ as.foldl concatNew l ↔ b ∈ l ∨ b ∈ as := by
  induction as generalizing l with
  | nil => simp
  | cons a as ih => rw [foldl_cons, ih, mem_concatNew, mem_cons, or_assoc]

theorem eraseDups_concat : (l ++ [a]).eraseDups = l.eraseDups.concatNew a := by
  rw [eraseDups_append]
  by_cases h : a ∈ l
  · rw [concatNew_of_mem (mem_eraseDups.mpr h)]
    simp [removeAll, h]
  · rw [concatNew_of_notMem fun hmem => h (mem_eraseDups.mp hmem)]
    simp [removeAll, h, eraseDups_cons]

/-- Elements one after the other, each of which is added unless it is there. -/
theorem foldl_concatNew (as : List α) : as.foldl concatNew [] = as.eraseDups := by
  induction as using List.reverseRecOn with
  | nil => rfl
  | append_singleton as a ih => rw [foldl_append, ih, foldl_cons, foldl_nil, eraseDups_concat]

omit [DecidableEq α] in
theorem filterMap_getElem?_range (l : List α) : (range l.length).filterMap (fun i => l[i]?) = l := by
  induction l using List.reverseRecOn with
  | nil => rfl
  | append_singleton l a ih =>
      have hold : (range l.length).filterMap (fun i => (l ++ [a])[i]?) = l :=
        (filterMap_congr fun i hi => getElem?_append_left (mem_range.mp hi)).trans ih
      rw [length_append, length_singleton, range_succ, filterMap_append, hold]
      simp

omit [DecidableEq α] in
theorem takeWhile_congr {p q : α → Bool} (h : ∀ a ∈ l, p a = q a) : l.takeWhile p = l.takeWhile q := by
  induction l with
  | nil => rfl
  | cons a l ih =>
      rw [takeWhile_cons, takeWhile_cons, h a mem_cons_self, ih fun b hb => h b (mem_cons_of_mem a hb)]

end List
