import Mathlib.Data.List.Basic

/-!
# Messages that arrive in pieces

A receiver without framing appends what arrives to a buffer, and takes the buffer for a message as
soon as it can be read as one.

* `Framed` : a text that can be read, none of whose proper beginnings can;
* `feed_pieces` : it arrives as one message, whatever the pieces are; `feed_flatMap` : and so does
  each of many.
-/

namespace Reassembly

variable {α β γ : Type} {read : List α → Option β} {t buf : List α} {b : β}

/-- What is left in the buffer, and what was taken for messages. -/
def feed (read : List α → Option β) : List α → List (List α) → List α × List β
  | buf, [] => (buf, [])
  | buf, p :: ps =>
      match read (buf ++ p) with
      | some b => ((feed read [] ps).1, b :: (feed read [] ps).2)
      | none => feed read (buf ++ p) ps

/-- `t` is read as `b`, and no proper beginning of it is read as anything. -/
structure Framed (read : List α → Option β) (t : List α) (b : β) : Prop where
  whole : read t = some b
  proper : ∀ p s, p ++ s = t → p ≠ [] → s ≠ [] → read p = none

theorem feed_append (buf : List α) (ps qs : List (List α)) : feed read buf (ps ++ qs) =
    ((feed read (feed read buf ps).1 qs).1,
      (feed read buf ps).2 ++ (feed read (feed read buf ps).1 qs).2) := by
  induction ps generalizing buf with
  | nil => rfl
  | cons p ps ih =>
      rw [List.cons_append, feed, feed]
      cases read (buf ++ p) with
      | none => exact ih (buf ++ p)
      | some b => dsimp only; rw [ih []]; rfl

/-- The pieces of the rest of a text complete the text. -/
theorem feed_pieces (h : Framed read t b) {ps : List (List α)} (hne : ∀ p ∈ ps, p ≠ [])
    (hps : ps ≠ []) (ht : buf ++ ps.flatten = t) : feed read buf ps = ([], [b]) := by
  induction ps generalizing buf with
  | nil => exact absurd rfl hps
  | cons p ps ih =>
      have hp := hne p List.mem_cons_self
      rw [List.flatten_cons, ← List.append_assoc] at ht
      rw [feed]
      by_cases hlast : ps = []
      · subst hlast
        rw [List.flatten_nil, List.append_nil] at ht
        rw [ht, h.whole]
        rfl
      · have hrest : ps.flatten ≠ [] := by
          obtain ⟨q, qs, rfl⟩ := List.exists_cons_of_ne_nil hlast
          have hq := hne q (List.mem_cons_of_mem _ List.mem_cons_self)
          rw [List.flatten_cons]
          exact List.append_ne_nil_of_left_ne_nil hq _
        rw [h.proper (buf ++ p) ps.flatten ht (List.append_ne_nil_of_right_ne_nil _ hp) hrest]
        exact ih (fun q hq => hne q (List.mem_cons_of_mem _ hq)) hlast ht

/-- Texts that are sent one after the other arrive one after the other. -/
theorem feed_flatMap {xs : List γ} {pieces : γ → List (List α)} {msg : γ → β}
    (h : ∀ x ∈ xs, feed read [] (pieces x) = ([], [msg x])) :
    feed read [] (xs.flatMap pieces) = ([], xs.map msg) := by
  induction xs with
  | nil => rfl
  | cons x xs ih =>
      rw [List.flatMap_cons, feed_append, h x List.mem_cons_self,
        ih fun y hy => h y (List.mem_cons_of_mem _ hy)]
      rfl

end Reassembly
