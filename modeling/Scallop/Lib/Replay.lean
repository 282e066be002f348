import Scallop.Lib.UnorderedMap

/-!
# Changes that are replayed

* `Change` : a key is added with a value, or removed; `Change.apply` : a map refuses a key that it has already, or
  that it does not have;
* `replay` : changes one after the other; `replay_append`;
* `Mirrors` : the replayed changes make a view of a map; `Mirrors.add`, `Mirrors.remove` : so they do after one more
  change of both.
-/

inductive Change (κ α : Type) where
  | add (k : κ) (a : α)
  | remove (k : κ)
deriving Repr

variable {κ α β : Type} [DecidableEq κ]

/-- A map refuses to add a key that it has, and to remove one that it does not have. -/
def Change.apply (m : UnorderedMap κ α) : Change κ α → Option (UnorderedMap κ α)
  | add k a => if (m.lookup k).isSome then none else some (m.insert k a)
  | remove k => if (m.lookup k).isSome then some (m.erase k) else none

/-- Changes one after the other, if none is refused. -/
def replay (m : UnorderedMap κ α) (cs : List (Change κ α)) : Option (UnorderedMap κ α) := cs.foldlM Change.apply m

theorem replay_append (m : UnorderedMap κ α) (cs cs' : List (Change κ α)) :
    replay m (cs ++ cs') = (replay m cs).bind fun m' => replay m' cs' := List.foldlM_append

/-- No change is refused, and they make `m`, of whose values one sees `f`. -/
def Mirrors (f : β → α) (cs : List (Change κ α)) (m : UnorderedMap κ β) : Prop :=
  ∃ r, replay ∅ cs = some r ∧ ∀ k, r.lookup k = (m.lookup k).map f

namespace Mirrors

variable {f : β → α} {cs : List (Change κ α)} {m : UnorderedMap κ β} {k : κ}

theorem nil (f : β → α) : Mirrors f ([] : List (Change κ α)) ∅ := ⟨∅, rfl, fun _ => rfl⟩

theorem add (h : Mirrors f cs m) (hk : m.lookup k = none) (b : β) :
    Mirrors f (cs ++ [.add k (f b)]) (m.insert k b) := by
  obtain ⟨r, hr, hview⟩ := h
  have hnone : r.lookup k = none := by rw [hview, hk, Option.map_none]
  refine ⟨r.insert k (f b), ?_, fun l => ?_⟩
  · rw [replay_append, hr, Option.bind_some]
    show (if (r.lookup k).isSome then none else some (r.insert k (f b))) >>= some = _
    rw [hnone]
    rfl
  · by_cases hl : l = k
    · subst hl
      rw [AList.lookup_insert, AList.lookup_insert, Option.map_some]
    · rw [AList.lookup_insert_ne hl, AList.lookup_insert_ne hl, hview]

theorem remove (h : Mirrors f cs m) {b : β} (hk : m.lookup k = some b) :
    Mirrors f (cs ++ [.remove k]) (m.erase k) := by
  obtain ⟨r, hr, hview⟩ := h
  have hsome : r.lookup k = some (f b) := by rw [hview, hk, Option.map_some]
  refine ⟨r.erase k, ?_, fun l => ?_⟩
  · rw [replay_append, hr, Option.bind_some]
    show (if (r.lookup k).isSome then some (r.erase k) else none) >>= some = _
    rw [hsome]
    rfl
  · by_cases hl : l = k
    · subst hl
      rw [AList.lookup_erase, AList.lookup_erase, Option.map_none]
    · rw [AList.lookup_erase_ne hl, AList.lookup_erase_ne hl, hview]

end Mirrors
