import Scallop.Lib.Eff
import Scallop.Lib.Machine

/-!
# Programs with parts that others do not see

`Eff.Erases part see m m'` : the program `m` does what `m'` does, as far as a part of its state and some of its
effects are concerned.

* `erases_pure`, `Erases.bind`, `erases_zoom`, `erases_get_bind` : rules for the operations;
* `Unseen`, `Unseen.bind` : a program of which nothing is seen may come first;
* `Machine.erased_run` : a machine whose steps are seen as those of another one, and its runs.
-/

namespace Eff

variable {σ τ ω ω' ε α β : Type} {part : σ → τ} {see : ω → Option ω'}

/-- What is seen of a run of `m` is a run of `m'`. -/
def Erases (part : σ → τ) (see : ω → Option ω') (m : Eff σ ω ε α) (m' : Eff τ ω' ε α) : Prop :=
  ∀ s, m' (part s) = ⟨part (m s).state, (m s).effects.filterMap see, (m s).result⟩

/-- Nothing is seen of the program, and it returns. -/
def Unseen (part : σ → τ) (see : ω → Option ω') (m : Eff σ ω ε Unit) : Prop :=
  ∀ s, part (m s).state = part s ∧ (m s).effects.filterMap see = [] ∧ (m s).result = .ok ()

section Rules
variable {m : Eff σ ω ε α} {m' : Eff τ ω' ε α} {f : α → Eff σ ω ε β} {f' : α → Eff τ ω' ε β}

theorem erases_pure (a : α) : Erases part see (pure a : Eff σ ω ε α) (pure a) := fun _ => rfl

theorem erases_ofExcept (x : Except ε α) : Erases part see (ofExcept x : Eff σ ω ε α) (ofExcept x) := fun _ => rfl

theorem Erases.bind (hm : Erases part see m m') (hf : ∀ a, Erases part see (f a) (f' a)) :
    Erases part see (m >>= f) (m' >>= f') := by
  intro s
  have h := hm s
  rcases hrun : m s with ⟨s₁, es, r⟩
  rw [hrun] at h
  cases r with
  | error e => rw [bind_of_error hrun, bind_of_error h]
  | ok a =>
      rw [bind_of_ok hrun, bind_of_ok h, hf a s₁]
      show (⟨_, _ ++ _, _⟩ : Outcome τ ω' ε β) = ⟨_, (es ++ _).filterMap see, _⟩
      rw [List.filterMap_append]
      rfl

theorem erases_zoom {store : τ → σ → σ} {embed : ω' → ω} (hpart : ∀ t s, part (store t s) = t)
    (hsee : ∀ w, see (embed w) = some w) (m : Eff τ ω' ε α) :
    Erases part see (zoom part store embed m) m := by
  intro s
  have heffects : (zoom part store embed m s).effects.filterMap see = (m (part s)).effects := by
    show ((m (part s)).effects.map embed).filterMap see = _
    rw [List.filterMap_map, show see ∘ embed = some from funext hsee]
    exact List.filterMap_some
  rw [heffects]
  show _ = (⟨part (store _ s), _, _⟩ : Outcome τ ω' ε α)
  rw [hpart]
  rfl

/-- Reading the state, which both parts may depend on. -/
theorem erases_get_bind {f : σ → Eff σ ω ε β} {f' : τ → Eff τ ω' ε β}
    (hf : ∀ s, Erases part see (f s) (f' (part s))) : Erases part see (get >>= f) (get >>= f') :=
  fun s => hf s s

theorem Unseen.bind {u : Eff σ ω ε Unit} {f : Unit → Eff σ ω ε α} (hu : Unseen part see u)
    (hf : Erases part see (f ()) m') : Erases part see (u >>= f) m' := by
  intro s
  obtain ⟨hpart, hes, hres⟩ := hu s
  rcases hrun : u s with ⟨s₁, es, r⟩
  rw [hrun] at hpart hes hres
  obtain rfl : r = .ok () := hres
  rw [bind_of_ok hrun, ← hpart, hf s₁]
  show _ = (⟨_, (es ++ _).filterMap see, _⟩ : Outcome τ ω' ε α)
  rw [List.filterMap_append, hes]
  rfl

theorem Unseen.erases {u : Eff σ ω ε Unit} (hu : Unseen part see u) : Erases part see u (pure ()) := by
  intro s
  obtain ⟨hpart, hes, hres⟩ := hu s
  rw [hpart, hes, hres]
  rfl

theorem unseen_pure : Unseen part see (pure () : Eff σ ω ε Unit) := fun _ => ⟨rfl, rfl, rfl⟩

theorem unseen_modify {g : σ → σ} (hg : ∀ s, part (g s) = part s) :
    Unseen part see (modify g : Eff σ ω ε Unit) := fun s => ⟨hg s, rfl, rfl⟩

theorem unseen_emit {w : ω} (hw : see w = none) : Unseen part see (emit w : Eff σ ω ε Unit) :=
  fun _ => ⟨rfl, List.filterMap_cons_none hw, rfl⟩

theorem unseen_get_bind {f : σ → Eff σ ω ε Unit} (hf : ∀ s, Unseen part see (f s)) :
    Unseen part see (get >>= f) := fun s => hf s s

theorem unseen_bind {u v : Eff σ ω ε Unit} (hu : Unseen part see u) (hv : Unseen part see v) :
    Unseen part see (u >>= fun _ => v) := by
  intro s
  obtain ⟨hpart, hes, hres⟩ := hu s
  rcases hrun : u s with ⟨s₁, es, r⟩
  rw [hrun] at hpart hes hres
  obtain rfl : r = .ok () := hres
  obtain ⟨hpart', hes', hres'⟩ := hv s₁
  rw [bind_of_ok hrun]
  refine ⟨hpart'.trans hpart, ?_, hres'⟩
  show (es ++ _).filterMap see = []
  rw [List.filterMap_append, hes, hes']
  rfl

end Rules

end Eff

namespace Machine

variable {σ τ α ω ω' : Type*} {step : σ → α → σ × List ω} {step' : τ → α → τ × List ω'}

/-- A machine is seen as another one in every run, when it is in every step. -/
theorem erased_run {part : σ → τ} {see : ω → Option ω'}
    (hstep : ∀ s x, step' (part s) x = (part (step s x).1, (step s x).2.filterMap see)) (s : σ)
    (xs : List α) : final step' (part s) xs = part (final step s xs) ∧
      outputs step' (part s) xs = (outputs step s xs).map (List.filterMap see) := by
  induction xs generalizing s with
  | nil => exact ⟨rfl, rfl⟩
  | cons x xs ih =>
      obtain ⟨hfinal, houtputs⟩ := ih (step s x).1
      rw [final_cons, outputs_cons, final_cons, outputs_cons, List.map_cons, hstep]
      exact ⟨hfinal, congrArg _ houtputs⟩

end Machine
