import Scallop.Lib.Eff

/-!
# Preconditions and postconditions

`Triple P m Q E` : from a state in `P`, the program `m` ends well in `Q` or with an exception in `E`.

* `triple_*` : the rules of the operations; `Triple.bind`, `Triple.mono`, `Triple.and`;
* `triple_get_bind`, `triple_require_bind` : what a program that begins with a read or a check may
  assume from there on;
* `Triple.of_keeps` : an invariant is a triple with itself on all sides;
* `Triple.ends` : a condition on the state that holds however the program ends; `Triple.returns` : a
  program without an exceptional end; `Triple.throws` : what an exceptional end tells;
* `triple_zoom` : a program on a part of the state;
* `EndsWhen C Q m s₀` : from `s₀` the program ends well just when `C`, and then in `Q`; `endsWhen_*` : the
  rules of the operations; `EndsWhen.bind`, where the condition of the second part does not depend on how the
  first one ends.
-/

namespace Eff

variable {σ ω ε α β : Type}

/-- From a state in `P`, the program ends well in `Q`, or with an exception in `E`. -/
def Triple (P : σ → Prop) (m : Eff σ ω ε α) (Q : α → σ → Prop) (E : ε → σ → Prop) : Prop :=
  ∀ s, P s → match (m s).result with
    | .ok a => Q a (m s).state
    | .error e => E e (m s).state

section Rules
variable {P P' : σ → Prop} {Q Q' : α → σ → Prop} {E E' : ε → σ → Prop} {R : α → σ → Prop}
variable {Q₂ : β → σ → Prop} {m : Eff σ ω ε α} {f : α → Eff σ ω ε β}

theorem triple_pure {a : α} (h : ∀ s, P s → Q a s) : Triple P (pure a : Eff σ ω ε α) Q E := h

theorem triple_throw {e : ε} (h : ∀ s, P s → E e s) : Triple P (throw e : Eff σ ω ε α) Q E := h

theorem triple_modify {g : σ → σ} {Q : Unit → σ → Prop} (h : ∀ s, P s → Q () (g s)) :
    Triple P (modify g : Eff σ ω ε Unit) Q E := h

theorem triple_emit {w : ω} {Q : Unit → σ → Prop} (h : ∀ s, P s → Q () s) :
    Triple P (emit w : Eff σ ω ε Unit) Q E := h

theorem triple_emits {ws : List ω} {Q : Unit → σ → Prop} (h : ∀ s, P s → Q () s) :
    Triple P (emits ws : Eff σ ω ε Unit) Q E := h

theorem triple_ofExcept {x : Except ε α} (hok : ∀ a s, x = .ok a → P s → Q a s)
    (herr : ∀ e s, x = .error e → P s → E e s) : Triple P (ofExcept x : Eff σ ω ε α) Q E := by
  intro s hs
  cases x with
  | ok a => exact hok a s rfl hs
  | error e => exact herr e s rfl hs

theorem Triple.bind (hm : Triple P m R E) (hf : ∀ a, Triple (R a) (f a) Q₂ E) :
    Triple P (m >>= f) Q₂ E := by
  intro s hs
  have hm' := hm s hs
  rcases h : m s with ⟨s₁, es₁, r⟩
  rw [h] at hm'
  cases r with
  | error e => rw [bind_of_error h]; exact hm'
  | ok a => rw [bind_of_ok h]; exact hf a s₁ hm'

theorem triple_intro (h : ∀ s, P s → Triple (· = s) m Q E) : Triple P m Q E :=
  fun s hs => h s hs s rfl

/-- A program that begins with a read of the state. -/
theorem triple_get_bind {f : σ → Eff σ ω ε β} (hf : ∀ s, P s → Triple (· = s) (f s) Q₂ E) :
    Triple P (get >>= f) Q₂ E := fun s hs => hf s hs s rfl

theorem triple_require_bind {p : Prop} [Decidable p] {e : ε} {f : Unit → Eff σ ω ε β}
    (hf : p → Triple P (f ()) Q₂ E) (herr : ∀ s, ¬ p → P s → E e s) :
    Triple P (require p e >>= f) Q₂ E := by
  unfold require
  split
  · exact hf ‹p›
  · exact fun s hs => herr s ‹¬ p› hs

theorem Triple.mono (h : Triple P m Q E) (hP : ∀ s, P' s → P s) (hQ : ∀ a s, Q a s → Q' a s)
    (hE : ∀ e s, E e s → E' e s) : Triple P' m Q' E' := by
  intro s hs
  have hm := h s (hP s hs)
  cases hr : (m s).result with
  | ok a => rw [hr] at hm; exact hQ a _ hm
  | error e => rw [hr] at hm; exact hE e _ hm

theorem Triple.pre (h : Triple P m Q E) (hP : ∀ s, P' s → P s) : Triple P' m Q E :=
  h.mono hP (fun _ _ => id) fun _ _ => id

theorem Triple.and (h : Triple P m Q E) (h' : Triple P' m Q' E') :
    Triple (fun s => P s ∧ P' s) m (fun a s => Q a s ∧ Q' a s) fun e s => E e s ∧ E' e s := by
  rintro s ⟨hs, hs'⟩
  have hm := h s hs
  have hm' := h' s hs'
  cases hr : (m s).result with
  | ok a => rw [hr] at hm hm'; exact ⟨hm, hm'⟩
  | error e => rw [hr] at hm hm'; exact ⟨hm, hm'⟩

theorem Triple.of_keeps {I : σ → Prop} (h : Keeps I m) :
    Triple I m (fun _ => I) fun _ => I := by
  intro s hs
  cases (m s).result with
  | ok a => exact h s hs
  | error e => exact h s hs

/-- A condition that holds of the state however the program ends. -/
theorem Triple.ends {C : σ → Prop} (h : Triple P m (fun _ => C) fun _ => C) {s : σ} (hs : P s) :
    C (m s).state := by
  have hm := h s hs
  cases hr : (m s).result with
  | ok a => rw [hr] at hm; exact hm
  | error e => rw [hr] at hm; exact hm

/-- A program without an exceptional end returns. -/
theorem Triple.returns (h : Triple P m Q fun _ _ => False) {s : σ} (hs : P s) :
    ∃ a, (m s).result = .ok a ∧ Q a (m s).state := by
  have hm := h s hs
  cases hr : (m s).result with
  | ok a => rw [hr] at hm; exact ⟨a, rfl, hm⟩
  | error e => rw [hr] at hm; exact hm.elim

theorem Triple.throws (h : Triple P m Q E) {s : σ} {e : ε} (hs : P s)
    (he : (m s).result = .error e) : E e (m s).state := by
  have hm := h s hs
  rw [he] at hm
  exact hm

theorem triple_zoom {τ ω' : Type} {part : σ → τ} {store : τ → σ → σ} {embed : ω' → ω}
    {m : Eff τ ω' ε α} {P' : τ → Prop} {Q' : α → τ → Prop} {E' : ε → τ → Prop}
    (h : Triple P' m Q' E') (hP : ∀ s, P s → P' (part s))
    (hQ : ∀ s a t, P s → Q' a t → Q a (store t s)) (hE : ∀ s e t, P s → E' e t → E e (store t s)) :
    Triple P (zoom part store embed m) Q E := by
  intro s hs
  have hm := h (part s) (hP s hs)
  change match (m (part s)).result with
    | .ok a => Q a (store (m (part s)).state s)
    | .error e => E e (store (m (part s)).state s)
  cases hr : (m (part s)).result with
  | ok a => rw [hr] at hm; exact hQ s a _ hs hm
  | error e => rw [hr] at hm; exact hE s e _ hs hm

theorem triple_mapError {ε' : Type} {embed : ε → ε'} {E : ε' → σ → Prop} (h : Triple P m Q fun e => E (embed e)) :
    Triple P (mapError embed m) Q E := by
  intro s hs
  have hm := h s hs
  have hrun : mapError embed m s = ⟨(m s).state, (m s).effects, (m s).result.mapError embed⟩ := rfl
  rw [hrun]
  cases hr : (m s).result with
  | ok a => rw [hr] at hm; exact hm
  | error e => rw [hr] at hm; exact hm

end Rules

/-! ## When a program ends well -/

/-- From `s₀` the program ends well just when `C` holds, and then in `Q`. -/
def EndsWhen (C : Prop) (Q : α → σ → Prop) (m : Eff σ ω ε α) (s₀ : σ) : Prop :=
  Triple (· = s₀) m (fun a s => C ∧ Q a s) fun _ _ => ¬ C

section EndsWhen
variable {C D : Prop} {Q Q' R : α → σ → Prop} {Q₂ : β → σ → Prop} {m m' : Eff σ ω ε α} {f : α → Eff σ ω ε β}
variable {s₀ : σ}

theorem EndsWhen.iff (h : EndsWhen C Q m s₀) : (∃ a, (m s₀).result = .ok a) ↔ C := by
  have hm := h s₀ rfl
  cases hr : (m s₀).result with
  | ok a =>
      rw [hr] at hm
      exact ⟨fun _ => hm.1, fun _ => ⟨a, rfl⟩⟩
  | error e =>
      rw [hr] at hm
      exact ⟨fun ⟨_, ha⟩ => (nomatch ha), fun hC => absurd hC hm⟩

theorem EndsWhen.congr (h : EndsWhen C Q m s₀) (hCD : C ↔ D) (hQ : ∀ a s, D → Q a s → Q' a s) :
    EndsWhen D Q' m s₀ := by
  apply h.mono (fun _ h => h)
  · intro a s hs
    exact ⟨hCD.mp hs.1, hQ a s (hCD.mp hs.1) hs.2⟩
  · intro e s hs hD
    exact hs (hCD.mpr hD)

theorem EndsWhen.of_true (h : EndsWhen True Q m s₀) (hC : C) : EndsWhen C Q m s₀ :=
  h.congr ⟨fun _ => hC, fun _ => trivial⟩ fun _ _ _ h => h

theorem EndsWhen.of_false (h : EndsWhen False Q m s₀) (hC : ¬ C) : EndsWhen C Q m s₀ :=
  h.congr ⟨False.elim, hC⟩ fun _ _ _ h => h

theorem EndsWhen.of_run {s₁ : σ} (h : EndsWhen C Q m' s₁) (hrun : m s₀ = m' s₁) : EndsWhen C Q m s₀ := by
  rintro s rfl
  rw [hrun]
  exact h s₁ rfl

theorem endsWhen_of_ok {a : α} {s₁ : σ} {es : List ω} (h : m s₀ = ⟨s₁, es, .ok a⟩) (hC : C) (hQ : Q a s₁) :
    EndsWhen C Q m s₀ := by
  rintro s rfl
  rw [h]
  exact ⟨hC, hQ⟩

theorem endsWhen_of_error {e : ε} {s₁ : σ} {es : List ω} (h : m s₀ = ⟨s₁, es, .error e⟩) (hC : ¬ C) :
    EndsWhen C Q m s₀ := by
  rintro s rfl
  rw [h]
  exact hC

theorem endsWhen_bind_of_ok {a : α} {s₁ : σ} {es : List ω} (h : m s₀ = ⟨s₁, es, .ok a⟩)
    (hf : EndsWhen D Q₂ (f a) s₁) : EndsWhen D Q₂ (m >>= f) s₀ := by
  rintro s rfl
  rw [bind_of_ok h]
  exact hf s₁ rfl

theorem endsWhen_bind_of_error {e : ε} {s₁ : σ} {es : List ω} (h : m s₀ = ⟨s₁, es, .error e⟩) (hC : ¬ C) :
    EndsWhen C Q₂ (m >>= f) s₀ := by
  rintro s rfl
  rw [bind_of_error h]
  exact hC

theorem endsWhen_pure {a : α} (h : Q a s₀) : EndsWhen True Q (pure a : Eff σ ω ε α) s₀ := by
  apply triple_pure
  rintro s rfl
  exact ⟨trivial, h⟩

theorem endsWhen_throw {e : ε} : EndsWhen False Q (throw e : Eff σ ω ε α) s₀ :=
  triple_throw fun _ _ h => h

theorem endsWhen_modify {g : σ → σ} {Q : Unit → σ → Prop} (h : Q () (g s₀)) :
    EndsWhen True Q (modify g : Eff σ ω ε Unit) s₀ := by
  apply triple_modify
  rintro s rfl
  exact ⟨trivial, h⟩

theorem EndsWhen.bind (hm : EndsWhen C R m s₀) (hf : ∀ a s, C → R a s → EndsWhen D Q₂ (f a) s) :
    EndsWhen (C ∧ D) Q₂ (m >>= f) s₀ := by
  refine Triple.bind (R := fun a s => C ∧ R a s) ?_ fun a => triple_intro fun s hs => ?_
  · apply hm.mono (fun _ h => h) (fun _ _ h => h)
    intro e s hC hCD
    exact hC hCD.1
  · apply (hf a s hs.1 hs.2).mono (fun _ h => h)
    · intro b s' hs'
      exact ⟨⟨hs.1, hs'.1⟩, hs'.2⟩
    · intro e s' hD hCD
      exact hD hCD.2

theorem endsWhen_get_bind {f : σ → Eff σ ω ε β} (hf : EndsWhen D Q₂ (f s₀) s₀) :
    EndsWhen D Q₂ (get >>= f) s₀ := by
  apply triple_get_bind
  rintro s rfl
  exact hf

theorem endsWhen_modify_bind {g : σ → σ} {f : Unit → Eff σ ω ε β} (hf : EndsWhen D Q₂ (f ()) (g s₀)) :
    EndsWhen D Q₂ (modify g >>= f) s₀ := by
  rintro s rfl
  exact hf (g s) rfl

/-- The condition of what comes after a computation may depend on its result. -/
theorem endsWhen_ofExcept_bind {x : Except ε α} {D : α → Prop}
    (hf : ∀ a, x = .ok a → EndsWhen (D a) Q₂ (f a) s₀) :
    EndsWhen (∃ a, x = .ok a ∧ D a) Q₂ (ofExcept x >>= f) s₀ := by
  cases x with
  | ok a =>
      rw [ofExcept_ok_bind]
      refine (hf a rfl).congr ⟨fun h => ⟨a, rfl, h⟩, ?_⟩ fun _ _ _ h => h
      rintro ⟨a', ha, h⟩
      obtain rfl := Except.ok.inj ha
      exact h
  | error e =>
      rintro s rfl ⟨a, ha, -⟩
      exact nomatch ha

theorem endsWhen_require_bind {p : Prop} [Decidable p] {e : ε} {f : Unit → Eff σ ω ε β}
    (hf : p → EndsWhen D Q₂ (f ()) s₀) : EndsWhen (p ∧ D) Q₂ (require p e >>= f) s₀ := by
  by_cases hp : p
  · rw [require_pos hp, pure_bind]
    exact (hf hp).congr ⟨fun h => ⟨hp, h⟩, fun h => h.2⟩ fun _ _ _ h => h
  · rw [require_neg hp]
    rintro s rfl hboth
    exact hp hboth.1

theorem endsWhen_zoom {τ ω' : Type} {part : σ → τ} {store : τ → σ → σ} {embed : ω' → ω} {m : Eff τ ω' ε α}
    {Q' : α → τ → Prop} (h : EndsWhen C Q' m (part s₀)) (hQ : ∀ a t, C → Q' a t → Q a (store t s₀)) :
    EndsWhen C Q (zoom part store embed m) s₀ := by
  refine triple_zoom h ?_ ?_ fun _ _ _ _ h => h
  · rintro s rfl
    rfl
  · rintro s a t rfl hs
    exact ⟨hs.1, hQ a t hs.1 hs.2⟩

theorem endsWhen_mapError {ε' : Type} {embed : ε → ε'} (h : EndsWhen C Q m s₀) :
    EndsWhen C Q (mapError embed m) s₀ := triple_mapError h

end EndsWhen

end Eff
