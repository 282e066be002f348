import Mathlib.Data.List.Forall2
import Mathlib.Data.List.Induction

/-!
# Machines that answer every input

A machine is a function `step : σ → α → σ × β`: from a state and an input, the next state and the
answer.

* `final`, `outputs` : the state after a list of inputs, and the answers in order;
* `Along P` : `P` holds of the state and the input of every step of a run;
* `Always Q` : `Q` holds of every state of a run, the first one included;
* `final_rec` : the invariant rule for a state and the inputs so far;
* `Along.final`, `Along.always` : the invariant rules; `Along.imp`, `Always.along` : steps from such
  states;
  `always_iff_along_of`, `always_iff_along` : when the rules are exact;
  `outputs_forall₂` : the simulation rule; `refines` : when a step is some steps of another machine.
-/

namespace Machine

variable {σ τ α β γ : Type*}

/-- The state after the inputs `xs`. -/
def final (step : σ → α → σ × β) (s : σ) (xs : List α) : σ :=
  xs.foldl (fun s x => (step s x).1) s

def outputs (step : σ → α → σ × β) : σ → List α → List β
  | _, [] => []
  | s, x :: xs => (step s x).2 :: outputs step (step s x).1 xs

/-- `P` holds of the state and the input of every step. -/
def Along (P : σ → α → Prop) (step : σ → α → σ × β) : σ → List α → Prop
  | _, [] => True
  | s, x :: xs => P s x ∧ Along P step (step s x).1 xs

instance Along.decidable {P : σ → α → Prop} [∀ s x, Decidable (P s x)]
    (step : σ → α → σ × β) : (s : σ) → (xs : List α) → Decidable (Along P step s xs)
  | _, [] => isTrue trivial
  | s, x :: xs =>
      have := Along.decidable (P := P) step (step s x).1 xs
      inferInstanceAs (Decidable (P s x ∧ Along P step (step s x).1 xs))

/-- `Q` holds of every state of the run. -/
def Always (Q : σ → Prop) (step : σ → α → σ × β) : σ → List α → Prop
  | s, [] => Q s
  | s, x :: xs => Q s ∧ Always Q step (step s x).1 xs

section Rules
variable (step : σ → α → σ × β)

@[simp] theorem final_nil (s : σ) : final step s [] = s := rfl

@[simp] theorem final_cons (s : σ) (x : α) (xs : List α) :
    final step s (x :: xs) = final step (step s x).1 xs := rfl

theorem final_append (s : σ) (xs ys : List α) :
    final step s (xs ++ ys) = final step (final step s xs) ys := by
  simp [final]

@[simp] theorem outputs_nil (s : σ) : outputs step s [] = [] := rfl

@[simp] theorem outputs_cons (s : σ) (x : α) (xs : List α) :
    outputs step s (x :: xs) = (step s x).2 :: outputs step (step s x).1 xs := rfl

theorem outputs_append (s : σ) (xs ys : List α) :
    outputs step s (xs ++ ys) = outputs step s xs ++ outputs step (final step s xs) ys := by
  induction xs generalizing s with
  | nil => rfl
  | cons x xs ih => simp [ih]

@[simp] theorem outputs_length (s : σ) (xs : List α) : (outputs step s xs).length = xs.length := by
  induction xs generalizing s with
  | nil => rfl
  | cons x xs ih => simp [ih]

theorem outputs_map (f : γ → α) (s : σ) (xs : List γ) :
    outputs step s (xs.map f) = outputs (fun s x => step s (f x)) s xs := by
  induction xs generalizing s with
  | nil => rfl
  | cons x xs ih => simp [ih]

theorem map_outputs {g : β → α} (hg : ∀ s x, g (step s x).2 = x) (s : σ) (xs : List α) :
    (outputs step s xs).map g = xs := by
  induction xs generalizing s with
  | nil => rfl
  | cons x xs ih => simp [ih, hg]

/-- What holds at the start, and is kept by the next input, of the inputs so far and the state after them. -/
theorem final_rec {I : List α → σ → Prop} {s : σ} (hinit : I [] s)
    (hstep : ∀ xs x, I xs (final step s xs) → I (xs ++ [x]) (step (final step s xs) x).1) (xs : List α) :
    I xs (final step s xs) := by
  induction xs using List.reverseRecOn with
  | nil => exact hinit
  | append_singleton xs x ih =>
      rw [final_append]
      exact hstep xs x ih

variable {step}

/-- Steps that meet `P` keep `I`, so a run of such steps does. -/
theorem Along.final {P : σ → α → Prop} {I : σ → Prop}
    (hstep : ∀ s x, I s → P s x → I (step s x).1) {s : σ} {xs : List α}
    (h : Along P step s xs) (hs : I s) : I (final step s xs) := by
  induction xs generalizing s with
  | nil => exact hs
  | cons x xs ih => exact ih h.2 (hstep s x hs h.1)

theorem Along.always {P : σ → α → Prop} {I : σ → Prop}
    (hstep : ∀ s x, I s → P s x → I (step s x).1) {s : σ} {xs : List α}
    (h : Along P step s xs) (hs : I s) : Always I step s xs := by
  induction xs generalizing s with
  | nil => exact hs
  | cons x xs ih => exact ⟨hs, ih h.2 (hstep s x hs h.1)⟩

theorem Always.final {Q : σ → Prop} {s : σ} {xs : List α} (h : Always Q step s xs) :
    Q (final step s xs) := by
  induction xs generalizing s with
  | nil => exact h
  | cons x xs ih => exact ih h.2

theorem Along.of_forall {P : σ → α → Prop} (h : ∀ s x, P s x) (s : σ) (xs : List α) :
    Along P step s xs := by
  induction xs generalizing s with
  | nil => trivial
  | cons x xs ih => exact ⟨h s x, ih _⟩

theorem Always.mono {Q Q' : σ → Prop} (hQ : ∀ s, Q s → Q' s) {s : σ} {xs : List α}
    (h : Always Q step s xs) : Always Q' step s xs := by
  induction xs generalizing s with
  | nil => exact hQ _ h
  | cons x xs ih => exact ⟨hQ _ h.1, ih h.2⟩

theorem along_append {P : σ → α → Prop} {s : σ} {xs ys : List α} :
    Along P step s (xs ++ ys) ↔ Along P step s xs ∧ Along P step (Machine.final step s xs) ys := by
  induction xs generalizing s with
  | nil => exact ⟨fun h => ⟨trivial, h⟩, fun h => h.2⟩
  | cons x xs ih => rw [List.cons_append, Along, ih, Along, final_cons, and_assoc]

/-- Steps that meet `P`, from states that meet `Q`, meet what both give. -/
theorem Along.imp {P R : σ → α → Prop} {Q : σ → Prop} (hR : ∀ s x, Q s → P s x → R s x) {s : σ}
    {xs : List α} (hP : Along P step s xs) (hQ : Always Q step s xs) : Along R step s xs := by
  induction xs generalizing s with
  | nil => trivial
  | cons x xs ih => exact ⟨hR s x hQ.1 hP.1, ih hP.2 hQ.2⟩

/-- Where every state meets `Q`, every step meets what `Q` gives. -/
theorem Always.along {P : σ → α → Prop} {Q : σ → Prop} (hP : ∀ s x, Q s → P s x) {s : σ}
    {xs : List α} (h : Always Q step s xs) : Along P step s xs :=
  Along.imp (P := fun _ _ => True) (fun s x hQ _ => hP s x hQ)
    (Along.of_forall (fun _ _ => trivial) s xs) h

/-- Where `I` gives `Q`, and from a state in `I` a step that meets `P` keeps it and any other one
leaves `Q`: `Q` holds all the time just when every step meets `P`. All steps are assumed to meet `O`. -/
theorem always_iff_along_of {O P : σ → α → Prop} {Q I : σ → Prop} (hinv : ∀ s, I s → Q s)
    (hstep : ∀ s x, I s → O s x → P s x → I (step s x).1)
    (hleave : ∀ s x, I s → O s x → ¬ P s x → ¬ Q (step s x).1) {s : σ} {xs : List α} (hs : I s)
    (hO : Along O step s xs) : Always Q step s xs ↔ Along P step s xs := by
  induction xs generalizing s with
  | nil => exact ⟨fun _ => trivial, fun _ => hinv s hs⟩
  | cons x xs ih =>
      have hhead : ∀ {t : σ} {ys : List α}, Always Q step t ys → Q t := by
        intro t ys h
        cases ys with
        | nil => exact h
        | cons y ys => exact h.1
      constructor
      · rintro ⟨-, h⟩
        have hP : P s x := by
          by_contra hP
          exact hleave s x hs hO.1 hP (hhead h)
        exact ⟨hP, (ih (hstep s x hs hO.1 hP) hO.2).mp h⟩
      · rintro ⟨hP, h⟩
        exact ⟨hinv s hs, (ih (hstep s x hs hO.1 hP) hO.2).mpr h⟩

/-- The same without an assumption about steps. -/
theorem always_iff_along {P : σ → α → Prop} {Q I : σ → Prop} (hinv : ∀ s, I s → Q s)
    (hstep : ∀ s x, I s → P s x → I (step s x).1)
    (hleave : ∀ s x, I s → ¬ P s x → ¬ Q (step s x).1) {s : σ} {xs : List α} (hs : I s) :
    Always Q step s xs ↔ Along P step s xs :=
  always_iff_along_of (O := fun _ _ => True) hinv (fun s x hI _ => hstep s x hI)
    (fun s x hI _ => hleave s x hI) hs (Along.of_forall (fun _ _ => trivial) s xs)

/-- Two machines whose steps keep `R` and whose answers are then related by `O` answer a run with
related lists. -/
theorem outputs_forall₂ {step' : τ → α → τ × γ} {R : σ → τ → Prop} {O : β → γ → Prop}
    {P : α → Prop}
    (hstep : ∀ s t x, R s t → P x →
      R (step s x).1 (step' t x).1 ∧ O (step s x).2 (step' t x).2)
    {s : σ} {t : τ} (h : R s t) {xs : List α} (hP : ∀ x ∈ xs, P x) :
    List.Forall₂ O (outputs step s xs) (outputs step' t xs) := by
  induction xs generalizing s t with
  | nil => exact .nil
  | cons x xs ih =>
      obtain ⟨hR, hO⟩ := hstep s t x h (hP x List.mem_cons_self)
      exact .cons hO (ih hR fun y hy => hP y (List.mem_cons_of_mem _ hy))

end Rules

section Refinement
variable {δ ω : Type*} {step : σ → α → σ × List β} {step' : σ → γ → σ × List δ}
variable {f : α → List γ} {view : β → List ω} {view' : δ → List ω}

/-- Every step is some steps of another machine, with the same view of the answers. -/
theorem refines {xs : List α} (h : ∀ x ∈ xs, ∀ s, (step s x).1 = final step' s (f x) ∧
      (step s x).2.flatMap view = (outputs step' s (f x)).flatten.flatMap view') (s : σ) :
    final step s xs = final step' s (xs.flatMap f) ∧
      (outputs step s xs).flatten.flatMap view =
        (outputs step' s (xs.flatMap f)).flatten.flatMap view' := by
  induction xs generalizing s with
  | nil => exact ⟨rfl, rfl⟩
  | cons x xs ih =>
      obtain ⟨hstate, hview⟩ := h x List.mem_cons_self s
      obtain ⟨ihstate, ihview⟩ := ih (fun y hy => h y (List.mem_cons_of_mem _ hy)) (step s x).1
      rw [hstate] at ihstate ihview
      refine ⟨?_, ?_⟩
      · rw [final_cons, List.flatMap_cons, final_append, hstate]
        exact ihstate
      · rw [outputs_cons, List.flatten_cons, List.flatMap_append, hview, hstate, ihview,
          List.flatMap_cons, outputs_append, List.flatten_append, List.flatMap_append]

end Refinement

end Machine
