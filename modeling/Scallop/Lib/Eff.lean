import Mathlib.Tactic.Common

/-!
# Programs with a state, effects and exceptions

`Eff σ ω ε α` : a program that reads and writes a state `σ`, emits effects `ω` in order, and returns
an `α` or throws an `ε`. What was written and emitted before an exception stays.

* `get`, `set`, `modify`, `emit`, `throw`, `ofExcept`, `require` : the operations, with what each
  does to a state (`*_run`); `zoom` : a program on a part of the state;
* `bind_of_ok`, `bind_of_error` : a sequence, when the outcome of its first part is known;
* `Keeps I` : a program keeps an invariant, however it ends; rules for every operation;
* `Performs ws` : a program ends well, with given effects; `Only Q` : every effect meets `Q`;
* `Commutes g` : a program does not look at what the change `g` of the state changes; rules for every
  operation.
-/

/-- How a program ends: the state, the effects in order, and the result. -/
structure Outcome (σ ω ε α : Type) where
  state : σ
  effects : List ω
  result : Except ε α

/-- A program with a state, effects and exceptions. -/
def Eff (σ ω ε α : Type) := σ → Outcome σ ω ε α

namespace Eff

variable {σ ω ε α β : Type}

/-- The outcome `k`, after effects `es`. -/
def andThen (es : List ω) (k : Outcome σ ω ε β) : Outcome σ ω ε β :=
  ⟨k.state, es ++ k.effects, k.result⟩

instance : Monad (Eff σ ω ε) where
  pure a := fun s => ⟨s, [], .ok a⟩
  bind m f := fun s =>
    match m s with
    | ⟨s', es, .ok a⟩ => andThen es (f a s')
    | ⟨s', es, .error e⟩ => ⟨s', es, .error e⟩

def get : Eff σ ω ε σ := fun s => ⟨s, [], .ok s⟩

def set (s : σ) : Eff σ ω ε Unit := fun _ => ⟨s, [], .ok ()⟩

def modify (f : σ → σ) : Eff σ ω ε Unit := fun s => ⟨f s, [], .ok ()⟩

def emit (w : ω) : Eff σ ω ε Unit := fun s => ⟨s, [w], .ok ()⟩

def emits (ws : List ω) : Eff σ ω ε Unit := fun s => ⟨s, ws, .ok ()⟩

def throw (e : ε) : Eff σ ω ε α := fun s => ⟨s, [], .error e⟩

/-- A computation that only fails or returns. -/
def ofExcept (x : Except ε α) : Eff σ ω ε α := fun s => ⟨s, [], x⟩

/-- Throw `e` unless `p` holds. -/
def require (p : Prop) [Decidable p] (e : ε) : Eff σ ω ε Unit :=
  if p then pure () else throw e

/-- A program whose exceptions are among others. -/
def mapError {ε' : Type} (embed : ε → ε') (m : Eff σ ω ε α) : Eff σ ω ε' α := fun s =>
  let o := m s
  ⟨o.state, o.effects, o.result.mapError embed⟩

/-- A program on a part of the state, whose effects are among others. -/
def zoom {τ ω' : Type} (part : σ → τ) (store : τ → σ → σ) (embed : ω' → ω) (m : Eff τ ω' ε α) :
    Eff σ ω ε α := fun s =>
  let o := m (part s)
  ⟨store o.state s, o.effects.map embed, o.result⟩

/-! ## Runs -/

section Run
variable {m : Eff σ ω ε α} {f : α → Eff σ ω ε β} {s s' : σ} {es : List ω}

@[simp] theorem andThen_nil (k : Outcome σ ω ε β) : andThen [] k = k := rfl

@[simp] theorem andThen_mk (es es' : List ω) (s : σ) (r : Except ε β) :
    andThen es ⟨s, es', r⟩ = ⟨s, es ++ es', r⟩ := rfl

@[simp] theorem pure_run (a : α) (s : σ) : (pure a : Eff σ ω ε α) s = ⟨s, [], .ok a⟩ := rfl

@[simp] theorem get_run (s : σ) : (get : Eff σ ω ε σ) s = ⟨s, [], .ok s⟩ := rfl

@[simp] theorem set_run (t s : σ) : (set t : Eff σ ω ε Unit) s = ⟨t, [], .ok ()⟩ := rfl

@[simp] theorem modify_run (g : σ → σ) (s : σ) :
    (modify g : Eff σ ω ε Unit) s = ⟨g s, [], .ok ()⟩ := rfl

@[simp] theorem emit_run (w : ω) (s : σ) : (emit w : Eff σ ω ε Unit) s = ⟨s, [w], .ok ()⟩ := rfl

@[simp] theorem emits_run (ws : List ω) (s : σ) :
    (emits ws : Eff σ ω ε Unit) s = ⟨s, ws, .ok ()⟩ := rfl

@[simp] theorem throw_run (e : ε) (s : σ) : (throw e : Eff σ ω ε α) s = ⟨s, [], .error e⟩ := rfl

@[simp] theorem ofExcept_run (x : Except ε α) (s : σ) :
    (ofExcept x : Eff σ ω ε α) s = ⟨s, [], x⟩ := rfl

theorem bind_of_ok {a : α} (h : m s = ⟨s', es, .ok a⟩) : (m >>= f) s = andThen es (f a s') := by
  change (match m s with
    | ⟨s', es, .ok a⟩ => andThen es (f a s')
    | ⟨s', es, .error e⟩ => ⟨s', es, .error e⟩) = _
  rw [h]

theorem bind_of_error {e : ε} (h : m s = ⟨s', es, .error e⟩) :
    (m >>= f) s = ⟨s', es, .error e⟩ := by
  change (match m s with
    | ⟨s', es, .ok a⟩ => andThen es (f a s')
    | ⟨s', es, .error e⟩ => ⟨s', es, .error e⟩) = _
  rw [h]

@[simp] theorem pure_bind (a : α) (f : α → Eff σ ω ε β) : (pure a >>= f) = f a := rfl

theorem bind_pure_unit (m : Eff σ ω ε Unit) : (m >>= fun _ => pure ()) = m := by
  funext s
  rcases h : m s with ⟨s', es, r⟩
  cases r with
  | error e => rw [bind_of_error h]
  | ok a =>
      rw [bind_of_ok h]
      change (⟨s', es ++ [], .ok ()⟩ : Outcome σ ω ε Unit) = _
      rw [List.append_nil]

@[simp] theorem get_bind_run (f : σ → Eff σ ω ε β) (s : σ) : (get >>= f) s = f s s := rfl

@[simp] theorem set_bind_run (f : Unit → Eff σ ω ε β) (t s : σ) :
    (set t >>= f) s = f () t := rfl

@[simp] theorem modify_bind_run (g : σ → σ) (f : Unit → Eff σ ω ε β) (s : σ) :
    (modify g >>= f) s = f () (g s) := rfl

@[simp] theorem emit_bind_run (w : ω) (f : Unit → Eff σ ω ε β) (s : σ) :
    (emit w >>= f) s = andThen [w] (f () s) := rfl

@[simp] theorem emits_bind_run (ws : List ω) (f : Unit → Eff σ ω ε β) (s : σ) :
    (emits ws >>= f) s = andThen ws (f () s) := rfl

@[simp] theorem throw_bind_run (e : ε) (f : α → Eff σ ω ε β) (s : σ) :
    (throw e >>= f) s = ⟨s, [], .error e⟩ := rfl

@[simp] theorem ofExcept_ok_bind (a : α) (f : α → Eff σ ω ε β) :
    (ofExcept (.ok a) >>= f) = f a := rfl

@[simp] theorem ofExcept_error_bind_run (e : ε) (f : α → Eff σ ω ε β) (s : σ) :
    (ofExcept (.error e) >>= f) s = ⟨s, [], .error e⟩ := rfl

/-- What a program that ended well went through. -/
theorem result_bind_ok {b : β} (h : ((m >>= f) s).result = .ok b) :
    ∃ a, (m s).result = .ok a ∧ (f a (m s).state).result = .ok b := by
  rcases hm : m s with ⟨s₁, es₁, r⟩
  cases r with
  | error e =>
      rw [bind_of_error hm] at h
      exact absurd h (by simp)
  | ok a =>
      rw [bind_of_ok hm] at h
      exact ⟨a, rfl, h⟩

theorem state_bind_of_ok {a : α} (h : (m s).result = .ok a) :
    ((m >>= f) s).state = (f a (m s).state).state := by
  rcases hm : m s with ⟨s₁, es₁, r⟩
  rw [hm] at h
  obtain rfl : r = .ok a := h
  rw [bind_of_ok hm]
  rfl

theorem state_bind_pure (b : β) : ((m >>= fun _ => pure b) s).state = (m s).state := by
  rcases hm : m s with ⟨s₁, es₁, r⟩
  cases r with
  | error e => rw [bind_of_error hm]
  | ok a => rw [bind_of_ok hm]; rfl

/-- Where a program failed, the second part of which never does. -/
theorem bind_error_left {e : ε} (hf : ∀ a s, ∃ b, (f a s).result = .ok b)
    (h : ((m >>= f) s).result = .error e) :
    (m s).result = .error e ∧ ((m >>= f) s).state = (m s).state := by
  rcases hm : m s with ⟨s₁, es₁, r⟩
  cases r with
  | error e' =>
      rw [bind_of_error hm] at h ⊢
      exact ⟨congrArg Except.error (Except.error.inj h), rfl⟩
  | ok a =>
      obtain ⟨b, hb⟩ := hf a s₁
      rw [bind_of_ok hm] at h
      exact nomatch hb.symm.trans h

/-- What a program that ended well went through, and where it ended. -/
theorem bind_ok {b : β} (h : ((m >>= f) s).result = .ok b) :
    ∃ a, (m s).result = .ok a ∧ (f a (m s).state).result = .ok b ∧
      ((m >>= f) s).state = (f a (m s).state).state := by
  obtain ⟨a, ha, hb⟩ := result_bind_ok h
  exact ⟨a, ha, hb, state_bind_of_ok ha⟩

theorem result_bind_ok_iff {b : β} : ((m >>= f) s).result = .ok b ↔
    ∃ a, (m s).result = .ok a ∧ (f a (m s).state).result = .ok b := by
  refine ⟨result_bind_ok, fun ⟨a, ha, hb⟩ => ?_⟩
  rcases hm : m s with ⟨s₁, es₁, r⟩
  rw [hm] at ha hb
  obtain rfl : r = .ok a := ha
  rw [bind_of_ok hm]
  exact hb

theorem require_ok_iff {p : Prop} [Decidable p] {e : ε} :
    ((require p e : Eff σ ω ε Unit) s).result = .ok () ↔ p := by
  unfold require
  split
  · exact ⟨fun _ => ‹p›, fun _ => rfl⟩
  · exact ⟨fun h => (nomatch h), fun h => absurd h ‹¬ p›⟩

/-- When a program ends well that begins with a check. -/
theorem require_bind_ok_iff {p : Prop} [Decidable p] {e : ε} {f : Unit → Eff σ ω ε β} {b : β} :
    ((require p e >>= f) s).result = .ok b ↔ p ∧ (f () s).result = .ok b := by
  unfold require
  split
  · exact ⟨fun h => ⟨‹p›, h⟩, fun h => h.2⟩
  · exact ⟨fun h => (nomatch h), fun h => absurd h.1 ‹¬ p›⟩

theorem require_ok {p : Prop} [Decidable p] {e : ε}
    (h : ((require p e : Eff σ ω ε Unit) s).result = .ok ()) :
    p ∧ ((require p e : Eff σ ω ε Unit) s).state = s := by
  by_cases hp : p
  · refine ⟨hp, ?_⟩
    unfold require
    rw [if_pos hp]
    rfl
  · unfold require at h
    rw [if_neg hp] at h
    exact nomatch h

end Run

/-! ## Invariants -/

/-- The program keeps `I`, also when it throws. -/
def Keeps (I : σ → Prop) (m : Eff σ ω ε α) : Prop := ∀ s, I s → I (m s).state

section Keeps
variable {I : σ → Prop} {m : Eff σ ω ε α} {f : α → Eff σ ω ε β} {s : σ}

theorem keeps_pure (a : α) : Keeps I (pure a : Eff σ ω ε α) := fun _ h => h

theorem keeps_emit (w : ω) : Keeps I (emit w : Eff σ ω ε Unit) := fun _ h => h

theorem keeps_get_bind {f : σ → Eff σ ω ε β} (hf : ∀ s, Keeps I (f s)) :
    Keeps I (get >>= f) := fun s hs => hf s s hs

theorem keeps_emits (ws : List ω) : Keeps I (emits ws : Eff σ ω ε Unit) := fun _ h => h

theorem keeps_throw (e : ε) : Keeps I (throw e : Eff σ ω ε α) := fun _ h => h

theorem keeps_modify {g : σ → σ} (hg : ∀ s, I s → I (g s)) :
    Keeps I (modify g : Eff σ ω ε Unit) := hg

theorem keeps_require (p : Prop) [Decidable p] (e : ε) :
    Keeps I (require p e : Eff σ ω ε Unit) := by
  unfold require
  split
  · exact keeps_pure ()
  · exact keeps_throw e

theorem keeps_ofExcept (x : Except ε α) : Keeps I (ofExcept x : Eff σ ω ε α) := fun _ h => h

/-- What holds after the first part, and is kept by the second one. -/
theorem holds_bind (hm : I (m s).state) (hf : ∀ a, Keeps I (f a)) :
    I ((m >>= f) s).state := by
  rcases h : m s with ⟨s₁, es₁, r⟩
  rw [h] at hm
  cases r with
  | error e => rw [bind_of_error h]; exact hm
  | ok a => rw [bind_of_ok h]; exact hf a s₁ hm

theorem Keeps.bind (hm : Keeps I m) (hf : ∀ a, Keeps I (f a)) : Keeps I (m >>= f) :=
  fun s hs => holds_bind (hm s hs) hf

theorem keeps_require_bind {p : Prop} [Decidable p] {e : ε} {f : Unit → Eff σ ω ε β}
    (hf : p → Keeps I (f ())) : Keeps I (require p e >>= f) := by
  unfold require
  split
  · exact hf ‹p›
  · exact fun _ h => h

end Keeps

/-! ## Effects -/

/-- The program ends well, with the effects `ws`. -/
def Performs (ws : List ω) (m : Eff σ ω ε α) : Prop :=
  ∀ s, (m s).effects = ws ∧ ∃ a, (m s).result = .ok a

section Performs
variable {ws ws' : List ω} {m : Eff σ ω ε α} {f : α → Eff σ ω ε β}

@[simp] theorem require_pos {p : Prop} [Decidable p] (hp : p) (e : ε) :
    (require p e : Eff σ ω ε Unit) = pure () := if_pos hp

theorem require_neg {p : Prop} [Decidable p] (hp : ¬ p) (e : ε) :
    (require p e : Eff σ ω ε Unit) = throw e := if_neg hp

theorem performs_pure (a : α) : Performs [] (pure a : Eff σ ω ε α) := fun _ => ⟨rfl, a, rfl⟩

theorem performs_modify (g : σ → σ) : Performs [] (modify g : Eff σ ω ε Unit) :=
  fun _ => ⟨rfl, (), rfl⟩

theorem performs_emit (w : ω) : Performs [w] (emit w : Eff σ ω ε Unit) := fun _ => ⟨rfl, (), rfl⟩

theorem performs_get_bind {f : σ → Eff σ ω ε β} (hf : ∀ s, Performs ws (f s)) :
    Performs ws (get >>= f) := fun s => hf s s

theorem Performs.bind (hm : Performs ws m) (hf : ∀ a, Performs ws' (f a)) :
    Performs (ws ++ ws') (m >>= f) := by
  intro s
  obtain ⟨hws, a, ha⟩ := hm s
  rcases h : m s with ⟨s₁, es₁, r⟩
  rw [h] at hws ha
  obtain rfl : es₁ = ws := hws
  obtain rfl : r = .ok a := ha
  obtain ⟨hws', b, hb⟩ := hf a s₁
  rw [bind_of_ok h]
  exact ⟨congrArg (es₁ ++ ·) hws', b, hb⟩

/-- Two programs in a row, the first of which has no effects. -/
theorem Performs.bind_nil (hm : Performs [] m) (hf : ∀ a, Performs ws (f a)) :
    Performs ws (m >>= f) := hm.bind hf

/-- Two programs in a row, the second of which has no effects. -/
theorem Performs.nil_bind (hm : Performs ws m) (hf : ∀ a, Performs [] (f a)) :
    Performs ws (m >>= f) := by
  have h := hm.bind hf
  rwa [List.append_nil] at h

end Performs

/-- Every effect of the program meets `Q`. -/
def Only (Q : ω → Prop) (m : Eff σ ω ε α) : Prop := ∀ s, ∀ w ∈ (m s).effects, Q w

section Only
variable {Q : ω → Prop} {m : Eff σ ω ε α} {f : α → Eff σ ω ε β}

theorem only_pure (a : α) : Only Q (pure a : Eff σ ω ε α) := fun _ _ h => absurd h List.not_mem_nil

theorem only_modify (g : σ → σ) : Only Q (modify g : Eff σ ω ε Unit) :=
  fun _ _ h => absurd h List.not_mem_nil

theorem only_set (t : σ) : Only Q (set t : Eff σ ω ε Unit) :=
  fun _ _ h => absurd h List.not_mem_nil

theorem only_throw (e : ε) : Only Q (throw e : Eff σ ω ε α) := fun _ _ h => absurd h List.not_mem_nil

theorem only_ofExcept (x : Except ε α) : Only Q (ofExcept x : Eff σ ω ε α) :=
  fun _ _ h => absurd h List.not_mem_nil

theorem only_require (p : Prop) [Decidable p] (e : ε) :
    Only Q (require p e : Eff σ ω ε Unit) := by
  unfold require
  split
  · exact only_pure ()
  · exact only_throw e

theorem only_zoom {τ ω' : Type} {part : σ → τ} {store : τ → σ → σ} {embed : ω' → ω}
    {m : Eff τ ω' ε α} {Q' : ω' → Prop} (hm : Only Q' m) (hQ : ∀ w, Q' w → Q (embed w)) :
    Only Q (zoom part store embed m) := by
  intro s w hw
  obtain ⟨w', hw', rfl⟩ := List.mem_map.mp hw
  exact hQ w' (hm (part s) w' hw')

theorem only_emit {w : ω} (hw : Q w) : Only Q (emit w : Eff σ ω ε Unit) :=
  fun _ _ h => List.mem_singleton.mp h ▸ hw

theorem only_emits {ws : List ω} (hws : ∀ w ∈ ws, Q w) : Only Q (emits ws : Eff σ ω ε Unit) :=
  fun _ => hws

theorem only_get_bind {f : σ → Eff σ ω ε β} (hf : ∀ s, Only Q (f s)) : Only Q (get >>= f) :=
  fun s => hf s s

/-- Where an effect comes from: the first part, or the second one, once the first has ended well. -/
theorem mem_effects_bind {s : σ} {w : ω} (hw : w ∈ ((m >>= f) s).effects) :
    w ∈ (m s).effects ∨ ∃ a, (m s).result = .ok a ∧ w ∈ (f a (m s).state).effects := by
  rcases h : m s with ⟨s₁, es₁, r⟩
  cases r with
  | error e =>
      rw [bind_of_error h] at hw
      exact .inl hw
  | ok a =>
      rw [bind_of_ok h] at hw
      exact (List.mem_append.mp hw).imp_right fun hw => ⟨a, rfl, hw⟩

theorem Only.bind (hm : Only Q m) (hf : ∀ a, Only Q (f a)) : Only Q (m >>= f) := by
  intro s w hw
  rcases mem_effects_bind hw with hw | ⟨a, -, hw⟩
  · exact hm s w hw
  · exact hf a (m s).state w hw

end Only

/-! ## Changes that a program does not see -/

/-- Running the program after the change `g` is running it before, with the same effects and the
same result. -/
def Commutes (g : σ → σ) (m : Eff σ ω ε α) : Prop :=
  ∀ s, m (g s) = ⟨g (m s).state, (m s).effects, (m s).result⟩

section Commutes
variable {g : σ → σ} {m : Eff σ ω ε α} {f : α → Eff σ ω ε β}

theorem commutes_pure (a : α) : Commutes g (pure a : Eff σ ω ε α) := fun _ => rfl

theorem commutes_emit (w : ω) : Commutes g (emit w : Eff σ ω ε Unit) := fun _ => rfl

theorem commutes_throw (e : ε) : Commutes g (throw e : Eff σ ω ε α) := fun _ => rfl

theorem commutes_ofExcept (x : Except ε α) : Commutes g (ofExcept x : Eff σ ω ε α) := fun _ => rfl

theorem commutes_modify {h : σ → σ} (hg : ∀ s, h (g s) = g (h s)) :
    Commutes g (modify h : Eff σ ω ε Unit) := fun s => by rw [modify_run, hg, modify_run]

theorem Commutes.bind (hm : Commutes g m) (hf : ∀ a, Commutes g (f a)) :
    Commutes g (m >>= f) := by
  intro s
  rcases h : m s with ⟨s₁, es₁, r⟩
  have hg := hm s
  rw [h] at hg
  cases r with
  | error e => rw [bind_of_error h, bind_of_error hg]
  | ok a => rw [bind_of_ok h, bind_of_ok hg, hf a s₁]; rfl

/-- Reading the state is fine when the rest does not depend on what `g` changes. -/
theorem commutes_get_bind {f : σ → Eff σ ω ε β} (hg : ∀ s, f (g s) = f s)
    (hf : ∀ s, Commutes g (f s)) : Commutes g (get >>= f) := by
  intro s
  rw [get_bind_run, get_bind_run, hg, hf s s]

end Commutes

end Eff
