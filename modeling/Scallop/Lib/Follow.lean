import Scallop.Lib.Eff
import Scallop.Lib.Machine

/-!
# Programs next to each other

`Eff.Follows p see P m m' Q` : two programs run next to each other, from states that `P` relates. Where `m` ends
well, and `p` holds, `m'` returns the same value with those effects of `m` that are seen; where `p` does not hold,
nothing is seen of `m`, and the other side stays as it is.

* `follows_*`, `Follows.bind` : the rules of the operations;
* `Appends view keep log about m` : a program without effects that appends to a log which it does not read;
  `appends_*`, `Appends.bind` : the rules of the operations; `Appends.follows` : such a program next to itself;
* `Machine.filter_run` : a machine that is given some of the inputs of another one.
-/

namespace Eff

variable {σ τ ω ε α β : Type}

/-! ## Two sides -/

/-- `m'` does what is seen of `m` if `p` holds, and nothing is seen of it otherwise. -/
def Follows (p : Prop) (see : ω → Bool) (P : σ → τ → Prop) (m : Eff σ ω ε α) (m' : Eff τ ω ε α)
    (Q : α → σ → τ → Prop) : Prop :=
  ∀ s t a, P s t → (m s).result = .ok a →
    (p → ∃ t', m' t = ⟨t', (m s).effects.filter see, .ok a⟩ ∧ Q a (m s).state t') ∧
      (¬ p → (m s).effects.filter see = [] ∧ Q a (m s).state t)

section Rules
variable {p : Prop} {see : ω → Bool} {P P' : σ → τ → Prop} {Q Q' : α → σ → τ → Prop} {R : β → σ → τ → Prop}
variable {m : Eff σ ω ε α} {m' m'' : Eff τ ω ε α} {f : α → Eff σ ω ε β} {f' : α → Eff τ ω ε β}

theorem follows_pure {a : α} (h : ∀ s t, P s t → Q a s t) : Follows p see P (pure a : Eff σ ω ε α) (pure a) Q := by
  intro s t b hP hb
  obtain rfl := Except.ok.inj hb
  exact ⟨fun _ => ⟨t, rfl, h s t hP⟩, fun _ => ⟨rfl, h s t hP⟩⟩

theorem follows_throw {e : ε} : Follows p see P (throw e : Eff σ ω ε α) m' Q := by
  intro s t a _ ha
  exact absurd ha (by simp)

theorem follows_ofExcept {x : Except ε α} (h : ∀ a s t, x = .ok a → P s t → Q a s t) :
    Follows p see P (ofExcept x : Eff σ ω ε α) (ofExcept x) Q := by
  intro s t a hP ha
  have hx : x = .ok a := ha
  subst hx
  exact ⟨fun _ => ⟨t, rfl, h a s t rfl hP⟩, fun _ => ⟨rfl, h a s t rfl hP⟩⟩

/-- A change of both sides, or of the left one only. -/
theorem follows_modify {g : σ → σ} {g' : τ → τ} {Q : Unit → σ → τ → Prop}
    (hboth : ∀ s t, p → P s t → Q () (g s) (g' t)) (hleft : ∀ s t, ¬ p → P s t → Q () (g s) t) :
    Follows p see P (modify g : Eff σ ω ε Unit) (modify g') Q :=
  fun s t _ hP _ => ⟨fun hp => ⟨g' t, rfl, hboth s t hp hP⟩, fun hp => ⟨rfl, hleft s t hp hP⟩⟩

/-- An effect is seen just when the other side follows. -/
theorem follows_emit {w : ω} {Q : Unit → σ → τ → Prop} (hw : see w = true ↔ p) (h : ∀ s t, P s t → Q () s t) :
    Follows p see P (emit w : Eff σ ω ε Unit) (emit w) Q := by
  intro s t _ hP _
  refine ⟨fun hp => ⟨t, ?_, h s t hP⟩, fun hp => ⟨?_, h s t hP⟩⟩
  · rw [emit_run, emit_run, List.filter_cons_of_pos (hw.mpr hp), List.filter_nil]
  · rw [emit_run, List.filter_cons_of_neg fun hsee => hp (hw.mp hsee), List.filter_nil]

theorem Follows.bind (hm : Follows p see P m m' Q) (hf : ∀ a, Follows p see (Q a) (f a) (f' a) R) :
    Follows p see P (m >>= f) (m' >>= f') R := by
  intro s t b hP hb
  obtain ⟨a, ha, hb⟩ := result_bind_ok hb
  rcases hrun : m s with ⟨s₁, es, r⟩
  rw [hrun] at ha hb
  obtain rfl : r = .ok a := ha
  obtain ⟨hboth, hleft⟩ := hm s t a hP (by rw [hrun])
  rw [hrun] at hboth hleft
  rw [bind_of_ok hrun]
  refine ⟨fun hp => ?_, fun hp => ?_⟩
  · obtain ⟨t₁, hrun', hQ⟩ := hboth hp
    obtain ⟨t₂, hrun₂, hR⟩ := (hf a s₁ t₁ b hQ hb).1 hp
    refine ⟨t₂, ?_, hR⟩
    rw [bind_of_ok hrun', hrun₂]
    exact congrArg (Outcome.mk t₂ · _) (List.filter_append _ _).symm
  · obtain ⟨hes, hQ⟩ := hleft hp
    obtain ⟨hes₂, hR⟩ := (hf a s₁ t b hQ hb).2 hp
    refine ⟨?_, hR⟩
    show (es ++ _).filter see = []
    rw [List.filter_append, hes, hes₂, List.nil_append]

theorem Follows.mono (h : Follows p see P m m' Q) (hP : ∀ s t, P' s t → P s t)
    (hQ : ∀ a s t, Q a s t → Q' a s t) : Follows p see P' m m' Q' := by
  intro s t a hs ha
  obtain ⟨hboth, hleft⟩ := h s t a (hP s t hs) ha
  refine ⟨fun hp => ?_, fun hp => ?_⟩
  · obtain ⟨t', hrun, hq⟩ := hboth hp
    exact ⟨t', hrun, hQ _ _ _ hq⟩
  · obtain ⟨hes, hq⟩ := hleft hp
    exact ⟨hes, hQ _ _ _ hq⟩

/-- What the other side does matters only if it follows. -/
theorem Follows.congr (h : Follows p see P m m'' Q) (heq : ∀ s t, p → P s t → m' t = m'' t) :
    Follows p see P m m' Q := by
  intro s t a hs ha
  obtain ⟨hboth, hleft⟩ := h s t a hs ha
  exact ⟨fun hp => heq s t hp hs ▸ hboth hp, hleft⟩

theorem follows_intro (h : ∀ s t, P s t → Follows p see (fun s' t' => s' = s ∧ t' = t) m m' Q) :
    Follows p see P m m' Q := fun s t a hP ha => h s t hP s t a ⟨rfl, rfl⟩ ha

theorem Follows.at (h : Follows p see P m m' Q) {s : σ} {t : τ} (hP : P s t) :
    Follows p see (fun s' t' => s' = s ∧ t' = t) m m' Q := by
  rintro _ _ a ⟨rfl, rfl⟩ ha
  exact h _ _ a hP ha

/-- A program of which nothing is seen, next to one that does nothing. -/
theorem Follows.skip {m m' : Eff σ ω ε Unit} {P : σ → σ → Prop} {Q : Unit → σ → σ → Prop}
    (h : Follows p see P m m' Q) (hp : ¬ p) : Follows True see P m (pure ()) Q := by
  intro s t a hs ha
  obtain ⟨hes, hq⟩ := (h s t a hs ha).2 hp
  refine ⟨fun _ => ⟨t, ?_, hq⟩, fun hno => absurd trivial hno⟩
  rw [hes]
  rfl

theorem follows_get {f : σ → Eff σ ω ε β} {f' : τ → Eff τ ω ε β}
    (hf : ∀ s t, P s t → Follows p see (fun s' t' => s' = s ∧ t' = t) (f s) (f' t) R) :
    Follows p see P (get >>= f) (get >>= f') R :=
  fun s t b hP hb => hf s t hP s t b ⟨rfl, rfl⟩ hb

/-- Programs that begin with a read, after which they are the same. -/
theorem follows_get_bind {P : σ → σ → Prop} {R : β → σ → σ → Prop} {f f' : σ → Eff σ ω ε β}
    (heq : ∀ s t, p → P s t → f' t = f' s)
    (hf : ∀ s t, P s t → Follows p see (fun s' t' => s' = s ∧ t' = t) (f s) (f' s) R) :
    Follows p see P (get >>= f) (get >>= f') R :=
  follows_get fun s t hP => (hf s t hP).congr fun _ _ hp _ => congrFun (heq s t hp hP) _

/-- A program on a part of both states, whose effects are the same. -/
theorem follows_zoom {υ : Type} {part : σ → υ} {part' : τ → υ} {store : υ → σ → σ} {store' : υ → τ → τ}
    {m m' : Eff υ ω ε α} {P' : υ → υ → Prop} {Q' : α → υ → υ → Prop} (hm : Follows p see P' m m' Q')
    (hP : ∀ s t, P s t → P' (part s) (part' t))
    (hboth : ∀ s t a u v, p → P s t → Q' a u v → Q a (store u s) (store' v t))
    (hleft : ∀ s t a u, ¬ p → P s t → Q' a u (part' t) → Q a (store u s) t) :
    Follows p see P (zoom part store (fun w => w) m) (zoom part' store' (fun w => w) m') Q := by
  intro s t a hs ha
  obtain ⟨hboth', hleft'⟩ := hm (part s) (part' t) a (hP s t hs) ha
  have heffects : (zoom part store (fun w => w) m s).effects = (m (part s)).effects := List.map_id _
  rw [heffects]
  refine ⟨fun hp => ?_, fun hp => ?_⟩
  · obtain ⟨v, hrun, hq⟩ := hboth' hp
    refine ⟨store' v t, ?_, hboth s t a _ v hp hs hq⟩
    unfold zoom
    rw [hrun]
    exact congrArg (Outcome.mk _ · _) (List.map_id _)
  · obtain ⟨hes, hq⟩ := hleft' hp
    exact ⟨hes, hleft s t a _ hp hs hq⟩

end Rules

/-! ## Logs -/

/-- The program has no effects, keeps `keep`, and appends to a log which it does not read. -/
def Appends {κ ι l : Type} (view : σ → κ) (keep : κ → ι) (log : σ → List l) (about : ι → l → Prop)
    (m : Eff σ ω ε α) : Prop :=
  ∀ s, ∃ k news r, keep k = keep (view s) ∧ (∀ e ∈ news, about (keep (view s)) e) ∧ ∀ s', view s' = view s →
    view (m s').state = k ∧ log (m s').state = log s' ++ news ∧ (m s').effects = [] ∧ (m s').result = r

section Appends
variable {κ ι l : Type} {view : σ → κ} {keep : κ → ι} {log : σ → List l} {about : ι → l → Prop}
variable {m : Eff σ ω ε α} {f : α → Eff σ ω ε β}

theorem appends_ofExcept (x : Except ε α) : Appends view keep log about (ofExcept x : Eff σ ω ε α) :=
  fun s => ⟨view s, [], x, rfl, fun _ h => absurd h List.not_mem_nil,
    fun _ h => ⟨h, (List.append_nil _).symm, rfl, rfl⟩⟩

theorem appends_pure (a : α) : Appends view keep log about (pure a : Eff σ ω ε α) := appends_ofExcept (.ok a)

theorem appends_throw (e : ε) : Appends view keep log about (throw e : Eff σ ω ε α) := appends_ofExcept (.error e)

theorem appends_require (p : Prop) [Decidable p] (e : ε) :
    Appends view keep log about (require p e : Eff σ ω ε Unit) := by
  unfold require
  split
  · exact appends_pure ()
  · exact appends_throw e

theorem appends_modify {g : σ → σ} (hview : ∀ s s', view s' = view s → view (g s') = view (g s))
    (hlog : ∀ s, log (g s) = log s) (hkeep : ∀ s, keep (view (g s)) = keep (view s)) :
    Appends view keep log about (modify g : Eff σ ω ε Unit) :=
  fun s => ⟨view (g s), [], .ok (), hkeep s, fun _ h => absurd h List.not_mem_nil,
    fun s' h => ⟨hview s s' h, (hlog s').trans (List.append_nil _).symm, rfl, rfl⟩⟩

theorem Appends.bind (hm : Appends view keep log about m) (hf : ∀ a, Appends view keep log about (f a)) :
    Appends view keep log about (m >>= f) := by
  intro s
  obtain ⟨k, news, r, hkeep, hnews, hrun⟩ := hm s
  cases r with
  | error e =>
      refine ⟨k, news, .error e, hkeep, hnews, fun s' h => ?_⟩
      obtain ⟨hview, hlog, hes, hres⟩ := hrun s' h
      rcases hm' : m s' with ⟨s₁, es, r'⟩
      rw [hm'] at hview hlog hes hres
      obtain rfl : r' = .error e := hres
      rw [bind_of_error hm']
      exact ⟨hview, hlog, hes, rfl⟩
  | ok a =>
      obtain ⟨hk, -⟩ := hrun s rfl
      obtain ⟨k₂, news₂, r₂, hkeep₂, hnews₂, hrun₂⟩ := hf a (m s).state
      rw [hk] at hkeep₂ hnews₂ hrun₂
      refine ⟨k₂, news ++ news₂, r₂, hkeep₂.trans hkeep, ?_, fun s' h => ?_⟩
      · intro e he
        rcases List.mem_append.mp he with he | he
        · exact hnews e he
        · rw [← hkeep]
          exact hnews₂ e he
      obtain ⟨hview, hlog, hes, hres⟩ := hrun s' h
      rcases hm' : m s' with ⟨s₁, es, r'⟩
      rw [hm'] at hview hlog hes hres
      obtain rfl : r' = .ok a := hres
      obtain rfl : es = [] := hes
      obtain ⟨hview₂, hlog₂, hes₂, hres₂⟩ := hrun₂ s₁ hview
      have hlog : log s₁ = log s' ++ news := hlog
      rw [bind_of_ok hm']
      refine ⟨hview₂, ?_, hes₂, hres₂⟩
      show log (f a s₁).state = _
      rw [hlog₂, hlog, List.append_assoc]

/-- A program that reads the state, but not the log. -/
theorem appends_get_bind {f : σ → Eff σ ω ε β} (heq : ∀ s s', view s' = view s → f s' = f s)
    (hf : ∀ s, Appends view keep log about (f s)) : Appends view keep log about (get >>= f) := by
  intro s
  obtain ⟨k, news, r, hkeep, hnews, hrun⟩ := hf s s
  refine ⟨k, news, r, hkeep, hnews, fun s' h => ?_⟩
  rw [get_bind_run, heq s s' h]
  exact hrun s' h

theorem Appends.follows {p : Prop} {see : ω → Bool} (hm : Appends view keep log about m) {s t : σ}
    (hst : p → view t = view s) :
    Follows p see (fun s' t' => s' = s ∧ t' = t) m m fun _ s' t' => ∃ news,
      keep (view s') = keep (view s) ∧ (∀ e ∈ news, about (keep (view s)) e) ∧ log s' = log s ++ news ∧
        (p → view t' = view s' ∧ log t' = log t ++ news) ∧ (¬ p → t' = t) := by
  rintro s₁ t₁ a ⟨hs, ht⟩ ha
  rw [hs] at ha ⊢
  rw [ht]
  obtain ⟨k, news, r, hkeep, hnews, hrun⟩ := hm s
  obtain ⟨hview, hlog, hes, hres⟩ := hrun s rfl
  subst hview
  rw [hes]
  refine ⟨fun hp => ⟨(m t).state, ?_, news, hkeep, hnews, hlog, fun _ => ?_, fun h => absurd hp h⟩,
    fun hp => ⟨rfl, news, hkeep, hnews, hlog, fun h => absurd h hp, fun _ => rfl⟩⟩
  · obtain ⟨-, -, hes', hres'⟩ := hrun t (hst hp)
    show (⟨(m t).state, (m t).effects, (m t).result⟩ : Outcome σ ω ε α) = _
    rw [hes', hres', ← hres, ha]
    rfl
  · obtain ⟨hview', hlog', -, -⟩ := hrun t (hst hp)
    exact ⟨hview', hlog'⟩

end Appends

end Eff

namespace Machine

variable {σ τ α ω : Type*} {step : σ → α → σ × List ω} {step' : τ → α → τ × List ω}

/-- A machine that is given some of the inputs of another one, and that does in each of its steps what is seen of
the step of the other one. -/
theorem filter_run {keep : α → Bool} {see : ω → Bool} {good : σ → Prop} {R : List α → σ → τ → Prop}
    (hgood : ∀ s x, good (step s x).1 → good s)
    (hkeep : ∀ s t x xs, R (x :: xs) s t → good (step s x).1 → keep x = true →
      R xs (step s x).1 (step' t x).1 ∧ (step' t x).2 = (step s x).2.filter see)
    (hdrop : ∀ s t x xs, R (x :: xs) s t → good (step s x).1 → keep x = false →
      R xs (step s x).1 t ∧ (step s x).2.filter see = [])
    {s : σ} {t : τ} {xs : List α} (h : R xs s t) (hfinal : good (final step s xs)) :
    R [] (final step s xs) (final step' t (xs.filter keep)) ∧
      (outputs step' t (xs.filter keep)).flatten = (outputs step s xs).flatten.filter see := by
  have hbefore : ∀ (xs : List α) (s : σ), good (final step s xs) → good s := by
    intro xs
    induction xs with
    | nil => exact fun _ h => h
    | cons x xs ih => exact fun s h => hgood s x (ih _ h)
  induction xs generalizing s t with
  | nil => exact ⟨h, rfl⟩
  | cons x xs ih =>
      rw [final_cons] at hfinal
      have hok := hbefore xs _ hfinal
      rw [final_cons, outputs_cons, List.flatten_cons, List.filter_append]
      cases hx : keep x with
      | true =>
          obtain ⟨hR, hout⟩ := hkeep s t x xs h hok hx
          obtain ⟨hfin, houts⟩ := ih hR hfinal
          rw [List.filter_cons_of_pos hx, final_cons, outputs_cons, List.flatten_cons, hout, houts]
          exact ⟨hfin, rfl⟩
      | false =>
          obtain ⟨hR, hout⟩ := hdrop s t x xs h hok hx
          obtain ⟨hfin, houts⟩ := ih hR hfinal
          rw [List.filter_cons_of_neg (by rw [hx]; exact Bool.false_ne_true), hout, houts]
          exact ⟨hfin, rfl⟩

end Machine
