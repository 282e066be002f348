import Scallop.Lib.Eff

/-!
# Two runs of a program

`TwoRun P m₁ m₂ Q` : where two programs that start in states related by `P` both end well, their
values and the states they end in are related by `Q`; nothing is said where one of them throws.

* `twoRun_*` : the rules of the operations; `TwoRun.bind`;
* `twoRun_get_bind`, `twoRun_require_bind` : programs that begin with a read or a check.
-/

namespace Eff

variable {σ₁ σ₂ ω₁ ω₂ ε α₁ α₂ β₁ β₂ : Type}

/-- From related states, programs that end well do so in related states, with related values. -/
def TwoRun (P : σ₁ → σ₂ → Prop) (m₁ : Eff σ₁ ω₁ ε α₁) (m₂ : Eff σ₂ ω₂ ε α₂)
    (Q : α₁ → α₂ → σ₁ → σ₂ → Prop) : Prop :=
  ∀ s₁ s₂ a₁ a₂, P s₁ s₂ → (m₁ s₁).result = .ok a₁ → (m₂ s₂).result = .ok a₂ →
    Q a₁ a₂ (m₁ s₁).state (m₂ s₂).state

section Rules
variable {P P' : σ₁ → σ₂ → Prop} {m₁ : Eff σ₁ ω₁ ε α₁} {m₂ : Eff σ₂ ω₂ ε α₂}
variable {f₁ : α₁ → Eff σ₁ ω₁ ε β₁} {f₂ : α₂ → Eff σ₂ ω₂ ε β₂}
variable {Q Q' : α₁ → α₂ → σ₁ → σ₂ → Prop} {R : β₁ → β₂ → σ₁ → σ₂ → Prop}

theorem twoRun_pure {a₁ : α₁} {a₂ : α₂} (h : ∀ s₁ s₂, P s₁ s₂ → Q a₁ a₂ s₁ s₂) :
    TwoRun P (pure a₁ : Eff σ₁ ω₁ ε α₁) (pure a₂ : Eff σ₂ ω₂ ε α₂) Q := by
  intro s₁ s₂ b₁ b₂ hs h₁ h₂
  obtain rfl := Except.ok.inj h₁
  obtain rfl := Except.ok.inj h₂
  exact h s₁ s₂ hs

theorem twoRun_modify {g₁ : σ₁ → σ₁} {g₂ : σ₂ → σ₂} {Q : Unit → Unit → σ₁ → σ₂ → Prop}
    (h : ∀ s₁ s₂, P s₁ s₂ → Q () () (g₁ s₁) (g₂ s₂)) :
    TwoRun P (modify g₁ : Eff σ₁ ω₁ ε Unit) (modify g₂ : Eff σ₂ ω₂ ε Unit) Q :=
  fun s₁ s₂ _ _ hs _ _ => h s₁ s₂ hs

theorem twoRun_ofExcept {x₁ : Except ε α₁} {x₂ : Except ε α₂}
    (h : ∀ a₁ a₂ s₁ s₂, x₁ = .ok a₁ → x₂ = .ok a₂ → P s₁ s₂ → Q a₁ a₂ s₁ s₂) :
    TwoRun P (ofExcept x₁ : Eff σ₁ ω₁ ε α₁) (ofExcept x₂ : Eff σ₂ ω₂ ε α₂) Q :=
  fun s₁ s₂ a₁ a₂ hs h₁ h₂ => h a₁ a₂ s₁ s₂ h₁ h₂ hs

theorem TwoRun.bind (hm : TwoRun P m₁ m₂ Q) (hf : ∀ a₁ a₂, TwoRun (Q a₁ a₂) (f₁ a₁) (f₂ a₂) R) :
    TwoRun P (m₁ >>= f₁) (m₂ >>= f₂) R := by
  intro s₁ s₂ b₁ b₂ hs h₁ h₂
  obtain ⟨a₁, ha₁, hb₁, hs₁⟩ := bind_ok h₁
  obtain ⟨a₂, ha₂, hb₂, hs₂⟩ := bind_ok h₂
  rw [hs₁, hs₂]
  exact hf a₁ a₂ _ _ b₁ b₂ (hm s₁ s₂ a₁ a₂ hs ha₁ ha₂) hb₁ hb₂

/-- Programs that begin with a read of the state. -/
theorem twoRun_get_bind {f₁ : σ₁ → Eff σ₁ ω₁ ε β₁} {f₂ : σ₂ → Eff σ₂ ω₂ ε β₂}
    (hf : ∀ s₁ s₂, P s₁ s₂ → TwoRun (fun t₁ t₂ => t₁ = s₁ ∧ t₂ = s₂) (f₁ s₁) (f₂ s₂) R) :
    TwoRun P (get >>= f₁) (get >>= f₂) R :=
  fun s₁ s₂ b₁ b₂ hs h₁ h₂ => hf s₁ s₂ hs s₁ s₂ b₁ b₂ ⟨rfl, rfl⟩ h₁ h₂

theorem twoRun_require_bind {p₁ p₂ : Prop} [Decidable p₁] [Decidable p₂] {e₁ e₂ : ε}
    {f₁ : Unit → Eff σ₁ ω₁ ε β₁} {f₂ : Unit → Eff σ₂ ω₂ ε β₂}
    (hf : p₁ → p₂ → TwoRun P (f₁ ()) (f₂ ()) R) :
    TwoRun P (require p₁ e₁ >>= f₁) (require p₂ e₂ >>= f₂) R := by
  intro s₁ s₂ b₁ b₂ hs h₁ h₂
  by_cases hp₁ : p₁
  · by_cases hp₂ : p₂
    · rw [require_pos hp₁] at h₁ ⊢
      rw [require_pos hp₂] at h₂ ⊢
      exact hf hp₁ hp₂ s₁ s₂ b₁ b₂ hs h₁ h₂
    · rw [require_neg hp₂] at h₂
      exact nomatch h₂
  · rw [require_neg hp₁] at h₁
    exact nomatch h₁

/-- Programs that keep what the relation is about. -/
theorem twoRun_of_keeps (h₁ : ∀ s₂, Keeps (fun s₁ => P s₁ s₂) m₁)
    (h₂ : ∀ s₁, Keeps (fun s₂ => P s₁ s₂) m₂) : TwoRun P m₁ m₂ fun _ _ => P :=
  fun s₁ s₂ _ _ hs _ _ => h₂ _ s₂ (h₁ s₂ s₁ hs)

end Rules

end Eff
