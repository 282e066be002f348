import Mathlib.Data.Nat.ModEq
import Scallop.SwitchAgent.Model

/-!
# Decode targets for estimates of the bandwidth

A receiver announces its rate as a mantissa of 18 bits and an exponent of 6; `remb::bit_rate` shifts
the one by the other on 32 bits.

* `Rtcp.rate` : the rate that is announced; `Rtcp.bitRateBy` : what the code makes of it, with a shift
  that is undefined from 32 on;
* `rateTarget` : the target for a rate by the thresholds of `_decideDecodeTarget`;
* `processEstimate_target` : the agent sets the target that it chooses;
* `Rtcp.Decodes` : the rate fits, or what is left of it is still above the highest threshold;
* `chosenTarget_exact_iff` : just then the targets that are chosen are those for the rates.
-/

namespace Scallop

open Av1

namespace Rtcp

section Remb
variable (buf : Buf)

def mantissa : UInt32 := buf.u32 16 &&& 0x3ffff

def exponent : UInt32 := (buf.u32 16 >>> 18) &&& 0x3f

def rate : Nat := (mantissa buf).toNat * 2 ^ (exponent buf).toNat

/-- `remb::bit_rate`, with a left shift. -/
def bitRateBy (shl : UInt32 → UInt32 → UInt32) : UInt32 := shl (mantissa buf) (exponent buf)

/-- The rate as the code has it leads to the right target. -/
def Decodes : Prop :=
  (exponent buf).toNat < 32 ∧ (rate buf < 2 ^ 32 ∨
    2000000 / 2 ^ (exponent buf).toNat < (mantissa buf).toNat % 2 ^ (32 - (exponent buf).toNat))

end Remb

/-- A left shift on 32 bits: a shift by 32 or more is undefined. -/
def IsShift (shl : UInt32 → UInt32 → UInt32) : Prop :=
  ∀ m e, e.toNat < 32 → shl m e = m <<< e

theorem isShift_shiftLeft : IsShift (· <<< ·) := fun _ _ _ => rfl

theorem bitRate_eq (buf : Buf) : bitRate buf = bitRateBy buf (· <<< ·) := rfl

end Rtcp

def rateTarget (rate : Nat) : DecodeTarget :=
  if rate > 2000000 then .hi else if rate > 1000000 then .mid else .lo

section RateTarget
variable {m e rate : Nat}

theorem rateTarget_eq_hi : rateTarget rate = .hi ↔ 2000000 < rate := by
  unfold rateTarget
  split
  · simp only [true_iff]
    omega
  · split
    · simp only [reduceCtorEq, false_iff]
      omega
    · simp only [reduceCtorEq, false_iff]
      omega

/-- A higher rate does not lead to a lower target. -/
theorem rateTarget_mono {rate' : Nat} (h : rate ≤ rate') :
    (rateTarget rate).ident ≤ (rateTarget rate').ident := by
  unfold rateTarget
  split_ifs <;> simp only [DecodeTarget.ident] <;> omega

/-- A rate that does not fit leads to its target just when enough of its mantissa is left. -/
theorem rateTarget_mod_iff (he : e < 32) : rateTarget (m * 2 ^ e % 2 ^ 32) = rateTarget (m * 2 ^ e) ↔
    m * 2 ^ e < 2 ^ 32 ∨ 2000000 / 2 ^ e < m % 2 ^ (32 - e) := by
  by_cases hfit : m * 2 ^ e < 2 ^ 32
  · rw [Nat.mod_eq_of_lt hfit]
    exact ⟨fun _ => .inl hfit, fun _ => rfl⟩
  · have hhi : rateTarget (m * 2 ^ e) = .hi := rateTarget_eq_hi.mpr (by omega)
    have hleft : m * 2 ^ e % 2 ^ 32 = m % 2 ^ (32 - e) * 2 ^ e := by
      have hpow : 2 ^ 32 = 2 ^ (32 - e) * 2 ^ e := by
        rw [← Nat.pow_add, Nat.sub_add_cancel he.le]
      rw [hpow, Nat.mul_mod_mul_right]
    rw [hhi, rateTarget_eq_hi, hleft, ← Nat.div_lt_iff_lt_mul (Nat.two_pow_pos e)]
    exact ⟨.inr, fun h => h.resolve_left hfit⟩

end RateTarget

namespace Switch

theorem decideDecodeTarget_eq (bitRate : UInt32) :
    decideDecodeTarget bitRate = rateTarget bitRate.toNat := rfl

def chosenTarget (shl : UInt32 → UInt32 → UInt32) (buf : Buf) : DecodeTarget :=
  decideDecodeTarget (Rtcp.bitRateBy buf shl)

/-- The receive stream that an estimate is for gets the target that is chosen. -/
theorem processEstimate_target {o : WalkOrder} {sw : Switch} {sender : IPv4Port} {ssrc : SSRC}
    {bitRate : UInt32} {id : UInt32} {r : ReceiveStream}
    (h : sw.agent.getReceiveStreamFrom o sender ssrc = some (id, r)) :
    ∃ r', (processEstimate o sender ssrc bitRate sw).state.agent.receiveStreams.lookup id =
      some r' ∧ r'.decodeTarget = decideDecodeTarget bitRate := by
  have hset (st : SwitchAgentState) (q : ReceiveStream) :
      (st.setReceiveStream id q).receiveStreams.lookup id = some q := AList.lookup_insert _
  by_cases ht : decideDecodeTarget bitRate = r.decodeTarget
  · rw [processEstimate_of_target h ht]
    exact ⟨_, hset _ _, ht.symm⟩
  · rw [processEstimate_of_other h ht, Eff.state_bind_pure]
    rcases adjustDecodeTarget_cases o _ r.sessionId r.ssrc r.receivingParticipant
      (decideDecodeTarget bitRate).ident with hno | ⟨id', rs, _, _, target, -, -, -, htarget, hyes⟩
    · rw [hno]
      exact ⟨_, hset _ _, rfl⟩
    · rw [decodeTargetFromNumIdentifier_ident] at htarget
      obtain rfl := Except.ok.inj htarget
      rw [hyes]
      by_cases hid : id = id'
      · subst hid
        exact ⟨_, hset _ _, rfl⟩
      · exact ⟨_, (AList.lookup_insert_ne hid).trans (hset _ _), rfl⟩

section Chosen
variable {buf buf₁ buf₂ : Buf}

/-- The target that is chosen for an estimate is that for its rate, whatever a shift by 32 or more
does, just when the rate is decoded. -/
theorem chosenTarget_eq_iff : (∀ shl, Rtcp.IsShift shl →
    chosenTarget shl buf = rateTarget (Rtcp.rate buf)) ↔ Rtcp.Decodes buf := by
  unfold chosenTarget Rtcp.bitRateBy
  by_cases he : (Rtcp.exponent buf).toNat < 32
  · have hshl (shl) (hshl : Rtcp.IsShift shl) :
        decideDecodeTarget (shl (Rtcp.mantissa buf) (Rtcp.exponent buf)) =
          rateTarget (Rtcp.rate buf % 2 ^ 32) := by
      rw [hshl _ _ he, decideDecodeTarget_eq, UInt32.toNat_shiftLeft, Nat.mod_eq_of_lt he,
        Nat.shiftLeft_eq]
      rfl
    refine Iff.trans ?_ ((rateTarget_mod_iff he).trans ⟨fun h => ⟨he, h⟩, fun h => h.2⟩)
    constructor
    · intro h
      exact (hshl _ Rtcp.isShift_shiftLeft).symm.trans (h _ Rtcp.isShift_shiftLeft)
    · exact fun h shl hs => (hshl shl hs).trans h
  · refine ⟨fun h => ?_, fun h => absurd h.1 he⟩
    have hany (n : UInt32) : decideDecodeTarget n = rateTarget (Rtcp.rate buf) := by
      have hs : Rtcp.IsShift fun m e => if e.toNat < 32 then m <<< e else n :=
        fun m e he => if_pos he
      have := h _ hs
      rwa [if_neg he] at this
    exact nomatch (hany 0).trans (hany 3000000).symm

/-- **The targets that are chosen for two estimates are those for their rates, the higher rate having
the higher target, just when both rates are decoded.** -/
theorem chosenTarget_exact_iff (h : Rtcp.rate buf₁ ≤ Rtcp.rate buf₂) :
    (∀ shl, Rtcp.IsShift shl → (chosenTarget shl buf₁).ident ≤ (chosenTarget shl buf₂).ident ∧
        chosenTarget shl buf₁ = rateTarget (Rtcp.rate buf₁) ∧
        chosenTarget shl buf₂ = rateTarget (Rtcp.rate buf₂)) ↔
      Rtcp.Decodes buf₁ ∧ Rtcp.Decodes buf₂ := by
  rw [← chosenTarget_eq_iff, ← chosenTarget_eq_iff]
  constructor
  · exact fun hall => ⟨fun shl hs => (hall shl hs).2.1, fun shl hs => (hall shl hs).2.2⟩
  · intro ⟨h₁, h₂⟩ shl hs
    refine ⟨?_, h₁ shl hs, h₂ shl hs⟩
    rw [h₁ shl hs, h₂ shl hs]
    exact rateTarget_mono h

/-- An estimate of `2 ^ 17 * 2 ^ exp`, for no SSRC. -/
def exampleEstimate (exp : UInt8) : Buf := List.replicate 16 (0 : UInt8) ++ [0, 4 * exp + 2, 0, 0]

theorem chosenTarget_exact_two_rates :
    (∀ shl, Rtcp.IsShift shl →
      (chosenTarget shl (exampleEstimate 3)).ident ≤ (chosenTarget shl (exampleEstimate 4)).ident ∧
        chosenTarget shl (exampleEstimate 3) = rateTarget (Rtcp.rate (exampleEstimate 3)) ∧
        chosenTarget shl (exampleEstimate 4) = rateTarget (Rtcp.rate (exampleEstimate 4))) ↔
      Rtcp.Decodes (exampleEstimate 3) ∧ Rtcp.Decodes (exampleEstimate 4) :=
  chosenTarget_exact_iff (by decide)

/-- A receiver that announces more than fits gets the lowest target. -/
theorem chosenTarget_not_exact :
    ¬ ∀ buf₁ buf₂, Rtcp.rate buf₁ ≤ Rtcp.rate buf₂ → ∀ shl, Rtcp.IsShift shl →
      (chosenTarget shl buf₁).ident ≤ (chosenTarget shl buf₂).ident ∧
        chosenTarget shl buf₁ = rateTarget (Rtcp.rate buf₁) ∧
        chosenTarget shl buf₂ = rateTarget (Rtcp.rate buf₂) := by
  intro h
  have hle := (h (exampleEstimate 4) (exampleEstimate 15) (by decide) _ Rtcp.isShift_shiftLeft).1
  exact absurd hle (by decide)

end Chosen

end Switch

end Scallop
