import Scallop.SwitchAgent.Model

/-!
# The two readers of dependency descriptors

Both the data plane and the agent make a descriptor of a part of an RTP packet.

* `payload` : the first byte and the length of an extension element, without its header;
* `DataPlaneReads`, `AgentReads` : what each of the two takes for it; `descriptor_of_reads`,
  `agentDescriptor_of_reads` : the descriptors that come of it;
* `dataPlaneReads_payload_iff` : the data plane is right for one-byte headers only,
  `agentReads_payload_iff` : the agent for two-byte headers only;
* `never_both_payload` : so the two never read the same, right bytes.
-/

namespace Scallop

open Av1

/-- The first byte and the length of the extension element at `p`, without its header. -/
def Rtp.payload (buf : Buf) (p : Nat) : Rtp.ExtProfile → Nat × Nat
  | .oneByte => (p + 1, (buf.u8 p &&& 0x0f).toNat + 1)
  | .twoByte => (p + 2, (buf.u8 (p + 1)).toNat)
  | .other => (p, 0)

namespace DataPlaneModel

/-- The bytes that `_handleRTP` takes for the descriptor at `p`: it asks for the length of an element
with a one-byte header. -/
def span (buf : Buf) (p : Nat) : Except Fault (Nat × Nat) := do
  let len ← Rtp.extLen buf p .oneByte
  return (p + 1, len)

/-- The data plane makes its descriptor of these bytes of the packet. -/
def Reads (av1RtpExt : Nat) (buf : Buf) (s : Nat × Nat) : Prop :=
  ∃ p, Rtp.extensionPtr buf av1RtpExt = .ok (some p) ∧ span buf p = .ok s

end DataPlaneModel

namespace Switch

/-- The agent makes its descriptor of these bytes of the packet. -/
def Reads (av1RtpExt : Nat) (buf : Buf) (s : Nat × Nat) : Prop :=
  ∃ p profile, Rtp.extensionPtr buf av1RtpExt = .ok (some p) ∧
    Rtp.extensionProfile buf = .ok profile ∧ agentSpan buf p profile = .ok (some s)

end Switch

/-- A packet with the element at `p`, in one of the two formats and inside the datagram. -/
structure Carries (av1RtpExt : Nat) (buf : Buf) (p : Nat) (profile : Rtp.ExtProfile) : Prop where
  found : Rtp.extensionPtr buf av1RtpExt = .ok (some p)
  format : Rtp.extensionProfile buf = .ok profile
  regular : profile ≠ .other
  inside : (Rtp.payload buf p profile).1 + (Rtp.payload buf p profile).2 ≤ buf.length

section Spans
variable {av1RtpExt : Nat} {buf : Buf} {p : Nat} {profile : Rtp.ExtProfile} {s : Nat × Nat}

/-- What the data plane takes for the descriptor, if it can be read. -/
theorem DataPlaneModel.span_ok (h : DataPlaneModel.span buf p = .ok s) :
    s = (p + 1, (buf.u8 p &&& 0x0f).toNat + 1) := by
  unfold DataPlaneModel.span Rtp.extLen at h
  cases hb : buf.readByte p with
  | error e =>
      rw [hb] at h
      exact nomatch h
  | ok b =>
      rw [hb] at h
      obtain rfl := Buf.readByte_ok hb
      exact (Except.ok.inj h).symm

theorem Switch.agentSpan_oneByte (h : Switch.agentSpan buf p .oneByte = .ok (some s)) :
    s = (p + 1, (buf.u8 p &&& 0x0f).toNat) := by
  unfold Switch.agentSpan Switch.oneByteLen at h
  cases hb : buf.readByte p with
  | error e =>
      rw [hb] at h
      exact nomatch h
  | ok b =>
      rw [hb] at h
      obtain rfl := Buf.readByte_ok hb
      exact (Option.some.inj (Except.ok.inj h)).symm

theorem Switch.agentSpan_twoByte (h : Switch.agentSpan buf p .twoByte = .ok (some s)) :
    s = (p + 2, (buf.u8 (p + 1)).toNat) := by
  unfold Switch.agentSpan Switch.twoByteLen at h
  cases hb : buf.readByte (p + 1) with
  | error e =>
      rw [hb] at h
      exact nomatch h
  | ok b =>
      rw [hb] at h
      obtain rfl := Buf.readByte_ok hb
      exact (Option.some.inj (Except.ok.inj h)).symm

/-- The descriptor of the data plane is that of the bytes that it reads. -/
theorem DataPlaneModel.descriptor_of_reads (h : DataPlaneModel.Reads av1RtpExt buf s) :
    DataPlaneModel.descriptor av1RtpExt buf =
      (Switch.readDescriptor buf s.1 s.2).map fun av1 => some (s.2, av1) := by
  obtain ⟨p, hp, hs⟩ := h
  have hspan := DataPlaneModel.span_ok hs
  unfold DataPlaneModel.span at hs
  unfold DataPlaneModel.descriptor Switch.readDescriptor
  rw [hp]
  cases hl : Rtp.extLen buf p .oneByte with
  | error e =>
      rw [hl] at hs
      exact nomatch hs
  | ok len =>
      rw [hl] at hs
      obtain rfl := Except.ok.inj hs
      show (Rtp.extLen buf p .oneByte >>= _) = _
      rw [hl]
      show (buf.readBytes (p + 1) len >>= _) = _
      cases hb : buf.readBytes (p + 1) len with
      | error e => rfl
      | ok bytes =>
          show (DependencyDescriptor.parse bytes >>= _) = (DependencyDescriptor.parse bytes).map _
          cases DependencyDescriptor.parse bytes <;> rfl

/-- The descriptor of the agent is that of the bytes that it reads. -/
theorem Switch.agentDescriptor_of_reads (h : Switch.Reads av1RtpExt buf s) :
    Switch.agentDescriptor av1RtpExt buf = (Switch.readDescriptor buf s.1 s.2).map some := by
  obtain ⟨p, profile, hp, hprofile, hs⟩ := h
  unfold Switch.agentDescriptor
  rw [hp, hprofile]
  cases profile with
  | other => exact nomatch (Except.ok.inj hs : (none : Option (Nat × Nat)) = some s)
  | oneByte =>
      show (Switch.agentSpan buf p .oneByte >>= _) = _
      rw [hs]
      show (Switch.readDescriptor buf s.1 s.2 >>= _) = _
      cases Switch.readDescriptor buf s.1 s.2 <;> rfl
  | twoByte =>
      show (Switch.agentSpan buf p .twoByte >>= _) = _
      rw [hs]
      show (Switch.readDescriptor buf s.1 s.2 >>= _) = _
      cases Switch.readDescriptor buf s.1 s.2 <;> rfl

/-- The data plane reads the payload of an element with a one-byte header, and of no other one. -/
theorem dataPlaneReads_payload_iff (h : Carries av1RtpExt buf p profile) :
    DataPlaneModel.Reads av1RtpExt buf (Rtp.payload buf p profile) ↔ profile = .oneByte := by
  constructor
  · rintro ⟨q, hq, hs⟩
    obtain rfl : p = q := Option.some.inj (Except.ok.inj (h.found.symm.trans hq))
    have hspan := congrArg Prod.fst (DataPlaneModel.span_ok hs)
    cases profile with
    | oneByte => rfl
    | twoByte =>
        have hstart : p + 2 = p + 1 := hspan
        omega
    | other => exact absurd rfl h.regular
  · rintro rfl
    have hlen : p < buf.length := by
      have hinside : p + 1 + ((buf.u8 p &&& 0x0f).toNat + 1) ≤ buf.length := h.inside
      omega
    refine ⟨p, h.found, ?_⟩
    unfold DataPlaneModel.span Rtp.extLen
    dsimp only
    rw [Buf.readByte_of_lt hlen]
    rfl

/-- The agent reads the payload of an element with a two-byte header, and of no other one. -/
theorem agentReads_payload_iff (h : Carries av1RtpExt buf p profile) :
    Switch.Reads av1RtpExt buf (Rtp.payload buf p profile) ↔ profile = .twoByte := by
  constructor
  · rintro ⟨q, profile', hq, hprofile, hs⟩
    obtain rfl : p = q := Option.some.inj (Except.ok.inj (h.found.symm.trans hq))
    obtain rfl : profile = profile' := Except.ok.inj (h.format.symm.trans hprofile)
    cases profile with
    | oneByte =>
        have hlen : (buf.u8 p &&& 0x0f).toNat + 1 = (buf.u8 p &&& 0x0f).toNat :=
          congrArg Prod.snd (Switch.agentSpan_oneByte hs)
        omega
    | twoByte => rfl
    | other => exact absurd rfl h.regular
  · rintro rfl
    have hlen : p + 1 < buf.length := by
      have hinside : p + 2 + (buf.u8 (p + 1)).toNat ≤ buf.length := h.inside
      omega
    refine ⟨p, .twoByte, h.found, h.format, ?_⟩
    unfold Switch.agentSpan Switch.twoByteLen
    dsimp only
    rw [Buf.readByte_of_lt hlen]
    rfl

/-- **The two readers differ.** Wherever in a packet an element is, and whether the walk over the
extensions finds it or not: the data plane and the agent do not both read its payload. -/
theorem never_both_payload (av1RtpExt : Nat) (buf : Buf) (p : Nat)
    (hprofile : Rtp.extensionProfile buf = .ok profile) (hregular : profile ≠ .other) :
    ¬ (DataPlaneModel.Reads av1RtpExt buf (Rtp.payload buf p profile) ∧
      Switch.Reads av1RtpExt buf (Rtp.payload buf p profile)) := by
  rintro ⟨⟨q, hq, hs⟩, ⟨q', profile', hq', hprofile', hs'⟩⟩
  obtain rfl : q = q' := Option.some.inj (Except.ok.inj (hq.symm.trans hq'))
  obtain rfl : profile = profile' := Except.ok.inj (hprofile.symm.trans hprofile')
  have hspan := DataPlaneModel.span_ok hs
  cases profile with
  | oneByte =>
      have hlen := congrArg Prod.snd (hspan.symm.trans (Switch.agentSpan_oneByte hs'))
      have hlen : (buf.u8 q &&& 0x0f).toNat + 1 = (buf.u8 q &&& 0x0f).toNat := hlen
      omega
  | twoByte =>
      have hstart := congrArg Prod.fst (hspan.symm.trans (Switch.agentSpan_twoByte hs'))
      have hstart : q + 1 = q + 2 := hstart
      omega
  | other => exact hregular rfl

end Spans

/-! ## Packets -/

section Example

/-- An RTP packet with the given extension header, whose extensions have three words. -/
def examplePacket (hi lo : UInt8) (extensions : Buf) : Buf :=
  [0x90, 45, 0, 1, 0, 0, 0, 0, 0, 0, 0, 5, hi, lo, 0, 3] ++ extensions

/-- A packet with a descriptor that announces a structure, in the one-byte format. -/
def exampleOneByte : Buf :=
  examplePacket 0xbe 0xde [0x17, 0xc0, 0x00, 0x01, 0x80, 0x20, 0x14, 0xc0, 0x00, 0, 0, 0]

def exampleTwoByte : Buf :=
  examplePacket 0x10 0x00 [0x01, 0x08, 0xc0, 0x00, 0x01, 0x80, 0x20, 0x14, 0xc0, 0x00, 0, 0]

theorem never_both_payload_oneByte :
    ¬ (DataPlaneModel.Reads 1 exampleOneByte (17, 8) ∧ Switch.Reads 1 exampleOneByte (17, 8)) :=
  never_both_payload 1 exampleOneByte 16 (show Rtp.extensionProfile exampleOneByte = .ok .oneByte by
    decide) (by decide)

/-- The agent misses the last byte of the one-byte format, and the data plane reads two bytes from the
header on in the two-byte format; both readers then throw. -/
theorem descriptors_differ :
    (¬ ∀ (av1RtpExt : Nat) (buf : Buf) (p : Nat) (profile : Rtp.ExtProfile),
      Carries av1RtpExt buf p profile →
        DataPlaneModel.Reads av1RtpExt buf (Rtp.payload buf p profile) ∧
          Switch.Reads av1RtpExt buf (Rtp.payload buf p profile)) ∧
    Switch.Reads 1 exampleOneByte (17, 7) ∧ DataPlaneModel.Reads 1 exampleTwoByte (17, 2) ∧
    (DataPlaneModel.descriptor 1 exampleOneByte).isOk = true ∧
    (Switch.agentDescriptor 1 exampleOneByte).isOk = false ∧
    (DataPlaneModel.descriptor 1 exampleTwoByte).isOk = false ∧
    (Switch.agentDescriptor 1 exampleTwoByte).isOk = true := by
  refine ⟨fun h => ?_, ⟨16, .oneByte, by decide, by decide, by decide⟩, ⟨16, by decide, by decide⟩,
    by decide, by decide, by decide, by decide⟩
  have hcarries : Carries 1 exampleOneByte 16 .oneByte :=
    ⟨by decide, by decide, by decide, by decide⟩
  obtain ⟨q, profile, hq, hprofile, hs⟩ := (h 1 exampleOneByte 16 .oneByte hcarries).2
  obtain rfl : 16 = q :=
    Option.some.inj (Except.ok.inj (show Except.ok (some 16) = Except.ok (some q) from hq))
  obtain rfl : Rtp.ExtProfile.oneByte = profile :=
    Except.ok.inj (show Except.ok Rtp.ExtProfile.oneByte = Except.ok profile from hprofile)
  exact absurd (Switch.agentSpan_oneByte hs) (by decide)

end Example

end Scallop
