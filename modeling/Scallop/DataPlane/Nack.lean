import Mathlib.Data.Set.Basic
import Scallop.DataPlane.Model
import Scallop.SequenceRewriter.Mixed

/-!
# Negative acknowledgements

A receiver knows the rewritten sequence numbers only; its NACK goes to the media sender as it is.

* `Reports` : a NACK asks for the numbers that the packets at given positions of a stream got;
  `Requests` : it asks for those that these packets had;
* `send_onPacket_nack` : where a NACK is sent;
* `nacks_right_iff` : what is requested is right iff nothing was counted as dropped before.
-/

namespace Scallop

open SequenceRewriter

/-! ## What a NACK says -/

/-- The packets at the positions `missing` were forwarded, and the NACK reports the numbers that they
were given. -/
structure Reports (numbers : List (Option UInt16)) (missing : Set Nat) (buf : Buf) : Prop where
  forwarded : ∀ i ∈ missing, ∃ n, numbers[i]? = some (some n)
  reported : ∀ n, n ∈ Rtcp.nackNumbers buf ↔ ∃ i ∈ missing, numbers[i]? = some (some n)

/-- The NACK requests exactly the packets at the positions `missing`, by their own numbers. -/
def Requests (pkts : List Pkt) (missing : Set Nat) (buf : Buf) : Prop :=
  ∀ n, n ∈ Rtcp.nackNumbers buf ↔ ∃ i ∈ missing, ∃ pkt, pkts[i]? = some pkt ∧ pkt.seq = n

/-- The packets at the positions `missing` had a multiple of `2^16` counted ones before them. -/
def Unshifted (stream : List (Pkt × Nat)) (missing : Set Nat) : Prop :=
  ∀ i ∈ missing, ∀ pkt d, stream[i]? = some (pkt, d) → 65536 ∣ d

section Stream
variable {stream : List (Pkt × Nat)} {missing : Set Nat} {buf : Buf}

theorem given_eq_some {d : Nat} {pkt : Pkt} {n : UInt16} :
    given d pkt = some n ↔ pkt.drop = false ∧ pkt.seq - UInt16.ofNat d = n := by
  unfold given
  cases pkt.drop <;> simp

/-- A kept packet has its own number iff a multiple of `2^16` was counted. -/
theorem sub_count_eq_iff (q : UInt16) (d : Nat) : q - UInt16.ofNat d = q ↔ 65536 ∣ d := by
  rw [Nat.dvd_iff_mod_eq_zero, ← ofNat_eq_zero_iff]
  constructor <;> intro h <;> grind

/-- Packets that kept their numbers are requested by them. -/
theorem Reports.requests (h : Reports (stream.map fun p => given p.2 p.1) missing buf)
    (hu : Unshifted stream missing) : Requests (stream.map Prod.fst) missing buf := by
  intro n
  rw [h.reported n]
  constructor
  · rintro ⟨i, hi, hn⟩
    rw [List.getElem?_map, Option.map_eq_some_iff] at hn
    obtain ⟨⟨pkt, d⟩, hp, hg⟩ := hn
    obtain ⟨-, hs⟩ := given_eq_some.mp hg
    rw [(sub_count_eq_iff pkt.seq d).mpr (hu i hi pkt d hp)] at hs
    exact ⟨i, hi, pkt, by simp [hp], hs⟩
  · rintro ⟨i, hi, pkt, hp, hs⟩
    obtain ⟨m, hm⟩ := h.forwarded i hi
    rw [List.getElem?_map, Option.map_eq_some_iff] at hp hm
    obtain ⟨⟨pkt', d⟩, hq, he⟩ := hp
    obtain ⟨p, hq', hg⟩ := hm
    have hpp : p = (pkt', d) := Option.some_inj.mp (hq'.symm.trans hq)
    subst hpp
    subst he
    obtain ⟨-, hd⟩ := given_eq_some.mp hg
    rw [(sub_count_eq_iff _ d).mpr (hu i hi _ d hq)] at hd
    refine ⟨i, hi, ?_⟩
    rw [List.getElem?_map, hq, Option.map_some, hg, ← hs, ← hd]

end Stream

namespace Rtcp

def nackOf (ssrc : SSRC) (pid : UInt16) : Buf :=
  [0x81, 205, 0, 3] ++ bytes32 ssrc ++ [0, 0, 0, 0] ++ bytes16 pid ++ [0, 0]

theorem isNack_nackOf (ssrc : SSRC) (pid : UInt16) : isNack (nackOf ssrc pid) = true := by
  have h0 : Buf.u8 (nackOf ssrc pid) 0 = 0x81 := rfl
  have h1 : Buf.u8 (nackOf ssrc pid) 1 = 205 := rfl
  have hl : (nackOf ssrc pid).length = 16 := rfl
  have hc : Rtp.containsRtpOrRtcp (nackOf ssrc pid) = true := by
    unfold Rtp.containsRtpOrRtcp
    rw [h0, hl]
    decide
  have hp : pt (nackOf ssrc pid) = .rtpfb := by
    unfold pt
    rw [h1]
    decide
  have hf : fbFmt (nackOf ssrc pid) = 1 := by
    unfold fbFmt
    rw [h0]
    decide
  simp [isNack, hc, hp, hf]

theorem senderSsrc_nackOf (ssrc : SSRC) (pid : UInt16) : senderSsrc (nackOf ssrc pid) = ssrc := by
  have hs := ssrc.toNat_lt
  have hi : Buf.u16 (nackOf ssrc pid) 4 = .ofNat (ssrc.toNat / 65536) := u16_of_bytes16 _
  have lo : Buf.u16 (nackOf ssrc pid) 6 = .ofNat ssrc.toNat := u16_of_bytes16 _
  rw [senderSsrc, Buf.u32, hi, lo, ← UInt32.toNat_inj, UInt32.toNat_ofNat', UInt16.toNat_ofNat',
    UInt16.toNat_ofNat']
  omega

theorem nackNumbers_nackOf (ssrc : SSRC) (pid : UInt16) : nackNumbers (nackOf ssrc pid) = [pid] := by
  have hp : nackPid (nackOf ssrc pid) = pid := u16_of_bytes16 pid
  have hb : nackBlp (nackOf ssrc pid) = 0 := rfl
  rw [nackNumbers, hp, hb]
  rfl

end Rtcp

namespace DataPlaneModel

/-! ## Where it goes -/

theorem onPacket_of_nack (lost : Bool) (sender : IPv4Port) {buf : Buf} (h : Rtcp.isNack buf) :
    onPacket lost sender buf = (do
      count fun st => { st with pkts := st.pkts + 1, bytes := st.bytes + buf.length }
      count fun st => { st with rtcpPkts := st.rtcpPkts + 1 }
      sendToActions sender buf
      toController .rtcp sender buf) := by
  simp only [Rtcp.isNack, decide_eq_true_eq] at h
  obtain ⟨hc, hp, hf⟩ := h
  have hu : buf.u8 1 = 205 := by
    unfold Rtcp.pt at hp
    split at hp
    · exact nomatch hp
    split at hp
    · exact nomatch hp
    split at hp
    · exact nomatch hp
    split at hp
    · assumption
    split at hp <;> exact nomatch hp
  have hr : Rtp.isRtcp buf = true := by
    unfold Rtp.isRtcp
    rw [hu]
    decide
  have hs : bufferContainsSTUN buf = false := by
    have hv : (buf.u8 0 >>> 6) &&& 0x03 = 0x02 := by
      unfold Rtp.containsRtpOrRtcp at hc
      simpa using (of_decide_eq_true hc).2
    unfold bufferContainsSTUN
    apply decide_eq_false
    rintro ⟨-, h0, -⟩
    rw [h0] at hv
    exact absurd hv (by decide)
  have hrtcp : handleRTCP sender buf = (do
      count fun st => { st with rtcpPkts := st.rtcpPkts + 1 }
      sendToActions sender buf
      toController .rtcp sender buf) := by
    unfold handleRTCP handleRTPFB handleFeedback
    rw [hp, if_pos hf]
  unfold onPacket
  dsimp only
  rw [if_neg (by simp [hs]), if_pos hc, if_pos hr, hrtcp]

theorem toController_no_send (reason : Reason) (sender : IPv4Port) (buf : Buf) (dp : DataPlaneModel)
    (toAddr : IPv4Port) (buf' : Buf) :
    Effect.send toAddr buf' ∉ (toController reason sender buf dp).effects := by
  unfold toController
  rw [Eff.get_bind_run]
  split <;> simp

theorem sendToActions_run (sender : IPv4Port) (buf : Buf) (dp : DataPlaneModel) :
    sendToActions sender buf dp =
      ⟨dp, (dp.sfu.entry ⟨sender, Rtcp.senderSsrc buf⟩).elim []
        fun e => e.actions.map fun a => .send a.toAddr buf, .ok ()⟩ := by
  unfold sendToActions
  rw [Eff.get_bind_run]
  cases dp.sfu.entry ⟨sender, Rtcp.senderSsrc buf⟩ <;> rfl

/-- A NACK is sent as it is, to the receivers of the actions for its sender. -/
theorem send_onPacket_nack (dp : DataPlaneModel) (lost : Bool) (sender : IPv4Port) {buf : Buf}
    (h : Rtcp.isNack buf) (toAddr : IPv4Port) (buf' : Buf) :
    Effect.send toAddr buf' ∈ (onPacket lost sender buf dp).effects ↔
      buf' = buf ∧ ∃ e, dp.sfu.entry ⟨sender, Rtcp.senderSsrc buf⟩ = some e ∧
        ∃ a ∈ e.actions, a.toAddr = toAddr := by
  rw [onPacket_of_nack lost sender h]
  unfold count
  rw [Eff.modify_bind_run, Eff.modify_bind_run, Eff.bind_of_ok (sendToActions_run sender buf _)]
  unfold Eff.andThen
  rw [List.mem_append, or_iff_left (toController_no_send _ _ _ _ _ _)]
  dsimp only
  cases dp.sfu.entry ⟨sender, Rtcp.senderSsrc buf⟩ with
  | none => simp
  | some e =>
      simp only [Option.elim_some, List.mem_map, Effect.send.injEq, Option.some_inj]
      constructor
      · rintro ⟨a, ha, hto, hb⟩
        exact ⟨hb.symm, e, rfl, a, ha, hto⟩
      · rintro ⟨hb, e', rfl, a, ha, hto⟩
        exact ⟨a, ha, hto, hb.symm⟩

/-- What the data plane sends on for the NACK requests the missing packets. -/
def NackRight (dp : DataPlaneModel) (lost : Bool) (receiver : IPv4Port) (pkts : List Pkt)
    (missing : Set Nat) (buf : Buf) : Prop :=
  ∀ toAddr buf', Effect.send toAddr buf' ∈ (onPacket lost receiver buf dp).effects →
    Requests pkts missing buf'

/-- The packet is a NACK from the stream that the receiver gets, and reports numbers of missing
packets. -/
structure NackFor (ssrc : SSRC) (pkts : List Pkt) (missing : Set Nat) (buf : Buf) : Prop where
  isNack : Rtcp.isNack buf = true
  ssrc : Rtcp.senderSsrc buf = ssrc
  reports : Reports (({} : SequenceRewriter).numbers pkts) missing buf

section Right
variable {f q : UInt16} {frs : List MixedFrame} {dp : DataPlaneModel} {receiver : IPv4Port}
  {ssrc : SSRC} {missing : Set Nat} {buf : Buf}

/-- A NACK for packets before which nothing was counted. -/
theorem nackRight_of_unshifted (hn : f.toNat + frs.length ≤ 65536) (lost : Bool)
    (h : NackFor ssrc (mixedPackets f q frs) missing buf)
    (hu : Unshifted (countedStream f q frs) missing) :
    NackRight dp lost receiver (mixedPackets f q frs) missing buf := by
  intro toAddr buf' hs
  obtain ⟨rfl, -⟩ := (send_onPacket_nack dp lost receiver h.isNack toAddr buf').mp hs
  have hr := h.reports
  rw [numbers_mixed f q frs hn] at hr
  rw [← countedStream_fst]
  exact hr.requests hu

theorem nackFor_one (hn : f.toNat + frs.length ≤ 65536) {i : Nat} {pkt : Pkt} {d : Nat}
    (hi : (countedStream f q frs)[i]? = some (pkt, d)) (hd : pkt.drop = false) :
    NackFor ssrc (mixedPackets f q frs) {i} (Rtcp.nackOf ssrc (pkt.seq - UInt16.ofNat d)) := by
  have hg : (({} : SequenceRewriter).numbers (mixedPackets f q frs))[i]?
      = some (some (pkt.seq - UInt16.ofNat d)) := by
    rw [numbers_mixed f q frs hn, List.getElem?_map, hi]
    simp [given, hd]
  refine ⟨Rtcp.isNack_nackOf _ _, Rtcp.senderSsrc_nackOf _ _, ?_, ?_⟩
  · rintro j rfl
    exact ⟨_, hg⟩
  · intro n
    rw [Rtcp.nackNumbers_nackOf, List.mem_singleton]
    constructor
    · rintro rfl
      exact ⟨i, rfl, hg⟩
    · rintro ⟨j, rfl, hj⟩
      rw [hg] at hj
      simpa using hj.symm

/-- **NACKs.** A NACK is right if nothing was counted as dropped before the packets that it is for,
modulo `2^16`; and all of a run are iff nothing was before any packet that was kept. -/
theorem nacks_right_iff (hn : f.toNat + frs.length ≤ 65536)
    (hf : ∃ e a, dp.sfu.entry ⟨receiver, ssrc⟩ = some e ∧ a ∈ e.actions) :
    (∀ lost missing buf, NackFor ssrc (mixedPackets f q frs) missing buf →
      Unshifted (countedStream f q frs) missing →
      NackRight dp lost receiver (mixedPackets f q frs) missing buf) ∧
    ((∀ lost missing buf, NackFor ssrc (mixedPackets f q frs) missing buf →
        NackRight dp lost receiver (mixedPackets f q frs) missing buf) ↔
      ∀ pkt d, (pkt, d) ∈ countedStream f q frs → pkt.drop = false → 65536 ∣ d) := by
  refine ⟨fun lost missing buf h hu => nackRight_of_unshifted hn lost h hu, ?_, ?_⟩
  · intro h pkt d hm hd
    obtain ⟨i, hi⟩ := List.mem_iff_getElem?.mp hm
    have hfor : NackFor ssrc (mixedPackets f q frs) {i}
        (Rtcp.nackOf ssrc (pkt.seq - UInt16.ofNat d)) := nackFor_one hn hi hd
    obtain ⟨e, a, he, ha⟩ := hf
    have hsend : Effect.send a.toAddr (Rtcp.nackOf ssrc (pkt.seq - UInt16.ofNat d)) ∈
        (onPacket false receiver (Rtcp.nackOf ssrc (pkt.seq - UInt16.ofNat d)) dp).effects := by
      rw [send_onPacket_nack dp false receiver hfor.isNack, hfor.ssrc]
      exact ⟨rfl, e, he, a, ha, rfl⟩
    have hr := h false {i} _ hfor a.toAddr _ hsend
    obtain ⟨j, rfl, pkt', hp, hs⟩ := (hr (pkt.seq - UInt16.ofNat d)).mp (by
      rw [Rtcp.nackNumbers_nackOf]
      exact List.mem_singleton_self _)
    rw [← countedStream_fst, List.getElem?_map, hi] at hp
    have hpp : pkt' = pkt := (Option.some_inj.mp hp).symm
    rw [hpp] at hs
    exact (sub_count_eq_iff pkt.seq d).mp hs.symm
  · intro h lost missing buf hfor
    apply nackRight_of_unshifted hn lost hfor
    intro i hi pkt d hp
    obtain ⟨n, hg⟩ := hfor.reports.forwarded i hi
    rw [numbers_mixed f q frs hn, List.getElem?_map, hp, Option.map_some, Option.some_inj] at hg
    exact h pkt d (List.mem_of_getElem? hp) (given_eq_some.mp hg).1

/-- One frame of two packets, a dropped one of one packet and another of two. -/
def nackedFrames : List MixedFrame :=
  [⟨[false, false], by decide⟩, ⟨[true], by decide⟩, ⟨[false, false], by decide⟩]

/-- A sender at `1:10`, and a receiver at `2:20` whose feedback has SSRC `1`. -/
def nackedModel : DataPlaneModel :=
  addStream { av1RtpExt := 12 }
    { src := ⟨1, 10⟩, dst := ⟨2, 20⟩, ssrc := 7, rtxSsrc := 0, rtcpSsrc := 1, rtcpRtxSsrc := 0 }

end Right

theorem nacks_right_iff_dropped :
    (∀ lost missing buf, NackFor 1 (mixedPackets 2 100 nackedFrames) missing buf →
      Unshifted (countedStream 2 100 nackedFrames) missing →
      NackRight nackedModel lost ⟨2, 20⟩ (mixedPackets 2 100 nackedFrames) missing buf) ∧
    ((∀ lost missing buf, NackFor 1 (mixedPackets 2 100 nackedFrames) missing buf →
        NackRight nackedModel lost ⟨2, 20⟩ (mixedPackets 2 100 nackedFrames) missing buf) ↔
      ∀ pkt d, (pkt, d) ∈ countedStream 2 100 nackedFrames → pkt.drop = false → 65536 ∣ d) :=
  nacks_right_iff (by decide) ⟨_, _, rfl, List.mem_singleton_self (⟨⟨1, 10⟩, none, {}⟩ : Action)⟩

/-- Packet `103` is given the number `102`; the NACK for it asks the sender for `102`. -/
theorem nack_wrong :
    NackFor 1 (mixedPackets 2 100 nackedFrames) {3} (Rtcp.nackOf 1 102) ∧
      ¬ NackRight nackedModel false ⟨2, 20⟩ (mixedPackets 2 100 nackedFrames) {3}
        (Rtcp.nackOf 1 102) := by
  have hi : (countedStream 2 100 nackedFrames)[3]? = some (⟨4, 103, .start, false, false⟩, 1) := rfl
  have hq : (⟨4, 103, .start, false, false⟩ : Pkt).seq - UInt16.ofNat 1 = 102 := by decide
  have hfor := @nackFor_one 2 100 nackedFrames 1 (by decide) 3 _ 1 hi rfl
  rw [hq] at hfor
  refine ⟨hfor, fun hr => ?_⟩
  have hsend : Effect.send ⟨1, 10⟩ (Rtcp.nackOf 1 102) ∈
      (onPacket false ⟨2, 20⟩ (Rtcp.nackOf 1 102) nackedModel).effects := by
    rw [send_onPacket_nack _ _ _ hfor.isNack, hfor.ssrc]
    exact ⟨rfl, _, rfl, _, List.mem_singleton_self (⟨⟨1, 10⟩, none, {}⟩ : Action), rfl⟩
  obtain ⟨i, rfl, pkt, hp, hs⟩ := (hr _ _ hsend 102).mp (by
    rw [Rtcp.nackNumbers_nackOf]
    exact List.mem_singleton_self _)
  rw [← countedStream_fst, List.getElem?_map, hi] at hp
  obtain rfl := Option.some_inj.mp hp
  exact absurd hs (by decide)

end DataPlaneModel

end Scallop
