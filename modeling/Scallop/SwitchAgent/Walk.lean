import Scallop.SwitchAgent.Compound
import Scallop.SwitchAgent.DecodeTargets

/-!
# The walk over an RTCP datagram

The loop of `_handleRTCP` takes the length of a packet from the packet, and the counter of the bytes
that remain is unsigned; the handlers take the numbers of reports and SSRCs from it, too.

* `Switch.round` : what the loop does with the bytes that remain;
* `Switch.Walks` : the loop ends, and every round of it stays inside those bytes;
* `walks_iff_ok` : just then `_handleRTCP` returns, as it is modelled;
* `ReadsInside`, `Tiles` : the packets fill the datagram, and what the handlers read lies in it;
* `walks_iff` : just then the loop ends and stays inside.
-/

namespace Scallop

namespace Switch

section Walk
variable (o : WalkOrder) (sender : IPv4Port)

/-- What the handler of the first packet does, if it has one. -/
def handleFirst (buf : Buf) : SwitchEff Unit :=
  match handlerOf buf with
  | some handler => process o sender buf handler
  | none => return ()

def round (buf : Buf) : SwitchEff Unit := do
  Eff.require (4 ≤ buf.length) .outOfBounds
  handleFirst o sender buf
  Eff.require (Rtcp.byteLen buf ≤ buf.length) .outOfBounds

/-- The loop ends, and no round reads outside the bytes that remain, or takes more of them than there
are. -/
inductive Walks : Buf → Switch → Prop
  | done (sw : Switch) : Walks [] sw
  | next {buf : Buf} {sw : Switch} (hbuf : buf ≠ []) (h : (round o sender buf sw).result = .ok ())
      (hrest : Walks (buf.drop (Rtcp.byteLen buf)) (round o sender buf sw).state) : Walks buf sw

end Walk

section Rounds
variable {o : WalkOrder} {sender : IPv4Port} {buf : Buf} {sw : Switch} {fuel : Nat}

theorem round_ok_iff : (round o sender buf sw).result = .ok () ↔
    4 ≤ buf.length ∧ (handleFirst o sender buf sw).result = .ok () ∧
      Rtcp.byteLen buf ≤ buf.length := by
  unfold round
  rw [Eff.require_bind_ok_iff, Eff.result_bind_ok_iff]
  simp only [Eff.require_ok_iff, exists_and_right]
  constructor
  · rintro ⟨h4, ⟨_, hf⟩, hlen⟩
    exact ⟨h4, hf, hlen⟩
  · rintro ⟨h4, hf, hlen⟩
    exact ⟨h4, ⟨(), hf⟩, hlen⟩

theorem handleRTCPPackets_succ (hbuf : buf ≠ []) :
    handleRTCPPackets o sender (fuel + 1) buf = (do
      Eff.require (4 ≤ buf.length) .outOfBounds
      handleFirst o sender buf
      Eff.require (Rtcp.byteLen buf ≤ buf.length) .outOfBounds
      handleRTCPPackets o sender fuel (buf.drop (Rtcp.byteLen buf))) := by
  rw [handleRTCPPackets, if_neg hbuf]
  unfold handleFirst
  cases handlerOf buf with
  | none => rfl
  | some handler => rfl

theorem handleRTCPPackets_succ_ok_iff (hbuf : buf ≠ []) :
    (handleRTCPPackets o sender (fuel + 1) buf sw).result = .ok () ↔
      (round o sender buf sw).result = .ok () ∧
        (handleRTCPPackets o sender fuel (buf.drop (Rtcp.byteLen buf))
          (round o sender buf sw).state).result = .ok () := by
  have hstate (h4 : 4 ≤ buf.length) (hlen : Rtcp.byteLen buf ≤ buf.length)
      (hf : (handleFirst o sender buf sw).result = .ok ()) :
      (round o sender buf sw).state = (handleFirst o sender buf sw).state := by
    unfold round
    rw [Eff.require_pos h4, Eff.pure_bind, Eff.require_pos hlen, Eff.bind_pure_unit]
  rw [handleRTCPPackets_succ hbuf, Eff.require_bind_ok_iff, Eff.result_bind_ok_iff, round_ok_iff]
  constructor
  · rintro ⟨h4, ⟨⟩, hf, hrest⟩
    rw [Eff.require_bind_ok_iff] at hrest
    rw [hstate h4 hrest.1 hf]
    exact ⟨⟨h4, hf, hrest.1⟩, hrest.2⟩
  · rintro ⟨⟨h4, hf, hlen⟩, hrest⟩
    rw [hstate h4 hlen hf] at hrest
    exact ⟨h4, (), hf, Eff.require_bind_ok_iff.mpr ⟨hlen, hrest⟩⟩

theorem walks_iff_packets_ok (h : buf.length ≤ fuel) :
    Walks o sender buf sw ↔ (handleRTCPPackets o sender fuel buf sw).result = .ok () := by
  induction fuel generalizing buf sw with
  | zero =>
      obtain rfl := List.length_eq_zero_iff.mp (Nat.le_zero.mp h)
      exact ⟨fun _ => rfl, fun _ => .done sw⟩
  | succ fuel ih =>
      by_cases hbuf : buf = []
      · subst hbuf
        exact ⟨fun _ => rfl, fun _ => .done sw⟩
      have hdrop : (buf.drop (Rtcp.byteLen buf)).length ≤ fuel := by
        rw [List.length_drop, Rtcp.byteLen]
        omega
      rw [handleRTCPPackets_succ_ok_iff hbuf, ← ih hdrop]
      constructor
      · intro hw
        cases hw with
        | done => exact absurd rfl hbuf
        | next _ hround hrest => exact ⟨hround, hrest⟩
      · exact fun hw => .next hbuf hw.1 hw.2

/-- `_handleRTCP` returns just when its loop ends and stays inside. -/
theorem walks_iff_ok : Walks o sender buf sw ↔ (handleRTCP o sender buf sw).result = .ok () :=
  walks_iff_packets_ok le_rfl

end Rounds

/-! ## What the handlers read -/

/-- What the handler of the first packet reads lies in the bytes that remain: the reports, or the SSRCs
of an estimate up to the first one that is not `known`. -/
def ReadsInside (known : SSRC → Bool) (buf : Buf) : Prop :=
  match handlerOf buf with
  | some .receiverReport =>
      Rtcp.recepRepCount buf = 0 ∨ 8 + 24 * Rtcp.recepRepCount buf ≤ buf.length
  | some .pictureLossIndication => 12 ≤ buf.length
  | some .negativeAcknowledgement => 12 ≤ buf.length
  | some .receiverEstimatedBitrate => 20 ≤ buf.length ∧
      ∀ i < Rtcp.numSsrcs buf, (∀ j < i, known (Rtcp.rembSsrc buf j) = true) →
        24 + 4 * i ≤ buf.length
  | none => True

section Reads
variable {o : WalkOrder} {sender : IPv4Port} {buf : Buf} {sw : Switch} {st : SwitchAgentState}
variable {ssrc : SSRC} {bitRate : UInt32} {n i : Nat}

theorem adjustDecodeTarget_sameStreams (sessionId participantId target : Nat) :
    Eff.Keeps (fun sw => st.SameStreams sw.agent)
      (adjustDecodeTarget o sessionId ssrc participantId target) := by
  intro sw hsw
  rcases adjustDecodeTarget_cases o sw sessionId ssrc participantId target with hno | hyes
  · rw [hno]
    exact hsw
  · obtain ⟨id, rs, _, _, _, hr, -, -, -, hrun⟩ := hyes
    rw [hrun]
    obtain ⟨hr, -⟩ := SwitchAgentState.receiver_of_getReceiveStream hr
    exact hsw.trans (SwitchAgentState.sameStreams_setReceiveStream hr rfl)

/-- A receive stream is found just when there is one. -/
theorem getReceiveStreamFrom_isSome :
    (sw.agent.getReceiveStreamFrom o sender ssrc).isSome = known sw.agent sender ssrc := by
  rw [Bool.eq_iff_iff, known_iff]
  constructor
  · intro h
    obtain ⟨⟨id, r⟩, hr⟩ := Option.isSome_iff_exists.mp h
    exact ⟨id, r, SwitchAgentState.receiver_of_getReceiveStreamFrom hr⟩
  · rintro ⟨id, r, hr, haddr, hssrc⟩
    obtain ⟨id', r', hfound⟩ := UnorderedMap.findIf_isSome (o := o)
      (p := fun r => r.addr = sender ∧ r.ssrc = ssrc) hr (by simp [haddr, hssrc])
    exact Option.isSome_iff_exists.mpr ⟨(id', r'), hfound⟩

/-- An SSRC of an estimate: whether there is a receive stream for it. -/
theorem processEstimate_result :
    (processEstimate o sender ssrc bitRate sw).result = .ok (known sw.agent sender ssrc) ∧
      sw.agent.SameStreams (processEstimate o sender ssrc bitRate sw).state.agent := by
  rw [← getReceiveStreamFrom_isSome (o := o)]
  cases hg : sw.agent.getReceiveStreamFrom o sender ssrc with
  | none =>
      rw [processEstimate_of_none hg]
      exact ⟨rfl, .refl _⟩
  | some e =>
      obtain ⟨id, r⟩ := e
      obtain ⟨hr, -⟩ := SwitchAgentState.receiver_of_getReceiveStreamFrom hg
      by_cases ht : decideDecodeTarget bitRate = r.decodeTarget
      · rw [processEstimate_of_target hg ht]
        exact ⟨rfl, SwitchAgentState.sameStreams_setReceiveStream hr rfl⟩
      · rw [processEstimate_of_other hg ht, Eff.state_bind_pure,
          SwitchAgentState.setReceiveStream_setReceiveStream]
        refine ⟨?_, adjustDecodeTarget_sameStreams _ _ _ _
          (SwitchAgentState.sameStreams_setReceiveStream hr rfl)⟩
        obtain ⟨-, b, hb⟩ := adjustDecodeTarget_performs o r.sessionId r.ssrc
          r.receivingParticipant (decideDecodeTarget bitRate).ident _
        exact Eff.result_bind_ok_iff.mpr ⟨b, hb, rfl⟩

/-- The SSRCs that are read, one after the other. -/
theorem forall_lt_succ_iff {p : Nat → Bool} {q : Nat → Prop} :
    (∀ k < n + 1, (∀ j < k, p (i + j) = true) → q (i + k)) ↔
      q i ∧ (p i = true → ∀ k < n, (∀ j < k, p (i + 1 + j) = true) → q (i + 1 + k)) := by
  constructor
  · intro h
    refine ⟨h 0 (by omega) fun j hj => absurd hj (Nat.not_lt_zero j), fun hp k hk hall => ?_⟩
    rw [Nat.add_assoc, Nat.add_comm 1 k]
    apply h (k + 1) (by omega)
    intro j hj
    cases j with
    | zero => exact hp
    | succ j =>
        have hj := hall j (by omega)
        rwa [Nat.add_assoc, Nat.add_comm 1 j] at hj
  · rintro ⟨hq, hrest⟩ k hk hall
    cases k with
    | zero => exact hq
    | succ k =>
        have hq := hrest (hall 0 (by omega)) k (by omega) fun j hj => by
          rw [Nat.add_assoc, Nat.add_comm 1 j]
          exact hall (j + 1) (by omega)
        rwa [Nat.add_assoc, Nat.add_comm 1 k] at hq

/-- The SSRCs of an estimate from the one at `i` on. -/
theorem processEstimates_ok_iff :
    ((processEstimates o sender buf n i sw).result = .ok () ↔
      ∀ k < n, (∀ j < k, known sw.agent sender (Rtcp.rembSsrc buf (i + j)) = true) →
        24 + 4 * (i + k) ≤ buf.length) ∧
      sw.agent.SameStreams (processEstimates o sender buf n i sw).state.agent := by
  induction n generalizing i sw with
  | zero => exact ⟨⟨fun _ k hk => absurd hk (Nat.not_lt_zero k), fun _ => rfl⟩, .refl _⟩
  | succ n ih =>
      obtain ⟨hres, hsame⟩ := @processEstimate_result o sender sw (Rtcp.rembSsrc buf i)
        (Rtcp.bitRate buf)
      rcases hrun : processEstimate o sender (Rtcp.rembSsrc buf i) (Rtcp.bitRate buf) sw with
        ⟨sw', es, r⟩
      rw [hrun] at hres hsame
      obtain rfl : r = .ok _ := hres
      obtain ⟨hok, hrest⟩ := @ih sw' (i + 1)
      simp only [known_congr hsame] at hok
      rw [forall_lt_succ_iff (p := fun j => known sw.agent sender (Rtcp.rembSsrc buf j))
        (q := fun k => 24 + 4 * k ≤ buf.length), processEstimates]
      by_cases hlen : 24 + 4 * i ≤ buf.length
      · rw [Eff.require_pos hlen, Eff.pure_bind, Eff.bind_of_ok hrun]
        cases hk : known sw.agent sender (Rtcp.rembSsrc buf i) with
        | false => exact ⟨⟨fun _ => ⟨hlen, fun h => absurd h Bool.false_ne_true⟩, fun _ => rfl⟩, hsame⟩
        | true =>
            refine ⟨⟨fun h => ⟨hlen, fun _ => hok.mp h⟩, fun h => hok.mpr (h.2 rfl)⟩, ?_⟩
            exact hsame.trans hrest
      · rw [Eff.require_neg hlen]
        refine ⟨⟨fun h => ?_, fun h => absurd h.1 hlen⟩, .refl _⟩
        cases h

/-- The handler of the first packet returns just when what it reads lies in the bytes that remain. -/
theorem handleFirst_ok_iff :
    ((handleFirst o sender buf sw).result = .ok () ↔
      ReadsInside (known sw.agent sender) buf) ∧
      sw.agent.SameStreams (handleFirst o sender buf sw).state.agent := by
  unfold handleFirst ReadsInside
  cases handlerOf buf with
  | none => exact ⟨⟨fun _ => trivial, fun _ => rfl⟩, .refl _⟩
  | some handler =>
      have hsame (p : Prop) [Decidable p] : sw.agent.SameStreams
          ((Eff.require p Fault.outOfBounds : SwitchEff Unit) sw).state.agent :=
        Eff.keeps_require (I := fun sw' => sw.agent.SameStreams sw'.agent) p _ sw (.refl _)
      unfold process
      dsimp only
      rw [Eff.emit_bind_run]
      cases handler with
      | receiverReport => exact ⟨Eff.require_ok_iff, hsame _⟩
      | pictureLossIndication => exact ⟨Eff.require_ok_iff, hsame _⟩
      | negativeAcknowledgement => exact ⟨Eff.require_ok_iff, hsame _⟩
      | receiverEstimatedBitrate =>
          obtain ⟨hok, hrest⟩ := @processEstimates_ok_iff o sender buf sw (Rtcp.numSsrcs buf) 0
          simp only [Nat.zero_add] at hok
          change ((processReceiverEstimatedBitrate o sender buf sw).result = _ ↔ _) ∧
            sw.agent.SameStreams (processReceiverEstimatedBitrate o sender buf sw).state.agent
          unfold processReceiverEstimatedBitrate
          by_cases h20 : 20 ≤ buf.length
          · rw [Eff.require_pos h20, Eff.pure_bind]
            exact ⟨hok.trans ⟨fun h => ⟨h20, h⟩, fun h => h.2⟩, hrest⟩
          · rw [Eff.require_neg h20]
            exact ⟨⟨fun h => (nomatch h), fun h => absurd h.1 h20⟩, .refl _⟩

end Reads

/-! ## Datagrams -/

/-- The packets of a datagram are as long as their headers say, and what the handlers read of each lies
in what remains of the datagram. -/
def Tiles (known : SSRC → Bool) : List Buf → Prop
  | [] => True
  | packet :: packets => 4 ≤ packet.length ∧ Rtcp.byteLen packet = packet.length ∧
      ReadsInside known (packet ++ packets.flatten) ∧ Tiles known packets

section Datagram
variable {o : WalkOrder} {sender : IPv4Port} {buf : Buf} {sw : Switch} {packets : List Buf}

theorem round_sameStreams : sw.agent.SameStreams (round o sender buf sw).state.agent := by
  have hkeeps : Eff.Keeps (fun sw' => sw.agent.SameStreams sw'.agent) (round o sender buf) := by
    refine (Eff.keeps_require _ _).bind fun _ => Eff.Keeps.bind ?_ fun _ => Eff.keeps_require _ _
    exact fun sw' h => h.trans handleFirst_ok_iff.2
  exact hkeeps sw (.refl _)

theorem Walks.tiles (h : Walks o sender buf sw) :
    ∃ packets : List Buf, buf = packets.flatten ∧ Tiles (known sw.agent sender) packets := by
  induction h with
  | done sw => exact ⟨[], rfl, trivial⟩
  | @next buf sw hbuf hround _ ih =>
      obtain ⟨h4, hfirst, hlen⟩ := round_ok_iff.mp hround
      obtain ⟨packets, hrest, htiles⟩ := ih
      have hknown : known (round o sender buf sw).state.agent sender = known sw.agent sender :=
        funext (known_congr round_sameStreams sender)
      have htake : (buf.take (Rtcp.byteLen buf)).length = Rtcp.byteLen buf :=
        List.length_take_of_le hlen
      have h4' : 4 ≤ (buf.take (Rtcp.byteLen buf)).length := by
        rw [htake, Rtcp.byteLen]
        omega
      have hsplit : buf.take (Rtcp.byteLen buf) ++ packets.flatten = buf := by
        rw [← hrest, List.take_append_drop]
      refine ⟨buf.take (Rtcp.byteLen buf) :: packets, hsplit.symm, h4', ?_, ?_, ?_⟩
      · rw [htake, ← Rtcp.byteLen_append packets.flatten h4', hsplit]
      · rw [hsplit]
        exact handleFirst_ok_iff.1.mp hfirst
      · rw [← hknown]
        exact htiles

/-- The walk goes through the packets of the datagram. -/
theorem walks_of_tiles (h : Tiles (known sw.agent sender) packets) :
    Walks o sender packets.flatten sw := by
  induction packets generalizing sw with
  | nil => exact .done sw
  | cons packet packets ih =>
      obtain ⟨h4, hlen, hreads, hrest⟩ := h
      have hbyteLen : Rtcp.byteLen (packet ++ packets.flatten) = packet.length := by
        rw [Rtcp.byteLen_append _ h4, hlen]
      have hknown : known (round o sender (packet ++ packets.flatten) sw).state.agent sender =
          known sw.agent sender := funext (known_congr round_sameStreams sender)
      rw [List.flatten_cons]
      refine .next ?_ (round_ok_iff.mpr ⟨?_, handleFirst_ok_iff.1.mpr hreads, ?_⟩) ?_
      · rintro hnil
        rw [(List.append_eq_nil_iff.mp hnil).1] at h4
        exact absurd h4 (by decide)
      · rw [List.length_append]
        omega
      · rw [hbyteLen, List.length_append]
        omega
      · rw [hbyteLen, List.drop_left]
        apply ih
        rw [hknown]
        exact hrest

/-- **The loop ends and stays inside the datagram just when its packets fill it, and what is read of
them lies in it.** -/
theorem walks_iff (o : WalkOrder) (sender : IPv4Port) (buf : Buf) (sw : Switch) :
    Walks o sender buf sw ↔
      ∃ packets : List Buf, buf = packets.flatten ∧ Tiles (known sw.agent sender) packets := by
  refine ⟨Walks.tiles, ?_⟩
  rintro ⟨packets, rfl, h⟩
  exact walks_of_tiles h

end Datagram

/-- A receiver report without reports, which is longer than the datagram by its header. -/
def longReport : Buf := [0x80, 201, 0xff, 0xff, 0, 0, 0, 9, 0, 0, 0, 0]

theorem not_walks_longReport :
    ¬ ∀ (o : WalkOrder) (sender : IPv4Port) (buf : Buf) (sw : Switch), 12 ≤ buf.length →
      Walks o sender buf sw := by
  intro h
  have hw := h default ⟨2, 2⟩ longReport { dataPlane := { av1RtpExt := 1 } } (by decide)
  cases hw with
  | next _ hround _ => exact absurd (round_ok_iff.mp hround).2.2 (by decide)

end Switch

end Scallop
