import Scallop.DataPlane.Targets
import Scallop.Lib.Machine
import Scallop.SwitchAgent.Model
import Scallop.SwitchAgent.Streams

/-!
# The agent and the data plane agree on decode targets

* `Switch.Agree` : what is to hold of a switch; `Switch.Inv` : the invariant;
* `adjustDecodeTarget_cases`, `processEstimate_keeps`, `onAddStream_keeps`, `onPacket_keeps` : what the
  handlers keep;
* `EventOk` : the condition on an event;
* `decode_targets_agree` : in every run whose events meet it, the agent and the data plane agree.
-/

namespace Scallop

open Av1 Machine

namespace Switch

/-- The decode target of an adjustable receive stream is the one in force in the data plane, from the
address and the SSRC of its send stream to its own address; other streams are at `hi`. -/
structure Agree (sw : Switch) : Prop where
  adjustable : ∀ id r, sw.agent.receiver id = some r → r.Adjustable →
    ∃ s, sw.agent.sender r.sendStreamId = some s ∧
      sw.dataPlane.inForce ⟨s.addr, s.ssrc⟩ r.addr = some r.decodeTarget
  other : ∀ id r, sw.agent.receiver id = some r → ¬ r.Adjustable → r.decodeTarget = .hi

/-- The streams are in order, targets other than `hi` are in force for adjustable streams only, and
the agent and the data plane agree. -/
structure Inv (sw : Switch) : Prop where
  ok : sw.agent.Ok
  adjusted : ∀ m toAddr target, sw.dataPlane.inForce m toAddr = some target → target ≠ .hi →
    ∃ id r s, sw.agent.Flow id r s ∧ m = ⟨s.addr, s.ssrc⟩ ∧ toAddr = r.addr
  agree : Agree sw

theorem inv_init (av1RtpExt : Nat) : Inv { dataPlane := { av1RtpExt } } where
  ok := SwitchAgentState.ok_init
  adjusted _ _ _ h := nomatch h
  agree := ⟨fun _ _ h => (nomatch h), fun _ _ h => (nomatch h)⟩

section Inv
variable {sw : Switch} {dp : DataPlaneModel} {id : UInt32} {r r' : ReceiveStream} {s : AgentStream}

theorem Agree.flow (h : Agree sw) (hf : sw.agent.Flow id r s) :
    sw.dataPlane.inForce ⟨s.addr, s.ssrc⟩ r.addr = some r.decodeTarget := by
  obtain ⟨a, ha, hin⟩ := h.adjustable id r hf.receiver hf.adjustable
  obtain rfl := Option.some.inj (ha.symm.trans hf.sender)
  exact hin

theorem Inv.dataPlane (h : Inv sw) (hdp : dp.inForce = sw.dataPlane.inForce) :
    Inv { sw with dataPlane := dp } where
  ok := h.ok
  adjusted m toAddr target hin := by
    rw [hdp] at hin
    exact h.adjusted m toAddr target hin
  agree := by
    refine ⟨fun id r hr hadj => ?_, h.agree.other⟩
    obtain ⟨a, ha, hin⟩ := h.agree.adjustable id r hr hadj
    exact ⟨a, ha, by rw [hdp]; exact hin⟩

theorem Inv.setEstimates (h : Inv sw) (hr : sw.agent.receiver id = some r) (hb : r'.base = r.base)
    (ht : r'.decodeTarget = r.decodeTarget) :
    Inv { sw with agent := sw.agent.setReceiveStream id r' } := by
  have hsame := SwitchAgentState.sameStreams_setReceiveStream hr hb
  refine ⟨h.ok.congr hsame, fun m toAddr target hin hne => ?_, ?_, ?_⟩
  · obtain ⟨id', q, s, hf, hm, hto⟩ := h.adjusted m toAddr target hin hne
    obtain ⟨q', hf', hb'⟩ := hsame.symm.flow hf
    exact ⟨id', q', s, hf', hm, hto.trans (ReceiveStream.addr_of_base hb')⟩
  · intro id' q hq hadj
    rcases SwitchAgentState.receiver_setReceiveStream_iff.mp hq with ⟨rfl, rfl⟩ | ⟨-, hq⟩
    · obtain ⟨s, hs, hin⟩ := h.agree.adjustable id' r hr (ReceiveStream.adjustable_of_base hb hadj)
      refine ⟨s, ?_, ?_⟩
      · rw [ReceiveStream.sendStreamId_of_base hb]
        exact hs
      · rw [ReceiveStream.addr_of_base hb, ht]
        exact hin
    · exact h.agree.adjustable id' q hq hadj
  · intro id' q hq hadj
    rcases SwitchAgentState.receiver_setReceiveStream_iff.mp hq with ⟨rfl, rfl⟩ | ⟨-, hq⟩
    · rw [ht]
      exact h.agree.other id' r hr fun hr' => hadj (ReceiveStream.adjustable_of_base hb.symm hr')
    · exact h.agree.other id' q hq hadj

/-- The target of an adjustable stream changes on both sides. -/
theorem Inv.setTarget (h : Inv sw) (hf : sw.agent.Flow id r s) (hb : r'.base = r.base) {n : Nat}
    (hn : decodeTargetFromNumIdentifier n = .ok r'.decodeTarget) :
    Inv { agent := sw.agent.setReceiveStream id r'
          dataPlane := sw.dataPlane.adjustDecodeTarget s.addr r.addr s.ssrc n } := by
  have hsame := SwitchAgentState.sameStreams_setReceiveStream hf.receiver hb
  have hself : (sw.dataPlane.adjustDecodeTarget s.addr r.addr s.ssrc n).inForce ⟨s.addr, s.ssrc⟩
      r.addr = some r'.decodeTarget :=
    DataPlaneModel.inForce_adjust_self hn (by rw [h.agree.flow hf]; rfl)
  have hset : (sw.agent.setReceiveStream id r').receiver id = some r' :=
    SwitchAgentState.receiver_setReceiveStream_iff.mpr (.inl ⟨rfl, rfl⟩)
  refine ⟨h.ok.congr hsame, fun m toAddr target hin hne => ?_, ?_, ?_⟩
  · by_cases hkey : m = ⟨s.addr, s.ssrc⟩ ∧ toAddr = r.addr
    · refine ⟨id, r', s, ⟨hset, ?_, ReceiveStream.adjustable_of_base hb.symm hf.adjustable⟩, hkey.1,
        hkey.2.trans (ReceiveStream.addr_of_base hb).symm⟩
      rw [ReceiveStream.sendStreamId_of_base hb]
      exact hf.sender
    · rw [DataPlaneModel.inForce_adjust_of_ne fun hm hto => hkey ⟨hm, hto⟩] at hin
      obtain ⟨id', q, s', hf', hm, hto⟩ := h.adjusted m toAddr target hin hne
      obtain ⟨q', hf'', hb'⟩ := hsame.symm.flow hf'
      exact ⟨id', q', s', hf'', hm, hto.trans (ReceiveStream.addr_of_base hb')⟩
  · intro id' q hq hadj
    rcases SwitchAgentState.receiver_setReceiveStream_iff.mp hq with ⟨rfl, rfl⟩ | ⟨hid, hq⟩
    · refine ⟨s, ?_, ?_⟩
      · rw [ReceiveStream.sendStreamId_of_base hb]
        exact hf.sender
      · rw [ReceiveStream.addr_of_base hb]
        exact hself
    · obtain ⟨s', hs', hin⟩ := h.agree.adjustable id' q hq hadj
      refine ⟨s', hs', ?_⟩
      rw [DataPlaneModel.inForce_adjust_of_ne fun hm hto => hid ?_]
      · exact hin
      · obtain ⟨haddr, hssrc⟩ := Match.mk.inj hm
        exact h.ok.separate id r s id' q s' hf ⟨hq, hs', hadj⟩ haddr.symm hssrc.symm hto.symm
  · intro id' q hq hadj
    rcases SwitchAgentState.receiver_setReceiveStream_iff.mp hq with ⟨rfl, rfl⟩ | ⟨-, hq⟩
    · exact absurd (ReceiveStream.adjustable_of_base hb.symm hf.adjustable) hadj
    · exact h.agree.other id' q hq hadj

end Inv

/-! ## Requests -/

section Adjust
variable {o : WalkOrder} {sw : Switch} {sessionId participantId n : Nat} {ssrc : SSRC}

/-- What a request finds is an adjustable stream with its send stream. -/
theorem Inv.flow_of_found (h : Inv sw) {id sid : UInt32} {rs : ReceiveStream} {ss : SendStream}
    (hr : sw.agent.getReceiveStream o sessionId ssrc participantId = some (id, rs))
    (hs : sw.agent.getSendStream o sessionId rs.ssrc = some (sid, ss)) (hadj : rs.Adjustable) :
    ∃ s, sw.agent.Flow id rs s ∧ s.addr = ss.addr ∧ s.ssrc = ss.ssrc := by
  obtain ⟨hrecv, hses, -, -⟩ := SwitchAgentState.receiver_of_getReceiveStream hr
  obtain ⟨hsend, hses', hssrc⟩ := SwitchAgentState.sender_of_getSendStream hs
  obtain ⟨s, hs', h1, h2, -⟩ := h.ok.sender id rs hrecv
  have haddr := (h.ok.sameSender _ _ _ _ hs' hsend (h1.trans (hses.trans hses'.symm))
    (h2.trans hssrc.symm)).1
  exact ⟨s, ⟨hrecv, hs', hadj⟩, haddr, h2.trans hssrc.symm⟩

theorem adjustDecodeTarget_keeps (o : WalkOrder) (sessionId : Nat) (ssrc : SSRC)
    (participantId n : Nat) :
    Eff.Keeps Inv (adjustDecodeTarget o sessionId ssrc participantId n) := by
  intro sw h
  rcases adjustDecodeTarget_cases o sw sessionId ssrc participantId n with hno | hyes
  · rw [hno]
    exact h
  · obtain ⟨id, rs, sid, ss, target, hr, hs, hadj, hn, hrun⟩ := hyes
    obtain ⟨s, hf, haddr, hssrc⟩ := h.flow_of_found hr hs hadj
    rw [hrun, ← haddr, ← hssrc]
    have hb : ({ rs with decodeTarget := target } : ReceiveStream).base = rs.base := rfl
    exact h.setTarget hf hb hn

end Adjust

/-! ## Estimates -/

/-- The endpoint has a receive stream with the SSRC. -/
def known (st : SwitchAgentState) (addr : IPv4Port) (ssrc : SSRC) : Bool :=
  st.receiveStreams.entries.any fun e => e.2.addr = addr ∧ e.2.ssrc = ssrc

/-- Every receive stream of the endpoint with the SSRC is adjustable, or the estimate is above
2 Mbit/s. -/
def EstimateOk (st : SwitchAgentState) (addr : IPv4Port) (bitRate : UInt32) (ssrc : SSRC) : Prop :=
  ∀ e ∈ st.receiveStreams.entries, e.2.addr = addr → e.2.ssrc = ssrc →
    e.2.Adjustable ∨ 2000 * 1000 < bitRate.toNat

instance (st : SwitchAgentState) (addr : IPv4Port) (bitRate : UInt32) (ssrc : SSRC) :
    Decidable (EstimateOk st addr bitRate ssrc) :=
  List.decidableBAll _ _

section Estimates
variable {o : WalkOrder} {sw : Switch} {st st' : SwitchAgentState} {addr : IPv4Port} {ssrc : SSRC}
variable {bitRate : UInt32} {id : UInt32} {r : ReceiveStream}

theorem known_iff : known st addr ssrc = true ↔
    ∃ id r, st.receiver id = some r ∧ r.addr = addr ∧ r.ssrc = ssrc := by
  unfold known
  rw [List.any_eq_true]
  constructor
  · rintro ⟨⟨id, r⟩, he, h⟩
    rw [decide_eq_true_eq] at h
    exact ⟨id, r, AList.mem_lookup_iff.mpr he, h⟩
  · rintro ⟨id, r, hr, h⟩
    exact ⟨⟨id, r⟩, SwitchAgentState.mem_entries hr, by rw [decide_eq_true_eq]; exact h⟩

theorem known_congr (h : SwitchAgentState.SameStreams st st') (addr : IPv4Port) (ssrc : SSRC) :
    known st' addr ssrc = known st addr ssrc := by
  have himp : ∀ {st st' : SwitchAgentState}, SwitchAgentState.SameStreams st st' →
      known st' addr ssrc = true → known st addr ssrc = true := by
    intro st st' h hk
    obtain ⟨id, r', hr', haddr, hssrc⟩ := known_iff.mp hk
    obtain ⟨r, hr, hb⟩ := h.before hr'
    exact known_iff.mpr ⟨id, r, hr, (ReceiveStream.addr_of_base hb).symm.trans haddr,
      (ReceiveStream.ssrc_of_base hb).symm.trans hssrc⟩
  rw [Bool.eq_iff_iff]
  exact ⟨himp h, himp h.symm⟩

theorem EstimateOk.congr (hc : EstimateOk st addr bitRate ssrc)
    (h : SwitchAgentState.SameStreams st st') : EstimateOk st' addr bitRate ssrc := by
  rintro ⟨id, r'⟩ he haddr hssrc
  obtain ⟨r, hr, hb⟩ := h.before (AList.mem_lookup_iff.mpr he)
  refine (hc ⟨id, r⟩ (SwitchAgentState.mem_entries hr)
    ((ReceiveStream.addr_of_base hb).symm.trans haddr)
    ((ReceiveStream.ssrc_of_base hb).symm.trans hssrc)).imp_left ?_
  exact ReceiveStream.adjustable_of_base hb.symm

/-- A stream whose target changes is adjustable. -/
theorem Inv.adjustable_of_estimate (h : Inv sw) (hc : EstimateOk sw.agent addr bitRate ssrc)
    (hr : sw.agent.receiver id = some r) (haddr : r.addr = addr) (hssrc : r.ssrc = ssrc)
    (hne : decideDecodeTarget bitRate ≠ r.decodeTarget) : r.Adjustable := by
  by_contra hadj
  have hrate := (hc ⟨id, r⟩ (SwitchAgentState.mem_entries hr) haddr hssrc).resolve_left hadj
  have hhi : decideDecodeTarget bitRate = .hi := if_pos hrate
  exact hne (hhi.trans (h.agree.other id r hr hadj).symm)

/-- What a handler may do to the streams: nothing but changes of targets and estimates, and the
invariant holds again. -/
def Fine (st : SwitchAgentState) (sw : Switch) : Prop :=
  Inv sw ∧ SwitchAgentState.SameStreams st sw.agent

/-- The receive stream has the new target before the request is made, which finds it again. -/
theorem Inv.adjust_estimated (h : Inv sw) (hr : sw.agent.receiver id = some r) (hadj : r.Adjustable)
    {r' : ReceiveStream} (hb : r'.base = r.base) :
    Fine sw.agent (adjustDecodeTarget o r.sessionId r.ssrc r.receivingParticipant r'.decodeTarget.ident
      { sw with agent := sw.agent.setReceiveStream id r' }).state := by
  have hsame := SwitchAgentState.sameStreams_setReceiveStream hr hb
  have hset : (sw.agent.setReceiveStream id r').receiver id = some r' :=
    SwitchAgentState.receiver_setReceiveStream_iff.mpr (.inl ⟨rfl, rfl⟩)
  have hadj' := ReceiveStream.adjustable_of_base hb.symm hadj
  have hfound : (sw.agent.setReceiveStream id r').getReceiveStream o r.sessionId r.ssrc
      r.receivingParticipant = some (id, r') := by
    have hown := (h.ok.congr hsame).getReceiveStream hset hadj' o
    rw [show r'.sessionId = r.sessionId from congrArg (·.sessionId) hb,
      show r'.ssrc = r.ssrc from congrArg (·.ssrc) hb,
      show r'.receivingParticipant = r.receivingParticipant from
        congrArg (·.receivingParticipant) hb] at hown
    exact hown
  obtain ⟨s, hs, hses, hssrc, -⟩ := h.ok.sender id r hr
  obtain ⟨sid, ss, hsend⟩ := SwitchAgentState.getSendStream_of_sender hs o
  rw [hses, hssrc, ← ReceiveStream.ssrc_of_base hb] at hsend
  have hsend' : (sw.agent.setReceiveStream id r').getSendStream o r.sessionId r'.ssrc
      = some (sid, ss) := hsend
  obtain ⟨hss, h1, h2⟩ := SwitchAgentState.sender_of_getSendStream hsend
  have haddr := (h.ok.sameSender _ _ _ _ hs hss (hses.trans h1.symm)
    (hssrc.trans ((ReceiveStream.ssrc_of_base hb).symm.trans h2.symm))).1
  have hssrc' : s.ssrc = ss.ssrc := hssrc.trans ((ReceiveStream.ssrc_of_base hb).symm.trans h2.symm)
  have hrun := @adjustDecodeTarget_of_found o { sw with agent := sw.agent.setReceiveStream id r' }
    _ _ _ _ _ _ _ _ _ hfound hsend' hadj' (decodeTargetFromNumIdentifier_ident r'.decodeTarget)
  rw [hrun, SwitchAgentState.setReceiveStream_setReceiveStream, ReceiveStream.addr_of_base hb]
  have hinv := h.setTarget ⟨hr, hs, hadj⟩ hb (decodeTargetFromNumIdentifier_ident _)
  rw [haddr, hssrc'] at hinv
  exact ⟨hinv, hsame⟩

theorem processEstimate_fine (h : Inv sw) (hc : EstimateOk sw.agent addr bitRate ssrc) :
    Fine sw.agent (processEstimate o addr ssrc bitRate sw).state ∧
      ((processEstimate o addr ssrc bitRate sw).result = .ok true →
        known sw.agent addr ssrc = true) := by
  unfold processEstimate
  rw [Eff.get_bind_run]
  cases hg : sw.agent.getReceiveStreamFrom o addr ssrc with
  | none => exact ⟨⟨h, .refl _⟩, fun hres => nomatch hres⟩
  | some e =>
      obtain ⟨id, r⟩ := e
      obtain ⟨hr, haddr, hssrc⟩ := SwitchAgentState.receiver_of_getReceiveStreamFrom hg
      refine ⟨?_, fun _ => known_iff.mpr ⟨id, r, hr, haddr, hssrc⟩⟩
      dsimp only
      by_cases hne : decideDecodeTarget bitRate ≠ r.decodeTarget
      · have hadj := h.adjustable_of_estimate hc hr haddr hssrc hne
        let r' : ReceiveStream := { r with
          bandwidthEstimates := r.bandwidthEstimates ++ [bitRate]
          decodeTarget := decideDecodeTarget bitRate }
        have hfine := h.adjust_estimated (o := o) hr hadj (rfl : r'.base = r.base)
        rw [if_pos hne]
        have hstore := SwitchAgentState.setReceiveStream_setReceiveStream sw.agent id
          { r with bandwidthEstimates := r.bandwidthEstimates ++ [bitRate] } r'
        rw [← hstore] at hfine
        change Fine sw.agent ((do
          let _ ← adjustDecodeTarget o r.sessionId r.ssrc r.receivingParticipant
            r'.decodeTarget.ident
          return true : SwitchEff Bool) _).state
        rw [Eff.state_bind_pure]
        exact hfine
      · rw [if_neg hne]
        exact ⟨h.setEstimates hr rfl rfl, SwitchAgentState.sameStreams_setReceiveStream hr rfl⟩

def estimatedSsrcs (buf : Buf) : List SSRC := (List.range (Rtcp.numSsrcs buf)).map (Rtcp.rembSsrc buf)

/-- The condition for the SSRCs that are processed: those before the first one without a stream. -/
def EstimatesOk (st : SwitchAgentState) (addr : IPv4Port) (buf : Buf) : Prop :=
  ∀ ssrc ∈ (estimatedSsrcs buf).takeWhile (known st addr),
    EstimateOk st addr (Rtcp.bitRate buf) ssrc

instance (st : SwitchAgentState) (addr : IPv4Port) (buf : Buf) :
    Decidable (EstimatesOk st addr buf) :=
  List.decidableBAll _ _

theorem processEstimates_fine {buf : Buf} {n i : Nat}
    (hc : ∀ ssrc ∈ ((List.range' i n).map (Rtcp.rembSsrc buf)).takeWhile (known st addr),
      EstimateOk st addr (Rtcp.bitRate buf) ssrc) :
    Eff.Keeps (Fine st) (processEstimates o addr buf n i) := by
  induction n generalizing i with
  | zero => exact Eff.keeps_pure ()
  | succ n ih =>
      rw [List.range'_succ, List.map_cons, List.takeWhile_cons] at hc
      unfold processEstimates
      refine (Eff.keeps_require _ _).bind fun _ sw hsw => ?_
      have hone : EstimateOk st addr (Rtcp.bitRate buf) (Rtcp.rembSsrc buf i) := by
        by_cases hk : known st addr (Rtcp.rembSsrc buf i) = true
        · rw [if_pos hk] at hc
          exact hc _ List.mem_cons_self
        · rintro ⟨id, r⟩ he haddr hssrc
          exact absurd (known_iff.mpr ⟨id, r, AList.mem_lookup_iff.mpr he, haddr, hssrc⟩) hk
      obtain ⟨hinv, hknown⟩ := processEstimate_fine (o := o) hsw.1 (hone.congr hsw.2)
      have hfine : Fine st (processEstimate o addr (Rtcp.rembSsrc buf i) (Rtcp.bitRate buf) sw).state :=
        ⟨hinv.1, hsw.2.trans hinv.2⟩
      rcases hrun : processEstimate o addr (Rtcp.rembSsrc buf i) (Rtcp.bitRate buf) sw with
        ⟨sw', es, res⟩
      rw [hrun] at hfine hknown
      rcases res with e | found
      · rw [Eff.bind_of_error hrun]
        exact hfine
      · rw [Eff.bind_of_ok hrun]
        cases found with
        | false => exact hfine
        | true =>
            have hk := hknown rfl
            rw [known_congr hsw.2] at hk
            rw [if_pos hk] at hc
            exact ih (fun ssrc hs => hc ssrc (List.mem_cons_of_mem _ hs)) sw' hfine

theorem processReceiverEstimatedBitrate_fine {buf : Buf} (hc : EstimatesOk st addr buf) :
    Eff.Keeps (Fine st) (processReceiverEstimatedBitrate o addr buf) := by
  refine (Eff.keeps_require _ _).bind fun _ => processEstimates_fine ?_
  unfold EstimatesOk estimatedSsrcs at hc
  rw [List.range_eq_range'] at hc
  exact hc

end Estimates

/-! ## Datagrams -/

/-- The headers that `_handleRTCP` gets to, each with all that follows. -/
def rtcpHeaders : Nat → Buf → List Buf
  | 0, _ => []
  | fuel + 1, buf =>
      if buf.length < 4 then []
      else buf ::
        if Rtcp.byteLen buf ≤ buf.length then rtcpHeaders fuel (buf.drop (Rtcp.byteLen buf)) else []

/-- The condition for every estimate in a datagram. -/
def DatagramOk (st : SwitchAgentState) (addr : IPv4Port) (buf : Buf) : Prop :=
  ∀ header ∈ rtcpHeaders buf.length buf, handlerOf header = some .receiverEstimatedBitrate →
    EstimatesOk st addr header

instance (st : SwitchAgentState) (addr : IPv4Port) (buf : Buf) :
    Decidable (DatagramOk st addr buf) :=
  List.decidableBAll _ _

section Packet
variable {o : WalkOrder} {sw : Switch} {st : SwitchAgentState} {addr : IPv4Port} {buf : Buf}

theorem process_fine {handler : RtcpHandler}
    (hc : handler = .receiverEstimatedBitrate → EstimatesOk st addr buf) :
    Eff.Keeps (Fine st) (process o addr buf handler) := by
  refine (Eff.keeps_emit _).bind fun _ => ?_
  cases handler with
  | receiverReport => exact Eff.keeps_require _ _
  | pictureLossIndication => exact Eff.keeps_require _ _
  | receiverEstimatedBitrate => exact processReceiverEstimatedBitrate_fine (hc rfl)
  | negativeAcknowledgement => exact Eff.keeps_require _ _

theorem handleRTCPPackets_fine {fuel : Nat}
    (hc : ∀ header ∈ rtcpHeaders fuel buf, handlerOf header = some .receiverEstimatedBitrate →
      EstimatesOk st addr header) :
    Eff.Keeps (Fine st) (handleRTCPPackets o addr fuel buf) := by
  induction fuel generalizing buf with
  | zero => exact Eff.keeps_pure ()
  | succ fuel ih =>
      unfold handleRTCPPackets
      split
      · exact Eff.keeps_pure ()
      refine Eff.keeps_require_bind fun h4 => ?_
      rw [rtcpHeaders, if_neg (by omega)] at hc
      have hrest : Eff.Keeps (Fine st) (do
          Eff.require (Rtcp.byteLen buf ≤ buf.length) .outOfBounds
          handleRTCPPackets o addr fuel (buf.drop (Rtcp.byteLen buf))) := by
        refine Eff.keeps_require_bind fun hlen => ih fun header hh => ?_
        rw [if_pos hlen] at hc
        exact hc header (List.mem_cons_of_mem _ hh)
      cases hh : handlerOf buf with
      | none => exact hrest
      | some handler =>
          have hok : handler = .receiverEstimatedBitrate → EstimatesOk st addr buf := by
            rintro rfl
            exact hc buf List.mem_cons_self hh
          exact (process_fine hok).bind fun _ => hrest

theorem handleRTCP_fine (hc : DatagramOk st addr buf) :
    Eff.Keeps (Fine st) (handleRTCP o addr buf) := handleRTCPPackets_fine hc

theorem handleAV1_fine : Eff.Keeps (Fine st) (handleAV1 buf) :=
  Eff.keeps_get_bind fun _ => (Eff.keeps_ofExcept _).bind fun _ => Eff.keeps_pure ()

/-- What the data plane does, when it passes on only datagrams that meet the condition. -/
theorem onEffects_fine {es : List Effect} (hc : ∀ e ∈ es, ∀ sender' buf',
    e = .toController .rtcp sender' buf' → DatagramOk st sender' buf') :
    Eff.Keeps (Fine st) (onEffects o es) := by
  induction es with
  | nil => exact Eff.keeps_pure ()
  | cons e es ih =>
      refine Eff.Keeps.bind ?_ fun _ => ih fun e' he => hc e' (List.mem_cons_of_mem _ he)
      have he := hc e List.mem_cons_self
      cases e with
      | send toAddr buf => exact Eff.keeps_emit _
      | toController reason sender buf =>
          cases reason with
          | stun => exact Eff.keeps_pure ()
          | av1 => exact handleAV1_fine
          | rtcp => exact handleRTCP_fine (he sender buf rfl)

theorem onPacket_inv {lost : Bool} (h : Inv sw)
    (hc : DataPlaneModel.ReachesAgent buf → DatagramOk sw.agent addr buf) :
    Inv (onPacket o lost addr buf sw).state := by
  let out := DataPlaneModel.onPacket lost addr buf sw.dataPlane
  have hrun : onPacket o lost addr buf sw = (do
      onEffects o out.effects
      Eff.ofExcept out.result) { sw with dataPlane := out.state } := rfl
  have hdp : out.state.inForce = sw.dataPlane.inForce :=
    DataPlaneModel.onPacket_inForce lost addr buf sw.dataPlane rfl
  have hpass : ∀ e ∈ out.effects, ∀ sender' buf', e = .toController .rtcp sender' buf' →
      DatagramOk sw.agent sender' buf' := by
    intro e he sender' buf' heq
    obtain ⟨rfl, rfl, hreach⟩ :=
      DataPlaneModel.onPacket_passesOnly lost sw.dataPlane e he sender' buf' heq
    exact hc hreach
  have hkeeps : Eff.Keeps (Fine sw.agent) (do
      onEffects o out.effects
      Eff.ofExcept out.result : SwitchEff Unit) :=
    (onEffects_fine hpass).bind fun _ => Eff.keeps_ofExcept _
  rw [hrun]
  exact (hkeeps _ ⟨h.dataPlane hdp, .refl _⟩).1

end Packet

/-! ## New streams -/

/-- The condition for a new stream: the ids do not wrap; and if the send stream of a receive stream is
there, nothing stands against listening to it, at an address that the data plane takes for one. -/
def AddStreamOk (o : WalkOrder) (sw : Switch) (m : Rpc.AddStream) : Prop :=
  match m.direction with
  | .sendonly => sw.agent.nextSendStreamId.toNat + 2 < 2 ^ 32
  | .recvonly => ∀ e ∈ sw.agent.getSendStream o m.sessionId m.mainSSRC,
      sw.agent.CanListen m e.2.toAgentStream ∧
        (e.2.type = .video → m.addr ≠ { ip := 0, port := 0 })
  | _ => True

instance (o : WalkOrder) (sw : Switch) (m : Rpc.AddStream) : Decidable (AddStreamOk o sw m) := by
  unfold AddStreamOk
  split <;> infer_instance

section AddStream
variable {o : WalkOrder} {sw : Switch} {m : Rpc.AddStream} {agent : SwitchAgentState}
variable {dp : DataPlaneModel}

/-- More streams, the new ones at `hi` on both sides. -/
theorem Inv.grow (h : Inv sw) (hok : agent.Ok) (hext : sw.agent.Extends agent)
    (hdp : DataPlaneModel.Extends sw.dataPlane.sfu dp.sfu)
    (hnew : ∀ id r, agent.receiver id = some r → sw.agent.receiver id = some r ∨
      (r.decodeTarget = .hi ∧ (r.Adjustable → ∃ s, agent.sender r.sendStreamId = some s ∧
        dp.inForce ⟨s.addr, s.ssrc⟩ r.addr = some .hi))) :
    Inv { agent, dataPlane := dp } := by
  refine ⟨hok, fun m toAddr target hin hne => ?_, fun id r hr hadj => ?_, fun id r hr hadj => ?_⟩
  · rcases hdp m toAddr with hsame | ⟨-, hhi⟩
    · obtain ⟨id, r, s, hf, hm, hto⟩ := h.adjusted m toAddr target (hsame.symm.trans hin) hne
      exact ⟨id, r, s, hext.flow hf, hm, hto⟩
    · exact absurd (Option.some.inj (hin.symm.trans hhi)) hne
  · rcases hnew id r hr with hold | ⟨hhi, hway⟩
    · obtain ⟨s, hs, hin⟩ := h.agree.adjustable id r hold hadj
      exact ⟨s, hext.sender _ s hs, hdp.some hin⟩
    · rw [hhi]
      exact hway hadj
  · rcases hnew id r hr with hold | ⟨hhi, -⟩
    · exact h.agree.other id r hold hadj
    · exact hhi

theorem onAddStream_sendonly (h : Inv sw) (hdir : m.direction = .sendonly)
    (hc : sw.agent.nextSendStreamId.toNat + 2 < 2 ^ 32)
    (hres : (onAddStream o m sw).result = .ok ()) : Inv (onAddStream o m sw).state := by
  rw [onAddStream_of_sendonly o hdir] at hres ⊢
  obtain ⟨⟨⟩, hadd, -, hst⟩ := Eff.bind_ok hres
  obtain ⟨hok, hext, hrecv⟩ := SwitchAgentState.addSendStream_ok h.ok hc hadd
  rw [hst]
  refine h.grow hok hext (DataPlaneModel.addStream_extends _ _) fun id r hr => .inl ?_
  unfold SwitchAgentState.receiver at hr ⊢
  rw [← hrecv]
  exact hr

theorem onAddStream_recvonly (h : Inv sw) (hdir : m.direction = .recvonly)
    (hc : ∀ e ∈ sw.agent.getSendStream o m.sessionId m.mainSSRC,
      sw.agent.CanListen m e.2.toAgentStream ∧
        (e.2.type = .video → m.addr ≠ { ip := 0, port := 0 }))
    (hres : (onAddStream o m sw).result = .ok ()) : Inv (onAddStream o m sw).state := by
  have hprog := onAddStream_of_recvonly o hdir sw
  cases hs : sw.agent.getSendStream o m.sessionId m.mainSSRC with
  | none =>
      rw [hprog, hs]
      exact h
  | some e =>
      obtain ⟨sid, s⟩ := e
      obtain ⟨hcan, haddr⟩ := hc (sid, s) hs
      rw [hprog, hs] at hres ⊢
      dsimp only at hres ⊢
      obtain ⟨⟨⟩, hadd, -, hst⟩ := Eff.bind_ok hres
      obtain ⟨hok, hext, hnew⟩ := SwitchAgentState.addReceiveStream_ok h.ok (fun sid' s' hs' => by
        obtain ⟨-, rfl⟩ := Prod.mk.inj (Option.some.inj (hs.symm.trans hs'))
        exact hcan) hadd
      rw [hst]
      refine h.grow hok hext (DataPlaneModel.addStream_extends _ _) fun id r hr => ?_
      refine (hnew id r hr).imp_right fun ⟨hhi, hway⟩ => ⟨hhi, fun hadj => ?_⟩
      obtain ⟨hto, s', hs'⟩ := hway hadj
      obtain ⟨hid, rfl⟩ := Prod.mk.inj (Option.some.inj (hs.symm.trans hs'))
      obtain ⟨hsender, -, hssrc⟩ := SwitchAgentState.sender_of_getSendStream hs
      have hsender' := hext.sender _ _ hsender
      rw [hid] at hsender'
      refine ⟨s.toAgentStream, hsender', ?_⟩
      have hvideo : s.type = .video := by
        obtain ⟨a, ha, -, -, htype⟩ := hok.sender id r hr
        obtain rfl := Option.some.inj (hsender'.symm.trans ha)
        exact htype.trans hadj.1
      have hfree : ∀ target, sw.dataPlane.inForce ⟨s.addr, m.mainSSRC⟩ m.addr = some target →
          target = .hi := by
        intro target hin
        by_contra hne
        obtain ⟨id', q, a, hf, hm, hq⟩ := h.adjusted _ _ target hin hne
        obtain ⟨ha, hss⟩ := Match.mk.inj hm
        exact hcan.way hvideo _ (SwitchAgentState.mem_entries hf.receiver) hf.adjustable hq.symm a
          hf.sender ⟨ha.symm, hss.symm.trans hssrc.symm⟩
      change DataPlaneModel.inForce _ ⟨s.addr, s.ssrc⟩ r.addr = _
      rw [hssrc, hto]
      exact @DataPlaneModel.inForce_addStream_dst _ (receiverStream m s.addr) (haddr hvideo) hfree

end AddStream

/-! ## Runs -/

def EventOk (o : WalkOrder) (sw : Switch) : Event → Prop
  | .addStream m => AddStreamOk o sw m
  | .packet _ sender buf => DataPlaneModel.ReachesAgent buf → DatagramOk sw.agent sender buf
  | .setDecodeTarget .. => True

instance (o : WalkOrder) (sw : Switch) (ev : Event) : Decidable (EventOk o sw ev) := by
  cases ev <;> unfold EventOk <;> infer_instance

theorem handle_inv {o : WalkOrder} {sw : Switch} {ev : Event} (h : Inv sw) (hc : EventOk o sw ev)
    (hres : (handle o ev sw).result = .ok ()) : Inv (handle o ev sw).state := by
  cases ev with
  | addStream m =>
      change AddStreamOk o sw m at hc
      unfold AddStreamOk at hc
      by_cases hsend : m.direction = .sendonly
      · rw [hsend] at hc
        exact onAddStream_sendonly h hsend hc hres
      by_cases hrecv : m.direction = .recvonly
      · rw [hrecv] at hc
        exact onAddStream_recvonly h hrecv hc hres
      · show Inv (onAddStream o m sw).state
        rw [onAddStream_of_other o hsend hrecv]
        exact h
  | packet lost sender buf => exact onPacket_inv h hc
  | setDecodeTarget sessionId ssrc participantId n =>
      exact ((adjustDecodeTarget_keeps o sessionId ssrc participantId n).bind
        fun _ => Eff.keeps_emit _) sw h

end Switch

namespace SwitchProcess

def StepOk (p : SwitchProcess) (x : WalkOrder × Switch.Event) : Prop :=
  p.running = true → Switch.EventOk x.1 p.switch x.2

instance (p : SwitchProcess) (x : WalkOrder × Switch.Event) : Decidable (StepOk p x) :=
  inferInstanceAs (Decidable (_ → _))

/-- As long as the process runs, the agent and the data plane agree. -/
def Agree (p : SwitchProcess) : Prop := p.running = true → p.switch.Agree

/-- A request that is answered with an error changes nothing. -/
def ErrorKeeps (p : SwitchProcess) (x : WalkOrder × Switch.Event) : Prop :=
  ∀ sessionId ssrc participantId decodeTarget,
    x.2 = .setDecodeTarget sessionId ssrc participantId decodeTarget →
    SwitchEffect.response false ∈ (step p x).2 → (step p x).1 = p

theorem step_inv {p : SwitchProcess} {x : WalkOrder × Switch.Event}
    (h : p.running = true → p.switch.Inv) (hc : StepOk p x) :
    (step p x).1.running = true → (step p x).1.switch.Inv := by
  intro hrun
  unfold step at hrun ⊢
  by_cases hp : p.running = true
  · rw [if_pos hp] at hrun ⊢
    dsimp only at hrun ⊢
    cases hres : (Switch.handle x.1 x.2 p.switch).result with
    | error e =>
        rw [hres] at hrun
        exact absurd hrun Bool.false_ne_true
    | ok _ => exact Switch.handle_inv (h hp) (hc hp) hres
  · rw [if_neg hp] at hrun
    exact absurd hrun hp

theorem step_errorKeeps (p : SwitchProcess) (x : WalkOrder × Switch.Event) : ErrorKeeps p x := by
  obtain ⟨o, ev⟩ := x
  rintro sessionId ssrc participantId n rfl herr
  unfold step at herr ⊢
  by_cases hp : p.running = true
  · rw [if_pos hp] at herr ⊢
    change SwitchEffect.response false ∈
      (Switch.onAPISetDecodeTarget o sessionId ssrc participantId n p.switch).effects at herr
    unfold Switch.onAPISetDecodeTarget at herr
    rcases Switch.adjustDecodeTarget_cases o p.switch sessionId ssrc participantId n with hno | hyes
    · dsimp only [Switch.handle, Switch.onAPISetDecodeTarget]
      rw [Eff.bind_of_ok hno]
      obtain ⟨sw, running⟩ := p
      obtain rfl : running = true := hp
      rfl
    · obtain ⟨_, _, _, _, _, -, -, -, -, hrun⟩ := hyes
      rw [Eff.bind_of_ok hrun] at herr
      have heq : SwitchEffect.response false = .response true := List.mem_singleton.mp herr
      exact absurd heq (by decide)
  · rw [if_neg hp]

/-- **Agreement.** In a run whose events meet the condition, the agent and the data plane agree in
every state; and a request that is answered with an error changes nothing. -/
theorem decode_targets_agree {av1RtpExt : Nat} {xs : List (WalkOrder × Switch.Event)}
    (h : Along StepOk step (init av1RtpExt) xs) :
    Always Agree step (init av1RtpExt) xs ∧ Along ErrorKeeps step (init av1RtpExt) xs := by
  have hinv : Always (fun p => p.running = true → p.switch.Inv) step (init av1RtpExt) xs :=
    h.always (fun p x hp hc => step_inv hp hc) fun _ => Switch.inv_init av1RtpExt
  exact ⟨hinv.mono fun p hp hrun => (hp hrun).agree, .of_forall step_errorKeeps _ _⟩

/-! ## A listener -/

section Example

/-- Participant `1` of session `1` sends from `1:1`. -/
def exampleSend (mediaType : MediaType) : Rpc.AddStream where
  sessionId := 1
  participantId := 1
  ip := 1
  port := 1
  mainSSRC := 5
  mediaType
  direction := .sendonly

/-- Participant `2` receives it at `2:2`. -/
def exampleReceive (mediaType : MediaType) : Rpc.AddStream where
  sessionId := 1
  participantId := 2
  ip := 2
  port := 2
  mainSSRC := 5
  rtcpSSRC := 9
  mediaType
  direction := .recvonly

/-- A receiver report and an estimate for SSRC `5`, with the exponent and the mantissa in three bytes. -/
def exampleEstimate (hi mid lo : UInt8) : Buf :=
  [0x80, 201, 0, 1, 0, 0, 0, 9, 0x8f, 206, 0, 5, 0, 0, 0, 9, 0, 0, 0, 0, 0x52, 0x45, 0x4d, 0x42,
    1, hi, mid, lo, 0, 0, 0, 5]

def exampleRun : List (WalkOrder × Switch.Event) :=
  [(default, .addStream (exampleSend .video)), (default, .addStream (exampleReceive .video)),
    (default, .packet false ⟨2, 2⟩ (exampleEstimate 0x0e 0xdc 0x6c)),
    (default, .setDecodeTarget 1 5 2 0)]

theorem decode_targets_agree_video :
    Always Agree step (init 1) exampleRun ∧ Along ErrorKeeps step (init 1) exampleRun :=
  decode_targets_agree (by decide)

/-- An estimate of 500 kbit/s changes the target of an audio stream. -/
theorem audio_target_changes :
    ¬ ∀ (av1RtpExt : Nat) (xs : List (WalkOrder × Switch.Event)),
      Always Agree step (init av1RtpExt) xs := by
  intro h
  have hrun := (h 1 [(default, .addStream (exampleSend .audio)),
    (default, .addStream (exampleReceive .audio)),
    (default, .packet false ⟨2, 2⟩ (exampleEstimate 0x09 0xe8 0x48))]).final (by decide)
  have haudio : ((final step (init 1) [(default, .addStream (exampleSend .audio)),
      (default, .addStream (exampleReceive .audio)),
      (default, .packet false ⟨2, 2⟩ (exampleEstimate 0x09 0xe8 0x48))]).switch.agent.receiver 0).any
        (fun r => r.type = .audio ∧ r.decodeTarget = .lo) = true := by decide
  obtain ⟨r, hr, hlo⟩ := (Option.any_eq_true _ _).mp haudio
  rw [decide_eq_true_eq] at hlo
  have hhi := hrun.other 0 r hr fun hadj => absurd (hlo.1.symm.trans hadj.1) (by decide)
  exact absurd (hlo.2.symm.trans hhi) (by decide)

end Example

end SwitchProcess

end Scallop
