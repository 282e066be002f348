import Scallop.DataPlane.Routes
import Scallop.SwitchAgent.DecodeTargets
import Scallop.SwitchAgent.Registry

/-!
# Routing

Where a switch sends the datagrams that it gets, in terms of the messages of the controller.

* `streamOf` : the stream that the data plane takes up for a message; `SwitchProcess.streams` : those of a run;
* `handle_routes` : how an event changes the routes; `Forwards`, `onPacket_forwards` : a datagram;
* `sends_to_routes` : in every run datagrams go where the streams say;
* `Rpc.Announces` : two messages of one session that have a stream taken up; `Rpc.Connects` : the endpoints and SSRCs
  of this stream, both ways;
* `forwards_in_session` : in every run datagrams go from and to endpoints of one session, by their SSRCs.
-/

namespace Scallop

open Av1 Machine

def SwitchEffect.datagram : SwitchEffect → Option (IPv4Port × Buf)
  | .send toAddr buf => some (toAddr, buf)
  | _ => none

def DataPlaneModel.Configured (av1RtpExt : Nat) (dp : DataPlaneModel) : Prop :=
  dp.av1RtpExt = av1RtpExt ∧ dp.hasController = true

namespace Rpc

theorem AddStream.addr_of_mem_sendStreams (m : AddStream) {a : AgentStream} (h : a ∈ m.sendStreams) :
    a.addr = m.addr := by
  unfold sendStreams at h
  dsimp only at h
  split at h
  · rcases List.mem_pair.mp h with rfl | rfl
    · rfl
    · rfl
  · obtain rfl := List.mem_singleton.mp h
    rfl

/-- Two messages of one session: the second one is about a receiver of a stream of the first one's sender. -/
structure Announces (log : List AddStream) (a b : AddStream) : Prop where
  sender : a ∈ log ∧ a.direction = .sendonly
  receiver : b ∈ log ∧ b.direction = .recvonly
  session : a.sessionId = b.sessionId
  stream : b.mainSSRC ∈ streamSSRCs a.ssrcs

/-- A datagram with this SSRC goes from `sender` to `toAddr`: with media, from the sender to the receiver, or with what
the receiver returns. -/
def Connects (a b : AddStream) (sender toAddr : IPv4Port) (ssrc : SSRC) : Prop :=
  (sender = a.addr ∧ toAddr = b.addr ∧ ssrc ∈ streamSSRCs b.ssrcs) ∨
    (sender = b.addr ∧ toAddr = a.addr ∧ ssrc ∈ streamSSRCs (b.rtcpSSRC, b.rtcpRtxSSRC))

theorem Announces.append {log : List AddStream} {a b : AddStream} (h : Announces log a b)
    (log' : List AddStream) : Announces (log ++ log') a b where
  sender := ⟨List.mem_append_left _ h.sender.1, h.sender.2⟩
  receiver := ⟨List.mem_append_left _ h.receiver.1, h.receiver.2⟩
  session := h.session
  stream := h.stream

end Rpc

namespace Switch

/-! ## Streams -/

/-- The stream that the data plane takes up for a message: that of a sender with new SSRCs, or that of a receiver,
whose source is the sender that the agent finds for it. -/
def streamOf (o : WalkOrder) (sw : Switch) (m : Rpc.AddStream) : Option DataPlaneStream :=
  match m.direction with
  | .sendonly =>
      if m.mainSSRC ∉ sw.agent.session m.sessionId ∧ m.rtxSSRC ∉ sw.agent.session m.sessionId then
        some (senderStream m)
      else none
  | .recvonly =>
      (sw.agent.getSendStream o m.sessionId m.mainSSRC).bind fun s =>
        if m.rtxSSRC ≠ 0 → (sw.agent.getSendStream o m.sessionId m.rtxSSRC).isSome then
          some (receiverStream m s.2.addr)
        else none
  | _ => none

section AddStream
variable {o : WalkOrder} {sw : Switch} {m : Rpc.AddStream}

theorem onAddStream_dataPlane :
    (onAddStream o m sw).state.dataPlane = sw.dataPlane.addStreams (streamOf o sw m).toList := by
  unfold streamOf
  by_cases hsend : m.direction = .sendonly
  · rw [onAddStream_of_sendonly o hsend, hsend]
    dsimp only
    by_cases hok : m.mainSSRC ∉ sw.agent.session m.sessionId ∧ m.rtxSSRC ∉ sw.agent.session m.sessionId
    · rw [if_pos hok, register_ok _ (SwitchAgentState.addSendStream_ok_iff.mpr hok)]
      rfl
    · rw [if_neg hok, register_error _ fun hres => hok (SwitchAgentState.addSendStream_ok_iff.mp hres)]
      rfl
  by_cases hrecv : m.direction = .recvonly
  · rw [onAddStream_of_recvonly o hrecv, hrecv]
    cases hs : sw.agent.getSendStream o m.sessionId m.mainSSRC with
    | none => rfl
    | some s =>
        obtain ⟨sid, s⟩ := s
        have hmain : sw.agent.Sends m.sessionId m.mainSSRC := by
          rw [← SwitchAgentState.getSendStream_isSome_iff (o := o), hs]
          rfl
        have hiff := (@SwitchAgentState.addReceiveStream_sends o sw.agent m.sessionId
          s.sendingParticipant m.participantId m.addr m.mainSSRC m.rtxSSRC).2
        rw [← @SwitchAgentState.getSendStream_isSome_iff o sw.agent m.sessionId m.rtxSSRC,
          and_iff_right hmain] at hiff
        dsimp only
        rw [Option.bind_some]
        by_cases hok : m.rtxSSRC ≠ 0 → (sw.agent.getSendStream o m.sessionId m.rtxSSRC).isSome
        · rw [if_pos hok, register_ok _ (hiff.mpr hok)]
          rfl
        · rw [if_neg hok, register_error _ fun hres => hok (hiff.mp hres)]
          rfl
  · rw [onAddStream_of_other o hsend hrecv]
    cases hdir : m.direction with
    | sendonly => exact absurd hdir hsend
    | recvonly => exact absurd hdir hrecv
    | sendrecv => rfl
    | inactive => rfl

end AddStream

/-! ## What RTCP packets change -/

/-- A property that new decode targets and estimates leave. -/
structure Stable (I : Switch → Prop) : Prop where
  setReceiveStream : ∀ sw id r, I sw → I { sw with agent := sw.agent.setReceiveStream id r }
  adjustDecodeTarget : ∀ sw sender toAddr ssrc target, I sw →
    I { sw with dataPlane := sw.dataPlane.adjustDecodeTarget sender toAddr ssrc target }

namespace Stable
variable {I : Switch → Prop} {o : WalkOrder} {sender : IPv4Port} (h : Stable I)
include h

theorem keeps_setReceiveStream (id : UInt32) (r : ReceiveStream) : Eff.Keeps I (Switch.setReceiveStream id r) :=
  fun sw => h.setReceiveStream sw id r

theorem keeps_adjustDecodeTarget (sessionId : Nat) (ssrc : SSRC) (participantId n : Nat) :
    Eff.Keeps I (Switch.adjustDecodeTarget o sessionId ssrc participantId n) := by
  intro sw hsw
  rcases adjustDecodeTarget_cases o sw sessionId ssrc participantId n with hno | hyes
  · rw [hno]
    exact hsw
  · obtain ⟨_, _, _, _, _, -, -, -, -, hrun⟩ := hyes
    rw [hrun]
    exact h.setReceiveStream _ _ _ (h.adjustDecodeTarget _ _ _ _ _ hsw)

theorem keeps_processEstimate (ssrc : SSRC) (bitRate : UInt32) :
    Eff.Keeps I (processEstimate o sender ssrc bitRate) := by
  refine Eff.keeps_get_bind fun sw => ?_
  cases sw.agent.getReceiveStreamFrom o sender ssrc with
  | none => exact Eff.keeps_pure _
  | some e =>
      refine (h.keeps_setReceiveStream _ _).bind fun _ => ?_
      dsimp only
      split
      · exact (h.keeps_setReceiveStream _ _).bind fun _ => (h.keeps_adjustDecodeTarget _ _ _ _).bind fun _ =>
          Eff.keeps_pure _
      · exact Eff.keeps_pure _

theorem keeps_processEstimates (buf : Buf) (n i : Nat) : Eff.Keeps I (processEstimates o sender buf n i) := by
  induction n generalizing i with
  | zero => exact Eff.keeps_pure _
  | succ n ih =>
      refine (Eff.keeps_require _ _).bind fun _ => (h.keeps_processEstimate _ _).bind fun found => ?_
      cases found with
      | true => exact ih _
      | false => exact Eff.keeps_pure _

theorem keeps_process (buf : Buf) (handler : RtcpHandler) : Eff.Keeps I (process o sender buf handler) := by
  refine (Eff.keeps_emit _).bind fun _ => ?_
  cases handler with
  | receiverReport => exact Eff.keeps_require _ _
  | pictureLossIndication => exact Eff.keeps_require _ _
  | receiverEstimatedBitrate =>
      exact (Eff.keeps_require _ _).bind fun _ => h.keeps_processEstimates _ _ _
  | negativeAcknowledgement => exact Eff.keeps_require _ _

theorem keeps_handleRTCPPackets (fuel : Nat) (buf : Buf) :
    Eff.Keeps I (handleRTCPPackets o sender fuel buf) := by
  induction fuel generalizing buf with
  | zero => exact Eff.keeps_pure _
  | succ fuel ih =>
      unfold handleRTCPPackets
      split
      · exact Eff.keeps_pure _
      refine (Eff.keeps_require _ _).bind fun _ => ?_
      have hrest : Eff.Keeps I (do
          Eff.require (Rtcp.byteLen buf ≤ buf.length) .outOfBounds
          handleRTCPPackets o sender fuel (buf.drop (Rtcp.byteLen buf))) :=
        (Eff.keeps_require _ _).bind fun _ => ih _
      cases handlerOf buf with
      | none => exact hrest
      | some handler => exact (h.keeps_process _ _).bind fun _ => hrest

theorem keeps_onEffects (es : List Effect) : Eff.Keeps I (onEffects o es) := by
  induction es with
  | nil => exact Eff.keeps_pure _
  | cons e es ih =>
      refine Eff.Keeps.bind ?_ fun _ => ih
      cases e with
      | send toAddr buf => exact Eff.keeps_emit _
      | toController reason sender buf =>
          cases reason with
          | stun => exact Eff.keeps_pure _
          | av1 => exact Eff.keeps_get_bind fun _ => (Eff.keeps_ofExcept _).bind fun _ => Eff.keeps_pure _
          | rtcp => exact h.keeps_handleRTCPPackets _ _

/-- A datagram keeps what the data plane keeps of it. -/
theorem onPacket {sw : Switch} {lost : Bool} {buf : Buf}
    (hsw : I { sw with dataPlane := (DataPlaneModel.onPacket lost sender buf sw.dataPlane).state }) :
    I (onPacket o lost sender buf sw).state :=
  ((h.keeps_onEffects (o := o) _).bind fun _ => Eff.keeps_ofExcept _ : Eff.Keeps I (do
    onEffects o (DataPlaneModel.onPacket lost sender buf sw.dataPlane).effects
    Eff.ofExcept (DataPlaneModel.onPacket lost sender buf sw.dataPlane).result)) _ hsw

theorem keeps_onAPISetDecodeTarget (sessionId : Nat) (ssrc : SSRC) (participantId n : Nat) :
    Eff.Keeps I (onAPISetDecodeTarget o sessionId ssrc participantId n) :=
  (h.keeps_adjustDecodeTarget _ _ _ _).bind fun _ => Eff.keeps_emit _

end Stable

/-! ## Sessions -/

def Event.message : Event → Option Rpc.AddStream
  | .addStream m => some m
  | _ => none

/-- The send streams of the agent are those of messages. -/
def Knows (log : List Rpc.AddStream) (sw : Switch) : Prop :=
  ∀ id a, sw.agent.sender id = some a → ∃ m ∈ log, m.direction = .sendonly ∧ a ∈ m.sendStreams

/-- A stream is of one message, or of two that belong together. -/
def StreamFrom (log : List Rpc.AddStream) (s : DataPlaneStream) : Prop :=
  (∃ m ∈ log, s = senderStream m) ∨ ∃ a b, Rpc.Announces log a b ∧ s = receiverStream b a.addr

section Sessions
variable {o : WalkOrder} {sw : Switch} {m : Rpc.AddStream} {log : List Rpc.AddStream} {ev : Event}

/-- The send streams after `addSendStream` : those that were there, and those of the message. -/
theorem mem_sendStreams {st : SwitchAgentState} {id : UInt32} {a : AgentStream}
    (h : (SwitchAgentState.addSendStream m.sessionId m.participantId m.addr m.mediaType m.mainSSRC m.rtxSSRC
      st).state.sender id = some a) : st.sender id = some a ∨ a ∈ m.sendStreams := by
  cases hres : (SwitchAgentState.addSendStream m.sessionId m.participantId m.addr m.mediaType m.mainSSRC
      m.rtxSSRC st).result with
  | error e =>
      rw [SwitchAgentState.addSendStream_error hres, SwitchAgentState.withSession_eq] at h
      exact .inl h
  | ok u =>
      obtain ⟨-, -, hst⟩ := SwitchAgentState.addSendStream_inv hres
      rw [hst, SwitchAgentState.withSession_eq] at h
      unfold Rpc.AddStream.sendStreams
      dsimp only at h ⊢
      split at h
      · rw [if_pos ‹m.rtxSSRC ≠ 0›, List.mem_pair]
        rcases SwitchAgentState.sender_pushSendStream_iff.mp h with ⟨-, rfl⟩ | ⟨-, h⟩
        · exact .inr (.inr rfl)
        rcases SwitchAgentState.sender_pushSendStream_iff.mp h with ⟨-, rfl⟩ | ⟨-, h⟩
        · exact .inr (.inl rfl)
        · exact .inl h
      · rw [if_neg ‹¬ m.rtxSSRC ≠ 0›, List.mem_singleton]
        rcases SwitchAgentState.sender_pushSendStream_iff.mp h with ⟨-, rfl⟩ | ⟨-, h⟩
        · exact .inr rfl
        · exact .inl h

theorem Knows.mono (h : sw.Knows log) (log' : List Rpc.AddStream) : sw.Knows (log ++ log') := by
  intro id a ha
  obtain ⟨m, hm, hdir, hmem⟩ := h id a ha
  exact ⟨m, List.mem_append_left _ hm, hdir, hmem⟩

theorem StreamFrom.mono {s : DataPlaneStream} (h : StreamFrom log s) (log' : List Rpc.AddStream) :
    StreamFrom (log ++ log') s := by
  rcases h with ⟨m, hm, rfl⟩ | ⟨a, b, hab, rfl⟩
  · exact .inl ⟨m, List.mem_append_left _ hm, rfl⟩
  · exact .inr ⟨a, b, hab.append log', rfl⟩

theorem Knows.onAddStream (h : sw.Knows log) : (onAddStream o m sw).state.Knows (log ++ [m]) := by
  have hlog := h.mono [m]
  by_cases hsend : m.direction = .sendonly
  · rw [onAddStream_of_sendonly o hsend]
    have hnew : ∀ f, Knows (log ++ [m]) ⟨(SwitchAgentState.addSendStream m.sessionId m.participantId m.addr
        m.mediaType m.mainSSRC m.rtxSSRC sw.agent).state, f⟩ := by
      intro f id a ha
      rcases mem_sendStreams ha with hold | hmem
      · exact hlog id a hold
      · exact ⟨m, List.mem_append_right _ List.mem_cons_self, hsend, hmem⟩
    by_cases hok : (SwitchAgentState.addSendStream m.sessionId m.participantId m.addr m.mediaType m.mainSSRC
        m.rtxSSRC sw.agent).result = .ok ()
    · rw [register_ok _ hok]
      exact hnew _
    · rw [register_error _ hok]
      exact hnew _
  by_cases hrecv : m.direction = .recvonly
  · rw [onAddStream_of_recvonly o hrecv]
    cases hs : sw.agent.getSendStream o m.sessionId m.mainSSRC with
    | none => exact hlog
    | some s =>
        obtain ⟨sid, s⟩ := s
        have hsender := (@SwitchAgentState.addReceiveStream_sends o sw.agent m.sessionId
          s.sendingParticipant m.participantId m.addr m.mainSSRC m.rtxSSRC).1
        have hnew : ∀ f, Knows (log ++ [m]) ⟨(SwitchAgentState.addReceiveStream o m.sessionId
            s.sendingParticipant m.participantId m.addr m.mainSSRC m.rtxSSRC sw.agent).state, f⟩ :=
          fun f id a ha => hlog id a ((hsender id).symm.trans ha)
        dsimp only
        by_cases hok : (SwitchAgentState.addReceiveStream o m.sessionId s.sendingParticipant m.participantId
            m.addr m.mainSSRC m.rtxSSRC sw.agent).result = .ok ()
        · rw [register_ok _ hok]
          exact hnew _
        · rw [register_error _ hok]
          exact hnew _
  · rw [onAddStream_of_other o hsend hrecv]
    exact hlog

theorem Knows.handle (h : sw.Knows log) : (handle o ev sw).state.Knows (log ++ ev.message.toList) := by
  have hstable : ∀ log, Stable (Knows log) := fun log => ⟨fun _ _ _ h => h, fun _ _ _ _ _ h => h⟩
  cases ev with
  | addStream m => exact h.onAddStream
  | packet lost sender buf =>
      rw [show Event.message (.packet lost sender buf) = none from rfl, Option.toList_none, List.append_nil]
      exact (hstable log).onPacket h
  | setDecodeTarget sessionId ssrc participantId n =>
      rw [show Event.message (.setDecodeTarget sessionId ssrc participantId n) = none from rfl,
        Option.toList_none, List.append_nil]
      exact (hstable log).keeps_onAPISetDecodeTarget _ _ _ _ sw h

/-- The stream of a message, when the agent knows the messages before it. -/
theorem Knows.streamOf {s : DataPlaneStream} (h : sw.Knows log) (hs : streamOf o sw m = some s) :
    StreamFrom (log ++ [m]) s := by
  have hlast : m ∈ log ++ [m] := List.mem_append_right _ List.mem_cons_self
  unfold Switch.streamOf at hs
  cases hdir : m.direction with
  | sendonly =>
      rw [hdir] at hs
      obtain ⟨-, hs⟩ := Option.ite_none_right_eq_some.mp hs
      exact .inl ⟨m, hlast, (Option.some.inj hs).symm⟩
  | recvonly =>
      rw [hdir] at hs
      obtain ⟨⟨id, r⟩, hr, hs⟩ := Option.bind_eq_some_iff.mp hs
      obtain ⟨-, hs⟩ := Option.ite_none_right_eq_some.mp hs
      obtain rfl := Option.some.inj hs
      obtain ⟨hsender, hsession, hssrc⟩ := SwitchAgentState.sender_of_getSendStream hr
      obtain ⟨a, ha, hadir, hmem⟩ := h id _ hsender
      refine .inr ⟨a, m, ⟨⟨List.mem_append_left _ ha, hadir⟩, ⟨hlast, hdir⟩, ?_, ?_⟩, ?_⟩
      · exact (a.sessionId_of_mem_sendStreams hmem).symm.trans hsession
      · rw [← hssrc, ← a.sendStreams_ssrcs]
        exact List.mem_map_of_mem hmem
      · rw [← a.addr_of_mem_sendStreams hmem]
  | sendrecv =>
      rw [hdir] at hs
      cases hs
  | inactive =>
      rw [hdir] at hs
      cases hs

end Sessions

/-! ## Routes -/

/-- The streams that an event has the data plane take up. -/
def streamsOf (o : WalkOrder) (sw : Switch) : Event → List DataPlaneStream
  | .addStream m => (streamOf o sw m).toList
  | _ => []

theorem handle_routes (o : WalkOrder) (sw : Switch) (ev : Event) (key : Match) :
    (handle o ev sw).state.dataPlane.sfu.routes key =
      ((streamsOf o sw ev).flatMap fun s => s.destinations key).foldl List.concatNew
        (sw.dataPlane.sfu.routes key) := by
  have hstable : Stable fun sw' => sw'.dataPlane.sfu.routes = sw.dataPlane.sfu.routes :=
    ⟨fun _ _ _ h => h, fun _ _ _ _ _ h => (DataPlaneModel.routes_adjustDecodeTarget _ _ _ _ _).trans h⟩
  cases ev with
  | addStream m =>
      show (onAddStream o m sw).state.dataPlane.sfu.routes key = _
      rw [onAddStream_dataPlane]
      exact DataPlaneModel.routes_addStreams
  | packet lost sender buf =>
      exact congrFun (hstable.onPacket (DataPlaneModel.onPacket_routes lost sender buf _)) key
  | setDecodeTarget sessionId ssrc participantId n =>
      exact congrFun (hstable.keeps_onAPISetDecodeTarget _ _ _ _ sw rfl) key

theorem handle_configured {av1RtpExt : Nat} {o : WalkOrder} {sw : Switch} {ev : Event}
    (h : sw.dataPlane.Configured av1RtpExt) : (handle o ev sw).state.dataPlane.Configured av1RtpExt := by
  have hstream : ∀ (dp : DataPlaneModel) s, dp.Configured av1RtpExt → (dp.addStream s).Configured av1RtpExt := by
    intro dp s h
    unfold DataPlaneModel.addStream
    dsimp only
    split
    · exact h
    · exact h
  have hstable : Stable fun sw => sw.dataPlane.Configured av1RtpExt := by
    refine ⟨fun _ _ _ h => h, fun sw sender toAddr ssrc target h => ?_⟩
    unfold DataPlaneModel.adjustDecodeTarget
    split
    · exact h
    · exact h
  cases ev with
  | addStream m =>
      show (onAddStream o m sw).state.dataPlane.Configured av1RtpExt
      rw [onAddStream_dataPlane]
      cases streamOf o sw m with
      | none => exact h
      | some s => exact hstream _ _ h
  | packet lost sender buf =>
      refine hstable.onPacket (DataPlaneModel.onPacket_keeps (fun _ _ h => h) ?_ lost sender buf _ h)
      intro sender buf av1 dp h
      unfold DataPlaneModel.forwardRTP
      rw [Eff.get_bind_run]
      cases dp.sfu.entry ⟨sender, Rtp.ssrc buf⟩ with
      | none => exact h
      | some e => exact h
  | setDecodeTarget sessionId ssrc participantId n =>
      exact hstable.keeps_onAPISetDecodeTarget _ _ _ _ sw h

/-! ## Datagrams -/

/-- The datagrams of what a switch does, in order. -/
def datagrams (es : List SwitchEffect) : List (IPv4Port × Buf) := es.filterMap SwitchEffect.datagram

section Datagrams
variable {o : WalkOrder} {sw : Switch} {sender : IPv4Port} {buf : Buf}

def Silent {α : Type} (m : SwitchEff α) : Prop := Eff.Only (fun e => e.datagram = none) m

theorem silent_adjustDecodeTarget (sessionId : Nat) (ssrc : SSRC) (participantId n : Nat) :
    Silent (adjustDecodeTarget o sessionId ssrc participantId n) := by
  intro sw e he
  rcases adjustDecodeTarget_cases o sw sessionId ssrc participantId n with hno | hyes
  · rw [hno] at he
    exact absurd he List.not_mem_nil
  · obtain ⟨_, _, _, _, _, -, -, -, -, hrun⟩ := hyes
    rw [hrun] at he
    exact absurd he List.not_mem_nil

theorem silent_processEstimate (ssrc : SSRC) (bitRate : UInt32) :
    Silent (processEstimate o sender ssrc bitRate) := by
  refine Eff.only_get_bind fun sw => ?_
  cases sw.agent.getReceiveStreamFrom o sender ssrc with
  | none => exact Eff.only_pure _
  | some e =>
      refine (Eff.only_modify _).bind fun _ => ?_
      dsimp only
      split
      · exact (Eff.only_modify _).bind fun _ => (silent_adjustDecodeTarget _ _ _ _).bind fun _ =>
          Eff.only_pure _
      · exact Eff.only_pure _

theorem silent_processEstimates (n i : Nat) : Silent (processEstimates o sender buf n i) := by
  induction n generalizing i with
  | zero => exact Eff.only_pure _
  | succ n ih =>
      refine (Eff.only_require _ _).bind fun _ => (silent_processEstimate _ _).bind fun found => ?_
      cases found with
      | true => exact ih _
      | false => exact Eff.only_pure _

theorem silent_process (handler : RtcpHandler) : Silent (process o sender buf handler) := by
  have hemit : Silent (Eff.emit (.process handler sender (buf.take (Rtcp.byteLen buf)))) := Eff.only_emit rfl
  refine hemit.bind fun _ => ?_
  cases handler with
  | receiverReport => exact Eff.only_require _ _
  | pictureLossIndication => exact Eff.only_require _ _
  | receiverEstimatedBitrate => exact (Eff.only_require _ _).bind fun _ => silent_processEstimates _ _
  | negativeAcknowledgement => exact Eff.only_require _ _

theorem silent_handleRTCPPackets (fuel : Nat) : Silent (handleRTCPPackets o sender fuel buf) := by
  induction fuel generalizing buf with
  | zero => exact Eff.only_pure _
  | succ fuel ih =>
      unfold handleRTCPPackets
      split
      · exact Eff.only_pure _
      refine (Eff.only_require _ _).bind fun _ => ?_
      have hrest : Silent (do
          Eff.require (Rtcp.byteLen buf ≤ buf.length) .outOfBounds
          handleRTCPPackets o sender fuel (buf.drop (Rtcp.byteLen buf))) :=
        (Eff.only_require _ _).bind fun _ => ih
      cases handlerOf buf with
      | none => exact hrest
      | some handler => exact (silent_process _).bind fun _ => hrest

theorem silent_toController (reason : Reason) :
    Silent (onEffect o (.toController reason sender buf)) := by
  cases reason with
  | stun => exact Eff.only_pure _
  | av1 => exact Eff.only_get_bind fun _ => (Eff.only_ofExcept _).bind fun _ => Eff.only_pure _
  | rtcp => exact silent_handleRTCPPackets _

theorem Silent.datagrams {α : Type} {m : SwitchEff α} (h : Silent m) (sw : Switch) :
    datagrams (m sw).effects = [] := List.filterMap_eq_nil_iff.mpr (h sw)

theorem datagrams_append (es es' : List SwitchEffect) :
    datagrams (es ++ es') = datagrams es ++ datagrams es' := List.filterMap_append

/-- Copies are sent, whatever comes after them. -/
theorem onEffects_copies (toAddrs : List IPv4Port) (rest : List Effect) :
    onEffects o (toAddrs.map (fun toAddr => .send toAddr buf) ++ rest) sw =
      Eff.andThen (toAddrs.map fun toAddr => .send toAddr buf) (onEffects o rest sw) := by
  induction toAddrs with
  | nil => rfl
  | cons toAddr toAddrs ih =>
      show Eff.andThen [SwitchEffect.send toAddr buf] (onEffects o (_ ++ rest) sw) = _
      rw [ih]
      rfl

/-- What is sent of what the data plane does: everything, or what comes before an exception of the agent. -/
theorem datagrams_onEffects (es : List Effect) :
    datagrams (onEffects o es sw).effects <+: DataPlaneModel.datagrams es ∧
      ((onEffects o es sw).result = .ok () →
        datagrams (onEffects o es sw).effects = DataPlaneModel.datagrams es) := by
  induction es generalizing sw with
  | nil => exact ⟨List.prefix_rfl, fun _ => rfl⟩
  | cons e es ih =>
      cases e with
      | send toAddr buf =>
          obtain ⟨hle, heq⟩ := @ih sw
          exact ⟨List.cons_prefix_cons.mpr ⟨rfl, hle⟩, fun h => congrArg ((toAddr, buf) :: ·) (heq h)⟩
      | toController reason sender buf =>
          have hnone := (silent_toController reason :
            Silent (onEffect o (.toController reason sender buf))).datagrams sw
          rcases hrun : onEffect o (.toController reason sender buf) sw with ⟨sw', es', r⟩
          rw [hrun] at hnone
          have hes : DataPlaneModel.datagrams (.toController reason sender buf :: es) =
            DataPlaneModel.datagrams es := rfl
          unfold onEffects
          cases r with
          | error e =>
              rw [Eff.bind_of_error hrun]
              dsimp only at hnone ⊢
              rw [hnone]
              exact ⟨List.nil_prefix, fun h => by cases h⟩
          | ok u =>
              rw [Eff.bind_of_ok hrun]
              show datagrams (es' ++ _) <+: _ ∧ (_ → datagrams (es' ++ _) = _)
              dsimp only at hnone
              rw [datagrams_append, hnone, List.nil_append, hes]
              exact ih

/-- What a switch sends for a datagram of `sender`: copies for all receivers; or new sequence numbers for the
receivers that get the template, all of them if it is still running then. -/
def Forwards (t : SFUTable) (sender : IPv4Port) (buf : Buf) (sends : List (IPv4Port × Buf))
    (running : Bool) : DataPlaneModel.Handling → Prop
  | .ignored => sends = []
  | .copied ssrc => sends = (t.routes ⟨sender, ssrc⟩).map fun toAddr => (toAddr, buf)
  | .rewritten ssrc templateId => (∀ d ∈ sends, ∃ seq, d.2 = Rtp.setSeq buf seq) ∧
      sends.map Prod.fst <+: t.passing ⟨sender, ssrc⟩ templateId ∧
      (running = true → sends.map Prod.fst = t.passing ⟨sender, ssrc⟩ templateId)

theorem Forwards.mem_routes {t : SFUTable} {sends : List (IPv4Port × Buf)} {running : Bool}
    {handling : DataPlaneModel.Handling} {d : IPv4Port × Buf}
    (h : Forwards t sender buf sends running handling) (hd : d ∈ sends) :
    (d.2 = buf ∨ ∃ seq, d.2 = Rtp.setSeq buf seq) ∧
      ∃ ssrc, handling.ssrc = some ssrc ∧ d.1 ∈ t.routes ⟨sender, ssrc⟩ := by
  cases handling with
  | ignored =>
      have hnone : sends = [] := h
      rw [hnone] at hd
      exact absurd hd List.not_mem_nil
  | copied ssrc =>
      have hcopies : sends = _ := h
      rw [hcopies] at hd
      obtain ⟨toAddr, hto, rfl⟩ := List.mem_map.mp hd
      exact ⟨.inl rfl, ssrc, rfl, hto⟩
  | rewritten ssrc templateId =>
      obtain ⟨hseq, hle, -⟩ := h
      have hpassing := hle.subset (List.mem_map_of_mem hd)
      exact ⟨.inr (hseq d hd), ssrc, rfl, (List.takeWhile_prefix _).subset hpassing⟩

theorem onPacket_forwards (h : sw.dataPlane.hasController = true) (lost : Bool) :
    Forwards sw.dataPlane.sfu sender buf (datagrams (onPacket o lost sender buf sw).effects)
      (onPacket o lost sender buf sw).result.isOk
      (DataPlaneModel.handling sw.dataPlane.av1RtpExt lost buf) := by
  have hsent := @DataPlaneModel.onPacket_sent sw.dataPlane sender buf h lost
  let out := DataPlaneModel.onPacket lost sender buf sw.dataPlane
  let sw' : Switch := { sw with dataPlane := out.state }
  have hrun : onPacket o lost sender buf sw =
      (onEffects o out.effects >>= fun _ => Eff.ofExcept out.result) sw' := rfl
  have hsends : datagrams (onPacket o lost sender buf sw).effects =
      datagrams (onEffects o out.effects sw').effects := by
    rw [hrun]
    rcases hres : onEffects o out.effects sw' with ⟨s, es, r⟩
    cases r with
    | error e => rw [Eff.bind_of_error hres]
    | ok u =>
        rw [Eff.bind_of_ok hres]
        exact (datagrams_append es []).trans (List.append_nil _)
  obtain ⟨hle, heq⟩ := @datagrams_onEffects o sw' out.effects
  rw [hsends]
  cases hhandling : DataPlaneModel.handling sw.dataPlane.av1RtpExt lost buf with
  | ignored =>
      rw [hhandling] at hsent
      have hnone : DataPlaneModel.datagrams out.effects = [] := hsent
      rw [hnone] at hle
      exact List.prefix_nil.mp hle
  | copied ssrc =>
      rw [hhandling] at hsent
      obtain ⟨rest, hrest, hes⟩ := hsent
      have hes : out.effects = _ := hes
      have hnone : datagrams (onEffects o rest sw').effects = [] :=
        List.prefix_nil.mp (hrest ▸ (@datagrams_onEffects o sw' rest).1)
      rw [hes, onEffects_copies]
      refine (datagrams_append _ (onEffects o rest sw').effects).trans ?_
      rw [hnone, List.append_nil]
      unfold datagrams
      rw [List.filterMap_map]
      exact congrFun List.filterMap_eq_map _
  | rewritten ssrc templateId =>
      rw [hhandling] at hsent
      obtain ⟨hto, hseq⟩ := hsent
      refine ⟨fun d hd => hseq d (hle.subset hd), hto ▸ hle.map _, fun hok => ?_⟩
      rw [heq ?_]
      · exact hto
      · cases hres : (onEffects o out.effects sw').result with
        | ok u => rfl
        | error e =>
            rcases hfull : onEffects o out.effects sw' with ⟨s, es, r⟩
            rw [hfull] at hres
            obtain rfl : r = .error e := hres
            rw [hrun, Eff.bind_of_error hfull] at hok
            exact absurd hok Bool.false_ne_true

end Datagrams

theorem silent_onAgent {α : Type} (prog : AgentStateEff α) : Silent (onAgent prog) := by
  intro sw e he
  obtain ⟨w, -, -⟩ := List.mem_map.mp he
  exact w.elim

theorem silent_onAddStream (o : WalkOrder) (m : Rpc.AddStream) : Silent (onAddStream o m) := by
  have hregister : ∀ (prog : AgentStateEff Unit) f, Silent (do onAgent prog; onDataPlane f) :=
    fun prog f => (silent_onAgent prog).bind fun _ => Eff.only_modify _
  by_cases hsend : m.direction = .sendonly
  · rw [onAddStream_of_sendonly o hsend]
    exact hregister _ _
  by_cases hrecv : m.direction = .recvonly
  · intro sw
    rw [onAddStream_of_recvonly o hrecv]
    cases sw.agent.getSendStream o m.sessionId m.mainSSRC with
    | none => exact Eff.only_pure () sw
    | some s => exact hregister _ _ sw
  · rw [onAddStream_of_other o hsend hrecv]
    exact Eff.only_pure ()

theorem handle_datagrams {o : WalkOrder} {sw : Switch} {ev : Event} {d : IPv4Port × Buf}
    (h : d ∈ datagrams (handle o ev sw).effects) : ∃ lost sender buf, ev = .packet lost sender buf := by
  cases ev with
  | packet lost sender buf => exact ⟨lost, sender, buf, rfl⟩
  | setDecodeTarget sessionId ssrc participantId n =>
      have hsilent : Silent (onAPISetDecodeTarget o sessionId ssrc participantId n) :=
        (silent_adjustDecodeTarget _ _ _ _).bind fun _ => Eff.only_emit rfl
      have hnone : datagrams (handle o (.setDecodeTarget sessionId ssrc participantId n) sw).effects = [] :=
        hsilent.datagrams sw
      rw [hnone] at h
      exact absurd h List.not_mem_nil
  | addStream m =>
      have hnone : datagrams (handle o (.addStream m) sw).effects = [] := (silent_onAddStream o m).datagrams sw
      rw [hnone] at h
      exact absurd h List.not_mem_nil

end Switch

namespace SwitchProcess

/-! ## Runs -/

/-- One event, with the streams that the data plane takes up for it. -/
def streamStep (p : SwitchProcess) (x : WalkOrder × Switch.Event) : SwitchProcess × List DataPlaneStream :=
  ((step p x).1, if p.running = true then Switch.streamsOf x.1 p.switch x.2 else [])

/-- The streams that the data plane takes up in a run, in order. -/
def streams (p : SwitchProcess) (xs : List (WalkOrder × Switch.Event)) : List DataPlaneStream :=
  (outputs streamStep p xs).flatten

section Runs
variable {p : SwitchProcess} {x : WalkOrder × Switch.Event} {xs : List (WalkOrder × Switch.Event)}

theorem step_of_running (h : p.running = true) : step p x =
    ({ switch := (Switch.handle x.1 x.2 p.switch).state
       running := (Switch.handle x.1 x.2 p.switch).result.isOk }, (Switch.handle x.1 x.2 p.switch).effects) :=
  if_pos h

theorem step_of_not_running (h : ¬ p.running = true) : step p x = (p, []) := if_neg h

theorem streams_concat : streams p (xs ++ [x]) = streams p xs ++ (streamStep (final step p xs) x).2 := by
  have hfinal : final streamStep p xs = final step p xs := rfl
  unfold streams
  rw [outputs_append, List.flatten_append, hfinal, outputs_cons, outputs_nil, List.flatten_singleton]

theorem step_routes (key : Match) : (step p x).1.switch.dataPlane.sfu.routes key =
    ((streamStep p x).2.flatMap fun s => s.destinations key).foldl List.concatNew
      (p.switch.dataPlane.sfu.routes key) := by
  unfold step streamStep
  by_cases hrun : p.running = true
  · rw [if_pos hrun, if_pos hrun]
    exact Switch.handle_routes x.1 p.switch x.2 key
  · rw [if_neg hrun, if_neg hrun]
    rfl

theorem final_routes (key : Match) : (final step p xs).switch.dataPlane.sfu.routes key =
    ((streams p xs).flatMap fun s => s.destinations key).foldl List.concatNew
      (p.switch.dataPlane.sfu.routes key) := by
  refine final_rec step (I := fun xs q => q.switch.dataPlane.sfu.routes key =
    ((streams p xs).flatMap fun s => s.destinations key).foldl List.concatNew
      (p.switch.dataPlane.sfu.routes key)) rfl (fun xs x h => ?_) xs
  rw [step_routes, streams_concat, List.flatMap_append, List.foldl_append, h]

theorem step_configured {av1RtpExt : Nat} (h : p.switch.dataPlane.Configured av1RtpExt) :
    (step p x).1.switch.dataPlane.Configured av1RtpExt := by
  unfold step
  split
  · exact Switch.handle_configured h
  · exact h

theorem final_configured (av1RtpExt : Nat) (xs : List (WalkOrder × Switch.Event)) :
    (final step (init av1RtpExt) xs).switch.dataPlane.Configured av1RtpExt := by
  have hinit : (init av1RtpExt).switch.dataPlane.Configured av1RtpExt := ⟨rfl, rfl⟩
  exact final_rec step (I := fun _ q => q.switch.dataPlane.Configured av1RtpExt) hinit
    (fun _ _ h => step_configured h) xs

theorem step_forwards {av1RtpExt : Nat} {o : WalkOrder} {lost : Bool} {sender : IPv4Port} {buf : Buf}
    (h : p.switch.dataPlane.Configured av1RtpExt) (hrun : p.running = true) :
    Switch.Forwards p.switch.dataPlane.sfu sender buf
      (Switch.datagrams (step p (o, .packet lost sender buf)).2)
      (step p (o, .packet lost sender buf)).1.running (DataPlaneModel.handling av1RtpExt lost buf) := by
  have hforwards := @Switch.onPacket_forwards o p.switch sender buf h.2 lost
  rw [h.1] at hforwards
  rw [step_of_running hrun]
  exact hforwards

/-- A sender and two receivers, the first of which gets the lowest target. -/
def exampleCall : List (WalkOrder × Switch.Event) :=
  [(default, .addStream (exampleSend .video)), (default, .addStream (exampleReceive .video)),
    (default, .addStream { exampleReceive .video with participantId := 3, ip := 3, port := 3 }),
    (default, .setDecodeTarget 1 5 2 0)]

def exampleDatagram : Buf :=
  [0x90, 0x60, 0, 7, 0, 0, 0, 0, 0, 0, 0, 5, 0xbe, 0xde, 0, 1, 0x12, 0xc1, 0, 4]

def messages (xs : List (WalkOrder × Switch.Event)) : List Rpc.AddStream :=
  xs.flatMap fun x => x.2.message.toList

theorem messages_concat : messages (xs ++ [x]) = messages xs ++ x.2.message.toList := by
  unfold messages
  rw [List.flatMap_append, List.flatMap_singleton]

theorem step_from {log : List Rpc.AddStream} (h : p.switch.Knows log) :
    (step p x).1.switch.Knows (log ++ x.2.message.toList) ∧
      ∀ s ∈ (streamStep p x).2, Switch.StreamFrom (log ++ x.2.message.toList) s := by
  unfold step streamStep
  by_cases hrun : p.running = true
  · rw [if_pos hrun, if_pos hrun]
    refine ⟨h.handle, fun s hs => ?_⟩
    obtain ⟨o, ev⟩ := x
    cases ev with
    | addStream m => exact h.streamOf (Option.mem_toList.mp hs)
    | packet lost sender buf => exact absurd hs List.not_mem_nil
    | setDecodeTarget sessionId ssrc participantId n => exact absurd hs List.not_mem_nil
  · rw [if_neg hrun, if_neg hrun]
    exact ⟨h.mono _, fun s hs => absurd hs List.not_mem_nil⟩

/-- The streams that are taken up are those of messages. -/
theorem streams_from (av1RtpExt : Nat) (xs : List (WalkOrder × Switch.Event)) :
    (final step (init av1RtpExt) xs).switch.Knows (messages xs) ∧
      ∀ s ∈ streams (init av1RtpExt) xs, Switch.StreamFrom (messages xs) s := by
  refine final_rec step (I := fun xs q => q.switch.Knows (messages xs) ∧
    ∀ s ∈ streams (init av1RtpExt) xs, Switch.StreamFrom (messages xs) s) ?_ (fun xs x h => ?_) xs
  · refine ⟨fun id a ha => ?_, fun s hs => absurd hs List.not_mem_nil⟩
    cases ha
  obtain ⟨hknows, hnew⟩ := step_from (x := x) h.1
  rw [messages_concat, streams_concat]
  refine ⟨hknows, fun s hs => ?_⟩
  rcases List.mem_append.mp hs with hs | hs
  · exact (h.2 s hs).mono _
  · exact hnew s hs

/-- A route of a run is between two endpoints of one session, for an SSRC of the receiver. -/
theorem route_in_session {av1RtpExt : Nat} {sender toAddr : IPv4Port} {ssrc : SSRC}
    (h : toAddr ∈ (final step (init av1RtpExt) xs).switch.dataPlane.sfu.routes ⟨sender, ssrc⟩) :
    sender = zeroAddr ∨ toAddr = zeroAddr ∨
      ∃ a b, Rpc.Announces (messages xs) a b ∧ Rpc.Connects a b sender toAddr ssrc := by
  have hroutes : (final step (init av1RtpExt) xs).switch.dataPlane.sfu.routes ⟨sender, ssrc⟩ =
      ((streams (init av1RtpExt) xs).flatMap fun s => s.destinations ⟨sender, ssrc⟩).eraseDups :=
    (final_routes _).trans (List.foldl_concatNew _)
  rw [hroutes, List.mem_eraseDups] at h
  obtain ⟨s, hs, hto⟩ := List.mem_flatMap.mp h
  have hsends := DataPlaneModel.mem_destinations hto
  rcases (streams_from av1RtpExt xs).2 s hs with ⟨m, -, rfl⟩ | ⟨a, b, hab, rfl⟩
  · rcases hsends with ⟨hsrc, -, -⟩ | ⟨-, -, hsrc⟩
    · exact .inl hsrc
    · exact .inr (.inl hsrc)
  · refine .inr (.inr ⟨a, b, hab, ?_⟩)
    rcases hsends with ⟨hsrc, hmedia, hdst⟩ | ⟨hsrc, hreturned, hdst⟩
    · exact .inl ⟨hsrc, hdst, Rpc.mem_streamSSRCs.mpr hmedia⟩
    · refine .inr ⟨hsrc, hdst, Rpc.mem_streamSSRCs.mpr ?_⟩
      exact hreturned.imp_right fun h => ⟨h.1.1, h.2⟩

/-- What a switch without a STUN agent sends is a datagram that has just come in, up to the sequence number, and it goes
where its SSRC belongs: between a sender and a receiver of one session, or to or from `0.0.0.0:0`. -/
theorem forwards_in_session (av1RtpExt : Nat) (xs : List (WalkOrder × Switch.Event)) (x : WalkOrder × Switch.Event)
    {d : IPv4Port × Buf} (hd : d ∈ Switch.datagrams (step (final step (init av1RtpExt) xs) x).2) :
    ∃ lost sender buf, x.2 = .packet lost sender buf ∧ (d.2 = buf ∨ ∃ seq, d.2 = Rtp.setSeq buf seq) ∧
      ∃ ssrc, (DataPlaneModel.handling av1RtpExt lost buf).ssrc = some ssrc ∧
        (sender = zeroAddr ∨ d.1 = zeroAddr ∨
          ∃ a b, Rpc.Announces (messages xs) a b ∧ Rpc.Connects a b sender d.1 ssrc) := by
  obtain ⟨o, ev⟩ := x
  have hrun : (final step (init av1RtpExt) xs).running = true := by
    by_contra hno
    rw [step_of_not_running hno] at hd
    exact List.not_mem_nil hd
  rw [step_of_running hrun] at hd
  obtain ⟨lost, sender, buf, rfl⟩ := Switch.handle_datagrams hd
  refine ⟨lost, sender, buf, rfl, ?_⟩
  have hforwards := @step_forwards _ av1RtpExt o lost sender buf (final_configured av1RtpExt xs) hrun
  rw [step_of_running hrun] at hforwards
  obtain ⟨hbuf, ssrc, hssrc, hto⟩ := hforwards.mem_routes hd
  exact ⟨hbuf, ssrc, hssrc, route_in_session hto⟩

end Runs

end SwitchProcess

end Scallop
