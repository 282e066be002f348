import Scallop.DataPlane.Contents
import Scallop.Lib.Machine
import Scallop.SwitchAgent.Model
import Scallop.SwitchAgent.Unique

/-!
# What the data plane knows of the streams of the agent

* `Switch.KnowsStreams` : every send stream has its match, and actions go to receivers and senders of
  streams only;
* `Registers` : the agent registers the stream of a message;
* `knowsStreams_iff` : for a send stream the agent passes the endpoint on as the destination, with the
  source `0.0.0.0:0`, so a run is fine just when no stream of an endpoint is registered.
-/

namespace Scallop

open Machine

namespace SwitchAgentState

/-- A session has a send stream with an SSRC. -/
def Sends (st : SwitchAgentState) (sessionId : Nat) (ssrc : SSRC) : Prop :=
  ∃ id a, st.sender id = some a ∧ a.sessionId = sessionId ∧ a.ssrc = ssrc

/-- An action of the match `m` for `toAddr` sends on to the receiver of a stream. -/
def ToReceiver (st : SwitchAgentState) (m : Match) (toAddr : IPv4Port) : Prop :=
  ∃ id r a, st.receiver id = some r ∧ st.sender r.sendStreamId = some a ∧
    m = ⟨a.addr, a.ssrc⟩ ∧ r.addr = toAddr

/-- It sends what the receiver of a stream sends back to the sender. -/
def ToSender (st : SwitchAgentState) (m : Match) (toAddr : IPv4Port) : Prop :=
  ∃ id r a, st.receiver id = some r ∧ st.sender r.sendStreamId = some a ∧
    m.ipPort = r.addr ∧ a.addr = toAddr

/-- The agent registers the streams of a message: it has no send stream with an SSRC of a new one, or
it has those that a receive stream is for. -/
def Registers (st : SwitchAgentState) (m : Rpc.AddStream) : Prop :=
  match m.direction with
  | .sendonly => m.mainSSRC ∉ st.session m.sessionId ∧ m.rtxSSRC ∉ st.session m.sessionId
  | .recvonly => st.Sends m.sessionId m.mainSSRC ∧ (m.rtxSSRC ≠ 0 → st.Sends m.sessionId m.rtxSSRC)
  | _ => False

section Registers
variable {o : WalkOrder} {st : SwitchAgentState} {m : Rpc.AddStream} {sessionId : Nat} {ssrc : SSRC}

theorem getSendStream_isSome_iff :
    (st.getSendStream o sessionId ssrc).isSome ↔ st.Sends sessionId ssrc := by
  constructor
  · intro h
    obtain ⟨⟨id, s⟩, hs⟩ := Option.isSome_iff_exists.mp h
    obtain ⟨hsender, hsession, hssrc⟩ := sender_of_getSendStream hs
    exact ⟨id, s.toAgentStream, hsender, hsession, hssrc⟩
  · rintro ⟨id, a, ha, rfl, rfl⟩
    obtain ⟨id', s', hs'⟩ := getSendStream_of_sender ha o
    rw [hs']
    rfl

theorem sends_congr {st' : SwitchAgentState} (h : ∀ id, st'.sender id = st.sender id) :
    st'.Sends sessionId ssrc ↔ st.Sends sessionId ssrc := by
  unfold Sends
  simp only [h]

/-- One receive stream leaves the send streams, and is added just when there is one for it. -/
theorem addOneReceiveStream_sends {toParticipantId : Nat} {addr : IPv4Port} {mainSSRC : SSRC}
    {rtx : Bool} :
    let out := addOneReceiveStream o sessionId toParticipantId addr mainSSRC ssrc rtx st
    (∀ id, out.state.sender id = st.sender id) ∧ (out.result = .ok () ↔ st.Sends sessionId ssrc) := by
  dsimp only
  rw [← getSendStream_isSome_iff (o := o)]
  unfold addOneReceiveStream
  rw [Eff.get_bind_run]
  cases hs : st.getSendStream o sessionId ssrc with
  | none => exact ⟨fun _ => rfl, ⟨fun h => (nomatch h), fun h => (nomatch h)⟩⟩
  | some e =>
      obtain ⟨hsender, -, -⟩ := sender_of_getSendStream hs
      exact ⟨sender_pushReceiveStream hsender, ⟨fun _ => rfl, fun _ => rfl⟩⟩

theorem addReceiveStream_sends {fromParticipantId toParticipantId : Nat} {addr : IPv4Port}
    {mainSSRC rtxSSRC : SSRC} :
    let out := addReceiveStream o sessionId fromParticipantId toParticipantId addr mainSSRC rtxSSRC st
    (∀ id, out.state.sender id = st.sender id) ∧
      (out.result = .ok () ↔
        st.Sends sessionId mainSSRC ∧ (rtxSSRC ≠ 0 → st.Sends sessionId rtxSSRC)) := by
  dsimp only
  unfold addReceiveStream
  obtain ⟨hsender, hok⟩ :=
    @addOneReceiveStream_sends o st sessionId mainSSRC toParticipantId addr mainSSRC false
  rcases hrun : addOneReceiveStream o sessionId toParticipantId addr mainSSRC mainSSRC false st with
    ⟨st₁, es, r⟩
  rw [hrun] at hsender hok
  cases r with
  | error e =>
      rw [Eff.bind_of_error hrun]
      exact ⟨hsender, fun h => (nomatch h), fun h => absurd (hok.mpr h.1) (fun h => nomatch h)⟩
  | ok u =>
      have hmain := hok.mp rfl
      rw [Eff.bind_of_ok hrun]
      by_cases h0 : rtxSSRC ≠ 0
      · rw [if_pos h0]
        obtain ⟨hsender', hok'⟩ :=
          @addOneReceiveStream_sends o st₁ sessionId rtxSSRC toParticipantId addr mainSSRC true
        refine ⟨fun id => (hsender' id).trans (hsender id), ?_⟩
        exact hok'.trans ((sends_congr hsender).trans
          ⟨fun h => ⟨hmain, fun _ => h⟩, fun h => h.2 h0⟩)
      · rw [if_neg h0]
        exact ⟨hsender, fun _ => ⟨hmain, fun h => absurd h h0⟩, fun _ => rfl⟩

theorem sender_addSendStream {participantId : Nat} {addr : IPv4Port} {type : MediaType}
    {mainSSRC rtxSSRC : SSRC} {id : UInt32} {a : AgentStream}
    (h : (addSendStream sessionId participantId addr type mainSSRC rtxSSRC st).state.sender id
      = some a) :
    st.sender id = some a ∨ a.addr = addr ∧ (a.ssrc = mainSSRC ∨ rtxSSRC ≠ 0 ∧ a.ssrc = rtxSSRC) := by
  cases hres : (addSendStream sessionId participantId addr type mainSSRC rtxSSRC st).result with
  | error e =>
      rw [addSendStream_error hres, withSession_eq] at h
      exact .inl h
  | ok u =>
      obtain ⟨-, -, hst⟩ := addSendStream_inv hres
      rw [hst, withSession_eq] at h
      dsimp only at h
      have hmain : ∀ {id a}, (pushSendStream (mainStream sessionId participantId addr type mainSSRC)
          { st with sessions := (withSession sessionId st).sessions }).sender id = some a →
          st.sender id = some a ∨ a.addr = addr ∧ a.ssrc = mainSSRC := by
        intro id a h
        rcases sender_pushSendStream_iff.mp h with ⟨-, rfl⟩ | ⟨-, h⟩
        · exact .inr ⟨rfl, rfl⟩
        · exact .inl h
      by_cases h0 : rtxSSRC ≠ 0
      · rw [if_pos h0] at h
        rcases sender_pushSendStream_iff.mp h with ⟨-, rfl⟩ | ⟨-, h⟩
        · exact .inr ⟨rfl, .inr ⟨h0, rfl⟩⟩
        · exact (hmain h).imp_right fun h => ⟨h.1, .inl h.2⟩
      · rw [if_neg h0] at h
        exact (hmain h).imp_right fun h => ⟨h.1, .inl h.2⟩

/-- `addSendStream` returns just when no SSRC is taken. -/
theorem addSendStream_ok_iff {participantId : Nat} {addr : IPv4Port} {type : MediaType}
    {mainSSRC rtxSSRC : SSRC} :
    (addSendStream sessionId participantId addr type mainSSRC rtxSSRC st).result = .ok () ↔
      mainSSRC ∉ st.session sessionId ∧ rtxSSRC ∉ st.session sessionId := by
  refine ⟨fun h => ⟨(addSendStream_inv h).1, (addSendStream_inv h).2.1⟩, fun ⟨hmain, hrtx⟩ => ?_⟩
  unfold addSendStream
  rw [Eff.modify_bind_run, Eff.get_bind_run, session_withSession, Eff.require_pos hmain,
    Eff.pure_bind, Eff.require_pos hrtx, Eff.pure_bind, Eff.modify_bind_run]
  split <;> rfl

end Registers

end SwitchAgentState

namespace Switch

/-- Send streams have their matches, and actions have receivers and senders of streams. -/
structure KnowsStreams (sw : Switch) : Prop where
  recognised : ∀ id a, sw.agent.sender id = some a →
    sw.dataPlane.sfu.hasMatch ⟨a.addr, a.ssrc⟩ = true
  endpoints : ∀ m toAddr, sw.dataPlane.sfu.Targets m toAddr →
    sw.agent.ToReceiver m toAddr ∨ sw.agent.ToSender m toAddr
  real : ∀ m toAddr, sw.dataPlane.sfu.Targets m toAddr → toAddr ≠ zeroAddr

/-- Nobody sends from an endpoint, and nothing is sent on. -/
structure Quiet (sw : Switch) : Prop where
  senders : ∀ id a, sw.agent.sender id = some a →
    a.addr = zeroAddr ∧ sw.dataPlane.sfu.hasMatch ⟨zeroAddr, a.ssrc⟩ = true
  actions : ∀ m toAddr, ¬ sw.dataPlane.sfu.Targets m toAddr

theorem Quiet.knowsStreams {sw : Switch} (h : sw.Quiet) : sw.KnowsStreams where
  recognised id a ha := by
    obtain ⟨haddr, hmatch⟩ := h.senders id a ha
    rw [haddr]
    exact hmatch
  endpoints m toAddr ht := absurd ht (h.actions m toAddr)
  real m toAddr ht := absurd ht (h.actions m toAddr)

theorem quiet_init (av1RtpExt : Nat) : Quiet { dataPlane := { av1RtpExt } } where
  senders _ _ h := nomatch h
  actions := by
    rintro m toAddr ⟨e, he, -⟩
    exact nomatch he

section AddStream
variable {o : WalkOrder} {sw : Switch} {m : Rpc.AddStream}

/-- A stream without a destination keeps the matches and the actions. -/
theorem Quiet.addStream (h : sw.Quiet) {s : DataPlaneStream} (hdst : s.dst = zeroAddr)
    {agent : SwitchAgentState} (hsenders : ∀ id a, agent.sender id = some a →
      sw.agent.sender id = some a ∨ a.addr = zeroAddr ∧ s.src = zeroAddr ∧
        (a.ssrc = s.ssrc ∨ s.rtxSsrc ≠ 0 ∧ a.ssrc = s.rtxSsrc)) :
    Quiet { agent, dataPlane := sw.dataPlane.addStream s } where
  senders id a ha := by
    have hkeep : ∀ {mt : Match}, (sw.dataPlane.sfu.entry mt).isSome →
        ((sw.dataPlane.addStream s).sfu.entry mt).isSome := by
      intro mt hmt
      rw [DataPlaneModel.addStream_of_dst_zero hdst]
      exact DataPlaneModel.isSome_ite (DataPlaneModel.isSome_addMatch hmt _)
        fun h => DataPlaneModel.isSome_addMatch h _
    rcases hsenders id a ha with hold | ⟨haddr, hsrc, hssrc⟩
    · obtain ⟨haddr, hmatch⟩ := h.senders id a hold
      exact ⟨haddr, hkeep hmatch⟩
    · refine ⟨haddr, ?_⟩
      show ((sw.dataPlane.addStream s).sfu.entry ⟨zeroAddr, a.ssrc⟩).isSome
      rw [DataPlaneModel.addStream_of_dst_zero hdst, ← hsrc]
      rcases hssrc with hssrc | ⟨h0, hssrc⟩
      · rw [hssrc]
        exact DataPlaneModel.isSome_ite (DataPlaneModel.hasMatch_addMatch_self _ _)
          fun h => DataPlaneModel.isSome_addMatch h _
      · dsimp only
        rw [if_pos h0, hssrc]
        exact DataPlaneModel.hasMatch_addMatch_self _ _
  actions mt toAddr := by
    show ¬ (sw.dataPlane.addStream s).sfu.Targets mt toAddr
    rw [DataPlaneModel.targets_addStream_of_dst_zero hdst]
    exact h.actions mt toAddr

/-- Send streams that stay keep a switch quiet. -/
theorem Quiet.agent (h : sw.Quiet) {agent : SwitchAgentState}
    (hsenders : ∀ id a, agent.sender id = some a → sw.agent.sender id = some a) :
    Quiet { sw with agent } where
  senders id a ha := h.senders id a (hsenders id a ha)
  actions := h.actions

/-- A stream of the agent, and then of the data plane. -/
theorem register_ok {prog : AgentStateEff Unit} (f : DataPlaneModel → DataPlaneModel)
    (h : (prog sw.agent).result = .ok ()) :
    ((do onAgent prog; onDataPlane f) sw : Outcome Switch SwitchEffect Fault Unit).state =
      { agent := (prog sw.agent).state, dataPlane := f sw.dataPlane } := by
  have hres : (onAgent prog sw).result = .ok () := h
  rw [Eff.state_bind_of_ok hres]
  rfl

theorem register_error {prog : AgentStateEff Unit} (f : DataPlaneModel → DataPlaneModel)
    (h : (prog sw.agent).result ≠ .ok ()) :
    ((do onAgent prog; onDataPlane f) sw : Outcome Switch SwitchEffect Fault Unit).state =
      { sw with agent := (prog sw.agent).state } := by
  rcases hrun : onAgent prog sw with ⟨sw', es, r⟩
  have hres : (onAgent prog sw).result = (prog sw.agent).result := rfl
  have hst : (onAgent prog sw).state = { sw with agent := (prog sw.agent).state } := rfl
  rw [hrun] at hres hst
  cases r with
  | ok u => exact absurd hres.symm h
  | error e =>
      rw [Eff.bind_of_error hrun]
      exact hst

/-- A message whose stream is not registered, or is at `0.0.0.0:0`. -/
theorem Quiet.onAddStream (h : sw.Quiet) (hc : sw.agent.Registers m → m.addr = zeroAddr) :
    (Switch.onAddStream o m sw).state.Quiet := by
  unfold SwitchAgentState.Registers at hc
  by_cases hsend : m.direction = .sendonly
  · rw [hsend] at hc
    rw [onAddStream_of_sendonly o hsend]
    by_cases hok : m.mainSSRC ∉ sw.agent.session m.sessionId ∧
        m.rtxSSRC ∉ sw.agent.session m.sessionId
    · have haddr := hc hok
      rw [register_ok _ (SwitchAgentState.addSendStream_ok_iff.mpr hok)]
      refine h.addStream (s := senderStream m) haddr fun id a ha => ?_
      rcases SwitchAgentState.sender_addSendStream ha with hold | ⟨hto, hssrc⟩
      · exact .inl hold
      · exact .inr ⟨hto.trans haddr, rfl, hssrc⟩
    · rw [register_error _ fun hres => hok (SwitchAgentState.addSendStream_ok_iff.mp hres)]
      refine h.agent fun id a ha => ?_
      cases hres : (SwitchAgentState.addSendStream m.sessionId m.participantId m.addr m.mediaType
          m.mainSSRC m.rtxSSRC sw.agent).result with
      | ok u => exact absurd (SwitchAgentState.addSendStream_ok_iff.mp hres) hok
      | error e =>
          rw [SwitchAgentState.addSendStream_error hres, SwitchAgentState.withSession_eq] at ha
          exact ha
  by_cases hrecv : m.direction = .recvonly
  · rw [hrecv] at hc
    rw [onAddStream_of_recvonly o hrecv]
    cases hs : sw.agent.getSendStream o m.sessionId m.mainSSRC with
    | none => exact h
    | some e =>
        obtain ⟨sid, s⟩ := e
        obtain ⟨hsender, hiff⟩ := @SwitchAgentState.addReceiveStream_sends o sw.agent m.sessionId
          s.sendingParticipant m.participantId m.addr m.mainSSRC m.rtxSSRC
        dsimp only
        by_cases hok : sw.agent.Sends m.sessionId m.mainSSRC ∧
            (m.rtxSSRC ≠ 0 → sw.agent.Sends m.sessionId m.rtxSSRC)
        · rw [register_ok _ (hiff.mpr hok)]
          refine h.addStream (s := receiverStream m s.addr) (hc hok) fun id a ha => .inl ?_
          rw [← hsender]
          exact ha
        · rw [register_error _ fun hres => hok (hiff.mp hres)]
          refine h.agent fun id a ha => ?_
          rw [← hsender]
          exact ha
  · rw [onAddStream_of_other o hsend hrecv]
    exact h

/-- A registered stream of an endpoint: something is then sent on to `0.0.0.0:0`. -/
theorem Quiet.not_knowsStreams (h : sw.Quiet) (hreg : sw.agent.Registers m)
    (hc : m.addr ≠ zeroAddr) : ¬ (Switch.onAddStream o m sw).state.KnowsStreams := by
  unfold SwitchAgentState.Registers at hreg
  intro hknows
  by_cases hsend : m.direction = .sendonly
  · rw [hsend] at hreg
    rw [onAddStream_of_sendonly o hsend,
      register_ok _ (SwitchAgentState.addSendStream_ok_iff.mpr hreg)] at hknows
    exact hknows.real _ _ (DataPlaneModel.addStream_targets (s := senderStream m) hc) rfl
  by_cases hrecv : m.direction = .recvonly
  · rw [hrecv] at hreg
    rw [onAddStream_of_recvonly o hrecv] at hknows
    obtain ⟨⟨sid, s⟩, hs⟩ := Option.isSome_iff_exists.mp
      ((SwitchAgentState.getSendStream_isSome_iff (o := o)).mpr hreg.1)
    obtain ⟨-, hiff⟩ := @SwitchAgentState.addReceiveStream_sends o sw.agent m.sessionId
      s.sendingParticipant m.participantId m.addr m.mainSSRC m.rtxSSRC
    rw [hs] at hknows
    dsimp only at hknows
    rw [register_ok _ (hiff.mpr hreg)] at hknows
    obtain ⟨hsender, -, -⟩ := SwitchAgentState.sender_of_getSendStream hs
    exact hknows.real _ _ (DataPlaneModel.addStream_targets (s := receiverStream m s.addr) hc)
      (h.senders sid _ hsender).1
  · cases hdir : m.direction with
    | sendonly => exact hsend hdir
    | recvonly => exact hrecv hdir
    | sendrecv => rw [hdir] at hreg; exact hreg
    | inactive => rw [hdir] at hreg; exact hreg

end AddStream

end Switch

namespace SwitchProcess

/-- One message of the controller, with the order in which containers are walked meanwhile. -/
def addStreamStep (p : SwitchProcess) (x : WalkOrder × Rpc.AddStream) :
    SwitchProcess × List SwitchEffect := step p (x.1, .addStream x.2)

/-- A stream that the agent registers is at `0.0.0.0:0`. -/
def NoEndpoint (p : SwitchProcess) (x : WalkOrder × Rpc.AddStream) : Prop :=
  p.running = true → p.switch.agent.Registers x.2 → x.2.addr = zeroAddr

theorem quiet_addStreamStep {p : SwitchProcess} {x : WalkOrder × Rpc.AddStream}
    (h : p.switch.Quiet) (hc : NoEndpoint p x) : (addStreamStep p x).1.switch.Quiet := by
  unfold addStreamStep step
  split
  · exact h.onAddStream (hc ‹_›)
  · exact h

theorem not_knowsStreams_addStreamStep {p : SwitchProcess} {x : WalkOrder × Rpc.AddStream}
    (h : p.switch.Quiet) (hc : ¬ NoEndpoint p x) :
    ¬ (addStreamStep p x).1.switch.KnowsStreams := by
  unfold NoEndpoint at hc
  rw [Classical.not_imp, Classical.not_imp] at hc
  obtain ⟨hrun, hreg, haddr⟩ := hc
  unfold addStreamStep step
  rw [if_pos hrun]
  exact h.not_knowsStreams hreg haddr

/-- **Known streams.** In a run of messages, the data plane knows the streams of the agent in every
state just when no registered stream has an endpoint. -/
theorem knowsStreams_iff (av1RtpExt : Nat) (xs : List (WalkOrder × Rpc.AddStream)) :
    Always (fun p => p.switch.KnowsStreams) addStreamStep (init av1RtpExt) xs ↔
      Along NoEndpoint addStreamStep (init av1RtpExt) xs :=
  always_iff_along (I := fun p => p.switch.Quiet) (fun _ h => h.knowsStreams)
    (fun _ _ => quiet_addStreamStep) (fun _ _ => not_knowsStreams_addStreamStep)
    (Switch.quiet_init av1RtpExt)

/-- One send stream, of `1:1`: its match is missing, and RTCP packets from it go to `0.0.0.0:0`. -/
theorem send_stream_unknown :
    ¬ ∀ (av1RtpExt : Nat) (xs : List (WalkOrder × Rpc.AddStream)),
      Always (fun p => p.switch.KnowsStreams) addStreamStep (init av1RtpExt) xs := by
  intro h
  let m : Rpc.AddStream :=
    { sessionId := 1, participantId := 1, ip := 1, port := 1, mainSSRC := 5, mediaType := .video
      direction := .sendonly }
  have hknows := (h 1 [(default, m)]).final.recognised 0
    { sessionId := 1, sendingParticipant := 1, addr := ⟨1, 1⟩, ssrc := 5, type := .video } (by decide)
  exact absurd hknows (by decide)

end SwitchProcess

end Scallop
