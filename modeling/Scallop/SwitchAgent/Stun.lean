import Scallop.Lib.Erasure
import Scallop.SwitchAgent.Routing

/-!
# The STUN agent of a switch

`STUNAgent` of `lib/stun_agent.cc`, and what `lib/switch_agent.h` does with it. The messages are read and
written by a library, which is a parameter.

* `StunLibrary`, `StunAgent`, `StunAgent.validate`; `StunSwitch` : a switch with a STUN agent;
* `forget_run` : the STUN agent changes nothing else, so that a run is one of `SwitchProcess`;
* `StunAgent.Peers` : what the STUN agent knows after a run; `replies_exactly` : whom it answers, and when;
* `sends_in_session` : in every run all that is sent are replies to the sender of a request that has just come in, and
  datagrams that have just come in, which go from and to endpoints of one session.
-/

namespace Scallop

open Machine

/-! ## The agent -/

structure Credentials where
  uFrag : String
  pwd : String
  validated : Bool := false
deriving DecidableEq, Repr

inductive StunValidationStatus where
  | success
  | notStun
  | incompleteStun
  | badRequest
  | unauthorizedBadRequest
  | unauthorized
  | unmatchedResponse
  | unknownRequestAttribute
  | unknownAttribute
deriving DecidableEq, Repr

def validationResultString : StunValidationStatus → String
  | .success => "STUN_VALIDATION_SUCCESS"
  | .notStun => "STUN_VALIDATION_NOT_STUN"
  | .incompleteStun => "STUN_VALIDATION_INCOMPLETE_STUN"
  | .badRequest => "STUN_VALIDATION_BAD_REQUEST"
  | .unauthorizedBadRequest => "STUN_VALIDATION_UNAUTHORIZED_BAD_REQUEST"
  | .unauthorized => "STUN_VALIDATION_UNAUTHORIZED"
  | .unmatchedResponse => "STUN_VALIDATION_UNMATCHED_RESPONSE"
  | .unknownRequestAttribute => "STUN_VALIDATION_UNKNOWN_REQUEST_ATTRIBUTE"
  | .unknownAttribute => "STUN_VALIDATION_UNKNOWN_ATTRIBUTE"

/-- The functions of the STUN library that the agent calls, with the state that they have: `stun_agent_validate`
with the default validater, which makes a message of a request; `stun_message_has_attribute` of it for
`STUN_ATTRIBUTE_ICE_CONTROLLED`; and `stun_usage_ice_conncheck_create_reply`, which makes a reply of at most
`bufLen` bytes. -/
structure StunLibrary (σ μ : Type) where
  validate : σ → (username pwd : String) → Buf → σ × μ × StunValidationStatus
  hasIceControlled : μ → Bool
  createReply : σ → μ → (bufLen : Nat) → (sender : IPv4Port) → (iceControlling : Bool) → σ × Option Buf

structure ValidationResult where
  success : Bool
  initial : Bool
  message : String
deriving DecidableEq, Repr

/-- `STUNAgent`; `msg` is the last reply. -/
structure StunAgent (σ : Type) where
  credentials : Credentials
  peers : UnorderedMap IPv4Port Credentials := ∅
  stun : σ
  msg : Buf := []

namespace StunAgent
variable {σ μ : Type} (lib : StunLibrary σ μ) (a : StunAgent σ)

def msgBufLen : Nat := 512

def hasPeer (ipPort : IPv4Port) : Bool := (a.peers.lookup ipPort).isSome

def addPeer (ipPort : IPv4Port) (c : Credentials) : Except Fault (StunAgent σ) :=
  if a.hasPeer ipPort then .error (.logicError "STUNAgent: entry already exists")
  else .ok { a with peers := a.peers.insert ipPort c }

def validate (sender : IPv4Port) (req : Buf) : StunAgent σ × ValidationResult :=
  match a.peers.lookup sender with
  | none => (a, ⟨false, false, "UNKNOWN_PEER"⟩)
  | some peer =>
      let username := a.credentials.uFrag ++ ":" ++ peer.uFrag
      let valRes := lib.validate a.stun username a.credentials.pwd req
      let message := validationResultString valRes.2.2
      if valRes.2.2 = .success then
        let result := lib.createReply valRes.1 valRes.2.1 msgBufLen sender (lib.hasIceControlled valRes.2.1)
        match result.2 with
        | some msg =>
            if peer.validated then ({ a with stun := result.1, msg }, ⟨true, false, message⟩)
            else
              ({ a with
                  stun := result.1, msg, peers := a.peers.insert sender { peer with validated := true } },
                ⟨true, true, message⟩)
        | none => ({ a with stun := result.1 }, ⟨false, false, message⟩)
      else ({ a with stun := valRes.1 }, ⟨false, false, message⟩)

end StunAgent

def bufferContainsSTUNBindingRequest (buf : Buf) : Bool :=
  20 ≤ buf.length ∧ buf.u8 0 = 0 ∧ buf.u8 1 = 1 ∧ buf.u8 4 = 0x21 ∧ buf.u8 5 = 0x12 ∧
    buf.u8 6 = 0xa4 ∧ buf.u8 7 = 0x42

/-! ## A switch with a STUN agent -/

/-- `SwitchAgent`, with its STUN agent. -/
structure StunSwitch (σ : Type) where
  switch : Switch
  stun : StunAgent σ

/-- What such a switch does: what the switch does, or it replies to a STUN request; `initial` says whether the
log calls it the first success of the endpoint. -/
inductive StunEffect where
  | switch (e : SwitchEffect)
  | reply (toAddr : IPv4Port) (buf : Buf) (initial : Bool)
deriving DecidableEq, Repr

abbrev StunEff (σ : Type) := Eff (StunSwitch σ) StunEffect Fault

namespace StunSwitch
variable {σ μ : Type} (lib : StunLibrary σ μ) (o : WalkOrder)

def onSwitch {α : Type} (m : SwitchEff α) : StunEff σ α :=
  Eff.zoom StunSwitch.switch (fun switch s => { s with switch }) StunEffect.switch m

/-- Make an endpoint a peer, unless it is one. -/
def addPeer (m : Rpc.AddStream) : StunEff σ Unit := do
  let s ← Eff.get
  if s.stun.hasPeer m.addr then return ()
  else do
    let stun ← Eff.ofExcept (s.stun.addPeer m.addr { uFrag := m.iceUfrag, pwd := m.icePwd })
    Eff.modify fun s => { s with stun }

/-- The last part of `_onAddStream`. -/
def addForwarding (m : Rpc.AddStream) : SwitchEff Unit :=
  match m.direction with
  | .recvonly => do
      let sw ← Eff.get
      match sw.agent.getSendStream o m.sessionId m.mainSSRC with
      | none => return ()
      | some (_, sendStream) => do
          Switch.onAgent (SwitchAgentState.addReceiveStream o m.sessionId sendStream.sendingParticipant
            m.participantId m.addr m.mainSSRC m.rtxSSRC)
          Switch.onDataPlane fun dp => dp.addStream (Switch.receiverStream m sendStream.addr)
  | .sendonly => Switch.onDataPlane fun dp => dp.addStream (Switch.senderStream m)
  | _ => return ()

def onAddStream (m : Rpc.AddStream) : StunEff σ Unit := do
  if m.direction = .sendonly then
    onSwitch (Switch.onAgent (SwitchAgentState.addSendStream m.sessionId m.participantId m.addr m.mediaType
      m.mainSSRC m.rtxSSRC))
  addPeer m
  onSwitch (addForwarding o m)

def handleSTUNBindingRequest (sender : IPv4Port) (buf : Buf) : StunEff σ Unit := do
  let s ← Eff.get
  let out := s.stun.validate lib sender buf
  Eff.modify fun s => { s with stun := out.1 }
  if out.2.success then Eff.emit (.reply sender out.1.msg out.2.initial) else return ()

def handleSTUN (sender : IPv4Port) (buf : Buf) : StunEff σ Unit :=
  if bufferContainsSTUNBindingRequest buf then handleSTUNBindingRequest lib sender buf else return ()

/-- `_onPacketFromDataPlane`, and what else the data plane does. -/
def onEffect : Effect → StunEff σ Unit
  | .toController .stun sender buf => handleSTUN lib sender buf
  | e => onSwitch (Switch.onEffect o e)

def onEffects : List Effect → StunEff σ Unit
  | [] => return ()
  | e :: es => do
      onEffect lib o e
      onEffects es

def onPacket (lost : Bool) (sender : IPv4Port) (buf : Buf) : StunEff σ Unit := do
  let s ← Eff.get
  let out := DataPlaneModel.onPacket lost sender buf s.switch.dataPlane
  onSwitch (Switch.onDataPlane fun _ => out.state)
  onEffects lib o out.effects
  Eff.ofExcept out.result

def handle : Switch.Event → StunEff σ Unit
  | .addStream m => onAddStream o m
  | .packet lost sender buf => onPacket lib o lost sender buf
  | .setDecodeTarget sessionId ssrc participantId decodeTarget =>
      onSwitch (Switch.onAPISetDecodeTarget o sessionId ssrc participantId decodeTarget)

end StunSwitch

structure StunProcess (σ : Type) where
  switch : StunSwitch σ
  running : Bool := true

namespace StunProcess
variable {σ μ : Type} (lib : StunLibrary σ μ)

/-- One event; an exception ends the process. -/
def step (p : StunProcess σ) (x : WalkOrder × Switch.Event) : StunProcess σ × List StunEffect :=
  if p.running = true then
    let out := StunSwitch.handle lib x.1 x.2 p.switch
    ({ switch := out.state, running := out.result.isOk }, out.effects)
  else (p, [])

def init (av1RtpExt : Nat) (credentials : Credentials) (stun : σ) : StunProcess σ where
  switch := { switch := { dataPlane := { av1RtpExt } }, stun := { credentials, stun } }

end StunProcess

/-! ## Without the STUN agent -/

def StunEffect.seen : StunEffect → Option SwitchEffect
  | .switch e => some e
  | .reply .. => none

namespace StunSwitch
variable {σ μ α : Type} {lib : StunLibrary σ μ} {o : WalkOrder}

theorem erases_onSwitch (m : SwitchEff α) :
    Eff.Erases StunSwitch.switch StunEffect.seen (onSwitch m : Eff (StunSwitch σ) StunEffect Fault α) m := by
  refine Eff.erases_zoom ?_ ?_ m
  · exact fun _ _ => rfl
  · exact fun _ => rfl

theorem unseen_addPeer (m : Rpc.AddStream) :
    Eff.Unseen StunSwitch.switch StunEffect.seen (addPeer m : StunEff σ Unit) := by
  refine Eff.unseen_get_bind fun s => ?_
  by_cases hpeer : s.stun.hasPeer m.addr = true
  · rw [if_pos hpeer]
    exact Eff.unseen_pure
  · rw [if_neg hpeer]
    unfold StunAgent.addPeer
    rw [if_neg hpeer]
    exact Eff.unseen_modify fun _ => rfl

theorem onAddStream_eq (m : Rpc.AddStream) : Switch.onAddStream o m = (do
    if m.direction = .sendonly then
      Switch.onAgent (SwitchAgentState.addSendStream m.sessionId m.participantId m.addr m.mediaType
        m.mainSSRC m.rtxSSRC)
    addForwarding o m) := rfl

theorem erases_onAddStream (m : Rpc.AddStream) :
    Eff.Erases StunSwitch.switch StunEffect.seen (onAddStream o m : StunEff σ Unit) (Switch.onAddStream o m) := by
  rw [onAddStream_eq]
  unfold onAddStream
  by_cases hsend : m.direction = .sendonly
  · rw [if_pos hsend, if_pos hsend]
    exact (erases_onSwitch _).bind fun _ => (unseen_addPeer m).bind (erases_onSwitch _)
  · rw [if_neg hsend, if_neg hsend]
    exact (unseen_addPeer m).bind (erases_onSwitch _)

theorem unseen_handleSTUN (sender : IPv4Port) (buf : Buf) :
    Eff.Unseen StunSwitch.switch StunEffect.seen (handleSTUN lib sender buf) := by
  unfold handleSTUN
  split
  · refine Eff.unseen_get_bind fun s => ?_
    dsimp only
    generalize s.stun.validate lib sender buf = out
    refine Eff.unseen_bind (Eff.unseen_modify fun _ => rfl) ?_
    split
    · refine Eff.unseen_emit ?_
      rfl
    · exact Eff.unseen_pure
  · exact Eff.unseen_pure

theorem erases_onEffects (es : List Effect) :
    Eff.Erases StunSwitch.switch StunEffect.seen (onEffects lib o es) (Switch.onEffects o es) := by
  induction es with
  | nil => exact Eff.erases_pure _
  | cons e es ih =>
      refine Eff.Erases.bind ?_ fun _ => ih
      cases e with
      | send toAddr buf => exact erases_onSwitch _
      | toController reason sender buf =>
          cases reason with
          | stun => exact (unseen_handleSTUN sender buf).erases
          | av1 => exact erases_onSwitch _
          | rtcp => exact erases_onSwitch _

theorem erases_handle (ev : Switch.Event) :
    Eff.Erases StunSwitch.switch StunEffect.seen (handle lib o ev) (Switch.handle o ev) := by
  cases ev with
  | addStream m => exact erases_onAddStream m
  | packet lost sender buf =>
      refine Eff.erases_get_bind fun s => ?_
      exact (erases_onSwitch _).bind fun _ => (erases_onEffects _).bind fun _ => Eff.erases_ofExcept _
  | setDecodeTarget sessionId ssrc participantId n => exact erases_onSwitch _

end StunSwitch

namespace StunProcess
variable {σ μ : Type} {lib : StunLibrary σ μ}

def forget (p : StunProcess σ) : SwitchProcess := { switch := p.switch.switch, running := p.running }

theorem step_forget (p : StunProcess σ) (x : WalkOrder × Switch.Event) :
    SwitchProcess.step p.forget x = ((step lib p x).1.forget, (step lib p x).2.filterMap StunEffect.seen) := by
  unfold step SwitchProcess.step forget
  by_cases hrun : p.running = true
  · rw [if_pos hrun, if_pos hrun]
    rw [@StunSwitch.erases_handle σ μ lib x.1 x.2 p.switch]
  · rw [if_neg hrun, if_neg hrun]
    rfl

/-- **The STUN agent is independent.** In every run the switch does what it would do without a STUN agent, up to
the replies, whatever the library does. -/
theorem forget_run (lib : StunLibrary σ μ) (av1RtpExt : Nat) (credentials : Credentials) (stun : σ)
    (xs : List (WalkOrder × Switch.Event)) :
    (final (step lib) (init av1RtpExt credentials stun) xs).forget =
        final SwitchProcess.step (SwitchProcess.init av1RtpExt) xs ∧
      (outputs (step lib) (init av1RtpExt credentials stun) xs).map (List.filterMap StunEffect.seen) =
        outputs SwitchProcess.step (SwitchProcess.init av1RtpExt) xs := by
  obtain ⟨hfinal, houtputs⟩ := erased_run (@step_forget σ μ lib) (init av1RtpExt credentials stun) xs
  exact ⟨hfinal.symm, houtputs.symm⟩

end StunProcess

/-! ## Which datagrams the STUN agent gets -/

namespace DataPlaneModel
variable {sender : IPv4Port} {buf : Buf}

/-- Nothing is passed on as a STUN datagram. -/
def NotStun (e : Effect) : Prop := ∀ sender buf, e ≠ .toController .stun sender buf

theorem notStun_send (toAddr : IPv4Port) (b : Buf) : NotStun (.send toAddr b) := by
  intro sender buf h
  cases h

theorem notStun_toController {reason : Reason} (h : reason ≠ .stun) :
    Eff.Only NotStun (toController reason sender buf) := by
  unfold toController
  refine Eff.only_get_bind fun dp => ?_
  split
  · refine Eff.only_emit fun sender' buf' he => h ?_
    rw [Effect.toController.injEq] at he
    exact he.1
  · exact Eff.only_throw _

theorem notStun_sendToActions : Eff.Only NotStun (sendToActions sender buf) := by
  unfold sendToActions
  refine Eff.only_get_bind fun dp => ?_
  split
  · exact Eff.only_pure _
  · refine Eff.only_emits fun w hw => ?_
    obtain ⟨a, -, rfl⟩ := List.mem_map.mp hw
    exact notStun_send _ _

theorem notStun_handleRTCP : Eff.Only NotStun (handleRTCP sender buf) := by
  have hfeedback : Eff.Only NotStun (handleFeedback sender buf) := by
    unfold handleFeedback
    split
    · exact notStun_sendToActions.bind fun _ => notStun_toController (by decide)
    · exact Eff.only_pure _
  unfold handleRTCP
  refine (Eff.only_modify _).bind fun _ => ?_
  cases Rtcp.pt buf with
  | sr => exact notStun_sendToActions
  | rr => exact notStun_toController (by decide)
  | rtpfb => exact hfeedback
  | psfb => exact hfeedback
  | sdes => exact Eff.only_pure _
  | unknown => exact Eff.only_pure _

theorem notStun_handleRTP (lost : Bool) : Eff.Only NotStun (handleRTP lost sender buf) := by
  have hdescribe : Eff.Only NotStun (describe sender buf) := by
    unfold describe
    refine Eff.only_get_bind fun dp => (Eff.only_ofExcept _).bind fun av1 => ?_
    cases av1 with
    | none => exact Eff.only_pure _
    | some d =>
        dsimp only
        split
        · exact (notStun_toController (by decide)).bind fun _ => (Eff.only_modify _).bind fun _ =>
            Eff.only_pure _
        · exact (Eff.only_modify _).bind fun _ => Eff.only_pure _
  unfold handleRTP
  split
  · exact Eff.only_pure _
  refine (Eff.only_modify _).bind fun _ => hdescribe.bind fun av1 => Eff.only_get_bind fun dp => ?_
  split
  · exact Eff.only_pure _
  · refine (Eff.only_set _).bind fun _ => Eff.only_emits fun w hw => ?_
    obtain ⟨a, -, b, rfl⟩ := forward_sends av1 _ buf w hw
    exact notStun_send _ _

theorem notStun_onPacket (h : ¬ bufferContainsSTUN buf = true) (lost : Bool) :
    Eff.Only NotStun (onPacket lost sender buf) := by
  unfold onPacket
  rw [if_neg h]
  split
  · refine (Eff.only_modify _).bind fun _ => ?_
    split
    · exact notStun_handleRTCP
    · exact notStun_handleRTP lost
  · exact Eff.only_pure _

/-- A STUN datagram is passed on to the agent, and that is all. -/
theorem onPacket_stun {dp : DataPlaneModel} (h : bufferContainsSTUN buf = true)
    (hcontroller : dp.hasController = true) (lost : Bool) :
    (onPacket lost sender buf dp).effects = [.toController .stun sender buf] ∧
      (onPacket lost sender buf dp).result = .ok () := by
  have hrun : ∀ dp : DataPlaneModel, dp.hasController = true →
      toController .stun sender buf dp = ⟨dp, [.toController .stun sender buf], .ok ()⟩ := by
    intro dp hdp
    unfold toController
    rw [Eff.get_bind_run, hdp]
    rfl
  obtain ⟨dp', hdp', hcount⟩ : ∃ dp' : DataPlaneModel, dp'.hasController = true ∧
      onPacket lost sender buf dp = toController .stun sender buf dp' := by
    let st := dp.totalStatistics
    unfold onPacket
    rw [if_pos h]
    exact ⟨{ dp with totalStatistics := { st with
      pkts := st.pkts + 1, bytes := st.bytes + buf.length, stunPkts := st.stunPkts + 1 } }, hcontroller, rfl⟩
  rw [hcount, hrun dp' hdp']
  exact ⟨rfl, rfl⟩

end DataPlaneModel

/-! ## Replies -/

/-- A reply, with its receiver and whether the log calls it the first success. -/
def StunEffect.replied : StunEffect → Option (IPv4Port × Buf × Bool)
  | .switch _ => none
  | .reply toAddr buf initial => some (toAddr, buf, initial)

/-- The replies of what a switch does, in order. -/
def replies (es : List StunEffect) : List (IPv4Port × Buf × Bool) := es.filterMap StunEffect.replied

/-- The reply to a request of a user, if it is valid. -/
def StunLibrary.answer {σ μ : Type} (lib : StunLibrary σ μ) (stun : σ) (username pwd : String)
    (sender : IPv4Port) (req : Buf) : σ × Option Buf :=
  let valRes := lib.validate stun username pwd req
  if valRes.2.2 = .success then
    lib.createReply valRes.1 valRes.2.1 StunAgent.msgBufLen sender (lib.hasIceControlled valRes.2.1)
  else (valRes.1, none)

namespace StunAgent
variable {σ μ : Type} {lib : StunLibrary σ μ} {a : StunAgent σ} {sender : IPv4Port} {req : Buf}

theorem validate_of_none (h : a.peers.lookup sender = none) :
    a.validate lib sender req = (a, ⟨false, false, "UNKNOWN_PEER"⟩) := by
  unfold validate
  rw [h]

/-- A peer, by the reply that there is for it. -/
theorem validate_of_peer {peer : Credentials} (h : a.peers.lookup sender = some peer) :
    let out := lib.answer a.stun (a.credentials.uFrag ++ ":" ++ peer.uFrag) a.credentials.pwd sender req
    let next := a.validate lib sender req
    (out.2 = none → next.1 = { a with stun := out.1 } ∧ next.2.success = false) ∧
      ∀ msg, out.2 = some msg → next.2.success = true ∧ next.2.initial = !peer.validated ∧
        next.1.msg = msg ∧ next.1.credentials = a.credentials ∧
        ∀ e, next.1.peers.lookup e =
          if e = sender then some { peer with validated := true } else a.peers.lookup e := by
  unfold validate StunLibrary.answer
  rw [h]
  dsimp only
  generalize lib.validate a.stun (a.credentials.uFrag ++ ":" ++ peer.uFrag) a.credentials.pwd req = valRes
  by_cases hval : valRes.2.2 = .success
  · rw [if_pos hval, if_pos hval]
    generalize lib.createReply valRes.1 valRes.2.1 msgBufLen sender (lib.hasIceControlled valRes.2.1) = result
    obtain ⟨stun, reply⟩ := result
    cases reply with
    | none => exact ⟨fun _ => ⟨rfl, rfl⟩, fun msg hmsg => absurd hmsg.symm (Option.some_ne_none _)⟩
    | some reply =>
        refine ⟨fun hno => absurd hno (Option.some_ne_none _), fun msg hmsg => ?_⟩
        obtain rfl := Option.some.inj hmsg
        dsimp only
        by_cases hpeer : peer.validated = true
        · rw [if_pos hpeer]
          refine ⟨rfl, by rw [hpeer]; rfl, rfl, rfl, fun e => ?_⟩
          split
          · rw [‹e = sender›, h, ← hpeer]
          · rfl
        · rw [if_neg hpeer]
          refine ⟨rfl, by rw [Bool.eq_false_iff.mpr hpeer]; rfl, rfl, rfl, fun e => ?_⟩
          split
          · rw [‹e = sender›]
            exact AList.lookup_insert _
          · exact AList.lookup_insert_ne ‹¬ e = sender›
  · rw [if_neg hval, if_neg hval]
    exact ⟨fun _ => ⟨rfl, rfl⟩, fun msg hmsg => absurd hmsg.symm (Option.some_ne_none _)⟩

end StunAgent

/-! ## What the STUN agent knows -/

def Rpc.first (log : List Rpc.AddStream) (e : IPv4Port) : Option Rpc.AddStream := log.find? fun m => m.addr = e

/-- The peers are the endpoints of the messages, with the credentials of the first message of each one; and they
are validated when they have got a reply. -/
structure StunAgent.Peers {σ : Type} (credentials : Credentials) (log : List Rpc.AddStream)
    (sent : List IPv4Port) (a : StunAgent σ) : Prop where
  own : a.credentials = credentials
  peers : ∀ e, a.peers.lookup e = (Rpc.first log e).map fun m => ⟨m.iceUfrag, m.icePwd, decide (e ∈ sent)⟩
  known : ∀ e ∈ sent, (Rpc.first log e).isSome

namespace StunSwitch
variable {σ μ α β : Type} {lib : StunLibrary σ μ} {o : WalkOrder}
variable {credentials : Credentials} {log : List Rpc.AddStream} {sent : List IPv4Port} {s : StunSwitch σ}

/-- The program leaves the STUN agent, and does not reply. -/
def Apart (m : StunEff σ α) : Prop := ∀ s, (m s).state.stun = s.stun ∧ replies (m s).effects = []

theorem apart_pure (a : α) : Apart (pure a : StunEff σ α) := fun _ => ⟨rfl, rfl⟩

theorem apart_ofExcept (x : Except Fault α) : Apart (Eff.ofExcept x : StunEff σ α) := fun _ => ⟨rfl, rfl⟩

theorem apart_onSwitch (m : SwitchEff α) : Apart (onSwitch m : StunEff σ α) := by
  intro s
  refine ⟨rfl, List.filterMap_eq_nil_iff.mpr fun e he => ?_⟩
  obtain ⟨w, -, rfl⟩ := List.mem_map.mp he
  rfl

theorem Apart.bind {m : StunEff σ α} {f : α → StunEff σ β} (hm : Apart m) (hf : ∀ a, Apart (f a)) :
    Apart (m >>= f) := by
  intro s
  obtain ⟨hstun, hnone⟩ := hm s
  rcases hrun : m s with ⟨s₁, es, r⟩
  rw [hrun] at hstun hnone
  cases r with
  | error e =>
      rw [Eff.bind_of_error hrun]
      exact ⟨hstun, hnone⟩
  | ok a =>
      obtain ⟨hstun', hnone'⟩ := hf a s₁
      rw [Eff.bind_of_ok hrun]
      refine ⟨hstun'.trans hstun, ?_⟩
      show replies (es ++ _) = []
      unfold replies at hnone hnone' ⊢
      rw [List.filterMap_append, hnone, hnone']
      rfl

theorem apart_onEffects {es : List Effect} (h : ∀ e ∈ es, DataPlaneModel.NotStun e) :
    Apart (onEffects lib o es) := by
  induction es with
  | nil => exact apart_pure ()
  | cons e es ih =>
      obtain ⟨he, hes⟩ := List.forall_mem_cons.mp h
      refine Apart.bind ?_ fun _ => ih hes
      cases e with
      | send toAddr buf => exact apart_onSwitch _
      | toController reason sender buf =>
          cases reason with
          | stun => exact absurd rfl (he sender buf)
          | av1 => exact apart_onSwitch _
          | rtcp => exact apart_onSwitch _

/-- A new message: its endpoint is a peer then. -/
theorem peers_addPeer (m : Rpc.AddStream) (h : s.stun.Peers credentials log sent) :
    (addPeer m s).state.stun.Peers credentials (log ++ [m]) sent := by
  have hfirst : ∀ e, Rpc.first (log ++ [m]) e =
      (Rpc.first log e).or (if m.addr = e then some m else none) := by
    intro e
    unfold Rpc.first
    rw [List.find?_append, List.find?_singleton]
    simp only [decide_eq_true_eq]
  unfold addPeer
  rw [Eff.get_bind_run]
  by_cases hpeer : s.stun.hasPeer m.addr = true
  · rw [if_pos hpeer]
    have hsome : (Rpc.first log m.addr).isSome := by
      unfold StunAgent.hasPeer at hpeer
      rwa [h.peers, Option.isSome_map] at hpeer
    have hsame : ∀ e, Rpc.first (log ++ [m]) e = Rpc.first log e := by
      intro e
      rw [hfirst]
      by_cases he : m.addr = e
      · obtain ⟨m', hm'⟩ := Option.isSome_iff_exists.mp (he ▸ hsome)
        rw [hm']
        rfl
      · rw [if_neg he, Option.or_none]
    exact ⟨h.own, fun e => (hsame e).symm ▸ h.peers e, fun e he => (hsame e).symm ▸ h.known e he⟩
  · have hnone : Rpc.first log m.addr = none := by
      unfold StunAgent.hasPeer at hpeer
      rw [h.peers, Option.isSome_map] at hpeer
      exact Option.not_isSome_iff_eq_none.mp hpeer
    rw [if_neg hpeer]
    unfold StunAgent.addPeer
    rw [if_neg hpeer, Eff.ofExcept_ok_bind, Eff.modify_run]
    refine ⟨h.own, fun e => ?_, fun e he => ?_⟩
    · rw [hfirst]
      by_cases he : m.addr = e
      · have hnotSent : e ∉ sent := fun hsent => by
          have hknown := h.known e hsent
          rw [← he, hnone] at hknown
          exact Bool.false_ne_true hknown
        rw [← he, hnone, if_pos rfl, Option.none_or, Option.map_some, he, decide_eq_false hnotSent]
        exact AList.lookup_insert _
      · rw [if_neg he, Option.or_none, ← h.peers]
        exact AList.lookup_insert_ne (Ne.symm he)
    · rw [hfirst, Option.isSome_or, h.known e he, Bool.true_or]

theorem only_addPeer (m : Rpc.AddStream) :
    Eff.Only (fun e => e.replied = none) (addPeer m : StunEff σ Unit) := by
  refine Eff.only_get_bind fun s => ?_
  split
  · exact Eff.only_pure _
  · exact (Eff.only_ofExcept _).bind fun _ => Eff.only_modify _

theorem onAddStream_peers {m : Rpc.AddStream} (h : s.stun.Peers credentials log sent) :
    replies (onAddStream o m s).effects = [] ∧ ((onAddStream o m s).result = .ok () →
      (onAddStream o m s).state.stun.Peers credentials (log ++ [m]) sent) := by
  have honly : ∀ prog : SwitchEff Unit, Eff.Only (fun e => e.replied = none) (onSwitch prog : StunEff σ Unit) :=
    fun prog s => List.filterMap_eq_nil_iff.mp (apart_onSwitch prog s).2
  have hlast : ∀ s : StunSwitch σ, s.stun.Peers credentials log sent →
      ((addPeer m >>= fun _ => onSwitch (addForwarding o m)) s).result = .ok () →
      ((addPeer m >>= fun _ => onSwitch (addForwarding o m)) s).state.stun.Peers credentials
        (log ++ [m]) sent := by
    intro s hs hok
    obtain ⟨u, -, -, hst⟩ := Eff.bind_ok hok
    rw [hst]
    exact (apart_onSwitch _ _).1.symm ▸ peers_addPeer m hs
  unfold onAddStream
  by_cases hsend : m.direction = .sendonly
  · rw [if_pos hsend]
    refine ⟨List.filterMap_eq_nil_iff.mpr (Eff.Only.bind (honly _) (fun _ =>
      (only_addPeer m).bind fun _ => honly _) s), fun hok => ?_⟩
    obtain ⟨u, -, hok', hst⟩ := Eff.bind_ok hok
    rw [hst]
    exact hlast _ ((apart_onSwitch _ s).1.symm ▸ h) hok'
  · rw [if_neg hsend]
    exact ⟨List.filterMap_eq_nil_iff.mpr ((only_addPeer m).bind (fun _ => honly _) s), hlast s h⟩

/-- The reply to a datagram of an endpoint: its first message says who may ask. -/
def replyTo (lib : StunLibrary σ μ) (credentials : Credentials) (stun : σ) (first : Option Rpc.AddStream)
    (sender : IPv4Port) (buf : Buf) : Option Buf :=
  if bufferContainsSTUNBindingRequest buf then
    first.bind fun m =>
      (lib.answer stun (credentials.uFrag ++ ":" ++ m.iceUfrag) credentials.pwd sender buf).2
  else none

/-- The replies to an event, after messages and replies. -/
def expected (lib : StunLibrary σ μ) (credentials : Credentials) (stun : σ) (log : List Rpc.AddStream)
    (sent : List IPv4Port) : Switch.Event → List (IPv4Port × Buf × Bool)
  | .packet _ sender buf =>
      (replyTo lib credentials stun (Rpc.first log sender) sender buf).toList.map fun msg =>
        (sender, msg, decide (sender ∉ sent))
  | _ => []

theorem mem_expected {credentials : Credentials} {stun : σ} {log : List Rpc.AddStream} {sent : List IPv4Port}
    {ev : Switch.Event} {toAddr : IPv4Port} {msg : Buf} {initial : Bool}
    (h : (toAddr, msg, initial) ∈ expected lib credentials stun log sent ev) :
    ∃ lost sender buf, ev = .packet lost sender buf ∧ toAddr = sender ∧
      replyTo lib credentials stun (Rpc.first log sender) sender buf = some msg := by
  cases ev with
  | packet lost sender buf =>
      obtain ⟨reply, hreply, heq⟩ := List.mem_map.mp h
      obtain ⟨hto, hmsg, -⟩ := Prod.mk.inj heq |>.imp_right Prod.mk.inj
      rw [hmsg] at hreply
      exact ⟨lost, sender, buf, rfl, hto.symm, Option.mem_toList.mp hreply⟩
  | addStream m => cases h
  | setDecodeTarget sessionId ssrc participantId n => cases h

/-- What a program did: it gave the replies, and the agent knows of them. -/
structure Replies (credentials : Credentials) (log : List Rpc.AddStream) (sent : List IPv4Port)
    (given : List (IPv4Port × Buf × Bool)) (out : Outcome (StunSwitch σ) StunEffect Fault Unit) : Prop where
  replied : replies out.effects = given
  peers : out.state.stun.Peers credentials log (sent ++ given.map Prod.fst)

theorem handleSTUN_replies {sender : IPv4Port} {buf : Buf} (h : s.stun.Peers credentials log sent) :
    Replies credentials log sent
      ((replyTo lib credentials s.stun.stun (Rpc.first log sender) sender buf).toList.map fun msg =>
        (sender, msg, decide (sender ∉ sent))) (handleSTUN lib sender buf s) := by
  have hnone : ∀ a : StunAgent σ, a.Peers credentials log sent → a.Peers credentials log (sent ++ []) := by
    intro a ha
    rw [List.append_nil]
    exact ha
  unfold replyTo handleSTUN
  by_cases hreq : bufferContainsSTUNBindingRequest buf = true
  · rw [if_pos hreq, if_pos hreq]
    have hpeers := h.peers sender
    unfold handleSTUNBindingRequest
    rw [Eff.get_bind_run, Eff.modify_bind_run]
    cases hfirst : Rpc.first log sender with
    | none =>
        rw [hfirst] at hpeers
        rw [StunAgent.validate_of_none hpeers]
        exact ⟨rfl, hnone _ h⟩
    | some m =>
        rw [hfirst] at hpeers
        obtain ⟨hno, hyes⟩ := @StunAgent.validate_of_peer σ μ lib s.stun sender buf _ hpeers
        rw [h.own] at hno hyes
        rw [Option.bind_some]
        cases hanswer : (lib.answer s.stun.stun (credentials.uFrag ++ ":" ++ m.iceUfrag) credentials.pwd sender
            buf).2 with
        | none =>
            obtain ⟨hstate, hfail⟩ := hno hanswer
            rw [hfail, hstate]
            exact ⟨rfl, hnone _ ⟨rfl, h.peers, h.known⟩⟩
        | some msg =>
            obtain ⟨hsuccess, hinitial, hmsg, hown, hlookup⟩ := hyes msg hanswer
            rw [hsuccess, hinitial, hmsg]
            refine ⟨?_, hown, fun e => ?_, fun e he => ?_⟩
            · show [(sender, msg, !decide (sender ∈ sent))] = [(sender, msg, decide (sender ∉ sent))]
              rw [decide_not]
            · show (s.stun.validate lib sender buf).1.peers.lookup e = _
              rw [hlookup]
              by_cases he : e = sender
              · rw [if_pos he, he, hfirst]
                simp
              · rw [if_neg he, h.peers]
                simp [he]
            · rcases List.mem_append.mp he with he | he
              · exact h.known e he
              · obtain rfl := List.mem_singleton.mp he
                rw [hfirst]
                rfl
  · rw [if_neg hreq, if_neg hreq]
    exact ⟨rfl, hnone _ h⟩

theorem bufferContainsSTUN_of_request {buf : Buf} (h : bufferContainsSTUNBindingRequest buf = true) :
    DataPlaneModel.bufferContainsSTUN buf = true := by
  obtain ⟨hlen, h0, -, h4, h5, h6, h7⟩ := of_decide_eq_true h
  refine decide_eq_true ⟨hlen, ?_, h4, h5, h6, h7⟩
  rw [h0]
  rfl

theorem onPacket_replies {lost : Bool} {sender : IPv4Port} {buf : Buf}
    (h : s.stun.Peers credentials log sent) (hcontroller : s.switch.dataPlane.hasController = true) :
    Replies credentials log sent
      (expected lib credentials s.stun.stun log sent (.packet lost sender buf))
      (onPacket lib o lost sender buf s) := by
  let out := DataPlaneModel.onPacket lost sender buf s.switch.dataPlane
  let s' : StunSwitch σ := { s with switch := { s.switch with dataPlane := out.state } }
  have hrun : onPacket lib o lost sender buf s =
      (onEffects lib o out.effects >>= fun _ => Eff.ofExcept out.result) s' := rfl
  rw [hrun]
  by_cases hstun : DataPlaneModel.bufferContainsSTUN buf = true
  · obtain ⟨heffects, hresult⟩ := @DataPlaneModel.onPacket_stun sender buf _ hstun hcontroller lost
    have heffects : out.effects = _ := heffects
    have hresult : out.result = _ := hresult
    have hhandle : (onEffects lib o [.toController .stun sender buf] >>= fun _ =>
        (Eff.ofExcept (.ok ()) : StunEff σ Unit)) = handleSTUN lib sender buf :=
      (Eff.bind_pure_unit _).trans (Eff.bind_pure_unit _)
    rw [heffects, hresult, hhandle]
    exact @handleSTUN_replies σ μ lib credentials log sent s' sender buf h
  · have hreq : ¬ bufferContainsSTUNBindingRequest buf = true := fun hreq =>
      hstun (bufferContainsSTUN_of_request hreq)
    have hapart : Apart (onEffects lib o out.effects >>= fun _ => (Eff.ofExcept out.result : StunEff σ Unit)) :=
      (apart_onEffects (DataPlaneModel.notStun_onPacket hstun lost _)).bind fun _ => apart_ofExcept _
    have hexpected : expected lib credentials s.stun.stun log sent (.packet lost sender buf) = [] := by
      show (replyTo lib credentials s.stun.stun (Rpc.first log sender) sender buf).toList.map _ = []
      unfold replyTo
      rw [if_neg hreq]
      rfl
    rw [hexpected]
    refine ⟨(hapart s').2, ?_⟩
    rw [(hapart s').1, List.map_nil, List.append_nil]
    exact h

theorem handle_replies {ev : Switch.Event} (h : s.stun.Peers credentials log sent)
    (hcontroller : s.switch.dataPlane.hasController = true) :
    replies (handle lib o ev s).effects = expected lib credentials s.stun.stun log sent ev ∧
      ((handle lib o ev s).result = .ok () →
        (handle lib o ev s).state.stun.Peers credentials (log ++ ev.message.toList)
          (sent ++ (replies (handle lib o ev s).effects).map Prod.fst)) := by
  cases ev with
  | addStream m =>
      obtain ⟨hnone, hpeers⟩ := @onAddStream_peers σ o credentials log sent s m h
      refine ⟨hnone, fun hok => ?_⟩
      have hnone' : replies (handle lib o (.addStream m) s).effects = [] := hnone
      rw [hnone', List.map_nil, List.append_nil]
      exact hpeers hok
  | packet lost sender buf =>
      obtain ⟨hreplies, hpeers⟩ := @onPacket_replies σ μ lib o credentials log sent s lost sender buf h hcontroller
      refine ⟨hreplies, fun _ => ?_⟩
      have hreplies' : replies (handle lib o (.packet lost sender buf) s).effects = _ := hreplies
      rw [hreplies', show Switch.Event.message (.packet lost sender buf) = none from rfl, Option.toList_none,
        List.append_nil]
      exact hpeers
  | setDecodeTarget sessionId ssrc participantId n =>
      obtain ⟨hstun, hnone⟩ := apart_onSwitch (Switch.onAPISetDecodeTarget o sessionId ssrc participantId n) s
      have hnone' : replies (handle lib o (.setDecodeTarget sessionId ssrc participantId n) s).effects = [] := hnone
      refine ⟨hnone', fun _ => ?_⟩
      rw [hnone', show Switch.Event.message (.setDecodeTarget sessionId ssrc participantId n) = none from rfl,
        Option.toList_none, List.map_nil, List.append_nil, List.append_nil]
      exact hstun.symm ▸ h

end StunSwitch

namespace StunProcess
variable {σ μ : Type} {lib : StunLibrary σ μ} {credentials : Credentials} {stun : σ} {av1RtpExt : Nat}
variable {p : StunProcess σ} {x : WalkOrder × Switch.Event} {xs : List (WalkOrder × Switch.Event)}

/-- The endpoints that have got replies in a run. -/
def repliedTo (lib : StunLibrary σ μ) (p : StunProcess σ) (xs : List (WalkOrder × Switch.Event)) :
    List IPv4Port :=
  (replies (outputs (step lib) p xs).flatten).map Prod.fst

theorem repliedTo_concat : repliedTo lib p (xs ++ [x]) =
    repliedTo lib p xs ++ (replies (step lib (final (step lib) p xs) x).2).map Prod.fst := by
  unfold repliedTo replies
  rw [outputs_append, List.flatten_append, List.filterMap_append, List.map_append, outputs_cons, outputs_nil,
    List.flatten_singleton]

theorem step_of_running (h : p.running = true) : step lib p x =
    ({ switch := (StunSwitch.handle lib x.1 x.2 p.switch).state
       running := (StunSwitch.handle lib x.1 x.2 p.switch).result.isOk },
      (StunSwitch.handle lib x.1 x.2 p.switch).effects) := if_pos h

theorem step_of_not_running (h : ¬ p.running = true) : step lib p x = (p, []) := if_neg h

/-- The data plane has its handler in every run. -/
theorem final_forget (lib : StunLibrary σ μ) (credentials : Credentials) (stun : σ) (av1RtpExt : Nat)
    (xs : List (WalkOrder × Switch.Event)) :
    (final (step lib) (init av1RtpExt credentials stun) xs).forget =
      final SwitchProcess.step (SwitchProcess.init av1RtpExt) xs :=
  (erased_run (@step_forget σ μ lib) (init av1RtpExt credentials stun) xs).1.symm

theorem final_hasController (lib : StunLibrary σ μ) (credentials : Credentials) (stun : σ) (av1RtpExt : Nat)
    (xs : List (WalkOrder × Switch.Event)) :
    (final (step lib) (init av1RtpExt credentials stun) xs).switch.switch.dataPlane.hasController = true := by
  have hconf : (final SwitchProcess.step (SwitchProcess.init av1RtpExt) xs).switch.dataPlane.hasController = true :=
    (SwitchProcess.final_configured av1RtpExt xs).2
  rw [← final_forget lib credentials stun] at hconf
  exact hconf

/-- What is done apart from replies is what a switch without a STUN agent does. -/
theorem step_seen (lib : StunLibrary σ μ) (credentials : Credentials) (stun : σ) (av1RtpExt : Nat)
    (xs : List (WalkOrder × Switch.Event)) (x : WalkOrder × Switch.Event) :
    (step lib (final (step lib) (init av1RtpExt credentials stun) xs) x).2.filterMap StunEffect.seen =
      (SwitchProcess.step (final SwitchProcess.step (SwitchProcess.init av1RtpExt) xs) x).2 := by
  rw [← final_forget lib credentials stun, step_forget]

theorem final_peers (lib : StunLibrary σ μ) (credentials : Credentials) (stun : σ) (av1RtpExt : Nat)
    (xs : List (WalkOrder × Switch.Event)) :
    (final (step lib) (init av1RtpExt credentials stun) xs).running = true →
      (final (step lib) (init av1RtpExt credentials stun) xs).switch.stun.Peers credentials
        (SwitchProcess.messages xs) (repliedTo lib (init av1RtpExt credentials stun) xs) := by
  refine final_rec (step lib) (I := fun xs q => q.running = true → q.switch.stun.Peers credentials
    (SwitchProcess.messages xs) (repliedTo lib (init av1RtpExt credentials stun) xs)) ?_ (fun xs x h => ?_) xs
  · exact fun _ => ⟨rfl, fun _ => rfl, fun e he => absurd he List.not_mem_nil⟩
  · intro hnext
    by_cases hrun : (final (step lib) (init av1RtpExt credentials stun) xs).running = true
    · rw [step_of_running hrun] at hnext ⊢
      rw [SwitchProcess.messages_concat, repliedTo_concat, step_of_running hrun]
      obtain ⟨-, hpeers⟩ := @StunSwitch.handle_replies σ μ lib x.1 credentials _ _ _ x.2 (h hrun)
        (final_hasController lib credentials stun av1RtpExt xs)
      refine hpeers ?_
      cases hres : (StunSwitch.handle lib x.1 x.2
          (final (step lib) (init av1RtpExt credentials stun) xs).switch).result with
      | ok u => rfl
      | error e =>
          dsimp only at hnext
          rw [hres] at hnext
          exact absurd hnext Bool.false_ne_true
    · rw [step_of_not_running hrun] at hnext
      exact absurd hnext hrun

theorem step_replies (hrun : (final (step lib) (init av1RtpExt credentials stun) xs).running = true) :
    replies (step lib (final (step lib) (init av1RtpExt credentials stun) xs) x).2 =
      StunSwitch.expected lib credentials (final (step lib) (init av1RtpExt credentials stun) xs).switch.stun.stun
        (SwitchProcess.messages xs) (repliedTo lib (init av1RtpExt credentials stun) xs) x.2 := by
  rw [step_of_running hrun]
  exact (StunSwitch.handle_replies (final_peers lib credentials stun av1RtpExt xs hrun)
    (final_hasController lib credentials stun av1RtpExt xs)).1

/-- **Replies.** In every run a datagram gets a STUN reply just when it is a binding request of an endpoint of an
earlier message, which is valid for the credentials of the first such message. The reply goes to this endpoint;
the log calls it the first one just when the endpoint has got none before. -/
theorem replies_exactly (lib : StunLibrary σ μ) (credentials : Credentials) (stun : σ) (av1RtpExt : Nat)
    (xs : List (WalkOrder × Switch.Event)) (x : WalkOrder × Switch.Event)
    (hrun : (final (step lib) (init av1RtpExt credentials stun) xs).running = true) :
    let p := final (step lib) (init av1RtpExt credentials stun) xs
    replies (step lib p x).2 = StunSwitch.expected lib credentials p.switch.stun.stun (SwitchProcess.messages xs)
      (repliedTo lib (init av1RtpExt credentials stun) xs) x.2 := by
  dsimp only
  exact step_replies hrun

def datagram : StunEffect → Option (IPv4Port × Buf)
  | .switch e => e.datagram
  | .reply toAddr buf _ => some (toAddr, buf)

/-- What is sent is sent by the switch, or it is a reply. -/
theorem sent_cases {es : List StunEffect} {d : IPv4Port × Buf} (h : d ∈ es.filterMap datagram) :
    d ∈ Switch.datagrams (es.filterMap StunEffect.seen) ∨ ∃ initial, (d.1, d.2, initial) ∈ replies es := by
  obtain ⟨e, he, hd⟩ := List.mem_filterMap.mp h
  cases e with
  | switch e => exact .inl (List.mem_filterMap.mpr ⟨e, List.mem_filterMap.mpr ⟨_, he, rfl⟩, hd⟩)
  | reply toAddr buf initial =>
      obtain rfl := Option.some.inj hd
      exact .inr ⟨initial, List.mem_filterMap.mpr ⟨_, he, rfl⟩⟩

/-- **Sessions.** Whatever happens to a switch, all that it sends are replies to valid binding requests that have just
come in, to their senders, and datagrams that have just come in, up to the sequence number. Such a datagram goes where
its SSRC belongs: from a sender to a receiver of one session, or back, or to or from `0.0.0.0:0`. -/
theorem sends_in_session (lib : StunLibrary σ μ) (credentials : Credentials) (stun : σ) (av1RtpExt : Nat)
    (xs : List (WalkOrder × Switch.Event)) (x : WalkOrder × Switch.Event) (d : IPv4Port × Buf)
    (hd : d ∈ (step lib (final (step lib) (init av1RtpExt credentials stun) xs) x).2.filterMap datagram) :
    let p := final (step lib) (init av1RtpExt credentials stun) xs
    let log := SwitchProcess.messages xs
    ∃ lost sender buf, x.2 = .packet lost sender buf ∧
      ((d.1 = sender ∧
          StunSwitch.replyTo lib credentials p.switch.stun.stun (Rpc.first log sender) sender buf = some d.2) ∨
        (d.2 = buf ∨ ∃ seq, d.2 = Rtp.setSeq buf seq) ∧
          ∃ ssrc, (DataPlaneModel.handling av1RtpExt lost buf).ssrc = some ssrc ∧
            (sender = zeroAddr ∨ d.1 = zeroAddr ∨
              ∃ a b, Rpc.Announces log a b ∧ Rpc.Connects a b sender d.1 ssrc)) := by
  intro p log
  have hrun : p.running = true := by
    by_contra hno
    rw [step_of_not_running hno] at hd
    exact absurd hd List.not_mem_nil
  obtain hsent | ⟨initial, hreply⟩ := sent_cases hd
  · rw [step_seen] at hsent
    obtain ⟨lost, sender, buf, hx, hbuf, hssrc⟩ := SwitchProcess.forwards_in_session av1RtpExt xs x hsent
    exact ⟨lost, sender, buf, hx, .inr ⟨hbuf, hssrc⟩⟩
  · rw [step_replies hrun] at hreply
    obtain ⟨lost, sender, buf, hx, hto, hbuf⟩ := StunSwitch.mem_expected hreply
    exact ⟨lost, sender, buf, hx, .inl ⟨hto, hbuf⟩⟩

/-- A binding request of the user `Q9uT:`, signed with `Y00r`. -/
def exampleRequest : Buf :=
  [0x00, 0x01, 0x00, 0x2c, 0x21, 0x12, 0xa4, 0x42, 1, 2, 3, 4, 5, 6, 7, 8, 9, 10, 11, 12,
    0x00, 0x06, 0x00, 0x05, 0x51, 0x39, 0x75, 0x54, 0x3a, 0, 0, 0,
    0x00, 0x08, 0x00, 0x14, 0x81, 0x45, 0x5e, 0x8a, 0xc4, 0xcc, 0xd1, 0x6e, 0xf2, 0xdf,
    0xe0, 0xad, 0xe5, 0xc4, 0x5c, 0x28, 0x49, 0x4d, 0xfc, 0x8b,
    0x80, 0x28, 0x00, 0x04, 0xcd, 0x33, 0x8f, 0xef]

/-- The reply to it, for `0.0.0.1:1`. -/
def exampleReply : Buf :=
  [0x01, 0x01, 0x00, 0x38, 0x21, 0x12, 0xa4, 0x42, 1, 2, 3, 4, 5, 6, 7, 8, 9, 10, 11, 12,
    0x00, 0x20, 0x00, 0x08, 0x00, 0x01, 0x21, 0x13, 0x21, 0x12, 0xa4, 0x43,
    0x00, 0x06, 0x00, 0x05, 0x51, 0x39, 0x75, 0x54, 0x3a, 0, 0, 0,
    0x00, 0x08, 0x00, 0x14, 0xce, 0xc5, 0x1d, 0x67, 0x69, 0xde, 0xae, 0x89, 0x97, 0x0b,
    0x05, 0x4f, 0x08, 0x32, 0x4e, 0xe1, 0xb2, 0xdd, 0xdf, 0x42,
    0x80, 0x28, 0x00, 0x04, 0xb4, 0x94, 0xe7, 0x4d]

/-- A library that takes this request from its user, and refuses everything else. -/
def exampleLibrary : StunLibrary Unit Buf where
  validate _ username pwd req :=
    ((), req, if req = exampleRequest ∧ username = "Q9uT:" ∧ pwd = "Y00r" then .success else .badRequest)
  hasIceControlled _ := false
  createReply _ _ _ _ _ := ((), some exampleReply)

def exampleCredentials : Credentials := { uFrag := "Q9uT", pwd := "Y00r" }

theorem replies_exactly_request :
    replies (step exampleLibrary (final (step exampleLibrary) (init 1 exampleCredentials ()) SwitchProcess.exampleCall)
      (default, .packet false ⟨1, 1⟩ exampleRequest)).2 = [(⟨1, 1⟩, exampleReply, true)] :=
  replies_exactly exampleLibrary exampleCredentials () 1 SwitchProcess.exampleCall
    (default, .packet false ⟨1, 1⟩ exampleRequest) (by decide)

theorem sends_in_session_call :
    ∃ lost sender buf, Switch.Event.packet false ⟨1, 1⟩ SwitchProcess.exampleDatagram = .packet lost sender buf ∧
      ((⟨2, 2⟩ = sender ∧
          StunSwitch.replyTo exampleLibrary exampleCredentials ()
            (Rpc.first (SwitchProcess.messages SwitchProcess.exampleCall) sender) sender buf =
              some SwitchProcess.exampleDatagram) ∨
        (SwitchProcess.exampleDatagram = buf ∨ ∃ seq, SwitchProcess.exampleDatagram = Rtp.setSeq buf seq) ∧
          ∃ ssrc, (DataPlaneModel.handling 1 lost buf).ssrc = some ssrc ∧
            (sender = zeroAddr ∨ (⟨2, 2⟩ : IPv4Port) = zeroAddr ∨
              ∃ a b, Rpc.Announces (SwitchProcess.messages SwitchProcess.exampleCall) a b ∧
                Rpc.Connects a b sender ⟨2, 2⟩ ssrc)) :=
  sends_in_session exampleLibrary exampleCredentials () 1 SwitchProcess.exampleCall
    (default, .packet false ⟨1, 1⟩ SwitchProcess.exampleDatagram) (⟨2, 2⟩, SwitchProcess.exampleDatagram) (by decide)

end StunProcess

end Scallop
