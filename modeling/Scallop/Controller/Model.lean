import Scallop.Controller.Session

/-!
# The controller

`p4sfu::Controller` of `controller/controller.{h,cc}`, with its client and switch interfaces
(`lib/controller_client_interface.cc`, `lib/controller_switch_interface.cc`) and the session manager.

* `Controller` : connections, sessions, and what was written to the switches so far;
* `Env` : how session descriptions are parsed, and which writes to clients fail;
* `onNewParticipant`, `onClientOffer`, `onClientAnswer`, `onClientClose`, `onNewStream`, `onNewSwitch`,
  `onSwitchClose` : the handlers;
* `Event`, `Process.step` : runs; an exception ends the process.

Messages are given as decoded; what is only logged, and the API, are left out. A write to a client
fails or not; a write to a switch is asynchronous, and is queued.
-/

namespace Scallop

structure ClientMeta where
  registered : Bool := false
  sessionId : Nat := 0
  participantId : Nat := 0
deriving DecidableEq, Repr

instance : Inhabited ClientMeta := ⟨{}⟩

structure SwitchMeta where
  registered : Bool := false
  id : Nat := 0
deriving DecidableEq, Repr

instance : Inhabited SwitchMeta := ⟨{}⟩

/-- The messages to clients of `lib/rpc.h`. -/
inductive ClientMessage where
  | hello (sessionId participantId : Option Nat)
  | offer (sdp : Sdp.SessionDescription) (participantId : Nat)
  | answer (sdp : Sdp.SessionDescription) (participantId : Nat)
deriving DecidableEq, Repr

/-- The messages to switches of `lib/rpc.h`. -/
inductive SwitchMessage where
  | hello
  | addParticipant (sessionId participantId : Nat) (ip : UInt32)
  | addStream (m : Rpc.AddStream)
deriving DecidableEq, Repr

/-- `p4sfu::ControllerSwitchInterface`: its sessions, and what was written to which of them. -/
structure Switches where
  server : Connections SwitchMeta := {}
  written : List (Nat × SwitchMessage) := []

structure Controller where
  sfuConfig : SFUConfig
  clients : Connections ClientMeta := {}
  clientWrites : Nat := 0
  switches : Switches := {}
  sessions : Std.ExtTreeMap Nat Session := ∅

/-- What the controller does not determine: how a description is parsed, and the error of every write
to a client. -/
structure Env where
  parse : Sdp.Parser
  writeError : Nat → Option Int

def allowedSwitchId : Nat := 0

namespace Switches

abbrev Program (α : Type) := Eff Switches (Nat × ClientMessage) Fault α

def connectionById (s : Switches) (switchId : Nat) (registered : Bool := false) :
    Option (IPv4Port × Nat) :=
  s.server.findIf fun m =>
    if registered then m.id = switchId ∧ m.registered else m.id = switchId

def countRegistered (s : Switches) : Nat :=
  s.server.connections.toList.countP fun e => (s.server.metaData e.2).registered

/-- `ControllerSwitchInterface::get`. -/
def connection (switchId : Nat) : Program Nat := do
  let s ← Eff.get
  match s.connectionById switchId with
  | some (_, i) => return i
  | none => Eff.throw (.logicError
      ("ControllerSwitchInterface: get: switch does not exist, id=" ++ toString switchId))

def write (i : Nat) (m : SwitchMessage) : Program Unit :=
  Eff.modify fun s => { s with written := s.written ++ [(i, m)] }

def remove (switchId : Nat) : Program Unit := do
  let s ← Eff.get
  match s.connectionById switchId with
  | some (remote, _) => Eff.modify fun s => { s with server := s.server.erase remote }
  | none => Eff.throw (.logicError
      ("ControllerSwitchInterface: remove: switch does not exist, id=" ++ toString switchId))

end Switches

/-- `ControllerSwitchConnection::addStream`: the message for a stream. -/
def StreamConfig.message (sessionId participantId : Nat) : StreamConfig → Rpc.AddStream
  | .send c =>
      { sessionId, participantId, ip := c.addr.ip, port := c.addr.port, iceUfrag := c.iceUfrag
        icePwd := c.icePwd, mainSSRC := c.mainSSRC, rtxSSRC := c.rtxSSRC, mediaType := c.mediaType
        direction := .sendonly }
  | .receive c =>
      { sessionId, participantId, ip := c.addr.ip, port := c.addr.port, iceUfrag := c.iceUfrag
        icePwd := c.icePwd, mainSSRC := c.mainSSRC, rtxSSRC := c.rtxSSRC, rtcpSSRC := c.rtcpSSRC
        rtcpRtxSSRC := c.rtcpRtxSSRC, mediaType := c.mediaType, direction := .recvonly }

def onNewStream (session : Session) (participantId : Nat) (stream : Stream) :
    Switches.Program Unit := do
  if stream.description.direction = none then return ()
  else do
    let i ← Switches.connection allowedSwitchId
    Switches.write i (.addStream (stream.dataPlaneConfig.message session.id participantId))

namespace Controller

/-- A program on the controller, which writes to its clients. -/
abbrev Program (α : Type) := Eff Controller (Nat × ClientMessage) Fault α

/-- A session, which `SessionManager::add` makes if it is not there. -/
def session (c : Controller) (sessionId : Nat) : Session :=
  c.sessions.getD sessionId { id := sessionId, sfuConfig := c.sfuConfig }

/-- The controller, with another session and other switches. -/
def setSession (c : Controller) (sessionId : Nat) (s : Session × Switches) : Controller :=
  { c with sessions := c.sessions.insert sessionId s.1, switches := s.2 }

@[simp] theorem session_setSession_self {c : Controller} {sessionId : Nat} {s : Session × Switches} :
    (c.setSession sessionId s).session sessionId = s.1 :=
  Std.ExtTreeMap.getD_insert_self

theorem session_setSession_of_ne {c : Controller} {sessionId k : Nat} {s : Session × Switches}
    (h : k ≠ sessionId) : (c.setSession sessionId s).session k = c.session k := by
  unfold setSession session
  rw [Std.ExtTreeMap.getD_insert, if_neg (by rw [Nat.compare_eq_eq]; exact h.symm)]

theorem session_new {sfuConfig : SFUConfig} {sessionId : Nat} :
    ({ sfuConfig } : Controller).session sessionId = { id := sessionId, sfuConfig } :=
  Std.ExtTreeMap.getD_empty

/-- `SessionManager::exists`. -/
def sessionExists (c : Controller) (sessionId : Nat) : Bool := c.sessions.contains sessionId

/-- A session that is added is the one that a read makes up. -/
theorem session_add {c : Controller} {sessionId : Nat} (h : ¬ c.sessionExists sessionId = true) :
    ({ c with sessions := c.sessions.insert sessionId { id := sessionId, sfuConfig := c.sfuConfig } } :
      Controller).session = c.session := by
  funext k
  by_cases hk : k = sessionId
  · rw [hk]
    refine Std.ExtTreeMap.getD_insert_self.trans ?_
    unfold session
    rw [Std.ExtTreeMap.getD_eq_fallback_of_contains_eq_false]
    exact Bool.eq_false_of_not_eq_true h
  · exact session_setSession_of_ne (s := (_, c.switches)) hk

/-- Run an operation of a session, with the callback that the session manager sets. -/
def onSession {α : Type} (sessionId : Nat) (m : SessionEff Switches (Nat × ClientMessage) α) :
    Program α :=
  Eff.zoom (fun c => (c.session sessionId, c.switches)) (fun s c => c.setSession sessionId s)
    (fun w => w) m

def onSwitches {α : Type} (m : Switches.Program α) : Program α :=
  Eff.zoom Controller.switches (fun s c => { c with switches := s }) (fun w => w) m

variable (env : Env)

def write (i : Nat) (m : ClientMessage) : Program Unit := do
  let c ← Eff.get
  Eff.modify fun c => { c with clientWrites := c.clientWrites + 1 }
  match env.writeError c.clientWrites with
  | none => Eff.emit (i, m)
  | some code => Eff.throw (.runtimeError
      ("SecureWebSocketSession: write: failed: " ++ toString code))

/-- `ControllerClientConnection::sendHello`; an id that is `0` is left out. -/
def sendHello (i : Nat) : Program Unit := do
  let c ← Eff.get
  let m := c.clients.metaData i
  write env i (.hello (if m.sessionId ≠ 0 then some m.sessionId else none)
    (if m.participantId ≠ 0 then some m.participantId else none))

/-- `ControllerClientConnection::sendOffer`; the description is printed first. -/
def sendOffer (i : Nat) (offer : Sdp.SessionDescription) (relatedParticipantId : Nat) :
    Program Unit := do
  Eff.ofExcept offer.checkLines
  write env i (.offer offer relatedParticipantId)

def sendAnswer (i : Nat) (answer : Sdp.SessionDescription) (relatedParticipantId : Nat) :
    Program Unit := do
  Eff.ofExcept answer.checkLines
  write env i (.answer answer relatedParticipantId)

/-- `ControllerClientInterface::get`. -/
def clientConnection (sessionId participantId : Nat) : Program Nat := do
  let c ← Eff.get
  match c.clients.findIf fun m => m.sessionId = sessionId ∧ m.participantId = participantId with
  | some (_, i) => return i
  | none => Eff.throw (.logicError
      "ControllerClientInterface: get: participant does not exist")

/-! ## Clients -/

/-- What `_onNewParticipant` does once there is a session. -/
def joinSession (i sessionId : Nat) (remote : IPv4Port) : Program Unit := do
  let ip := IPv4.str remote.ip
  let c ← Eff.get
  if (c.session sessionId).participantExistsAt ip remote.port then return ()
  else do
    let participantId ← onSession sessionId (Session.addParticipant ip remote.port)
    Eff.modify fun c => { c with
      clients := c.clients.setMetaData i { registered := true, sessionId, participantId } }
    sendHello env i
    onSwitches do
      let sw ← Switches.connection allowedSwitchId
      let addr ← Eff.ofExcept (IPv4.ofString ip)
      Switches.write sw (.addParticipant sessionId participantId addr)
    let c ← Eff.get
    if 1 < (c.session sessionId).countParticipants ∧ 0 < (c.session sessionId).countStreams then do
      let offer ← onSession sessionId (Session.getOffer participantId)
      sendOffer env i offer 0
    else return ()

/-- `_onNewParticipant`, for the session that a connection wraps. -/
def onNewParticipant (i : Nat) (remote : IPv4Port) (sessionId : Option Nat) : Program Unit :=
  match sessionId with
  | none => Eff.throw .emptyOptional
  | some sessionId => do
      let c ← Eff.get
      if c.sessionExists sessionId then joinSession env i sessionId remote
      else do
        Eff.modify fun c => { c with
          sessions := c.sessions.insert sessionId { id := sessionId, sfuConfig := c.sfuConfig } }
        joinSession env i sessionId remote

/-- The loop of `_onClientOffer`: an offer for every other participant. -/
def forwardOffers (sessionId fromId : Nat) : List Nat → Program Unit
  | [] => return ()
  | id :: ids =>
      if id = fromId then forwardOffers sessionId fromId ids
      else do
        let offer ← onSession sessionId (Session.getOffer id)
        let c ← Eff.get
        let i ← clientConnection (c.session sessionId).id id
        sendOffer env i offer fromId
        forwardOffers sessionId fromId ids

/-- `_onClientOffer`, for the session that a connection wraps. -/
def onClientOffer (i : Nat) (sdp : String) : Program Unit := do
  let c ← Eff.get
  let m := c.clients.metaData i
  if ¬ c.sessionExists m.sessionId then return ()
  else if ¬ (c.session m.sessionId).participantExists m.participantId then return ()
  else do
    let offer ← Eff.ofExcept (env.parse sdp)
    onSession m.sessionId (Session.addOffer (some onNewStream) m.participantId offer)
    let c ← Eff.get
    let session := c.session m.sessionId
    if 1 < session.countParticipants then
      forwardOffers env m.sessionId m.participantId session.participants.keys
    else do
      let answer ← onSession m.sessionId (Session.getAnswer m.participantId)
      sendAnswer env i answer m.participantId

/-- The answer to the participant that has made the offer, once nobody is awaited. -/
def completeTransaction (sessionId : Nat) : Program Unit := do
  let c ← Eff.get
  let session := c.session sessionId
  if session.signalingActive ∧ session.particpantsInState .awaitAnswer = [] then do
    let initParticipantId ← Eff.ofExcept (session.participantInState .gotOffer)
    let answer ← onSession sessionId (Session.getAnswer initParticipantId)
    let i ← clientConnection sessionId initParticipantId
    sendAnswer env i answer initParticipantId
  else return ()

/-- `_onClientAnswer`, for the session that a connection wraps. -/
def onClientAnswer (i : Nat) (sdp : String) : Program Unit := do
  let c ← Eff.get
  let m := c.clients.metaData i
  if ¬ c.sessionExists m.sessionId then return ()
  else if ¬ (c.session m.sessionId).participantExists m.participantId then return ()
  else do
    let answer ← Eff.ofExcept (env.parse sdp)
    onSession m.sessionId (Session.addAnswer (some onNewStream) m.participantId answer)
    completeTransaction env m.sessionId

def onClientClose (m : ClientMeta) : Program Unit := do
  let c ← Eff.get
  if c.sessionExists m.sessionId ∧ (c.session m.sessionId).participantExists m.participantId then
    onSession m.sessionId (Session.removeParticipant m.participantId)
  else return ()

/-! ## Switches -/

/-- `_onNewSwitch`, for the session that a connection wraps. -/
def onNewSwitch (i switchId : Nat) : Switches.Program Unit := do
  let s ← Eff.get
  if s.countRegistered ≠ 0 ∨ switchId ≠ allowedSwitchId ∨ (s.connectionById switchId true).isSome then
    return ()
  else do
    Eff.modify fun s => { s with
      server := s.server.setMetaData i { registered := true, id := switchId } }
    Switches.write i .hello

end Controller

/-! ## Events -/

/-- What happens to the controller. Clients and switches are named by the number of their session. -/
inductive Event where
  | clientOpen (remote : IPv4Port)
  | clientHello (client : Nat) (sessionId : Option Nat)
  | clientOffer (client : Nat) (sdp : String)
  | clientAnswer (client : Nat) (sdp : String)
  | clientClose (client : Nat)
  | switchOpen (remote : IPv4Port)
  | switchHello (switch : Nat) (switchId : Option Nat)
  | switchClose (switch : Nat)
deriving DecidableEq, Repr

namespace Controller
variable (env : Env)

/-- `ControllerClientInterface::_onClientHello`: `conn` is the session that the connection of the
client's endpoint wraps. -/
def clientHello (client conn : Nat) (remote : IPv4Port) (sessionId : Option Nat) : Program Unit := do
  let c ← Eff.get
  if ¬ (c.clients.metaData client).registered then onNewParticipant env conn remote sessionId
  else if sessionId.isSome then sendHello env conn
  else return ()

/-- A message of a client, by what its interface does with it: only a registered client may say more
than hello. -/
def onClientMessage (client : Nat)
    (handler : (conn : Nat) → (remote : IPv4Port) → Program Unit) : Program Unit := do
  let c ← Eff.get
  match c.clients.accepted[client]? with
  | none => return ()
  | some s =>
      if ¬ s.isOpen then return ()
      else match c.clients.find? s.remote with
        | none => return ()
        | some conn => handler conn s.remote

def handle : Event → Program Unit
  | .clientOpen remote =>
      Eff.modify fun c => { c with clients := c.clients.accept remote }
  | .clientHello client sessionId =>
      onClientMessage client fun conn remote => clientHello env client conn remote sessionId
  | .clientOffer client sdp =>
      onClientMessage client fun conn _ => do
        let c ← Eff.get
        if (c.clients.metaData client).registered then onClientOffer env conn sdp else return ()
  | .clientAnswer client sdp =>
      onClientMessage client fun conn _ => do
        let c ← Eff.get
        if (c.clients.metaData client).registered then onClientAnswer env conn sdp else return ()
  | .clientClose client => do
      let c ← Eff.get
      match c.clients.accepted[client]? with
      | none => return ()
      | some s =>
          if ¬ s.isOpen then return ()
          else do
            Eff.modify fun c => { c with clients := c.clients.close client }
            onClientClose s.metaData
  | .switchOpen remote => onSwitches do
      Eff.modify fun s => { s with server := s.server.accept remote }
  | .switchHello switch switchId => onSwitches do
      let s ← Eff.get
      match s.server.accepted[switch]?, switchId with
      | some ws, some switchId =>
          match s.server.find? ws.remote with
          | some conn =>
              if ws.isOpen ∧ ¬ ws.metaData.registered then onNewSwitch conn switchId else return ()
          | none => return ()
      | _, _ => return ()
  | .switchClose switch => onSwitches do
      let s ← Eff.get
      match s.server.accepted[switch]? with
      | none => return ()
      | some ws =>
          if ¬ ws.isOpen then return ()
          else do
            Eff.modify fun s => { s with server := s.server.close switch }
            Switches.remove ws.metaData.id

end Controller

/-- The process of the controller: `io_context::run` ends with the first exception. -/
structure Process where
  controller : Controller
  fault : Option Fault := none

namespace Process

def step (env : Env) (p : Process) (event : Event) : Process × List (Nat × ClientMessage) :=
  match p.fault with
  | some _ => (p, [])
  | none =>
      let out := Controller.handle env event p.controller
      match out.result with
      | .ok () => ({ controller := out.state }, out.effects)
      | .error e => ({ controller := out.state, fault := some e }, out.effects)

def init (sfuConfig : SFUConfig) : Process := { controller := { sfuConfig } }

end Process

end Scallop
