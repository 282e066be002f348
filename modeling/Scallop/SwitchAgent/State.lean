import Scallop.DataPlane.Av1
import Scallop.Lib.Eff
import Scallop.Lib.UnorderedMap
import Scallop.Rpc

/-!
# The state of the switch agent

`SwitchAgentState` of `lib/switch_agent_state.h`: the streams that are sent to the switch, and those
that it sends on.

* `SendStream`, `ReceiveStream`, `SwitchAgentState`;
* `addSendStream`, `addReceiveStream` : programs; what they changed before an exception stays;
* `getSendStream`, `getReceiveStream`, `getReceiveStreamFrom` : they walk the streams in the order
  `o`.
-/

namespace Scallop

open Av1

/-- `SwitchAgentState::Stream`. -/
structure AgentStream where
  sessionId : Nat := 0
  sendingParticipant : Nat := 0
  addr : IPv4Port := {}
  ssrc : SSRC := 0
  type : MediaType := .audio
  rtx : Bool := false
deriving DecidableEq, Repr

structure SendStream extends AgentStream where
  receiveStreamIds : List UInt32 := []
deriving DecidableEq, Repr

structure ReceiveStream extends AgentStream where
  sendStreamId : UInt32 := 0
  receivingParticipant : Nat := 0
  decodeTarget : DecodeTarget := .hi
  bandwidthEstimates : List UInt32 := []
deriving DecidableEq, Repr

/-- A video stream that is no retransmission: its decode target can be adjusted. -/
def ReceiveStream.Adjustable (r : ReceiveStream) : Prop := r.type = .video ∧ r.rtx = false

instance (r : ReceiveStream) : Decidable r.Adjustable := inferInstanceAs (Decidable (_ ∧ _))

/-- `SwitchAgentState`; `sessions` has the ids of the send streams of a session by their SSRC. -/
structure SwitchAgentState where
  sendStreams : UnorderedMap UInt32 SendStream := ∅
  receiveStreams : UnorderedMap UInt32 ReceiveStream := ∅
  sessions : UnorderedMap Nat (UnorderedMap SSRC UInt32) := ∅
  nextSendStreamId : UInt32 := 0
  nextReceiveStreamId : UInt32 := 0
deriving DecidableEq

abbrev AgentStateEff := Eff SwitchAgentState Empty Fault

namespace SwitchAgentState

/-! ## Lookups -/

section Lookup
variable (o : WalkOrder) (st : SwitchAgentState)

def getSendStream (sessionId : Nat) (ssrc : SSRC) : Option (UInt32 × SendStream) :=
  st.sendStreams.findIf o fun s => s.sessionId = sessionId ∧ s.ssrc = ssrc

def getReceiveStream (sessionId : Nat) (ssrc : SSRC) (receivingParticipantId : Nat) :
    Option (UInt32 × ReceiveStream) :=
  st.receiveStreams.findIf o fun r =>
    r.sessionId = sessionId ∧ r.ssrc = ssrc ∧ r.receivingParticipant = receivingParticipantId

/-- `getReceiveStream`, of an endpoint. -/
def getReceiveStreamFrom (sender : IPv4Port) (ssrc : SSRC) : Option (UInt32 × ReceiveStream) :=
  st.receiveStreams.findIf o fun r => r.addr = sender ∧ r.ssrc = ssrc

end Lookup

/-! ## New streams -/

/-- The streams of a session, by their SSRC. -/
def session (st : SwitchAgentState) (sessionId : Nat) : UnorderedMap SSRC UInt32 :=
  (st.sessions.lookup sessionId).getD ∅

def pushSendStream (s : SendStream) (st : SwitchAgentState) : SwitchAgentState :=
  let id := st.nextSendStreamId
  { st with
    nextSendStreamId := id + 1
    sendStreams := st.sendStreams.insert id s
    -- `std::unordered_map::insert` leaves a value that is there
    sessions :=
      if s.ssrc ∈ st.session s.sessionId then st.sessions
      else st.sessions.insert s.sessionId ((st.session s.sessionId).insert s.ssrc id) }

def withSession (sessionId : Nat) (st : SwitchAgentState) : SwitchAgentState :=
  if sessionId ∈ st.sessions then st else { st with sessions := st.sessions.insert sessionId ∅ }

def sendStreamExists (mainSSRC : SSRC) : Fault :=
  .logicError ("SwitchAgentState: send stream already exists: ssrc=" ++ toString mainSSRC.toNat)

def addSendStream (sessionId participantId : Nat) (addr : IPv4Port) (type : MediaType)
    (mainSSRC rtxSSRC : SSRC) : AgentStateEff Unit := do
  Eff.modify (withSession sessionId)
  let st ← Eff.get
  Eff.require (mainSSRC ∉ st.session sessionId) (sendStreamExists mainSSRC)
  Eff.require (rtxSSRC ∉ st.session sessionId) (sendStreamExists mainSSRC)
  Eff.modify (pushSendStream
    { sessionId, sendingParticipant := participantId, addr, ssrc := mainSSRC, type })
  if rtxSSRC ≠ 0 then
    Eff.modify (pushSendStream
      { sessionId, sendingParticipant := participantId, addr, ssrc := rtxSSRC, type, rtx := true })

def noSendStream (mainSSRC : SSRC) : Fault :=
  .logicError ("SwitchAgentTest: addReceiveStream: no corresponding receive  stream: ssrc="
    ++ toString mainSSRC.toNat)

/-- Store a receive stream under a new id, which the send stream gets too. -/
def pushReceiveStream (sendStream : UInt32 × SendStream) (r : ReceiveStream)
    (st : SwitchAgentState) : SwitchAgentState :=
  let id := st.nextReceiveStreamId
  let s := sendStream.2
  { st with
    nextReceiveStreamId := id + 1
    receiveStreams := st.receiveStreams.insert id r
    sendStreams := st.sendStreams.insert sendStream.1
      { s with receiveStreamIds := s.receiveStreamIds ++ [id] } }

/-- What is common to both parts of `addReceiveStream`: the main stream and the one with `rtx`. -/
def addOneReceiveStream (o : WalkOrder) (sessionId toParticipantId : Nat) (addr : IPv4Port)
    (mainSSRC ssrc : SSRC) (rtx : Bool) : AgentStateEff Unit := do
  let st ← Eff.get
  match st.getSendStream o sessionId ssrc with
  | none => Eff.throw (noSendStream mainSSRC)
  | some (sendStreamId, s) =>
      Eff.modify (pushReceiveStream (sendStreamId, s)
        { sessionId, sendingParticipant := s.sendingParticipant, addr, ssrc, type := s.type, rtx,
          sendStreamId, receivingParticipant := toParticipantId })

/-- `addReceiveStream`. The sending participant that it is given is overwritten by that of the send
stream. -/
def addReceiveStream (o : WalkOrder) (sessionId _fromParticipantId toParticipantId : Nat)
    (addr : IPv4Port) (mainSSRC rtxSSRC : SSRC) : AgentStateEff Unit := do
  addOneReceiveStream o sessionId toParticipantId addr mainSSRC mainSSRC false
  if rtxSSRC ≠ 0 then
    addOneReceiveStream o sessionId toParticipantId addr mainSSRC rtxSSRC true

/-! ## Changes through an iterator -/

/-- Store a receive stream under the id that it has. -/
def setReceiveStream (id : UInt32) (r : ReceiveStream) (st : SwitchAgentState) : SwitchAgentState :=
  { st with receiveStreams := st.receiveStreams.insert id r }

end SwitchAgentState

end Scallop
