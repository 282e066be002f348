import Scallop.DataPlane.Model
import Scallop.SwitchAgent.State

/-!
# The switch: the agent and its data plane

`SwitchAgent<DataPlaneModel>` of `lib/switch_agent.h`, as the switch model runs it.

* `Switch` : the state of the agent and the data plane; `SwitchEffect` : datagrams, calls of the
  handlers of RTCP packets, and answers to requests;
* `onAddStream`, `adjustDecodeTarget`, `handleRTCP` and the handlers of RTCP packets,
  `onAPISetDecodeTarget`;
* `onPacket` : a datagram, which the data plane gets first; what it passes on the agent handles;
* `SwitchProcess`, `step` : an exception ends the process.

The STUN agent, which only answers datagrams, is left out. Reads outside a datagram are faults.
-/

namespace Scallop

open Av1

/-- `SwitchAgent`: its state, and its data plane. -/
structure Switch where
  agent : SwitchAgentState := {}
  dataPlane : DataPlaneModel

/-- The handlers of RTCP packets: `_processReceiverReport` and so on. -/
inductive RtcpHandler where
  | receiverReport
  | pictureLossIndication
  | receiverEstimatedBitrate
  | negativeAcknowledgement
deriving DecidableEq, Repr

/-- What a switch does: it sends a datagram, handles an RTCP packet, or answers a request. -/
inductive SwitchEffect where
  | send (toAddr : IPv4Port) (buf : Buf)
  | process (handler : RtcpHandler) (sender : IPv4Port) (packet : Buf)
  | response (ok : Bool)
deriving DecidableEq, Repr

abbrev SwitchEff := Eff Switch SwitchEffect Fault

namespace Switch

def onAgent {α : Type} (m : AgentStateEff α) : SwitchEff α :=
  Eff.zoom Switch.agent (fun agent sw => { sw with agent }) Empty.elim m

def onDataPlane (f : DataPlaneModel → DataPlaneModel) : SwitchEff Unit :=
  Eff.modify fun sw => { sw with dataPlane := f sw.dataPlane }

/-- Change a receive stream that was found. -/
def setReceiveStream (id : UInt32) (r : ReceiveStream) : SwitchEff Unit :=
  Eff.modify fun sw => { sw with agent := sw.agent.setReceiveStream id r }

/-! ## Messages of the controller -/

/-- What `_onAddStream` sets up in the data plane for a receive stream. -/
def receiverStream (m : Rpc.AddStream) (senderAddr : IPv4Port) : DataPlaneStream where
  src := senderAddr
  dst := m.addr
  ssrc := m.mainSSRC
  rtxSsrc := m.rtxSSRC
  rtcpSsrc := m.rtcpSSRC
  rtcpRtxSsrc := m.rtcpRtxSSRC

def senderStream (m : Rpc.AddStream) : DataPlaneStream where
  src := { ip := 0, port := 0 }
  dst := m.addr
  ssrc := m.mainSSRC
  rtxSsrc := m.rtxSSRC
  rtcpSsrc := 0
  rtcpRtxSsrc := 0

def onAddStream (o : WalkOrder) (m : Rpc.AddStream) : SwitchEff Unit := do
  if m.direction = .sendonly then
    onAgent (SwitchAgentState.addSendStream m.sessionId m.participantId m.addr m.mediaType
      m.mainSSRC m.rtxSSRC)
  match m.direction with
  | .recvonly => do
      let sw ← Eff.get
      match sw.agent.getSendStream o m.sessionId m.mainSSRC with
      | none => return ()
      | some (_, sendStream) => do
          onAgent (SwitchAgentState.addReceiveStream o m.sessionId sendStream.sendingParticipant
            m.participantId m.addr m.mainSSRC m.rtxSSRC)
          onDataPlane fun dp => dp.addStream (receiverStream m sendStream.addr)
  | .sendonly => onDataPlane fun dp => dp.addStream (senderStream m)
  | _ => return ()

section AddStream
variable (o : WalkOrder) {m : Rpc.AddStream}

theorem onAddStream_of_sendonly (h : m.direction = .sendonly) : onAddStream o m = (do
    onAgent (SwitchAgentState.addSendStream m.sessionId m.participantId m.addr m.mediaType
      m.mainSSRC m.rtxSSRC)
    onDataPlane fun dp => dp.addStream (senderStream m)) := by
  unfold onAddStream
  rw [h]
  rfl

theorem onAddStream_of_recvonly (h : m.direction = .recvonly) (sw : Switch) :
    onAddStream o m sw = (match sw.agent.getSendStream o m.sessionId m.mainSSRC with
      | none => pure ()
      | some (_, s) => do
          onAgent (SwitchAgentState.addReceiveStream o m.sessionId s.sendingParticipant
            m.participantId m.addr m.mainSSRC m.rtxSSRC)
          onDataPlane fun dp => dp.addStream (receiverStream m s.addr) : SwitchEff Unit) sw := by
  unfold onAddStream
  rw [h]
  rfl

/-- Streams in both directions, or in none, are ignored. -/
theorem onAddStream_of_other (hs : m.direction ≠ .sendonly) (hr : m.direction ≠ .recvonly) :
    onAddStream o m = pure () := by
  unfold onAddStream
  rw [if_neg hs]
  cases hdir : m.direction with
  | sendonly => exact absurd hdir hs
  | recvonly => exact absurd hdir hr
  | sendrecv => rfl
  | inactive => rfl

end AddStream

/-! ## Decode targets -/

def adjustDecodeTarget (o : WalkOrder) (sessionId : Nat) (ssrc : SSRC) (participantId : Nat)
    (decodeTarget : Nat) : SwitchEff Bool := do
  if decodeTarget > maxIdent then return false
  else do
    let sw ← Eff.get
    match sw.agent.getReceiveStream o sessionId ssrc participantId with
    | none => return false
    | some (id, rs) =>
        match sw.agent.getSendStream o sessionId rs.ssrc with
        | none => return false
        | some (_, ss) =>
            if rs.type ≠ .video ∨ rs.rtx = true then return false
            else do
              onDataPlane fun dp => dp.adjustDecodeTarget ss.addr rs.addr ss.ssrc decodeTarget
              let target ← Eff.ofExcept (decodeTargetFromNumIdentifier decodeTarget)
              setReceiveStream id { rs with decodeTarget := target }
              return true

/-- What `_adjustDecodeTarget` does with an adjustable stream that it finds. -/
theorem adjustDecodeTarget_of_found {o : WalkOrder} {sw : Switch} {sessionId participantId n : Nat}
    {ssrc : SSRC} {id sid : UInt32} {rs : ReceiveStream} {ss : SendStream} {target : DecodeTarget}
    (hr : sw.agent.getReceiveStream o sessionId ssrc participantId = some (id, rs))
    (hs : sw.agent.getSendStream o sessionId rs.ssrc = some (sid, ss)) (hadj : rs.Adjustable)
    (hn : decodeTargetFromNumIdentifier n = .ok target) :
    adjustDecodeTarget o sessionId ssrc participantId n sw =
      ⟨{ agent := sw.agent.setReceiveStream id { rs with decodeTarget := target }
         dataPlane := sw.dataPlane.adjustDecodeTarget ss.addr rs.addr ss.ssrc n }, [],
        .ok true⟩ := by
  have hv : ¬ (rs.type ≠ .video ∨ rs.rtx = true) := by
    rintro (h | h)
    · exact h hadj.1
    · exact Bool.false_ne_true (hadj.2.symm.trans h)
  unfold adjustDecodeTarget
  rw [if_neg (not_gt_of_decodeTarget hn), Eff.get_bind_run, hr]
  dsimp only
  rw [hs]
  dsimp only
  rw [if_neg hv, hn]
  rfl

/-- What `_adjustDecodeTarget` does: nothing, or it changes the target of an adjustable stream that
it found. -/
theorem adjustDecodeTarget_cases (o : WalkOrder) (sw : Switch) (sessionId : Nat) (ssrc : SSRC)
    (participantId n : Nat) :
    adjustDecodeTarget o sessionId ssrc participantId n sw = ⟨sw, [], .ok false⟩ ∨
      ∃ id rs sid ss target,
        sw.agent.getReceiveStream o sessionId ssrc participantId = some (id, rs) ∧
        sw.agent.getSendStream o sessionId rs.ssrc = some (sid, ss) ∧ rs.Adjustable ∧
        decodeTargetFromNumIdentifier n = .ok target ∧
        adjustDecodeTarget o sessionId ssrc participantId n sw =
          ⟨{ agent := sw.agent.setReceiveStream id { rs with decodeTarget := target }
             dataPlane := sw.dataPlane.adjustDecodeTarget ss.addr rs.addr ss.ssrc n }, [],
            .ok true⟩ := by
  by_cases hn : n > maxIdent
  · unfold adjustDecodeTarget
    rw [if_pos hn]
    exact .inl rfl
  obtain ⟨target, ht⟩ := decodeTargetFromNumIdentifier_of_le hn
  cases hr : sw.agent.getReceiveStream o sessionId ssrc participantId with
  | none =>
      unfold adjustDecodeTarget
      rw [if_neg hn, Eff.get_bind_run, hr]
      exact .inl rfl
  | some e =>
      obtain ⟨id, rs⟩ := e
      cases hs : sw.agent.getSendStream o sessionId rs.ssrc with
      | none =>
          unfold adjustDecodeTarget
          rw [if_neg hn, Eff.get_bind_run, hr]
          dsimp only
          rw [hs]
          exact .inl rfl
      | some e =>
          obtain ⟨sid, ss⟩ := e
          by_cases hadj : rs.Adjustable
          · exact .inr ⟨id, rs, sid, ss, target, rfl, hs, hadj, ht,
              adjustDecodeTarget_of_found hr hs hadj ht⟩
          · have hv : rs.type ≠ .video ∨ rs.rtx = true := by
              by_contra hno
              obtain ⟨h1, h2⟩ := not_or.mp hno
              exact hadj ⟨not_not.mp h1, Bool.eq_false_iff.mpr h2⟩
            unfold adjustDecodeTarget
            rw [if_neg hn, Eff.get_bind_run, hr]
            dsimp only
            rw [hs]
            dsimp only
            rw [if_pos hv]
            exact .inl rfl

/-- `_onAPISetDecodeTarget`: whether the answer is `ok`. -/
def onAPISetDecodeTarget (o : WalkOrder) (sessionId : Nat) (ssrc : SSRC) (participantId : Nat)
    (decodeTarget : Nat) : SwitchEff Unit := do
  let ok ← adjustDecodeTarget o sessionId ssrc participantId decodeTarget
  Eff.emit (.response ok)

/-- `_decideDecodeTarget`: the thresholds are 2 and 1 Mbit/s. -/
def decideDecodeTarget (bitrate : UInt32) : DecodeTarget :=
  if bitrate.toNat > 2000 * 1000 then .hi
  else if bitrate.toNat > 1000 * 1000 then .mid
  else .lo

/-! ## RTCP packets -/

/-- The body of the loop of `_processReceiverEstimatedBitrate`; without a receive stream the loop is
left. -/
def processEstimate (o : WalkOrder) (sender : IPv4Port) (ssrc : SSRC) (bitRate : UInt32) :
    SwitchEff Bool := do
  let sw ← Eff.get
  match sw.agent.getReceiveStreamFrom o sender ssrc with
  | none => return false
  | some (id, r) => do
      let r := { r with bandwidthEstimates := r.bandwidthEstimates ++ [bitRate] }
      setReceiveStream id r
      let newTarget := decideDecodeTarget bitRate
      if newTarget ≠ r.decodeTarget then
        setReceiveStream id { r with decodeTarget := newTarget }
        let _ ← adjustDecodeTarget o r.sessionId r.ssrc r.receivingParticipant newTarget.ident
      return true

section Estimate
variable {o : WalkOrder} {sender : IPv4Port} {ssrc : SSRC} {bitRate : UInt32} {sw : Switch}
variable {id : UInt32} {r : ReceiveStream}

theorem processEstimate_of_none (h : sw.agent.getReceiveStreamFrom o sender ssrc = none) :
    processEstimate o sender ssrc bitRate sw = ⟨sw, [], .ok false⟩ := by
  unfold processEstimate
  rw [Eff.get_bind_run, h]
  rfl

/-- A stream that is at the target gets the estimate only. -/
theorem processEstimate_of_target (h : sw.agent.getReceiveStreamFrom o sender ssrc = some (id, r))
    (ht : decideDecodeTarget bitRate = r.decodeTarget) :
    processEstimate o sender ssrc bitRate sw = ⟨{ sw with agent := sw.agent.setReceiveStream id { r with
      bandwidthEstimates := r.bandwidthEstimates ++ [bitRate] } }, [], .ok true⟩ := by
  unfold processEstimate
  rw [Eff.get_bind_run, h]
  dsimp only
  rw [if_neg (not_not.mpr ht)]
  rfl

/-- Another one gets the target, too, and then the request is made. -/
theorem processEstimate_of_other (h : sw.agent.getReceiveStreamFrom o sender ssrc = some (id, r))
    (ht : decideDecodeTarget bitRate ≠ r.decodeTarget) :
    processEstimate o sender ssrc bitRate sw = (do
      let _ ← adjustDecodeTarget o r.sessionId r.ssrc r.receivingParticipant
        (decideDecodeTarget bitRate).ident
      return true : SwitchEff Bool)
      { sw with agent :=
        (sw.agent.setReceiveStream id { r with
          bandwidthEstimates := r.bandwidthEstimates ++ [bitRate] }).setReceiveStream id { r with
            bandwidthEstimates := r.bandwidthEstimates ++ [bitRate]
            decodeTarget := decideDecodeTarget bitRate } } := by
  unfold processEstimate
  rw [Eff.get_bind_run, h]
  dsimp only
  rw [if_pos ht]
  rfl

end Estimate

/-- The loop of `_processReceiverEstimatedBitrate`, from the SSRC `i` on. -/
def processEstimates (o : WalkOrder) (sender : IPv4Port) (buf : Buf) : Nat → Nat → SwitchEff Unit
  | 0, _ => return ()
  | n + 1, i => do
      Eff.require (24 + 4 * i ≤ buf.length) .outOfBounds
      let found ← processEstimate o sender (Rtcp.rembSsrc buf i) (Rtcp.bitRate buf)
      if found then processEstimates o sender buf n (i + 1) else return ()

def processReceiverEstimatedBitrate (o : WalkOrder) (sender : IPv4Port) (buf : Buf) :
    SwitchEff Unit := do
  Eff.require (20 ≤ buf.length) .outOfBounds
  processEstimates o sender buf (Rtcp.numSsrcs buf) 0

/-- `_processReceiverReport`, which logs the reports. -/
def processReceiverReport (buf : Buf) : SwitchEff Unit :=
  Eff.require (Rtcp.recepRepCount buf = 0 ∨ 8 + 24 * Rtcp.recepRepCount buf ≤ buf.length)
    .outOfBounds

/-- `_processPictureLossIndication`, which logs the SSRC. -/
def processPictureLossIndication (buf : Buf) : SwitchEff Unit :=
  Eff.require (12 ≤ buf.length) .outOfBounds

/-- `_processNegativeAcknowledgement`, which logs the SSRC. -/
def processNegativeAcknowledgement (buf : Buf) : SwitchEff Unit :=
  Eff.require (12 ≤ buf.length) .outOfBounds

/-- The handler for the header at the beginning of `buf`. -/
def handlerOf (buf : Buf) : Option RtcpHandler :=
  match Rtcp.pt buf with
  | .rr => some .receiverReport
  | .psfb =>
      match Rtcp.fbFmt buf with
      | 1 => some .pictureLossIndication
      | 15 => some .receiverEstimatedBitrate
      | _ => none
  | .rtpfb =>
      match Rtcp.fbFmt buf with
      | 1 => some .negativeAcknowledgement
      | _ => none
  | _ => none

/-- Call a handler with the header at the beginning of `buf`; the packet is as long as the header
says. -/
def process (o : WalkOrder) (sender : IPv4Port) (buf : Buf) (handler : RtcpHandler) :
    SwitchEff Unit := do
  Eff.emit (.process handler sender (buf.take (Rtcp.byteLen buf)))
  match handler with
  | .receiverReport => processReceiverReport buf
  | .pictureLossIndication => processPictureLossIndication buf
  | .receiverEstimatedBitrate => processReceiverEstimatedBitrate o sender buf
  | .negativeAcknowledgement => processNegativeAcknowledgement buf

/-- The loop of `_handleRTCP` over the remaining bytes. A packet has four bytes or more, so a round
for every byte is enough. `bytesRem` is unsigned: with a packet that is longer than what remains, the
next header would be read outside the datagram. -/
def handleRTCPPackets (o : WalkOrder) (sender : IPv4Port) : Nat → Buf → SwitchEff Unit
  | 0, _ => return ()
  | fuel + 1, buf =>
      if buf = [] then return ()
      else do
        Eff.require (4 ≤ buf.length) .outOfBounds
        match handlerOf buf with
        | some handler => process o sender buf handler
        | none => pure ()
        Eff.require (Rtcp.byteLen buf ≤ buf.length) .outOfBounds
        handleRTCPPackets o sender fuel (buf.drop (Rtcp.byteLen buf))

def handleRTCP (o : WalkOrder) (sender : IPv4Port) (buf : Buf) : SwitchEff Unit :=
  handleRTCPPackets o sender buf.length buf

/-! ## Datagrams -/

/-- `rtp::one_byte_extension_hdr::len`, which is one less than the length of the extension. -/
def oneByteLen (buf : Buf) (p : Nat) : Except Fault Nat := do
  let b ← buf.readByte p
  return (b &&& 0x0f).toNat

/-- `rtp::two_byte_extension_hdr::len`. -/
def twoByteLen (buf : Buf) (p : Nat) : Except Fault Nat := do
  let b ← buf.readByte (p + 1)
  return b.toNat

/-- Where the descriptor begins that `_handleAV1` reads from the extension at `p`, and its length. -/
def agentSpan (buf : Buf) (p : Nat) : Rtp.ExtProfile → Except Fault (Option (Nat × Nat))
  | .oneByte => do
      let len ← oneByteLen buf p
      return some (p + 1, len)
  | .twoByte => do
      let len ← twoByteLen buf p
      return some (p + 2, len)
  | .other => return none

/-- The descriptor that is made of the `len` bytes from `start` on. -/
def readDescriptor (buf : Buf) (start len : Nat) : Except Fault DependencyDescriptor := do
  let bytes ← buf.readBytes start len
  DependencyDescriptor.parse bytes

/-- The descriptor that `_handleAV1` makes of a packet. -/
def agentDescriptor (av1RtpExt : Nat) (buf : Buf) : Except Fault (Option DependencyDescriptor) := do
  let av1Ptr ← Rtp.extensionPtr buf av1RtpExt
  let profile ← Rtp.extensionProfile buf
  match profile, av1Ptr with
  | .other, _ => return none
  | _, none => .error .outOfBounds -- a null pointer
  | _, some p => do
      match ← agentSpan buf p profile with
      | none => return none
      | some (start, len) => do
          let av1 ← readDescriptor buf start len
          return some av1

/-- `_handleAV1`, which logs the descriptor. -/
def handleAV1 (buf : Buf) : SwitchEff Unit := do
  let sw ← Eff.get
  let _ ← Eff.ofExcept (agentDescriptor sw.dataPlane.av1RtpExt buf)
  return ()

/-- `_onPacketFromDataPlane`, and what else the data plane does. -/
def onEffect (o : WalkOrder) : Effect → SwitchEff Unit
  | .send toAddr buf => Eff.emit (.send toAddr buf)
  | .toController .rtcp sender buf => handleRTCP o sender buf
  | .toController .av1 _ buf => handleAV1 buf
  | .toController .stun _ _ => return ()

def onEffects (o : WalkOrder) : List Effect → SwitchEff Unit
  | [] => return ()
  | e :: es => do
      onEffect o e
      onEffects o es

/-- A datagram. The data plane does not look at what the agent changes after it has called it. -/
def onPacket (o : WalkOrder) (lost : Bool) (sender : IPv4Port) (buf : Buf) : SwitchEff Unit := do
  let sw ← Eff.get
  let out := DataPlaneModel.onPacket lost sender buf sw.dataPlane
  onDataPlane fun _ => out.state
  onEffects o out.effects
  Eff.ofExcept out.result

/-! ## Runs -/

inductive Event where
  | addStream (m : Rpc.AddStream)
  | packet (lost : Bool) (sender : IPv4Port) (buf : Buf)
  | setDecodeTarget (sessionId : Nat) (ssrc : SSRC) (participantId decodeTarget : Nat)

def handle (o : WalkOrder) : Event → SwitchEff Unit
  | .addStream m => onAddStream o m
  | .packet lost sender buf => onPacket o lost sender buf
  | .setDecodeTarget sessionId ssrc participantId decodeTarget =>
      onAPISetDecodeTarget o sessionId ssrc participantId decodeTarget

end Switch

/-- The process of a switch; an exception that a handler throws ends it. -/
structure SwitchProcess where
  switch : Switch
  running : Bool := true

namespace SwitchProcess

/-- One event, with the order in which containers are walked meanwhile. -/
def step (p : SwitchProcess) (x : WalkOrder × Switch.Event) : SwitchProcess × List SwitchEffect :=
  if p.running = true then
    let out := Switch.handle x.1 x.2 p.switch
    ({ switch := out.state, running := out.result.isOk }, out.effects)
  else (p, [])

def init (av1RtpExt : Nat) : SwitchProcess where
  switch := { dataPlane := { av1RtpExt } }

end SwitchProcess

end Scallop
