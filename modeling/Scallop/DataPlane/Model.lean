import Scallop.Lib.Eff
import Scallop.DataPlane.Av1
import Scallop.DataPlane.Rtcp
import Scallop.SequenceRewriter.Model

/-!
# The data plane

`SFUTable` of `lib/sfu_table.{h,cc}` and `DataPlaneModel` of `lib/data_plane_model.cc`.

* `Action`, `Entry`, `SFUTable` : where the packets of a match go; an entry has at most one action
  for a receiver;
* `DataPlaneModel.addStream`, `DataPlaneModel.adjustDecodeTarget` : the control operations;
* `DataPlaneModel.onPacket` : the handlers of datagrams. What they send, and what they pass on to
  the switch agent, are the effects, in order; a packet is sent with the bytes it has at that
  moment.
-/

namespace Scallop

open Av1

structure Match where
  ipPort : IPv4Port
  ssrc : SSRC
deriving DecidableEq, Repr

structure Action where
  toAddr : IPv4Port
  svcConfig : Option L1T3 := none
  sequenceRewriter : SequenceRewriter := {}
deriving DecidableEq, Repr

/-- Whether the packet is dropped for the receiver of an action. -/
def Action.drop (a : Action) (av1 : MandatoryFields) : Bool :=
  match a.svcConfig with
  | some svc => svc.drop av1.templateId
  | none => false

/-- The decode target in force; without a mode nothing is dropped. -/
def Action.target (a : Action) : DecodeTarget := (a.svcConfig.getD {}).decodeTarget

/-- `SFUTable::Entry`; two actions are equal when their receivers are. -/
structure Entry where
  actions : List Action := []
  nodup : (actions.map Action.toAddr).Nodup := by decide
deriving DecidableEq, Repr

namespace Entry

def hasAction (e : Entry) (a : Action) : Bool := e.actions.any fun b => b.toAddr = a.toAddr

def addAction (e : Entry) (a : Action) : Except Fault Entry :=
  if h : e.hasAction a = true then
    .error (.invalidArgument "SFUTable::Entry: addAction: Action already exists")
  else .ok {
    actions := e.actions ++ [a]
    nodup := by
      rw [List.map_append, List.map_singleton, ← List.concat_eq_append]
      refine e.nodup.concat fun hm => h ?_
      obtain ⟨b, hb, he⟩ := List.mem_map.mp hm
      exact List.any_eq_true.mpr ⟨b, hb, by simpa using he⟩ }

/-- Change the actions, but not their receivers. -/
def withActions (e : Entry) (actions : List Action)
    (h : actions.map Action.toAddr = e.actions.map Action.toAddr) : Entry :=
  { actions, nodup := h ▸ e.nodup }

end Entry

structure SFUTable where
  entry : Match → Option Entry := fun _ => none

namespace SFUTable

def hasMatch (t : SFUTable) (m : Match) : Bool := (t.entry m).isSome

def setEntry (t : SFUTable) (m : Match) (e : Entry) : SFUTable where
  entry m' := if m' = m then some e else t.entry m'

@[simp] theorem entry_setEntry_self (t : SFUTable) (m : Match) (e : Entry) :
    (t.setEntry m e).entry m = some e := if_pos rfl

theorem entry_setEntry_of_ne (t : SFUTable) {m m' : Match} (h : m' ≠ m) (e : Entry) :
    (t.setEntry m e).entry m' = t.entry m' := if_neg h

end SFUTable

/-- `DataPlane::Stream`. -/
structure DataPlaneStream where
  src : IPv4Port
  dst : IPv4Port
  ssrc : SSRC
  rtxSsrc : SSRC
  rtcpSsrc : SSRC
  rtcpRtxSsrc : SSRC
deriving DecidableEq, Repr

/-- `TotalPacketStatistics`, without what is never counted. -/
structure TotalPacketStatistics where
  pkts : Nat := 0
  bytes : Nat := 0
  stunPkts : Nat := 0
  rtcpPkts : Nat := 0
  rtpPkts : Nat := 0
  av1SimpleDescriptors : Nat := 0
  av1ExtendedDescriptors : Nat := 0
deriving DecidableEq, Repr

/-- `DataPlaneModel`; `hasController` says whether a control-plane packet handler is set. -/
structure DataPlaneModel where
  sfu : SFUTable := {}
  av1RtpExt : Nat
  hasController : Bool := true
  totalStatistics : TotalPacketStatistics := {}

inductive Reason where
  | stun
  | av1
  | rtcp
deriving DecidableEq, Repr

/-- What the data plane does: it calls the control-plane packet handler, or sends a datagram. -/
inductive Effect where
  | toController (reason : Reason) (sender : IPv4Port) (buf : Buf)
  | send (toAddr : IPv4Port) (buf : Buf)
deriving DecidableEq, Repr

abbrev DataPlaneEff := Eff DataPlaneModel Effect Fault

namespace DataPlaneModel

/-! ## Control operations -/

def addMatch (t : SFUTable) (m : Match) : SFUTable :=
  if t.hasMatch m then t else t.setEntry m {}

/-- `_addAction`, to the entry of a match that is there. -/
def addAction (t : SFUTable) (m : Match) (a : Action) : SFUTable :=
  match t.entry m with
  | none => t
  | some e =>
      match e.addAction a with
      | .ok e' => t.setEntry m e'
      | .error _ => t

def addStream (dp : DataPlaneModel) (s : DataPlaneStream) : DataPlaneModel :=
  let mainMatch : Match := ⟨s.src, s.ssrc⟩
  let rtxMatch : Match := ⟨s.src, s.rtxSsrc⟩
  let sfu := addMatch dp.sfu mainMatch
  let sfu := if s.rtxSsrc ≠ 0 then addMatch sfu rtxMatch else sfu
  if s.dst = { ip := 0, port := 0 } then { dp with sfu }
  else
    let action : Action := { toAddr := s.dst }
    let retMatch : Match := ⟨s.dst, s.rtcpSsrc⟩
    let retRtxMatch : Match := ⟨s.dst, s.rtcpRtxSsrc⟩
    let retAction : Action := { toAddr := s.src }
    let sfu := addMatch sfu retMatch
    let sfu := if s.rtcpRtxSsrc ≠ 0 then addMatch sfu retRtxMatch else sfu
    let sfu := addAction sfu mainMatch action
    let sfu := addAction sfu retMatch retAction
    let sfu := if s.rtxSsrc ≠ 0 then addAction sfu rtxMatch action else sfu
    let sfu :=
      if s.rtcpRtxSsrc ≠ 0 ∧ s.rtcpSsrc ≠ 1 then addAction sfu retRtxMatch retAction else sfu
    { dp with sfu }

/-- What `adjustDecodeTarget` does to the action it is for: an action without a mode gets the
default one also when the target is invalid. -/
def setTarget (a : Action) (target : Nat) : Action :=
  let svc := a.svcConfig.getD {}
  if target > maxIdent then { a with svcConfig := some svc }
  else
    match decodeTargetFromNumIdentifier target with
    | .ok decodeTarget => { a with svcConfig := some { svc with decodeTarget } }
    | .error _ => { a with svcConfig := some svc }

/-- The loop of `adjustDecodeTarget`, which ends at the first action for the receiver. -/
def adjustActions (toAddr : IPv4Port) (target : Nat) : List Action → List Action
  | [] => []
  | a :: as => if a.toAddr = toAddr then setTarget a target :: as else a :: adjustActions toAddr target as

@[simp] theorem setTarget_toAddr (a : Action) (target : Nat) : (setTarget a target).toAddr = a.toAddr := by
  unfold setTarget
  split
  · rfl
  · split <;> rfl

theorem adjustActions_toAddr (toAddr : IPv4Port) (target : Nat) (as : List Action) :
    (adjustActions toAddr target as).map Action.toAddr = as.map Action.toAddr := by
  induction as with
  | nil => rfl
  | cons a as ih =>
      rw [adjustActions]
      split
      · rw [List.map_cons, setTarget_toAddr, List.map_cons]
      · rw [List.map_cons, ih, List.map_cons]

def adjustDecodeTarget (dp : DataPlaneModel) (sender toAddr : IPv4Port) (ssrc : SSRC) (target : Nat) :
    DataPlaneModel :=
  match dp.sfu.entry ⟨sender, ssrc⟩ with
  | none => dp
  | some e =>
      let e' := e.withActions (adjustActions toAddr target e.actions)
        (adjustActions_toAddr toAddr target e.actions)
      { dp with sfu := dp.sfu.setEntry ⟨sender, ssrc⟩ e' }

/-! ## Handlers of datagrams -/

def toController (reason : Reason) (sender : IPv4Port) (buf : Buf) : DataPlaneEff Unit := do
  let dp ← Eff.get
  if dp.hasController then Eff.emit (.toController reason sender buf)
  else Eff.throw (.logicError "DataPlaneModel: no control-plane packet handler set")

def count (f : TotalPacketStatistics → TotalPacketStatistics) : DataPlaneEff Unit :=
  Eff.modify fun dp => { dp with totalStatistics := f dp.totalStatistics }

def handleSTUN (sender : IPv4Port) (buf : Buf) : DataPlaneEff Unit := do
  count fun st => { st with stunPkts := st.stunPkts + 1 }
  toController .stun sender buf

/-- The loop of `_handleRTP` over the actions: the actions as it leaves them, and what it sends.
The sequence number is rewritten in the buffer that the next action finds. -/
def forward (av1 : Option MandatoryFields) : List Action → Buf → List Action × List Effect
  | [], _ => ([], [])
  | a :: as, buf =>
      match av1 with
      | none =>
          let r := forward av1 as buf
          (a :: r.1, .send a.toAddr buf :: r.2)
      | some m =>
          let drop := a.drop m
          let seq := a.sequenceRewriter.callFlags m.frameNumber (Rtp.seq buf) m.startOfFrame
            m.endOfFrame drop
          let a' := { a with sequenceRewriter := seq.1 }
          if drop then (a' :: as, []) -- drop the packet
          else
            -- a packet that is kept has a number
            let buf' := Rtp.setSeq buf (seq.2.getD 0).toUInt16
            let r := forward av1 as buf'
            (a' :: r.1, .send a.toAddr buf' :: r.2)

theorem forward_toAddr (av1 : Option MandatoryFields) (as : List Action) (buf : Buf) :
    (forward av1 as buf).1.map Action.toAddr = as.map Action.toAddr := by
  induction as generalizing buf with
  | nil => rfl
  | cons a as ih =>
      cases av1 with
      | none => simp [forward, ih]
      | some m =>
          simp only [forward]
          split
          · rfl
          · simp [ih]

/-- Everything is sent to the receiver of one of the actions. -/
theorem forward_sends (av1 : Option MandatoryFields) (as : List Action) (buf : Buf) :
    ∀ e ∈ (forward av1 as buf).2, ∃ a ∈ as, ∃ b, e = .send a.toAddr b := by
  induction as generalizing buf with
  | nil => exact fun e he => absurd he List.not_mem_nil
  | cons a as ih =>
      have hstep : ∀ b b', ∀ e ∈ Effect.send a.toAddr b :: (forward av1 as b').2,
          ∃ a' ∈ a :: as, ∃ b, e = .send a'.toAddr b := by
        intro b b' e he
        rcases List.mem_cons.mp he with rfl | he
        · exact ⟨a, List.mem_cons_self, b, rfl⟩
        · obtain ⟨a', ha', h⟩ := ih b' e he
          exact ⟨a', List.mem_cons_of_mem _ ha', h⟩
      cases av1 with
      | none => exact hstep _ _
      | some m =>
          simp only [forward]
          split
          · exact fun e he => absurd he List.not_mem_nil
          · exact hstep _ _

/-- The AV1 dependency descriptor of a packet and its length, if there is one. -/
def descriptor (av1RtpExt : Nat) (buf : Buf) :
    Except Fault (Option (Nat × DependencyDescriptor)) := do
  let av1Ptr ← Rtp.extensionPtr buf av1RtpExt
  match av1Ptr with
  | none => return none
  | some p => do
      let len ← Rtp.extLen buf p .oneByte
      let bytes ← buf.readBytes (p + 1) len
      let av1 ← DependencyDescriptor.parse bytes
      return some (len, av1)

/-- The first part of `_handleRTP`: the fields of the AV1 dependency descriptor. The control plane
gets packets with an extended descriptor. -/
def describe (sender : IPv4Port) (buf : Buf) : DataPlaneEff (Option MandatoryFields) := do
  let dp ← Eff.get
  let av1 ← Eff.ofExcept (descriptor dp.av1RtpExt buf)
  match av1 with
  | none => return none
  | some (len, dd) => do
      if len > 3 then
        toController .av1 sender buf
        count fun st => { st with av1ExtendedDescriptors := st.av1ExtendedDescriptors + 1 }
      else count fun st => { st with av1SimpleDescriptors := st.av1SimpleDescriptors + 1 }
      return some dd.mandatoryFields

/-- The second part of `_handleRTP`. -/
def forwardRTP (sender : IPv4Port) (buf : Buf) (av1 : Option MandatoryFields) :
    DataPlaneEff Unit := do
  let dp ← Eff.get
  match dp.sfu.entry ⟨sender, Rtp.ssrc buf⟩ with
  | none => return ()
  | some e => do
      let r := forward av1 e.actions buf
      let e' := e.withActions r.1 (forward_toAddr av1 e.actions buf)
      Eff.set { dp with sfu := dp.sfu.setEntry ⟨sender, Rtp.ssrc buf⟩ e' }
      Eff.emits r.2

/-- `_handleRTP`; `lost` is what `_rtpDropDist` draws. -/
def handleRTP (lost : Bool) (sender : IPv4Port) (buf : Buf) : DataPlaneEff Unit := do
  if lost then return ()
  count fun st => { st with rtpPkts := st.rtpPkts + 1 }
  let av1 ← describe sender buf
  forwardRTP sender buf av1

/-- Send a datagram to the receivers of a match, if there is one. -/
def sendToActions (sender : IPv4Port) (buf : Buf) : DataPlaneEff Unit := do
  let dp ← Eff.get
  match dp.sfu.entry ⟨sender, Rtcp.senderSsrc buf⟩ with
  | none => return ()
  | some e => Eff.emits (e.actions.map fun a => .send a.toAddr buf)

def handleSR (sender : IPv4Port) (buf : Buf) : DataPlaneEff Unit := sendToActions sender buf

def handleRR (sender : IPv4Port) (buf : Buf) : DataPlaneEff Unit := toController .rtcp sender buf

/-- What is common to `_handleRTPFB` and `_handlePSFB`: feedback of format 1 goes to the media
senders and to the switch agent, other formats are not implemented. -/
def handleFeedback (sender : IPv4Port) (buf : Buf) : DataPlaneEff Unit :=
  if Rtcp.fbFmt buf = 1 then do
    sendToActions sender buf
    toController .rtcp sender buf
  else return ()

/-- `_handleRTPFB`, for NACK. -/
def handleRTPFB (sender : IPv4Port) (buf : Buf) : DataPlaneEff Unit := handleFeedback sender buf

/-- `_handlePSFB`, for PLI. -/
def handlePSFB (sender : IPv4Port) (buf : Buf) : DataPlaneEff Unit := handleFeedback sender buf

/-- `_handleRTCP`: by the outermost packet type. -/
def handleRTCP (sender : IPv4Port) (buf : Buf) : DataPlaneEff Unit := do
  count fun st => { st with rtcpPkts := st.rtcpPkts + 1 }
  match Rtcp.pt buf with
  | .sr => handleSR sender buf
  | .rr => handleRR sender buf
  | .rtpfb => handleRTPFB sender buf
  | .psfb => handlePSFB sender buf
  | .sdes => return ()
  | .unknown => return ()

def bufferContainsSTUN (buf : Buf) : Bool :=
  20 ≤ buf.length ∧ buf.u8 0 >>> 6 = 0 ∧ buf.u8 4 = 0x21 ∧ buf.u8 5 = 0x12 ∧ buf.u8 6 = 0xa4 ∧
    buf.u8 7 = 0x42

def onPacket (lost : Bool) (sender : IPv4Port) (buf : Buf) : DataPlaneEff Unit := do
  let seen (st : TotalPacketStatistics) : TotalPacketStatistics :=
    { st with pkts := st.pkts + 1, bytes := st.bytes + buf.length }
  if bufferContainsSTUN buf then
    count seen
    handleSTUN sender buf
  else if Rtp.containsRtpOrRtcp buf then
    count seen
    if Rtp.isRtcp buf then handleRTCP sender buf else handleRTP lost sender buf
  else return ()

/-! ## Handlers that only count -/

section Keeps
variable {Inv : DataPlaneModel → Prop} (h : ∀ dp st, Inv dp → Inv { dp with totalStatistics := st })
include h

theorem count_keeps (f : TotalPacketStatistics → TotalPacketStatistics) : Eff.Keeps Inv (count f) :=
  Eff.keeps_modify fun dp => h dp _

omit h in
theorem toController_keeps (reason : Reason) (sender : IPv4Port) (buf : Buf) :
    Eff.Keeps Inv (toController reason sender buf) := by
  unfold toController
  refine Eff.keeps_get_bind fun dp => ?_
  split
  · exact Eff.keeps_emit _
  · exact Eff.keeps_throw _

theorem describe_keeps (sender : IPv4Port) (buf : Buf) : Eff.Keeps Inv (describe sender buf) := by
  unfold describe
  refine Eff.keeps_get_bind fun dp => (Eff.keeps_ofExcept _).bind fun av1 => ?_
  cases av1 with
  | none => exact Eff.keeps_pure _
  | some d =>
      dsimp only
      split
      · exact (toController_keeps _ _ _).bind fun _ => (count_keeps h _).bind fun _ =>
          Eff.keeps_pure _
      · exact (count_keeps h _).bind fun _ => Eff.keeps_pure _

omit h in
theorem sendToActions_keeps (sender : IPv4Port) (buf : Buf) :
    Eff.Keeps Inv (sendToActions sender buf) := by
  unfold sendToActions
  refine Eff.keeps_get_bind fun dp => ?_
  split
  · exact Eff.keeps_pure _
  · exact Eff.keeps_emits _

omit h in
theorem handleFeedback_keeps (sender : IPv4Port) (buf : Buf) :
    Eff.Keeps Inv (handleFeedback sender buf) := by
  unfold handleFeedback
  split
  · exact (sendToActions_keeps _ _).bind fun _ => toController_keeps _ _ _
  · exact Eff.keeps_pure _

theorem handleRTCP_keeps (sender : IPv4Port) (buf : Buf) :
    Eff.Keeps Inv (handleRTCP sender buf) := by
  unfold handleRTCP
  refine (count_keeps h _).bind fun _ => ?_
  split
  · exact sendToActions_keeps _ _
  · exact toController_keeps _ _ _
  · exact handleFeedback_keeps _ _
  · exact handleFeedback_keeps _ _
  · exact Eff.keeps_pure _
  · exact Eff.keeps_pure _

/-- What the loop over the actions keeps, a datagram keeps. -/
theorem onPacket_keeps
    (hforward : ∀ sender buf av1, Eff.Keeps Inv (forwardRTP sender buf av1)) (lost : Bool)
    (sender : IPv4Port) (buf : Buf) : Eff.Keeps Inv (onPacket lost sender buf) := by
  unfold onPacket
  dsimp only
  split
  · exact (count_keeps h _).bind fun _ => (count_keeps h _).bind fun _ => toController_keeps _ _ _
  split
  · refine (count_keeps h _).bind fun _ => ?_
    split
    · exact handleRTCP_keeps h _ _
    · unfold handleRTP
      split
      · exact Eff.keeps_pure _
      · exact (count_keeps h _).bind fun _ => (describe_keeps h _ _).bind fun av1 =>
          hforward _ _ av1
  · exact Eff.keeps_pure _

end Keeps

end DataPlaneModel

end Scallop
