import Scallop.SwitchAgent.Model

/-!
# Compound RTCP datagrams

* `Block` : a well-formed receiver report, NACK, PLI or bandwidth estimate; `compound` : a datagram
  of blocks;
* `handleRTCP_compound` : the agent handles a compound like its blocks, each in a datagram of its own;
* `onPacket_compound` : the data plane goes by the type of the first block;
* `compound_delivery` : so the first block decides what is sent and what is handled, and the switch ends up as after
  its blocks.
-/

namespace Scallop

inductive BlockKind where
  | rr
  | nack
  | pli
  | remb
deriving DecidableEq, Repr

namespace BlockKind

def pt : BlockKind → Rtcp.Pt
  | rr => .rr
  | nack => .rtpfb
  | pli => .psfb
  | remb => .psfb

/-- The feedback format, of a block that has one. -/
def fmt : BlockKind → Option Nat
  | rr => none
  | nack => some 1
  | pli => some 1
  | remb => some 15

/-- The bytes that the fields of a block take. -/
def minLen (bytes : Buf) : BlockKind → Nat
  | rr => 8 + 24 * Rtcp.recepRepCount bytes
  | nack => 16
  | pli => 12
  | remb => 20 + 4 * Rtcp.numSsrcs bytes

def handler : BlockKind → RtcpHandler
  | rr => .receiverReport
  | nack => .negativeAcknowledgement
  | pli => .pictureLossIndication
  | remb => .receiverEstimatedBitrate

def IsFeedback (k : BlockKind) : Prop := k = nack ∨ k = pli

instance (k : BlockKind) : Decidable k.IsFeedback := inferInstanceAs (Decidable (_ ∨ _))

end BlockKind

/-- A well-formed RTCP packet of one of the types. -/
structure Block where
  kind : BlockKind
  bytes : Buf
  version : bytes.u8 0 >>> 6 = 2
  type : Rtcp.pt bytes = kind.pt
  format : ∀ f ∈ kind.fmt, Rtcp.fbFmt bytes = f
  byteLen : Rtcp.byteLen bytes = bytes.length
  fields : kind.minLen bytes ≤ bytes.length

def compound (bs : List Block) : Buf := bs.flatMap Block.bytes

@[simp] theorem compound_nil : compound [] = [] := rfl

@[simp] theorem compound_cons (b : Block) (bs : List Block) :
    compound (b :: bs) = b.bytes ++ compound bs := rfl

namespace Block
variable (b : Block) (rest : Buf)

theorem eight_le_length : 8 ≤ b.bytes.length := by
  have h := b.fields
  cases hk : b.kind <;> rw [hk] at h <;> simp only [BlockKind.minLen] at h <;> omega

theorem bytes_ne_nil : b.bytes ≠ [] := by
  have h := b.eight_le_length
  rintro he
  rw [he] at h
  exact absurd h (by decide)

theorem byteLen_append : Rtcp.byteLen (b.bytes ++ rest) = b.bytes.length := by
  have h := b.eight_le_length
  rw [Rtcp.byteLen_append rest (by omega), b.byteLen]

theorem pt_append : Rtcp.pt (b.bytes ++ rest) = b.kind.pt := by
  have h := b.eight_le_length
  rw [Rtcp.pt_append rest (by omega), b.type]

theorem fbFmt_append {f : Nat} (hf : f ∈ b.kind.fmt) : Rtcp.fbFmt (b.bytes ++ rest) = f := by
  have h := b.eight_le_length
  rw [Rtcp.fbFmt_append rest (by omega), b.format f hf]

/-- The agent calls the handler of the block's type. -/
theorem handlerOf_append : Switch.handlerOf (b.bytes ++ rest) = some b.kind.handler := by
  rw [Switch.handlerOf, b.pt_append]
  cases hk : b.kind with
  | rr => rfl
  | nack => rw [b.fbFmt_append rest (f := 1) (by rw [hk]; rfl)]; rfl
  | pli => rw [b.fbFmt_append rest (f := 1) (by rw [hk]; rfl)]; rfl
  | remb => rw [b.fbFmt_append rest (f := 15) (by rw [hk]; rfl)]; rfl

end Block

namespace Switch

/-! ## The agent -/

section Agent
variable (o : WalkOrder) (sender : IPv4Port) {buf : Buf} (rest : Buf) {n i : Nat}

theorem processEstimates_append (h : 20 + 4 * (i + n) ≤ buf.length) :
    processEstimates o sender (buf ++ rest) n i = processEstimates o sender buf n i := by
  induction n generalizing i with
  | zero => rfl
  | succ n ih =>
      have hlen : 24 + 4 * i ≤ (buf ++ rest).length := by
        rw [List.length_append]
        omega
      rw [processEstimates, processEstimates, Eff.require_pos hlen, Eff.require_pos (by omega),
        Rtcp.rembSsrc_append rest (by omega), Rtcp.bitRate_append rest (by omega), ih (by omega)]

/-- A handler only reads the block that it is called for. -/
theorem process_append (b : Block) : process o sender (b.bytes ++ rest) b.kind.handler
    = process o sender b.bytes b.kind.handler := by
  have h8 := b.eight_le_length
  have hlen : b.bytes.length ≤ (b.bytes ++ rest).length := by
    rw [List.length_append]
    omega
  have hfields := b.fields
  have htake : (b.bytes ++ rest).take (Rtcp.byteLen (b.bytes ++ rest))
      = b.bytes.take (Rtcp.byteLen b.bytes) := by
    rw [b.byteLen_append, b.byteLen, List.take_left, List.take_length]
  unfold process
  rw [htake]
  cases hk : b.kind <;> rw [hk] at hfields <;> simp only [BlockKind.minLen] at hfields
    <;> simp only [BlockKind.handler]
  case rr =>
    rw [processReceiverReport, processReceiverReport, Rtcp.recepRepCount_append rest (by omega),
      Eff.require_pos (.inr (by omega)), Eff.require_pos (.inr hfields)]
  case nack =>
    rw [processNegativeAcknowledgement, processNegativeAcknowledgement,
      Eff.require_pos (by omega), Eff.require_pos (by omega)]
  case pli =>
    rw [processPictureLossIndication, processPictureLossIndication,
      Eff.require_pos (by omega), Eff.require_pos (by omega)]
  case remb =>
    rw [processReceiverEstimatedBitrate, processReceiverEstimatedBitrate,
      Eff.require_pos (by omega), Eff.require_pos (by omega),
      Rtcp.numSsrcs_append rest (by omega), processEstimates_append o sender rest (by omega)]

theorem handleRTCPPackets_block (b : Block) (fuel : Nat) :
    handleRTCPPackets o sender (fuel + 1) (b.bytes ++ rest) = (do
      process o sender b.bytes b.kind.handler
      handleRTCPPackets o sender fuel rest) := by
  have h8 := b.eight_le_length
  have hlen : b.bytes.length ≤ (b.bytes ++ rest).length := by
    rw [List.length_append]
    omega
  rw [handleRTCPPackets, if_neg (by simp [b.bytes_ne_nil]), b.handlerOf_append,
    Eff.require_pos (by omega), b.byteLen_append, Eff.require_pos hlen, List.drop_left]
  change (do
    process o sender (b.bytes ++ rest) b.kind.handler
    handleRTCPPackets o sender fuel rest) = _
  rw [process_append]

/-- What each block does on its own, in order. -/
def handleBlocks : List Block → SwitchEff Unit
  | [] => pure ()
  | b :: bs => do
      handleRTCP o sender b.bytes
      handleBlocks bs

theorem handleRTCP_block (b : Block) :
    handleRTCP o sender b.bytes = process o sender b.bytes b.kind.handler := by
  have h8 := b.eight_le_length
  obtain ⟨fuel, hfuel⟩ : ∃ fuel, b.bytes.length = fuel + 1 := ⟨b.bytes.length - 1, by omega⟩
  have h := handleRTCPPackets_block o sender [] b fuel
  have hnil : handleRTCPPackets o sender fuel [] = pure () := by
    cases fuel <;> rfl
  rw [List.append_nil, hnil, Eff.bind_pure_unit] at h
  rw [handleRTCP, hfuel, h]

theorem handleRTCPPackets_compound {bs : List Block} {fuel : Nat}
    (hfuel : (compound bs).length ≤ fuel) :
    handleRTCPPackets o sender fuel (compound bs) = handleBlocks o sender bs := by
  induction bs generalizing fuel with
  | nil => cases fuel <;> rfl
  | cons b bs ih =>
      have h8 := b.eight_le_length
      rw [compound_cons, List.length_append] at hfuel
      obtain ⟨fuel, rfl⟩ : ∃ k, fuel = k + 1 := ⟨fuel - 1, by omega⟩
      rw [compound_cons, handleRTCPPackets_block, ih (by omega), handleBlocks, handleRTCP_block]

/-- A compound is handled like its blocks, each in a datagram of its own. -/
theorem handleRTCP_compound (bs : List Block) :
    handleRTCP o sender (compound bs) = handleBlocks o sender bs :=
  handleRTCPPackets_compound o sender le_rfl

/-! ## What the handlers do -/

def handled (b : Block) : SwitchEffect := .process b.kind.handler sender b.bytes

theorem adjustDecodeTarget_performs (sessionId : Nat) (ssrc : SSRC) (participantId target : Nat) :
    Eff.Performs [] (adjustDecodeTarget o sessionId ssrc participantId target) := by
  intro sw
  rcases adjustDecodeTarget_cases o sw sessionId ssrc participantId target with hno | hyes
  · rw [hno]
    exact ⟨rfl, _, rfl⟩
  · obtain ⟨_, _, _, _, _, -, -, -, -, hrun⟩ := hyes
    rw [hrun]
    exact ⟨rfl, _, rfl⟩

theorem processEstimate_performs (ssrc : SSRC) (bitRate : UInt32) :
    Eff.Performs [] (processEstimate o sender ssrc bitRate) := by
  unfold processEstimate
  refine Eff.performs_get_bind fun sw => ?_
  split
  · exact Eff.performs_pure _
  refine (Eff.performs_modify _).bind_nil fun _ => ?_
  dsimp only
  split
  · exact (Eff.performs_modify _).bind_nil fun _ =>
      (adjustDecodeTarget_performs o _ _ _ _).bind_nil fun _ => Eff.performs_pure _
  · exact Eff.performs_pure _

theorem processEstimates_performs (h : 20 + 4 * (i + n) ≤ buf.length) :
    Eff.Performs [] (processEstimates o sender buf n i) := by
  induction n generalizing i with
  | zero => exact Eff.performs_pure _
  | succ n ih =>
      rw [processEstimates, Eff.require_pos (by omega)]
      refine (processEstimate_performs o sender _ _).bind_nil fun found => ?_
      split
      · exact ih (by omega)
      · exact Eff.performs_pure _

theorem process_performs (b : Block) :
    Eff.Performs [handled sender b] (process o sender b.bytes b.kind.handler) := by
  have hfields := b.fields
  unfold process
  rw [b.byteLen, List.take_length]
  refine (Eff.performs_emit _).nil_bind fun _ => ?_
  cases hk : b.kind <;> rw [hk] at hfields <;> simp only [BlockKind.minLen] at hfields
    <;> simp only [BlockKind.handler]
  case rr =>
    rw [processReceiverReport, Eff.require_pos (.inr hfields)]
    exact Eff.performs_pure _
  case nack =>
    rw [processNegativeAcknowledgement, Eff.require_pos (by omega)]
    exact Eff.performs_pure _
  case pli =>
    rw [processPictureLossIndication, Eff.require_pos (by omega)]
    exact Eff.performs_pure _
  case remb =>
    rw [processReceiverEstimatedBitrate, Eff.require_pos (by omega)]
    exact processEstimates_performs o sender (by omega)

theorem handleBlocks_performs (bs : List Block) :
    Eff.Performs (bs.map (handled sender)) (handleBlocks o sender bs) := by
  induction bs with
  | nil => exact Eff.performs_pure _
  | cons b bs ih =>
      rw [handleBlocks, handleRTCP_block]
      exact (process_performs o sender b).bind fun _ => ih

end Agent

end Switch

/-! ## The data plane -/

namespace DataPlaneModel

section DataPlane
variable {dp : DataPlaneModel} {lost : Bool} {sender : IPv4Port} {b : Block} {bs : List Block}
variable {buf : Buf} {e : Entry}

theorem isRtcp_of_pt (h : Rtcp.pt buf ≠ .unknown) : Rtp.isRtcp buf = true := by
  refine decide_eq_true ?_
  unfold Rtcp.pt at h
  split at h
  · rename_i h1; rw [h1]; decide
  split at h
  · rename_i h1; rw [h1]; decide
  split at h
  · rename_i h1; rw [h1]; decide
  split at h
  · rename_i h1; rw [h1]; decide
  split at h
  · rename_i h1; rw [h1]; decide
  · exact absurd rfl h

/-- A datagram with RTCP goes to `handleRTCP`, and is counted. -/
theorem onPacket_rtcp (hlen : 12 ≤ buf.length) (hv : buf.u8 0 >>> 6 = 2)
    (hpt : Rtcp.pt buf ≠ .unknown) : onPacket lost sender buf = (do
      count fun st => { st with pkts := st.pkts + 1, bytes := st.bytes + buf.length }
      handleRTCP sender buf) := by
  have hrtp : Rtp.containsRtpOrRtcp buf = true := by
    refine decide_eq_true ⟨hlen, ?_⟩
    rw [hv]
    rfl
  have hstun : bufferContainsSTUN buf = false := by
    refine decide_eq_false fun h => ?_
    rw [hv] at h
    exact absurd h.2.1 (by decide)
  unfold onPacket
  rw [hstun, hrtp, isRtcp_of_pt hpt]
  rfl

theorem toController_run (hc : dp.hasController = true) (reason : Reason) :
    toController reason sender buf dp = ⟨dp, [.toController reason sender buf], .ok ()⟩ := by
  unfold toController
  rw [Eff.get_bind_run, if_pos hc]
  rfl

theorem sendToActions_of_entry (he : dp.sfu.entry ⟨sender, Rtcp.senderSsrc buf⟩ = some e) :
    sendToActions sender buf dp = ⟨dp, e.actions.map fun a => .send a.toAddr buf, .ok ()⟩ := by
  unfold sendToActions
  rw [Eff.get_bind_run, he]
  rfl

theorem handleFeedback_run (hc : dp.hasController = true)
    (he : dp.sfu.entry ⟨sender, Rtcp.senderSsrc buf⟩ = some e) (hf : Rtcp.fbFmt buf = 1) :
    handleFeedback sender buf dp = ⟨dp, (e.actions.map fun a => .send a.toAddr buf)
      ++ [.toController .rtcp sender buf], .ok ()⟩ := by
  unfold handleFeedback
  rw [if_pos hf, Eff.bind_of_ok (sendToActions_of_entry he), toController_run hc]
  rfl

/-- What the data plane does with a datagram whose first block is of a type. -/
def passedOn (sender : IPv4Port) (e : Entry) (buf : Buf) : BlockKind → List Effect
  | .rr => [.toController .rtcp sender buf]
  | .nack => (e.actions.map fun a => .send a.toAddr buf) ++ [.toController .rtcp sender buf]
  | .pli => (e.actions.map fun a => .send a.toAddr buf) ++ [.toController .rtcp sender buf]
  | .remb => []

theorem handleRTCP_run {k : BlockKind} (hc : dp.hasController = true)
    (he : dp.sfu.entry ⟨sender, Rtcp.senderSsrc buf⟩ = some e) (hpt : Rtcp.pt buf = k.pt)
    (hf : ∀ f ∈ k.fmt, Rtcp.fbFmt buf = f) :
    (handleRTCP sender buf dp).effects = passedOn sender e buf k ∧
      (handleRTCP sender buf dp).result = .ok () := by
  let counted : DataPlaneModel := { dp with
    totalStatistics := { dp.totalStatistics with rtcpPkts := dp.totalStatistics.rtcpPkts + 1 } }
  have hc' : counted.hasController = true := hc
  have he' : counted.sfu.entry ⟨sender, Rtcp.senderSsrc buf⟩ = some e := he
  unfold handleRTCP count
  rw [Eff.modify_bind_run, hpt]
  cases k with
  | rr =>
      have h := @toController_run counted sender buf hc' .rtcp
      exact ⟨congrArg Outcome.effects h, congrArg Outcome.result h⟩
  | nack =>
      have h := handleFeedback_run hc' he' (hf 1 rfl)
      exact ⟨congrArg Outcome.effects h, congrArg Outcome.result h⟩
  | pli =>
      have h := handleFeedback_run hc' he' (hf 1 rfl)
      exact ⟨congrArg Outcome.effects h, congrArg Outcome.result h⟩
  | remb =>
      have h : handleFeedback sender buf = pure () := by
        unfold handleFeedback
        exact if_neg (by rw [hf 15 rfl]; decide)
      have h := congrFun h counted
      exact ⟨congrArg Outcome.effects h, congrArg Outcome.result h⟩

theorem onPacket_compound (hc : dp.hasController = true)
    (he : dp.sfu.entry ⟨sender, Rtcp.senderSsrc b.bytes⟩ = some e)
    (hlen : 12 ≤ (compound (b :: bs)).length) :
    (onPacket lost sender (compound (b :: bs)) dp).effects
        = passedOn sender e (compound (b :: bs)) b.kind ∧
      (onPacket lost sender (compound (b :: bs)) dp).result = .ok () := by
  have h8 := b.eight_le_length
  have hv : Buf.u8 (compound (b :: bs)) 0 >>> 6 = 2 := by
    rw [compound_cons, Rtcp.u8_append _ (by omega), b.version]
  have hpt : Rtcp.pt (compound (b :: bs)) = b.kind.pt := b.pt_append _
  have hne : Rtcp.pt (compound (b :: bs)) ≠ .unknown := by
    rw [hpt]
    cases b.kind <;> decide
  have hssrc : Rtcp.senderSsrc (compound (b :: bs)) = Rtcp.senderSsrc b.bytes :=
    Rtcp.senderSsrc_append _ h8
  rw [onPacket_rtcp hlen hv hne]
  unfold count
  rw [Eff.modify_bind_run]
  exact handleRTCP_run hc (by rw [hssrc]; exact he) hpt fun f hf => b.fbFmt_append _ hf

end DataPlane

end DataPlaneModel

/-! ## The switch -/

namespace Switch

section Delivery
variable {o : WalkOrder} {lost : Bool} {sender : IPv4Port} {b : Block} {bs : List Block}
variable {sw : Switch} {e : Entry}

/-- What a switch does with a compound: the datagram goes to the receivers of the match as it is, if
the first block is feedback for them, and all blocks are handled, unless the first one is a bandwidth
estimate. -/
def delivered (sender : IPv4Port) (e : Entry) (b : Block) (bs : List Block) : List SwitchEffect :=
  let handledBlocks := (b :: bs).map (handled sender)
  match b.kind with
  | .rr => handledBlocks
  | .nack => (e.actions.map fun a => .send a.toAddr (compound (b :: bs))) ++ handledBlocks
  | .pli => (e.actions.map fun a => .send a.toAddr (compound (b :: bs))) ++ handledBlocks
  | .remb => []

theorem onEffects_sends (as : List Action) (buf : Buf) (es : List Effect) {ws : List SwitchEffect}
    (h : Eff.Performs ws (onEffects o es)) :
    Eff.Performs ((as.map fun a => .send a.toAddr buf) ++ ws)
      (onEffects o ((as.map fun a => .send a.toAddr buf) ++ es)) := by
  induction as with
  | nil => exact h
  | cons a as ih => exact (Eff.performs_emit _).bind fun _ => ih

theorem onEffects_toController :
    Eff.Performs ((b :: bs).map (handled sender))
      (onEffects o [.toController .rtcp sender (compound (b :: bs))]) := by
  refine Eff.Performs.nil_bind ?_ fun _ => Eff.performs_pure _
  change Eff.Performs _ (handleRTCP o sender (compound (b :: bs)))
  rw [handleRTCP_compound]
  exact handleBlocks_performs o sender (b :: bs)

theorem onEffects_passedOn :
    Eff.Performs (delivered sender e b bs)
      (onEffects o (DataPlaneModel.passedOn sender e (compound (b :: bs)) b.kind)) := by
  unfold delivered
  cases hk : b.kind with
  | rr => exact onEffects_toController
  | nack => exact onEffects_sends _ _ _ onEffects_toController
  | pli => exact onEffects_sends _ _ _ onEffects_toController
  | remb => exact Eff.performs_pure _

/-- The switch after the agent has handled the blocks, each in a datagram of its own; a compound that begins with a
bandwidth estimate does not get to it. -/
def afterBlocks (o : WalkOrder) (sender : IPv4Port) (b : Block) (bs : List Block) (sw : Switch) : Switch :=
  if b.kind = .remb then sw else (handleBlocks o sender (b :: bs) sw).state

theorem onEffects_sends_state (as : List Action) (buf : Buf) (es : List Effect) (sw : Switch) :
    (onEffects o ((as.map fun a => .send a.toAddr buf) ++ es) sw).state = (onEffects o es sw).state := by
  induction as with
  | nil => rfl
  | cons a as ih => exact ih

theorem onEffects_toController_state (sw : Switch) :
    (onEffects o [.toController .rtcp sender (compound (b :: bs))] sw).state =
      (handleBlocks o sender (b :: bs) sw).state := by
  show ((handleRTCP o sender (compound (b :: bs)) >>= fun _ => pure ()) sw).state = _
  rw [Eff.state_bind_pure, handleRTCP_compound]

theorem onEffects_passedOn_state (sw : Switch) :
    (onEffects o (DataPlaneModel.passedOn sender e (compound (b :: bs)) b.kind) sw).state =
      afterBlocks o sender b bs sw := by
  unfold afterBlocks
  cases hk : b.kind with
  | rr =>
      rw [if_neg (by decide)]
      exact onEffects_toController_state sw
  | nack =>
      rw [if_neg (by decide)]
      exact (onEffects_sends_state _ _ _ sw).trans (onEffects_toController_state sw)
  | pli =>
      rw [if_neg (by decide)]
      exact (onEffects_sends_state _ _ _ sw).trans (onEffects_toController_state sw)
  | remb =>
      rw [if_pos rfl]
      rfl

/-- **The first block of a compound decides**: what the switch sends and handles, in order. The agent's handler does for
a compound what it does for the blocks, one after the other, and the switch ends up as after these. -/
theorem compound_delivery (hc : sw.dataPlane.hasController = true)
    (he : sw.dataPlane.sfu.entry ⟨sender, Rtcp.senderSsrc b.bytes⟩ = some e)
    (hlen : 12 ≤ (compound (b :: bs)).length) :
    (onPacket o lost sender (compound (b :: bs)) sw).effects = delivered sender e b bs ∧
      (onPacket o lost sender (compound (b :: bs)) sw).result = .ok () ∧
      handleRTCP o sender (compound (b :: bs)) = handleBlocks o sender (b :: bs) ∧
      (onPacket o lost sender (compound (b :: bs)) sw).state = afterBlocks o sender b bs { sw with
        dataPlane := (DataPlaneModel.onPacket lost sender (compound (b :: bs)) sw.dataPlane).state } := by
  obtain ⟨heff, hres⟩ := @DataPlaneModel.onPacket_compound _ lost _ _ bs _ hc he hlen
  let out := DataPlaneModel.onPacket lost sender (compound (b :: bs)) sw.dataPlane
  have hrun : onPacket o lost sender (compound (b :: bs)) sw = (do
      onDataPlane fun _ => out.state
      onEffects o (DataPlaneModel.passedOn sender e (compound (b :: bs)) b.kind)
      pure ()) sw := by
    show (do
      onDataPlane fun _ => out.state
      onEffects o out.effects
      Eff.ofExcept out.result : SwitchEff Unit) sw = _
    rw [show out.effects = _ from heff, show out.result = _ from hres]
    rfl
  rw [hrun]
  have hperf : Eff.Performs (delivered sender e b bs) (do
      onDataPlane fun _ => out.state
      onEffects o (DataPlaneModel.passedOn sender e (compound (b :: bs)) b.kind)
      pure ()) :=
    (Eff.performs_modify _).bind_nil fun _ => onEffects_passedOn.nil_bind fun _ => Eff.performs_pure ()
  obtain ⟨hws, _, hr⟩ := hperf sw
  refine ⟨hws, hr, handleRTCP_compound o sender (b :: bs), ?_⟩
  rw [Eff.bind_pure_unit]
  exact onEffects_passedOn_state _

end Delivery

/-! ## A receiver report before a PLI -/

section Example

def exampleReport : Block where
  kind := .rr
  bytes := [0x81, 201, 0, 7, 0, 0, 0, 9] ++ List.replicate 24 0
  version := by decide
  type := by decide
  format := by decide
  byteLen := by decide
  fields := by decide

def examplePLI : Block where
  kind := .pli
  bytes := [0x81, 206, 0, 2, 0, 0, 0, 9, 0, 0, 0, 5]
  version := by decide
  type := by decide
  format := by decide
  byteLen := by decide
  fields := by decide

def exampleEntry : Entry := { actions := [{ toAddr := ⟨1, 1⟩ }] }

/-- The receiver `2:2` with SSRC `9` gets media from `1:1`. -/
def exampleSwitch : Switch where
  dataPlane := { av1RtpExt := 1, sfu := SFUTable.setEntry {} ⟨⟨2, 2⟩, 9⟩ exampleEntry }

theorem compound_delivery_pli_first :
    (onPacket default false ⟨2, 2⟩ (compound [examplePLI, exampleReport]) exampleSwitch).effects
        = delivered ⟨2, 2⟩ exampleEntry examplePLI [exampleReport] ∧
      (onPacket default false ⟨2, 2⟩ (compound [examplePLI, exampleReport]) exampleSwitch).result
        = .ok () ∧
      handleRTCP default ⟨2, 2⟩ (compound [examplePLI, exampleReport])
        = handleBlocks default ⟨2, 2⟩ [examplePLI, exampleReport] ∧
      (onPacket default false ⟨2, 2⟩ (compound [examplePLI, exampleReport]) exampleSwitch).state
        = afterBlocks default ⟨2, 2⟩ examplePLI [exampleReport] { exampleSwitch with
            dataPlane := (DataPlaneModel.onPacket false ⟨2, 2⟩ (compound [examplePLI, exampleReport])
              exampleSwitch.dataPlane).state } :=
  compound_delivery rfl (by decide) (by decide)

/-- What is expected for a block: feedback is sent to the receivers of its match, all else is
handled. -/
def Delivers (dp : DataPlaneModel) (sender : IPv4Port) (effects : List SwitchEffect) (b : Block) :
    Prop :=
  if b.kind.IsFeedback then
    ∀ e, dp.sfu.entry ⟨sender, Rtcp.senderSsrc b.bytes⟩ = some e → ∀ a ∈ e.actions,
      ∃ buf, .send a.toAddr buf ∈ effects ∧ b.bytes <:+: buf
  else handled sender b ∈ effects

/-- The PLI is not sent to the media sender. -/
theorem pli_after_report_not_sent :
    ¬ ∀ (o : WalkOrder) (lost : Bool) (sw : Switch) (sender : IPv4Port) (bs : List Block),
      sw.dataPlane.hasController = true → 12 ≤ (compound bs).length →
      (∀ b ∈ bs, sw.dataPlane.sfu.hasMatch ⟨sender, Rtcp.senderSsrc b.bytes⟩ = true) →
      ∀ b ∈ bs, Delivers sw.dataPlane sender (onPacket o lost sender (compound bs) sw).effects b := by
  intro h
  have hd := h default false exampleSwitch ⟨2, 2⟩ [exampleReport, examplePLI] rfl (by decide)
    (by decide) examplePLI (by simp)
  have heff : (onPacket default false ⟨2, 2⟩ (compound [exampleReport, examplePLI])
      exampleSwitch).effects = [handled ⟨2, 2⟩ exampleReport, handled ⟨2, 2⟩ examplePLI] := by
    decide
  rw [heff, Delivers, if_pos (show examplePLI.kind.IsFeedback from Or.inr rfl)] at hd
  obtain ⟨buf, hbuf, -⟩ := hd exampleEntry (by decide) { toAddr := ⟨1, 1⟩ } (by decide)
  simp [handled] at hbuf

end Example

end Switch

end Scallop
