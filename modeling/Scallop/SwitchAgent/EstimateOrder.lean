import Mathlib.Data.List.TakeWhile
import Scallop.SwitchAgent.DecodeTargets

/-!
# The order of the SSRCs of an estimate

`_processReceiverEstimatedBitrate` gives an estimate to one receive stream for each SSRC of a packet, and
returns at the first SSRC without one.

* `estimate`, `estimates` : what one SSRC does, and what a list of them does;
* `SameFor ssrc` : switches that agree on the streams of an SSRC; `SameFor.estimate`, `sameFor_estimate_of_ne`
  : an estimate for it does the same to both, and one for another SSRC does nothing to them;
* `estimates_sameFor` : so only the number of times counts that an SSRC is listed;
* `Permutes` : packets that differ in the order of their SSRCs; `order_free_iff` : they do the same, and every
  known SSRC gets its estimate, iff all of the SSRCs are known or none is.
-/

namespace Scallop

open Av1

def ReceiveStream.estimated (r : ReceiveStream) (bitRate : UInt32) : ReceiveStream :=
  { r with
    bandwidthEstimates := r.bandwidthEstimates ++ [bitRate]
    decodeTarget := Switch.decideDecodeTarget bitRate }

namespace Switch

section Estimate
variable {o : WalkOrder} {addr : IPv4Port} {ssrc : SSRC} {bitRate : UInt32} {sw sw' : Switch}
  {id : UInt32} {r : ReceiveStream}

def withReceiver (sw : Switch) (id : UInt32) (r : ReceiveStream) : Switch :=
  { sw with agent := sw.agent.setReceiveStream id r }

/-- The stream that is found gets the estimate and the target; a request is made if the target is
another one. -/
theorem processEstimate_of_found (h : sw.agent.getReceiveStreamFrom o addr ssrc = some (id, r)) :
    processEstimate o addr ssrc bitRate sw = ⟨if decideDecodeTarget bitRate = r.decodeTarget
      then sw.withReceiver id (r.estimated bitRate)
      else (adjustDecodeTarget o r.sessionId r.ssrc r.receivingParticipant
        (decideDecodeTarget bitRate).ident (sw.withReceiver id (r.estimated bitRate))).state, [],
      .ok true⟩ := by
  by_cases ht : decideDecodeTarget bitRate = r.decodeTarget
  · rw [processEstimate_of_target h ht, if_pos ht, withReceiver, ReceiveStream.estimated, ht]
  · rw [processEstimate_of_other h ht, if_neg ht, SwitchAgentState.setReceiveStream_setReceiveStream]
    rcases adjustDecodeTarget_cases o (sw.withReceiver id (r.estimated bitRate)) r.sessionId r.ssrc
      r.receivingParticipant (decideDecodeTarget bitRate).ident with hno | ⟨_, _, _, _, _, -, -, -, -, hyes⟩
    · rw [hno]
      exact Eff.bind_of_ok hno
    · rw [hyes]
      exact Eff.bind_of_ok hyes

def estimate (o : WalkOrder) (addr : IPv4Port) (bitRate : UInt32) (sw : Switch) (ssrc : SSRC) : Switch :=
  (processEstimate o addr ssrc bitRate sw).state

/-- What a list of SSRCs does that all have streams. -/
def estimates (o : WalkOrder) (addr : IPv4Port) (bitRate : UInt32) (sw : Switch) (ssrcs : List SSRC) :
    Switch :=
  ssrcs.foldl (estimate o addr bitRate) sw

theorem estimate_of_none (h : sw.agent.getReceiveStreamFrom o addr ssrc = none) :
    estimate o addr bitRate sw ssrc = sw := by
  unfold estimate
  rw [processEstimate_of_none h]

end Estimate

/-! ## The streams of one SSRC -/

/-- Switches with the same streams, whose targets and estimates agree for an SSRC. -/
structure SameFor (ssrc : SSRC) (sw sw' : Switch) : Prop where
  streams : SwitchAgentState.SameStreams sw.agent sw'.agent
  receiver : ∀ id r, sw.agent.receiver id = some r → r.ssrc = ssrc → sw'.agent.receiver id = some r
  inForce : ∀ sender toAddr, sw'.dataPlane.inForce ⟨sender, ssrc⟩ toAddr =
    sw.dataPlane.inForce ⟨sender, ssrc⟩ toAddr

section SameFor
variable {o : WalkOrder} {addr : IPv4Port} {ssrc : SSRC} {bitRate : UInt32} {sw sw' sw'' : Switch}
  {id : UInt32} {r r' : ReceiveStream} {dp dp' : DataPlaneModel}

theorem SameFor.refl (ssrc : SSRC) (sw : Switch) : SameFor ssrc sw sw :=
  ⟨.refl _, fun _ _ h _ => h, fun _ _ => rfl⟩

theorem SameFor.trans (h : SameFor ssrc sw sw') (h' : SameFor ssrc sw' sw'') : SameFor ssrc sw sw'' :=
  ⟨h.streams.trans h'.streams, fun id r hr hs => h'.receiver id r (h.receiver id r hr hs) hs,
    fun sender toAddr => (h'.inForce sender toAddr).trans (h.inForce sender toAddr)⟩

theorem SameFor.symm (h : SameFor ssrc sw sw') : SameFor ssrc sw' sw where
  streams := h.streams.symm
  receiver id r' hr' hs := by
    obtain ⟨r, hr, hb⟩ := h.streams.before hr'
    have hr₂ := h.receiver id r hr ((ReceiveStream.ssrc_of_base hb).symm.trans hs)
    rw [hr, ← hr₂, hr']
  inForce sender toAddr := (h.inForce sender toAddr).symm

/-- The same change of a stream in both, and of the targets of its SSRC. -/
theorem SameFor.set (h : SameFor ssrc sw sw') (hr : sw.agent.receiver id = some r)
    (hs : r.ssrc = ssrc) (hb : r'.base = r.base)
    (hdp : ∀ sender toAddr, dp'.inForce ⟨sender, ssrc⟩ toAddr = dp.inForce ⟨sender, ssrc⟩ toAddr) :
    SameFor ssrc ⟨sw.agent.setReceiveStream id r', dp⟩ ⟨sw'.agent.setReceiveStream id r', dp'⟩ where
  streams := by
    have hset := SwitchAgentState.sameStreams_setReceiveStream hr hb
    have hset' := SwitchAgentState.sameStreams_setReceiveStream (h.receiver id r hr hs) hb
    exact (hset.symm.trans h.streams).trans hset'
  receiver id' q hq hqs := by
    by_cases hid : id' = id
    · subst hid
      have hset : (sw.agent.setReceiveStream id' r').receiver id' = some r' := AList.lookup_insert _
      obtain rfl := Option.some.inj (hset.symm.trans hq)
      exact AList.lookup_insert _
    · have hset : (sw.agent.setReceiveStream id r').receiver id' = sw.agent.receiver id' :=
        AList.lookup_insert_ne hid
      rw [hset] at hq
      exact (AList.lookup_insert_ne hid).trans (h.receiver id' q hq hqs)
  inForce := hdp

/-- A change of the stream of another SSRC, and of the targets of that. -/
theorem sameFor_set_of_ne (hr : sw.agent.receiver id = some r) (hs : r.ssrc ≠ ssrc)
    (hb : r'.base = r.base)
    (hdp : ∀ sender toAddr, dp.inForce ⟨sender, ssrc⟩ toAddr =
      sw.dataPlane.inForce ⟨sender, ssrc⟩ toAddr) :
    SameFor ssrc sw ⟨sw.agent.setReceiveStream id r', dp⟩ where
  streams := SwitchAgentState.sameStreams_setReceiveStream hr hb
  receiver id' q hq hqs := by
    have hid : id' ≠ id := by
      rintro rfl
      rw [hr] at hq
      exact hs (Option.some.inj hq ▸ hqs)
    exact (AList.lookup_insert_ne hid).trans hq
  inForce := hdp

end SameFor

/-! ## Requests -/

section Adjust
variable {o : WalkOrder} {addr toAddr : IPv4Port} {ssrc : SSRC} {sw sw' : Switch} {n sessionId participantId : Nat}

/-- The targets of an SSRC, in data planes where they agree, after the same request. -/
theorem inForce_adjust_congr {dp dp' : DataPlaneModel} {target : DecodeTarget}
    (h : decodeTargetFromNumIdentifier n = .ok target)
    (hdp : ∀ sender toAddr, dp'.inForce ⟨sender, ssrc⟩ toAddr = dp.inForce ⟨sender, ssrc⟩ toAddr)
    (sender toAddr' : IPv4Port) :
    (dp'.adjustDecodeTarget addr toAddr ssrc n).inForce ⟨sender, ssrc⟩ toAddr' =
      (dp.adjustDecodeTarget addr toAddr ssrc n).inForce ⟨sender, ssrc⟩ toAddr' := by
  have hself (dp : DataPlaneModel) :
      (dp.adjustDecodeTarget addr toAddr ssrc n).inForce ⟨addr, ssrc⟩ toAddr =
        (dp.inForce ⟨addr, ssrc⟩ toAddr).map fun _ => target := by
    unfold DataPlaneModel.adjustDecodeTarget DataPlaneModel.inForce SFUTable.inForce
    cases he : dp.sfu.entry ⟨addr, ssrc⟩ with
    | none =>
        dsimp only
        rw [he]
        rfl
    | some e =>
        dsimp only
        rw [SFUTable.entry_setEntry_self]
        exact DataPlaneModel.targetFor_adjustActions_self h
  by_cases hm : sender = addr ∧ toAddr' = toAddr
  · obtain ⟨rfl, rfl⟩ := hm
    rw [hself, hself, hdp]
  · have hne : (⟨sender, ssrc⟩ : Match) = ⟨addr, ssrc⟩ → toAddr' ≠ toAddr :=
      fun he ht => hm ⟨congrArg Match.ipPort he, ht⟩
    rw [DataPlaneModel.inForce_adjust_of_ne hne, DataPlaneModel.inForce_adjust_of_ne hne, hdp]

/-- A stream of the SSRC that is found in one is found in the other. -/
theorem SameFor.find (h : SameFor ssrc sw sw')
    (ho : UnorderedMap.WalksByKey o sw.agent.receiveStreams) {p : ReceiveStream → Bool}
    (hp : ∀ r r' : ReceiveStream, r'.base = r.base → p r' = p r) (hs : ∀ r, p r = true → r.ssrc = ssrc) :
    sw'.agent.receiveStreams.findIf o p = sw.agent.receiveStreams.findIf o p := by
  have hkeys (id : UInt32) : id ∈ sw'.agent.receiveStreams ↔ id ∈ sw.agent.receiveStreams := by
    have hm := congrArg Option.isSome (h.streams.receiver id)
    rw [Option.isSome_map, Option.isSome_map] at hm
    rw [← AList.lookup_isSome, ← AList.lookup_isSome]
    exact Bool.eq_iff_iff.mp hm
  have hfst := @UnorderedMap.findIf_of_walksByKey _ _ _ _ _ p _ ho hkeys (by
    intro id r r' hr hr'
    obtain ⟨r₁, hr₁, hb⟩ := h.streams.before hr'
    obtain rfl := Option.some.inj (hr.symm.trans hr₁)
    exact hp _ _ hb)
  cases hf : sw.agent.receiveStreams.findIf o p with
  | none =>
      rw [hf, Option.map_none] at hfst
      exact Option.map_eq_none_iff.mp hfst
  | some e =>
      obtain ⟨id, r⟩ := e
      obtain ⟨hr, hpr⟩ := UnorderedMap.findIf_some hf
      rw [hf, Option.map_some] at hfst
      obtain ⟨⟨id', r'⟩, hf', rfl⟩ := Option.map_eq_some_iff.mp hfst
      obtain ⟨hr', -⟩ := UnorderedMap.findIf_some hf'
      have hsame := h.receiver id' r hr (hs r hpr)
      rw [hf', Option.some.inj (hr'.symm.trans hsame)]

/-- A request for the stream of another SSRC. -/
theorem sameFor_adjust_of_ne {ssrc' : SSRC} (hne : ssrc' ≠ ssrc) :
    SameFor ssrc sw (adjustDecodeTarget o sessionId ssrc' participantId n sw).state := by
  rcases adjustDecodeTarget_cases o sw sessionId ssrc' participantId n with hno | hyes
  · rw [hno]
    exact .refl _ _
  · obtain ⟨id, rs, sid, ss, target, hr, hs, -, -, hrun⟩ := hyes
    obtain ⟨hrecv, -, hssrc, -⟩ := SwitchAgentState.receiver_of_getReceiveStream hr
    obtain ⟨-, -, hsend⟩ := SwitchAgentState.sender_of_getSendStream hs
    have hother : rs.ssrc ≠ ssrc := fun he => hne (hssrc.symm.trans he)
    have hb : ({ rs with decodeTarget := target } : ReceiveStream).base = rs.base := rfl
    rw [hrun]
    apply sameFor_set_of_ne hrecv hother hb
    intro sender toAddr
    apply DataPlaneModel.inForce_adjust_of_ne
    intro hm
    exact absurd (hsend.symm.trans (congrArg Match.ssrc hm).symm) hother

/-- A request for a stream of the SSRC does the same to both. -/
theorem SameFor.adjust (h : SameFor ssrc sw sw')
    (ho : UnorderedMap.WalksByKey o sw.agent.receiveStreams) :
    SameFor ssrc (adjustDecodeTarget o sessionId ssrc participantId n sw).state
      (adjustDecodeTarget o sessionId ssrc participantId n sw').state := by
  have hr : sw'.agent.getReceiveStream o sessionId ssrc participantId =
      sw.agent.getReceiveStream o sessionId ssrc participantId := by
    apply h.find ho
    · intro r r' hb
      rw [show r'.sessionId = r.sessionId from congrArg (·.sessionId) hb, ReceiveStream.ssrc_of_base hb,
        show r'.receivingParticipant = r.receivingParticipant from
          congrArg (·.receivingParticipant) hb]
    · intro r hp
      rw [decide_eq_true_eq] at hp
      exact hp.2.1
  have hs (ssrc : SSRC) : sw'.agent.getSendStream o sessionId ssrc =
      sw.agent.getSendStream o sessionId ssrc := by
    unfold SwitchAgentState.getSendStream
    rw [h.streams.sendStreams]
  rcases adjustDecodeTarget_cases o sw sessionId ssrc participantId n with hno | hyes
  · rcases adjustDecodeTarget_cases o sw' sessionId ssrc participantId n with hno' | hyes'
    · rw [hno, hno']
      exact h
    · obtain ⟨id, rs, sid, ss, target, hr', hs', hadj, hn, -⟩ := hyes'
      rw [hr] at hr'
      rw [hs] at hs'
      rw [adjustDecodeTarget_of_found hr' hs' hadj hn] at hno
      exact nomatch congrArg Outcome.result hno
  · obtain ⟨id, rs, sid, ss, target, hfr, hfs, hadj, hn, hrun⟩ := hyes
    obtain ⟨hrecv, -, hssrc, -⟩ := SwitchAgentState.receiver_of_getReceiveStream hfr
    obtain ⟨-, -, hsend⟩ := SwitchAgentState.sender_of_getSendStream hfs
    have hb : ({ rs with decodeTarget := target } : ReceiveStream).base = rs.base := rfl
    rw [hrun, adjustDecodeTarget_of_found (hr.trans hfr) ((hs _).trans hfs) hadj hn, hsend, hssrc]
    exact h.set hrecv hssrc hb (inForce_adjust_congr hn h.inForce)

end Adjust

/-! ## Lists of SSRCs -/

section Estimates
variable {o : WalkOrder} {addr : IPv4Port} {ssrc ssrc' : SSRC} {bitRate : UInt32} {sw sw' : Switch}
  {id : UInt32} {r : ReceiveStream}

theorem SameFor.withReceiver (h : SameFor ssrc sw sw') (hr : sw.agent.receiver id = some r)
    (hs : r.ssrc = ssrc) :
    SameFor ssrc (sw.withReceiver id (r.estimated bitRate)) (sw'.withReceiver id (r.estimated bitRate)) :=
  h.set hr hs rfl h.inForce

theorem walksByKey_congr {st st' : SwitchAgentState} (h : SwitchAgentState.SameStreams st st')
    (ho : UnorderedMap.WalksByKey o st.receiveStreams) : UnorderedMap.WalksByKey o st'.receiveStreams := by
  have hkeys (id : UInt32) : id ∈ st'.receiveStreams ↔ id ∈ st.receiveStreams := by
    have hm := congrArg Option.isSome (h.receiver id)
    rw [Option.isSome_map, Option.isSome_map] at hm
    rw [← AList.lookup_isSome, ← AList.lookup_isSome]
    exact Bool.eq_iff_iff.mp hm
  intro m hm
  rw [ho m fun id => (hm id).trans (hkeys id), ho _ hkeys]

/-- An estimate for an SSRC does the same to both. -/
theorem SameFor.estimate (h : SameFor ssrc sw sw')
    (ho : UnorderedMap.WalksByKey o sw.agent.receiveStreams) :
    SameFor ssrc (estimate o addr bitRate sw ssrc) (estimate o addr bitRate sw' ssrc) := by
  have hfind : sw'.agent.getReceiveStreamFrom o addr ssrc = sw.agent.getReceiveStreamFrom o addr ssrc := by
    apply h.find ho
    · intro r r' hb
      rw [ReceiveStream.addr_of_base hb, ReceiveStream.ssrc_of_base hb]
    · intro r hp
      rw [decide_eq_true_eq] at hp
      exact hp.2
  cases hf : sw.agent.getReceiveStreamFrom o addr ssrc with
  | none =>
      rw [estimate_of_none hf, estimate_of_none (hfind.trans hf)]
      exact h
  | some e =>
      obtain ⟨id, r⟩ := e
      obtain ⟨hr, -, hs⟩ := SwitchAgentState.receiver_of_getReceiveStreamFrom hf
      have hset : SameFor ssrc (sw.withReceiver id (r.estimated bitRate))
          (sw'.withReceiver id (r.estimated bitRate)) := h.withReceiver hr hs
      unfold Switch.estimate
      rw [processEstimate_of_found hf, processEstimate_of_found (hfind.trans hf)]
      dsimp only
      split
      · exact hset
      · rw [hs]
        apply hset.adjust
        exact walksByKey_congr (SwitchAgentState.sameStreams_setReceiveStream hr rfl) ho

/-- An estimate for another SSRC does nothing to it. -/
theorem sameFor_estimate_of_ne (hne : ssrc' ≠ ssrc) : SameFor ssrc sw (estimate o addr bitRate sw ssrc') := by
  cases hf : sw.agent.getReceiveStreamFrom o addr ssrc' with
  | none =>
      rw [estimate_of_none hf]
      exact .refl _ _
  | some e =>
      obtain ⟨id, r⟩ := e
      obtain ⟨hr, -, hs⟩ := SwitchAgentState.receiver_of_getReceiveStreamFrom hf
      have hset : SameFor ssrc sw (sw.withReceiver id (r.estimated bitRate)) :=
        sameFor_set_of_ne hr (fun he => hne (hs.symm.trans he)) rfl fun _ _ => rfl
      unfold estimate
      rw [processEstimate_of_found hf]
      dsimp only
      split
      · exact hset
      · rw [hs]
        exact hset.trans (sameFor_adjust_of_ne hne)

theorem sameStreams_estimate (ssrc : SSRC) :
    SwitchAgentState.SameStreams sw.agent (estimate o addr bitRate sw ssrc).agent := by
  have hne : ssrc ≠ ssrc + 1 := by simp
  exact (sameFor_estimate_of_ne hne).streams

theorem SameFor.replicate (h : SameFor ssrc sw sw')
    (ho : UnorderedMap.WalksByKey o sw.agent.receiveStreams) (n : Nat) :
    SameFor ssrc (estimates o addr bitRate sw (List.replicate n ssrc))
      (estimates o addr bitRate sw' (List.replicate n ssrc)) := by
  induction n generalizing sw sw' with
  | zero => exact h
  | succ n ih => exact ih (h.estimate ho) (walksByKey_congr (sameStreams_estimate ssrc) ho)

/-- What a list does to the streams of an SSRC is what its occurrences in the list do. -/
theorem estimates_sameFor (ho : UnorderedMap.WalksByKey o sw.agent.receiveStreams) (ssrc : SSRC)
    (ssrcs : List SSRC) :
    SameFor ssrc (estimates o addr bitRate sw (List.replicate (ssrcs.count ssrc) ssrc))
      (estimates o addr bitRate sw ssrcs) := by
  induction ssrcs generalizing sw with
  | nil => exact .refl _ _
  | cons ssrc' ssrcs ih =>
      have hrest := @ih (estimate o addr bitRate sw ssrc')
        (walksByKey_congr (sameStreams_estimate ssrc') ho)
      by_cases hne : ssrc' = ssrc
      · subst hne
        rw [List.count_cons_self]
        exact hrest
      · rw [List.count_cons_of_ne hne]
        exact ((sameFor_estimate_of_ne hne).replicate ho _).trans hrest

end Estimates

/-! ## Packets -/

/-- Receive streams are told apart by their endpoint and their SSRC. -/
def UniqueAddr (st : SwitchAgentState) : Prop :=
  ∀ id r id' r', st.receiver id = some r → st.receiver id' = some r' → r.addr = r'.addr →
    r.ssrc = r'.ssrc → id = id'

section Packets
variable {o : WalkOrder} {addr : IPv4Port} {ssrc : SSRC} {bitRate : UInt32} {sw sw' : Switch}
  {id : UInt32} {r : ReceiveStream} {buf buf' : Buf}

theorem UniqueAddr.congr {st st' : SwitchAgentState} (hu : UniqueAddr st)
    (h : SwitchAgentState.SameStreams st st') : UniqueAddr st' := by
  intro id r' id' q' hr' hq' haddr hssrc
  obtain ⟨r, hr, hb⟩ := h.before hr'
  obtain ⟨q, hq, hb'⟩ := h.before hq'
  apply hu id r id' q hr hq
  · rw [← ReceiveStream.addr_of_base hb, ← ReceiveStream.addr_of_base hb', haddr]
  · rw [← ReceiveStream.ssrc_of_base hb, ← ReceiveStream.ssrc_of_base hb', hssrc]

theorem UniqueAddr.find (hu : UniqueAddr sw.agent) (hr : sw.agent.receiver id = some r) :
    sw.agent.getReceiveStreamFrom o r.addr r.ssrc = some (id, r) := by
  apply UnorderedMap.findIf_unique hr (by simp)
  intro id' r' hr' hp
  rw [decide_eq_true_eq] at hp
  exact hu id' r' id r hr' hr hp.1 hp.2

/-- The stream of the SSRC gets the estimate. -/
theorem receiver_estimate (hu : UniqueAddr sw.agent) (hr : sw.agent.receiver id = some r) :
    (estimate o r.addr bitRate sw r.ssrc).agent.receiver id = some (r.estimated bitRate) := by
  have hstored : (sw.withReceiver id (r.estimated bitRate)).agent.receiver id =
      some (r.estimated bitRate) := AList.lookup_insert _
  unfold estimate
  rw [processEstimate_of_found (hu.find hr)]
  dsimp only
  split
  · exact hstored
  · rcases adjustDecodeTarget_cases o (sw.withReceiver id (r.estimated bitRate)) r.sessionId r.ssrc
      r.receivingParticipant (decideDecodeTarget bitRate).ident
      with hno | ⟨id', rs, _, _, target, hrs, -, -, htarget, hyes⟩
    · rw [hno]
      exact hstored
    · rw [decodeTargetFromNumIdentifier_ident] at htarget
      obtain rfl := Except.ok.inj htarget
      rw [hyes]
      by_cases hid : id = id'
      · subst hid
        obtain ⟨hrecv, -⟩ := SwitchAgentState.receiver_of_getReceiveStream hrs
        obtain rfl := Option.some.inj (hstored.symm.trans hrecv)
        exact AList.lookup_insert _
      · exact (AList.lookup_insert_ne hid).trans hstored

theorem receiver_estimates_replicate (n : Nat) (hu : UniqueAddr sw.agent)
    (hr : sw.agent.receiver id = some r) :
    (estimates o r.addr bitRate sw (List.replicate n r.ssrc)).agent.receiver id =
      some ((fun q => q.estimated bitRate)^[n] r) := by
  induction n generalizing sw r with
  | zero => exact hr
  | succ n ih =>
      rw [Function.iterate_succ_apply]
      exact ih (hu.congr (sameStreams_estimate r.ssrc)) (receiver_estimate hu hr)

theorem iterate_estimated (n : Nat) (r : ReceiveStream) : (fun q => q.estimated bitRate)^[n + 1] r =
    { r with
      bandwidthEstimates := r.bandwidthEstimates ++ List.replicate (n + 1) bitRate
      decodeTarget := decideDecodeTarget bitRate } := by
  induction n generalizing r with
  | zero => rfl
  | succ n ih =>
      rw [Function.iterate_succ_apply, ih]
      simp [ReceiveStream.estimated, List.replicate_succ]

/-- A listed SSRC with a stream: the estimate is recorded as often as it is listed. -/
theorem receiver_estimates (hu : UniqueAddr sw.agent)
    (ho : UnorderedMap.WalksByKey o sw.agent.receiveStreams) {ssrcs : List SSRC}
    (hr : sw.agent.receiver id = some r) (hmem : r.ssrc ∈ ssrcs) :
    (estimates o r.addr bitRate sw ssrcs).agent.receiver id = some { r with
      bandwidthEstimates := r.bandwidthEstimates ++ List.replicate (ssrcs.count r.ssrc) bitRate
      decodeTarget := decideDecodeTarget bitRate } := by
  obtain ⟨n, hn⟩ : ∃ n, ssrcs.count r.ssrc = n + 1 :=
    ⟨_, (Nat.succ_pred_eq_of_pos (List.count_pos_iff.mpr hmem)).symm⟩
  have hrep := @receiver_estimates_replicate o bitRate _ _ _ (n + 1) hu hr
  rw [iterate_estimated] at hrep
  have hsame := @estimates_sameFor o r.addr bitRate sw ho r.ssrc ssrcs
  rw [hn] at hsame ⊢
  exact hsame.receiver id _ hrep rfl

/-- The same streams with the same targets and estimates, and the same targets in the data plane. -/
structure SameSwitch (sw sw' : Switch) : Prop where
  streams : SwitchAgentState.SameStreams sw.agent sw'.agent
  receiver : ∀ id, sw'.agent.receiver id = sw.agent.receiver id
  inForce : ∀ m toAddr, sw'.dataPlane.inForce m toAddr = sw.dataPlane.inForce m toAddr

theorem sameSwitch_of_sameFor (h : ∀ ssrc, SameFor ssrc sw sw') : SameSwitch sw sw' where
  streams := (h 0).streams
  receiver id := by
    cases hr : sw.agent.receiver id with
    | none =>
        have hb := (h 0).streams.receiver id
        rw [hr, Option.map_none] at hb
        exact Option.map_eq_none_iff.mp hb
    | some r => exact (h r.ssrc).receiver id r hr rfl
  inForce m toAddr := (h m.ssrc).inForce m.ipPort toAddr

theorem estimates_perm (ho : UnorderedMap.WalksByKey o sw.agent.receiveStreams) {ssrcs ssrcs' : List SSRC}
    (hp : ssrcs'.Perm ssrcs) :
    SameSwitch (estimates o addr bitRate sw ssrcs) (estimates o addr bitRate sw ssrcs') := by
  apply sameSwitch_of_sameFor
  intro ssrc
  have h := @estimates_sameFor o addr bitRate sw ho ssrc ssrcs
  have h' := @estimates_sameFor o addr bitRate sw ho ssrc ssrcs'
  rw [hp.count_eq] at h'
  exact h.symm.trans h'

/-! ### The loop -/

theorem getReceiveStreamFrom_of_unknown (h : known sw.agent addr ssrc = false) :
    sw.agent.getReceiveStreamFrom o addr ssrc = none := by
  cases hf : sw.agent.getReceiveStreamFrom o addr ssrc with
  | none => rfl
  | some e =>
      have hk := known_iff.mpr ⟨e.1, e.2, SwitchAgentState.receiver_of_getReceiveStreamFrom hf⟩
      exact absurd (h.symm.trans hk) Bool.false_ne_true

theorem estimate_of_unknown (h : known sw.agent addr ssrc = false) : estimate o addr bitRate sw ssrc = sw :=
  estimate_of_none (getReceiveStreamFrom_of_unknown h)

theorem processEstimate_eq (ssrc : SSRC) : processEstimate o addr ssrc bitRate sw =
    ⟨estimate o addr bitRate sw ssrc, [], .ok (known sw.agent addr ssrc)⟩ := by
  cases hk : known sw.agent addr ssrc with
  | false =>
      rw [estimate_of_unknown hk]
      exact processEstimate_of_none (getReceiveStreamFrom_of_unknown hk)
  | true =>
      obtain ⟨id, r, hr, hp⟩ := known_iff.mp hk
      obtain ⟨id', r', hf⟩ := @UnorderedMap.findIf_isSome _ _ _ o _
        (fun q => decide (q.addr = addr ∧ q.ssrc = ssrc)) _ _ hr (decide_eq_true hp)
      unfold estimate
      rw [processEstimate_of_found hf]

/-- The loop goes on to the first SSRC without a stream. -/
theorem processEstimates_state {st : SwitchAgentState} (hst : SwitchAgentState.SameStreams st sw.agent)
    {n i : Nat} (hlen : 20 + 4 * (i + n) ≤ buf.length) :
    (processEstimates o addr buf n i sw).state = estimates o addr (Rtcp.bitRate buf) sw
      (((List.range' i n).map (Rtcp.rembSsrc buf)).takeWhile (known st addr)) := by
  induction n generalizing sw i with
  | zero => rfl
  | succ n ih =>
      have hread : 24 + 4 * i ≤ buf.length := by omega
      have hstep := @processEstimate_eq o addr (Rtcp.bitRate buf) sw (Rtcp.rembSsrc buf i)
      rw [known_congr hst] at hstep
      rw [List.range'_succ, List.map_cons, List.takeWhile_cons, processEstimates, Eff.require_pos hread,
        Eff.pure_bind, Eff.bind_of_ok hstep]
      by_cases hk : known st addr (Rtcp.rembSsrc buf i) = true
      · rw [if_pos hk, if_pos hk]
        exact ih (hst.trans (sameStreams_estimate _)) (by omega)
      · rw [if_neg hk, if_neg hk]
        apply estimate_of_unknown
        rw [known_congr hst]
        exact Bool.eq_false_iff.mpr hk

/-- What a packet does that is as long as its list of SSRCs needs. -/
theorem processReceiverEstimatedBitrate_state (hlen : 20 + 4 * Rtcp.numSsrcs buf ≤ buf.length) :
    (processReceiverEstimatedBitrate o addr buf sw).state = estimates o addr (Rtcp.bitRate buf) sw
      ((estimatedSsrcs buf).takeWhile (known sw.agent addr)) := by
  have hread : 20 ≤ buf.length := by omega
  rw [processReceiverEstimatedBitrate, Eff.require_pos hread, Eff.pure_bind, estimatedSsrcs,
    List.range_eq_range']
  exact processEstimates_state (.refl _) (by omega)

/-! ### Their order -/

/-- Packets that differ in the order of their SSRCs. -/
structure Permutes (buf buf' : Buf) : Prop where
  length : buf'.length = buf.length
  head : buf'.take 20 = buf.take 20
  ssrcs : (estimatedSsrcs buf').Perm (estimatedSsrcs buf)

theorem exists_permutes (hlen : 20 + 4 * Rtcp.numSsrcs buf ≤ buf.length) {ssrcs : List SSRC}
    (hp : ssrcs.Perm (estimatedSsrcs buf)) : ∃ buf', Permutes buf buf' ∧ estimatedSsrcs buf' = ssrcs := by
  have hhead : (buf.take 20).length = 20 := by
    rw [List.length_take]
    omega
  have hn : ssrcs.length = Rtcp.numSsrcs buf := by
    rw [hp.length_eq, estimatedSsrcs, List.length_map, List.length_range]
  have hfour : (ssrcs.flatMap Rtcp.bytes32).length = 4 * ssrcs.length := by
    clear hp hn
    induction ssrcs with
    | nil => rfl
    | cons ssrc ssrcs ih =>
        have h4 : (Rtcp.bytes32 ssrc).length = 4 := rfl
        rw [List.flatMap_cons, List.length_append, ih, h4, List.length_cons]
        omega
  obtain ⟨buf', hbuf'⟩ : ∃ buf', buf' = buf.take 20 ++
    (ssrcs.flatMap Rtcp.bytes32 ++ buf.drop (20 + 4 * Rtcp.numSsrcs buf)) := ⟨_, rfl⟩
  have hnum : Rtcp.numSsrcs buf' = Rtcp.numSsrcs buf := by
    have h := Rtcp.numSsrcs_append (buf.drop 20) hhead.ge
    rw [List.take_append_drop] at h
    rw [hbuf', Rtcp.numSsrcs_append _ hhead.ge, h]
  have hssrcs : estimatedSsrcs buf' = ssrcs := by
    apply List.ext_getElem
    · rw [estimatedSsrcs, List.length_map, List.length_range, hnum, hn]
    · intro i _ hi
      have h := Rtcp.u32_flatMap ssrcs (buf.take 20) (buf.drop (20 + 4 * Rtcp.numSsrcs buf)) i ssrcs[i]
        (List.getElem?_eq_getElem hi)
      rw [hhead, ← hbuf'] at h
      simpa [estimatedSsrcs, Rtcp.rembSsrc] using h
  refine ⟨buf', ⟨?_, ?_, hssrcs ▸ hp⟩, hssrcs⟩
  · rw [hbuf', List.length_append, List.length_append, hfour, hhead, List.length_drop]
    omega
  · rw [hbuf', List.take_left' hhead]

theorem Permutes.numSsrcs_eq (h : Permutes buf buf') : Rtcp.numSsrcs buf' = Rtcp.numSsrcs buf := by
  have hl := h.ssrcs.length_eq
  rwa [estimatedSsrcs, estimatedSsrcs, List.length_map, List.length_map, List.length_range,
    List.length_range] at hl

theorem Permutes.bitRate_eq (h : Permutes buf buf') (hlen : 20 ≤ buf.length) :
    Rtcp.bitRate buf' = Rtcp.bitRate buf := by
  have happ (b : Buf) (hb : 20 ≤ b.length) : Rtcp.bitRate b = Rtcp.bitRate (b.take 20) := by
    have hl : 20 ≤ (b.take 20).length := by
      rw [List.length_take]
      omega
    rw [← Rtcp.bitRate_append (b.drop 20) hl, List.take_append_drop]
  rw [happ buf' (by rw [h.length]; exact hlen), happ buf hlen, h.head]

/-- **The order of the SSRCs of an estimate.** Packets that differ in it do the same, and every known SSRC
that is listed gets the estimate and the target for it, iff all SSRCs are known or none is. -/
theorem order_free_iff (hu : UniqueAddr sw.agent)
    (ho : UnorderedMap.WalksByKey o sw.agent.receiveStreams)
    (hlen : 20 + 4 * Rtcp.numSsrcs buf ≤ buf.length) :
    (∀ buf', Permutes buf buf' →
      SameSwitch (processReceiverEstimatedBitrate o addr buf sw).state
        (processReceiverEstimatedBitrate o addr buf' sw).state ∧
      ∀ id r, sw.agent.receiver id = some r → r.addr = addr → r.ssrc ∈ estimatedSsrcs buf →
        (processReceiverEstimatedBitrate o addr buf' sw).state.agent.receiver id = some { r with
          bandwidthEstimates := r.bandwidthEstimates ++
            List.replicate ((estimatedSsrcs buf).count r.ssrc) (Rtcp.bitRate buf)
          decodeTarget := decideDecodeTarget (Rtcp.bitRate buf) }) ↔
    (∀ ssrc ∈ estimatedSsrcs buf, known sw.agent addr ssrc = true) ∨
      ∀ ssrc ∈ estimatedSsrcs buf, known sw.agent addr ssrc = false := by
  have hrun := @processReceiverEstimatedBitrate_state o addr sw buf hlen
  constructor
  · intro h
    by_contra hno
    rw [not_or] at hno
    obtain ⟨hx, hy⟩ := hno
    simp only [not_forall, Bool.not_eq_true, Bool.not_eq_false] at hx hy
    obtain ⟨x, hx, hunknown⟩ := hx
    obtain ⟨y, hy, hknown⟩ := hy
    obtain ⟨id, r, hr, haddr, rfl⟩ := known_iff.mp hknown
    obtain ⟨buf', hp, hssrcs⟩ := exists_permutes hlen (List.perm_cons_erase hx).symm
    have hrun' := @processReceiverEstimatedBitrate_state o addr sw buf' (by
      rw [hp.numSsrcs_eq, hp.length]
      exact hlen)
    rw [hssrcs, List.takeWhile_cons, hunknown, if_neg Bool.false_ne_true] at hrun'
    have hrec := (h buf' hp).2 id r hr haddr hy
    rw [hrun'] at hrec
    have hlist := congrArg (fun q => q.bandwidthEstimates.length) (Option.some.inj (hr.symm.trans hrec))
    have hpos := List.count_pos_iff.mpr hy
    simp only [List.length_append, List.length_replicate] at hlist
    omega
  · intro h buf' hp
    have hrun' := @processReceiverEstimatedBitrate_state o addr sw buf' (by
      rw [hp.numSsrcs_eq, hp.length]
      exact hlen)
    rw [hp.bitRate_eq (by omega)] at hrun'
    rcases h with hall | hnone
    · have hself : (estimatedSsrcs buf).takeWhile (known sw.agent addr) = estimatedSsrcs buf :=
        List.takeWhile_eq_self_iff.mpr hall
      have hself' : (estimatedSsrcs buf').takeWhile (known sw.agent addr) = estimatedSsrcs buf' :=
        List.takeWhile_eq_self_iff.mpr fun x hx => hall x (hp.ssrcs.mem_iff.mp hx)
      rw [hself] at hrun
      rw [hself'] at hrun'
      rw [hrun, hrun']
      refine ⟨estimates_perm ho hp.ssrcs, ?_⟩
      rintro id r hr rfl hmem
      rw [receiver_estimates hu ho hr (hp.ssrcs.mem_iff.mpr hmem), hp.ssrcs.count_eq]
    · have hnil (ssrcs : List SSRC) (hs : ∀ x ∈ ssrcs, known sw.agent addr x = false) :
          ssrcs.takeWhile (known sw.agent addr) = [] := by
        cases ssrcs with
        | nil => rfl
        | cons x ssrcs => rw [List.takeWhile_cons, hs x List.mem_cons_self, if_neg Bool.false_ne_true]
      rw [hnil _ hnone] at hrun
      rw [hnil _ fun x hx => hnone x (hp.ssrcs.mem_iff.mp hx)] at hrun'
      rw [hrun, hrun']
      refine ⟨⟨.refl _, fun _ => rfl, fun _ _ => rfl⟩, ?_⟩
      intro id r hr haddr hmem
      have hk := known_iff.mpr ⟨id, r, hr, haddr, rfl⟩
      exact absurd ((hnone _ hmem).symm.trans hk) Bool.false_ne_true

end Packets

/-- A switch with a receive stream for the SSRC 7. -/
def listening : Switch where
  agent := { receiveStreams := AList.insert 0 { addr := ⟨1, 10⟩, ssrc := 7, type := .video } ∅ }
  dataPlane := { av1RtpExt := 12 }

def estimateFor (ssrc ssrc' : UInt8) : Buf :=
  [0x8f, 206, 0, 6, 0, 0, 0, 1, 0, 0, 0, 0, 82, 69, 77, 66, 2, 0, 0, 5, 0, 0, 0, ssrc, 0, 0, 0, ssrc']

/-- A switch with receive streams for the SSRCs 7 and 8. -/
def listeningToBoth : Switch where
  agent := {
    receiveStreams := listening.agent.receiveStreams.insert 1 { addr := ⟨1, 10⟩, ssrc := 8, type := .video } }
  dataPlane := { av1RtpExt := 12 }

theorem listeningToBoth_cases {id : UInt32} {r : ReceiveStream}
    (h : listeningToBoth.agent.receiver id = some r) : id = 1 ∧ r.ssrc = 8 ∨ id = 0 ∧ r.ssrc = 7 := by
  unfold listeningToBoth SwitchAgentState.receiver at h
  obtain ⟨rfl, rfl⟩ | ⟨-, h⟩ := UnorderedMap.lookup_insert_iff.mp h
  · exact .inl ⟨rfl, rfl⟩
  · unfold listening at h
    obtain ⟨rfl, rfl⟩ | ⟨-, h⟩ := UnorderedMap.lookup_insert_iff.mp h
    · exact .inr ⟨rfl, rfl⟩
    · cases h

theorem listeningToBoth_unique : UniqueAddr listeningToBoth.agent := by
  intro id r id' r' hr hr' _ hssrc
  obtain ⟨hid, h⟩ | ⟨hid, h⟩ := listeningToBoth_cases hr <;>
    obtain ⟨hid', h'⟩ | ⟨hid', h'⟩ := listeningToBoth_cases hr' <;> rw [hid, hid'] <;>
    exact absurd (h.symm.trans (hssrc.trans h')) (by decide)

theorem order_free_listening :
    Permutes (estimateFor 7 8) (estimateFor 8 7) ∧
      ∃ o : WalkOrder, ∀ buf ∈ [estimateFor 7 8, estimateFor 8 7],
        let agent := (processReceiverEstimatedBitrate o ⟨1, 10⟩ buf listeningToBoth).state.agent
        agent.receiver 0 =
            some { addr := ⟨1, 10⟩, ssrc := 7, type := .video, bandwidthEstimates := [5], decodeTarget := .lo } ∧
          agent.receiver 1 =
            some { addr := ⟨1, 10⟩, ssrc := 8, type := .video, bandwidthEstimates := [5], decodeTarget := .lo } := by
  have hswapped : Permutes (estimateFor 7 8) (estimateFor 8 7) := ⟨rfl, rfl, by decide⟩
  have hsame : Permutes (estimateFor 7 8) (estimateFor 7 8) := ⟨rfl, rfl, .refl _⟩
  refine ⟨hswapped, WalkOrder.byRank ReceiveStream UInt32.toNat, fun buf hbuf => ?_⟩
  have hpermutes : Permutes (estimateFor 7 8) buf := by
    rcases List.mem_pair.mp hbuf with rfl | rfl
    · exact hsame
    · exact hswapped
  have hknown : ∀ ssrc ∈ estimatedSsrcs (estimateFor 7 8), known listeningToBoth.agent ⟨1, 10⟩ ssrc = true := by
    intro ssrc hssrc
    rcases List.mem_pair.mp (show ssrc ∈ [7, 8] from hssrc) with rfl | rfl
    · rfl
    · rfl
  have hfree := (order_free_iff listeningToBoth_unique
    (UnorderedMap.walksByKey_byRank (fun _ _ => UInt32.toNat_inj.mp) _) (by decide)).mpr (.inl hknown) buf hpermutes
  exact ⟨hfree.2 0 _ rfl rfl (by decide), hfree.2 1 _ rfl rfl (by decide)⟩

/-- The SSRC 9 is not known: behind it, 7 gets nothing. -/
theorem order_matters : Permutes (estimateFor 7 9) (estimateFor 9 7) ∧
    (processReceiverEstimatedBitrate default ⟨1, 10⟩ (estimateFor 7 9) listening).state.agent.receiver 0 =
      some { addr := ⟨1, 10⟩, ssrc := 7, type := .video, bandwidthEstimates := [5], decodeTarget := .lo } ∧
    (processReceiverEstimatedBitrate default ⟨1, 10⟩ (estimateFor 9 7) listening).state.agent.receiver 0 =
      some { addr := ⟨1, 10⟩, ssrc := 7, type := .video } :=
  ⟨⟨rfl, rfl, by decide⟩, rfl, rfl⟩

end Switch

end Scallop
