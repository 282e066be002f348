import Scallop.DataPlane.Contents
import Scallop.Lib.Ordered

/-!
# Routes

Where the data plane sends what comes in under a match, in the order in which it was told.

* `SFUTable.routes` : the receivers of a match, in order; `SFUTable.passing` : those that get a template;
  `DataPlaneStream.destinations` : those that a stream has for a match;
* `routes_addStream` : a stream adds its destinations at the end, unless they are there;
  `routes_adjustDecodeTarget`, `onPacket_routes` : nothing else changes the routes;
* `Handling` : what is done with a datagram; `Sent` : what the data plane then does, in terms of the table;
* `onPacket_sent` : every datagram is sent on as its handling says.
-/

namespace Scallop

open Av1

/-- The receivers of a match, in the order of its actions. -/
def SFUTable.routes (t : SFUTable) (m : Match) : List IPv4Port :=
  (t.entry m).elim [] fun e => e.actions.map Action.toAddr

/-- The receivers of a match ahead of the first one at whose decode target the template is dropped. -/
def SFUTable.passing (t : SFUTable) (m : Match) (templateId : Nat) : List IPv4Port :=
  (t.routes m).takeWhile fun toAddr =>
    !L1T3.drop { decodeTarget := (t.inForce m toAddr).getD .hi } templateId

/-- Where a stream has a match sent, in the order in which `addStream` adds the actions. -/
def DataPlaneStream.destinations (s : DataPlaneStream) (m : Match) : List IPv4Port :=
  if s.dst = zeroAddr then []
  else
    (if m = ⟨s.src, s.ssrc⟩ then [s.dst] else []) ++
      (if m = ⟨s.dst, s.rtcpSsrc⟩ then [s.src] else []) ++
        (if s.rtxSsrc ≠ 0 ∧ m = ⟨s.src, s.rtxSsrc⟩ then [s.dst] else []) ++
          if (s.rtcpRtxSsrc ≠ 0 ∧ s.rtcpSsrc ≠ 1) ∧ m = ⟨s.dst, s.rtcpRtxSsrc⟩ then [s.src] else []

namespace DataPlaneModel

section Routes
variable {t : SFUTable} {m m' : Match} {a : Action} {s : DataPlaneStream} {dp : DataPlaneModel}
variable {toAddr : IPv4Port}

theorem routes_of_entry {e : Entry} (h : t.entry m = some e) : t.routes m = e.actions.map Action.toAddr := by
  unfold SFUTable.routes
  rw [h]
  rfl

theorem routes_of_none (h : t.entry m = none) : t.routes m = [] := by
  unfold SFUTable.routes
  rw [h]
  rfl

theorem routes_setEntry (e : Entry) :
    (t.setEntry m e).routes m' = if m' = m then e.actions.map Action.toAddr else t.routes m' := by
  unfold SFUTable.routes
  by_cases hm : m' = m
  · rw [hm, SFUTable.entry_setEntry_self, if_pos rfl]
    rfl
  · rw [SFUTable.entry_setEntry_of_ne _ hm, if_neg hm]

/-- Actions for the same receivers leave the routes. -/
theorem routes_setEntry_of_same {e e' : Entry} (he : t.entry m = some e)
    (h : e'.actions.map Action.toAddr = e.actions.map Action.toAddr) :
    (t.setEntry m e').routes = t.routes := by
  funext m'
  rw [routes_setEntry, h, ← routes_of_entry he]
  split
  · rw [‹m' = m›]
  · rfl

/-- A destination is the other side of a stream. -/
theorem mem_destinations (h : toAddr ∈ s.destinations m) : s.Sends m toAddr := by
  obtain ⟨ipPort, ssrc⟩ := m
  unfold DataPlaneStream.destinations at h
  unfold DataPlaneStream.Sends DataPlaneStream.IsMedia DataPlaneStream.IsReturned
  split at h
  · exact absurd h List.not_mem_nil
  · simp only [List.mem_append, List.mem_ite_nil_right, List.mem_singleton, Match.mk.injEq] at h
    tauto

/-! ### Control operations -/

theorem routes_addMatch : (addMatch t m).routes = t.routes := by
  funext m'
  unfold addMatch
  split
  · rfl
  · rename_i hno
    rw [routes_setEntry]
    split
    · rename_i hm
      rw [hm]
      unfold SFUTable.routes
      rw [show t.entry m = none by simpa [SFUTable.hasMatch] using hno]
      rfl
    · rfl

theorem routes_addAction (h : t.hasMatch m = true) : (addAction t m a).routes m' =
    (if m' = m then [a.toAddr] else []).foldl List.concatNew (t.routes m') := by
  obtain ⟨e, he⟩ := Option.isSome_iff_exists.mp h
  unfold addAction
  rw [he]
  dsimp only
  have hmem : e.hasAction a = true ↔ a.toAddr ∈ t.routes m := by
    unfold Entry.hasAction
    rw [routes_of_entry he]
    simp
  unfold Entry.addAction
  by_cases hex : e.hasAction a = true
  · rw [dif_pos hex]
    by_cases hm : m' = m
    · rw [if_pos hm, hm, List.foldl_cons, List.foldl_nil, List.concatNew_of_mem (hmem.mp hex)]
    · rw [if_neg hm]
      rfl
  · rw [dif_neg hex]
    dsimp only
    rw [routes_setEntry]
    by_cases hm : m' = m
    · rw [if_pos hm, if_pos hm, hm, List.foldl_cons, List.foldl_nil,
        List.concatNew_of_notMem fun hin => hex (hmem.mpr hin), routes_of_entry he, List.map_append]
      rfl
    · rw [if_neg hm, if_neg hm]
      rfl

theorem routes_addAction_ite {p : Prop} [Decidable p] (h : p → t.hasMatch m = true) :
    (if p then addAction t m a else t).routes m' =
      (if p ∧ m' = m then [a.toAddr] else []).foldl List.concatNew (t.routes m') := by
  by_cases hp : p
  · rw [if_pos hp, routes_addAction (h hp)]
    simp only [hp, true_and]
  · rw [if_neg hp, if_neg fun hm => hp hm.1]
    rfl

theorem routes_addMatches : (addMatches t s).routes = t.routes := by
  unfold addMatches
  dsimp only
  split_ifs <;> simp only [routes_addMatch]

theorem routes_addStream :
    (dp.addStream s).sfu.routes m = (s.destinations m).foldl List.concatNew (dp.sfu.routes m) := by
  unfold DataPlaneStream.destinations
  by_cases h : s.dst = zeroAddr
  · rw [if_pos h, addStream_of_dst_zero h]
    dsimp only
    split
    · rw [routes_addMatch, routes_addMatch]
      rfl
    · rw [routes_addMatch]
      rfl
  · have hmatch : ∀ m, s.Matches m → (addMatches dp.sfu s).hasMatch m = true := fun m hm =>
      hasMatch_addMatches.mpr (.inl hm)
    have hmain := hmatch ⟨s.src, s.ssrc⟩ (.inl ⟨rfl, .inl rfl⟩)
    have hret := hmatch ⟨s.dst, s.rtcpSsrc⟩ (.inr ⟨rfl, .inl rfl⟩)
    have hrtx (h0 : s.rtxSsrc ≠ 0) := hmatch ⟨s.src, s.rtxSsrc⟩ (.inl ⟨rfl, .inr ⟨h0, rfl⟩⟩)
    have hretRtx (h0 : s.rtcpRtxSsrc ≠ 0) := hmatch ⟨s.dst, s.rtcpRtxSsrc⟩ (.inr ⟨rfl, .inr ⟨h0, rfl⟩⟩)
    rw [if_neg h, addStream_of_dst_ne h]
    unfold addActions
    dsimp only
    rw [routes_addAction_ite, routes_addAction_ite, routes_addAction, routes_addAction hmain,
      routes_addMatches, List.foldl_append, List.foldl_append, List.foldl_append]
    · rw [hasMatch_addAction]
      exact hret
    · intro h0
      rw [hasMatch_addAction, hasMatch_addAction]
      exact hrtx h0
    · intro h0
      split
      · rw [hasMatch_addAction, hasMatch_addAction, hasMatch_addAction]
        exact hretRtx h0.1
      · rw [hasMatch_addAction, hasMatch_addAction]
        exact hretRtx h0.1

theorem routes_adjustDecodeTarget (dp : DataPlaneModel) (sender toAddr : IPv4Port) (ssrc : SSRC)
    (target : Nat) : (dp.adjustDecodeTarget sender toAddr ssrc target).sfu.routes = dp.sfu.routes := by
  unfold adjustDecodeTarget
  cases he : dp.sfu.entry ⟨sender, ssrc⟩ with
  | none => rfl
  | some e => exact routes_setEntry_of_same he (adjustActions_toAddr toAddr target e.actions)

/-- The routes after streams: their destinations, each once, in the order of the streams. -/
theorem routes_addStreams {streams : List DataPlaneStream} : (dp.addStreams streams).sfu.routes m =
    (streams.flatMap fun s => s.destinations m).foldl List.concatNew (dp.sfu.routes m) := by
  unfold addStreams
  induction streams generalizing dp with
  | nil => rfl
  | cons s streams ih => rw [List.foldl_cons, ih, routes_addStream, List.flatMap_cons, List.foldl_append]

theorem onPacket_routes (lost : Bool) (sender : IPv4Port) (buf : Buf) (dp : DataPlaneModel) :
    (onPacket lost sender buf dp).state.sfu.routes = dp.sfu.routes := by
  have hcount : ∀ (dp' : DataPlaneModel) st, dp'.sfu.routes = dp.sfu.routes →
      ({ dp' with totalStatistics := st } : DataPlaneModel).sfu.routes = dp.sfu.routes := fun _ _ h => h
  refine onPacket_keeps hcount ?_ lost sender buf dp rfl
  intro sender buf av1 dp' h
  unfold forwardRTP
  rw [Eff.get_bind_run]
  cases he : dp'.sfu.entry ⟨sender, Rtp.ssrc buf⟩ with
  | none => exact h
  | some e => exact (routes_setEntry_of_same he (forward_toAddr av1 e.actions buf)).trans h

end Routes

/-! ## Datagrams -/

/-- What is done with a datagram: nothing, or it is sent to the receivers of an SSRC, with the bytes that it
has or with new sequence numbers. -/
inductive Handling where
  | ignored
  | copied (ssrc : SSRC)
  | rewritten (ssrc : SSRC) (templateId : Nat)
deriving DecidableEq, Repr

/-- The SSRC that the receivers are found by. -/
def Handling.ssrc : Handling → Option SSRC
  | ignored => none
  | copied ssrc => some ssrc
  | rewritten ssrc _ => some ssrc

/-- Of an RTP packet: its descriptor says, if it can be read. -/
def rtpHandling (av1RtpExt : Nat) (buf : Buf) : Handling :=
  match descriptor av1RtpExt buf with
  | .error _ => .ignored
  | .ok none => .copied (Rtp.ssrc buf)
  | .ok (some d) => .rewritten (Rtp.ssrc buf) d.2.mandatoryFields.templateId

/-- Of an RTCP packet, by its first header: sender reports and feedback of format 1 are for the other side. -/
def rtcpHandling (buf : Buf) : Handling :=
  match Rtcp.pt buf with
  | .sr => .copied (Rtcp.senderSsrc buf)
  | .rtpfb | .psfb => if Rtcp.fbFmt buf = 1 then .copied (Rtcp.senderSsrc buf) else .ignored
  | _ => .ignored

def handling (av1RtpExt : Nat) (lost : Bool) (buf : Buf) : Handling :=
  if bufferContainsSTUN buf then .ignored
  else if Rtp.containsRtpOrRtcp buf then
    if Rtp.isRtcp buf then rtcpHandling buf
    else if lost then .ignored
    else rtpHandling av1RtpExt buf
  else .ignored

def Effect.datagram : Effect → Option (IPv4Port × Buf)
  | .send toAddr buf => some (toAddr, buf)
  | .toController .. => none

def datagrams (es : List Effect) : List (IPv4Port × Buf) := es.filterMap Effect.datagram

/-- What is done for a datagram of `sender`: a copy for each receiver, before anything else; or, with a
descriptor, new sequence numbers for the receivers ahead of the first one that does not get the template. -/
def Sent (t : SFUTable) (sender : IPv4Port) (buf : Buf) (es : List Effect) : Handling → Prop
  | .ignored => datagrams es = []
  | .copied ssrc => ∃ rest, datagrams rest = [] ∧
      es = (t.routes ⟨sender, ssrc⟩).map (fun toAddr => .send toAddr buf) ++ rest
  | .rewritten ssrc templateId => (datagrams es).map Prod.fst = t.passing ⟨sender, ssrc⟩ templateId ∧
      ∀ d ∈ datagrams es, ∃ seq, d.2 = Rtp.setSeq buf seq

section Datagrams
variable {α β : Type} {m : DataPlaneEff α} {f : α → DataPlaneEff β} {dp : DataPlaneModel}
variable {sender : IPv4Port} {buf : Buf} {as : List Action} {routes : Match → List IPv4Port}

theorem datagrams_append (es es' : List Effect) :
    datagrams (es ++ es') = datagrams es ++ datagrams es' := List.filterMap_append

/-- The program sends nothing, and leaves the table. -/
def Silent (m : DataPlaneEff α) : Prop :=
  ∀ dp, datagrams (m dp).effects = [] ∧ (m dp).state.sfu = dp.sfu

theorem silent_count (f : TotalPacketStatistics → TotalPacketStatistics) : Silent (count f) :=
  fun _ => ⟨rfl, rfl⟩

theorem silent_toController (reason : Reason) (sender : IPv4Port) (buf : Buf) :
    Silent (toController reason sender buf) := by
  intro dp
  unfold toController
  rw [Eff.get_bind_run]
  split
  · exact ⟨rfl, rfl⟩
  · exact ⟨rfl, rfl⟩

theorem datagrams_bind_of_ok {a : α} (hm : Silent m) (h : (m dp).result = .ok a) :
    datagrams ((m >>= f) dp).effects = datagrams (f a (m dp).state).effects := by
  have hnone := (hm dp).1
  rcases hrun : m dp with ⟨s, es, r⟩
  rw [hrun] at h hnone
  obtain rfl : r = .ok a := h
  rw [Eff.bind_of_ok hrun]
  exact (datagrams_append _ _).trans (by rw [hnone]; rfl)

theorem datagrams_bind_silent (hf : ∀ a, Silent (f a)) :
    datagrams ((m >>= f) dp).effects = datagrams (m dp).effects := by
  rcases hrun : m dp with ⟨s, es, r⟩
  cases r with
  | error e => rw [Eff.bind_of_error hrun]
  | ok a =>
      rw [Eff.bind_of_ok hrun]
      exact (datagrams_append _ _).trans (by rw [(hf a s).1, List.append_nil])

theorem Silent.bind (hm : Silent m) (hf : ∀ a, Silent (f a)) : Silent (m >>= f) := by
  refine fun dp => ⟨(datagrams_bind_silent hf).trans (hm dp).1, ?_⟩
  exact Eff.holds_bind (I := fun dp' => dp'.sfu = dp.sfu) (hm dp).2 fun a dp' h => ((hf a dp').2).trans h

theorem silent_describe (sender : IPv4Port) (buf : Buf) : Silent (describe sender buf) := by
  intro dp
  unfold describe
  rw [Eff.get_bind_run]
  cases descriptor dp.av1RtpExt buf with
  | error e => exact ⟨rfl, rfl⟩
  | ok av1 =>
      rw [Eff.ofExcept_ok_bind]
      cases av1 with
      | none => exact ⟨rfl, rfl⟩
      | some d =>
          dsimp only
          split
          · exact ((silent_toController _ _ _).bind fun _ => (silent_count _).bind fun _ =>
              fun _ => ⟨rfl, rfl⟩) dp
          · exact ⟨rfl, rfl⟩

theorem describe_of_descriptor {d : Nat × DependencyDescriptor} (h : dp.hasController = true)
    (hd : descriptor dp.av1RtpExt buf = .ok (some d)) :
    (describe sender buf dp).result = .ok (some d.2.mandatoryFields) := by
  unfold describe
  rw [Eff.get_bind_run, hd, Eff.ofExcept_ok_bind]
  dsimp only
  split
  · have hrun : toController .av1 sender buf dp = ⟨dp, [.toController .av1 sender buf], .ok ()⟩ := by
      unfold toController
      rw [Eff.get_bind_run, h]
      rfl
    rw [Eff.bind_of_ok hrun]
    rfl
  · rfl

theorem forward_none : (forward none as buf).2 = as.map fun a => .send a.toAddr buf := by
  induction as with
  | nil => rfl
  | cons a as ih => exact congrArg (.send a.toAddr buf :: ·) ih

/-- With a descriptor the actions ahead of the first one that drops the packet send, and the sequence number
is all that they write. -/
theorem datagrams_forward_some (fields : MandatoryFields) :
    (datagrams (forward (some fields) as buf).2).map Prod.fst =
        (as.takeWhile fun a => !a.drop fields).map Action.toAddr ∧
      ∀ d ∈ datagrams (forward (some fields) as buf).2, ∃ seq, d.2 = Rtp.setSeq buf seq := by
  induction as generalizing buf with
  | nil => exact ⟨rfl, fun d hd => absurd hd List.not_mem_nil⟩
  | cons a as ih =>
      simp only [forward]
      by_cases hdrop : a.drop fields = true
      · rw [if_pos hdrop, List.takeWhile_cons_of_neg (by rw [hdrop]; decide)]
        exact ⟨rfl, fun d hd => absurd hd List.not_mem_nil⟩
      · obtain ⟨hto, hseq⟩ := @ih (Rtp.setSeq buf _)
        rw [if_neg hdrop, List.takeWhile_cons_of_pos (by rw [Bool.eq_false_iff.mpr hdrop]; rfl)]
        refine ⟨congrArg (a.toAddr :: ·) hto, fun d hd => ?_⟩
        rcases List.mem_cons.mp hd with rfl | hd
        · exact ⟨_, rfl⟩
        · obtain ⟨seq, hd⟩ := hseq d hd
          exact ⟨seq, hd.trans (Rtp.setSeq_setSeq _ _)⟩

/-- Whether an action drops a packet is a matter of its decode target. -/
theorem drop_eq (a : Action) (fields : MandatoryFields) :
    a.drop fields = L1T3.drop { decodeTarget := a.target } fields.templateId := by
  unfold Action.drop Action.target
  cases a.svcConfig with
  | none => rfl
  | some svc => rfl

theorem targetFor_of_mem {a : Action} (hnd : (as.map Action.toAddr).Nodup) (ha : a ∈ as) :
    targetFor a.toAddr as = some a.target := by
  induction as with
  | nil => exact absurd ha List.not_mem_nil
  | cons b as ih =>
      obtain ⟨hb, hnd⟩ := List.nodup_cons.mp hnd
      rcases List.mem_cons.mp ha with rfl | ha
      · exact targetFor_cons_self rfl
      · rw [targetFor_cons_of_ne fun heq => hb (heq ▸ List.mem_map_of_mem ha), ih hnd ha]

theorem passing_of_entry {e : Entry} {key : Match} (he : dp.sfu.entry key = some e) (fields : MandatoryFields) :
    dp.sfu.passing key fields.templateId = (e.actions.takeWhile fun a => !a.drop fields).map Action.toAddr := by
  unfold SFUTable.passing
  rw [routes_of_entry he, List.takeWhile_map]
  congr 1
  refine List.takeWhile_congr fun a ha => ?_
  have htarget : dp.sfu.inForce key a.toAddr = some a.target := by
    unfold SFUTable.inForce
    rw [he]
    exact targetFor_of_mem e.nodup ha
  rw [drop_eq, Function.comp_apply, htarget, Option.getD_some]

theorem sent_forwardRTP_none :
    Sent dp.sfu sender buf (forwardRTP sender buf none dp).effects (.copied (Rtp.ssrc buf)) := by
  refine ⟨[], rfl, ?_⟩
  unfold forwardRTP
  rw [Eff.get_bind_run, List.append_nil]
  cases he : dp.sfu.entry ⟨sender, Rtp.ssrc buf⟩ with
  | none =>
      rw [routes_of_none he]
      rfl
  | some e =>
      rw [routes_of_entry he, List.map_map]
      exact forward_none

theorem sent_forwardRTP_some (fields : MandatoryFields) :
    Sent dp.sfu sender buf (forwardRTP sender buf (some fields) dp).effects
      (.rewritten (Rtp.ssrc buf) fields.templateId) := by
  unfold forwardRTP
  rw [Eff.get_bind_run]
  cases he : dp.sfu.entry ⟨sender, Rtp.ssrc buf⟩ with
  | none =>
      have hnone : dp.sfu.passing ⟨sender, Rtp.ssrc buf⟩ fields.templateId = [] := by
        unfold SFUTable.passing
        rw [routes_of_none he]
        rfl
      exact ⟨hnone.symm, fun d hd => absurd hd List.not_mem_nil⟩
  | some e =>
      obtain ⟨hto, hseq⟩ := @datagrams_forward_some buf e.actions fields
      exact ⟨hto.trans (passing_of_entry he fields).symm, hseq⟩

theorem effects_sendToActions : (sendToActions sender buf dp).effects =
    (dp.sfu.routes ⟨sender, Rtcp.senderSsrc buf⟩).map fun toAddr => .send toAddr buf := by
  unfold sendToActions
  rw [Eff.get_bind_run]
  cases he : dp.sfu.entry ⟨sender, Rtcp.senderSsrc buf⟩ with
  | none =>
      rw [routes_of_none he]
      rfl
  | some e =>
      rw [routes_of_entry he, List.map_map]
      rfl

theorem sent_handleFeedback :
    Sent dp.sfu sender buf (handleFeedback sender buf dp).effects
      (if Rtcp.fbFmt buf = 1 then .copied (Rtcp.senderSsrc buf) else .ignored) := by
  unfold handleFeedback
  split
  · have hsends := @effects_sendToActions dp sender buf
    rcases hrun : sendToActions sender buf dp with ⟨s, es, r⟩
    rw [hrun] at hsends
    cases r with
    | error e =>
        rw [Eff.bind_of_error hrun]
        exact ⟨[], rfl, hsends.trans (List.append_nil _).symm⟩
    | ok a =>
        rw [Eff.bind_of_ok hrun]
        exact ⟨_, (silent_toController .rtcp sender buf s).1, congrArg (· ++ _) hsends⟩
  · rfl

theorem sent_describe_bind (h : dp.hasController = true) : Sent dp.sfu sender buf
    ((describe sender buf >>= forwardRTP sender buf) dp).effects
    (rtpHandling dp.av1RtpExt buf) := by
  unfold rtpHandling
  cases hd : descriptor dp.av1RtpExt buf with
  | error e =>
      have hrun : describe sender buf dp = ⟨dp, [], .error e⟩ := by
        unfold describe
        rw [Eff.get_bind_run, hd]
        rfl
      rw [Eff.bind_of_error hrun]
      rfl
  | ok av1 =>
      cases av1 with
      | none =>
          have hrun : describe sender buf dp = ⟨dp, [], .ok none⟩ := by
            unfold describe
            rw [Eff.get_bind_run, hd]
            rfl
          rw [Eff.bind_of_ok hrun]
          exact sent_forwardRTP_none
      | some d =>
          have hsilent := silent_describe sender buf
          have hres := @describe_of_descriptor dp sender buf d h hd
          have hsent := @sent_forwardRTP_some (describe sender buf dp).state sender buf d.2.mandatoryFields
          unfold Sent at hsent ⊢
          rw [datagrams_bind_of_ok hsilent hres, ← (hsilent dp).2]
          exact hsent

theorem sent_handleRTP (h : dp.hasController = true) (lost : Bool) : Sent dp.sfu sender buf
    (handleRTP lost sender buf dp).effects
    (if lost then .ignored else rtpHandling dp.av1RtpExt buf) := by
  unfold handleRTP
  split
  · rfl
  · let st := dp.totalStatistics
    exact @sent_describe_bind { dp with totalStatistics := { st with rtpPkts := st.rtpPkts + 1 } } sender buf h

theorem sent_handleRTCP : Sent dp.sfu sender buf (handleRTCP sender buf dp).effects
    (rtcpHandling buf) := by
  let st := dp.totalStatistics
  let seen : DataPlaneModel := { dp with totalStatistics := { st with rtcpPkts := st.rtcpPkts + 1 } }
  unfold handleRTCP rtcpHandling
  cases Rtcp.pt buf with
  | sr => exact ⟨[], rfl, (@effects_sendToActions seen sender buf).trans (List.append_nil _).symm⟩
  | rr => exact (silent_toController _ _ _ seen).1
  | rtpfb => exact @sent_handleFeedback seen sender buf
  | psfb => exact @sent_handleFeedback seen sender buf
  | sdes => rfl
  | unknown => rfl

/-- **Datagrams.** Every datagram is sent on as its handling says. -/
theorem onPacket_sent (h : dp.hasController = true) (lost : Bool) :
    Sent dp.sfu sender buf (onPacket lost sender buf dp).effects
      (handling dp.av1RtpExt lost buf) := by
  let st := dp.totalStatistics
  let seen : DataPlaneModel :=
    { dp with totalStatistics := { st with pkts := st.pkts + 1, bytes := st.bytes + buf.length } }
  unfold onPacket handling
  by_cases hstun : bufferContainsSTUN buf = true
  · rw [if_pos hstun, if_pos hstun]
    exact ((silent_count _).bind fun _ => (silent_count _).bind fun _ => silent_toController _ _ _) dp |>.1
  rw [if_neg hstun, if_neg hstun]
  by_cases hrtp : Rtp.containsRtpOrRtcp buf = true
  · rw [if_pos hrtp, if_pos hrtp]
    by_cases hrtcp : Rtp.isRtcp buf = true
    · rw [if_pos hrtcp, if_pos hrtcp]
      exact @sent_handleRTCP seen sender buf
    · rw [if_neg hrtcp, if_neg hrtcp]
      exact @sent_handleRTP seen sender buf h lost
  · rw [if_neg hrtp, if_neg hrtp]
    rfl

end Datagrams

end DataPlaneModel

end Scallop
