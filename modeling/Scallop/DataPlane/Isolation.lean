import Scallop.Lib.Machine
import Scallop.DataPlane.Model

/-!
# What a receiver gets does not depend on the other receivers

* `only m r` : the data plane whose entry for `m` has only the action for the receiver `r`;
* `Passes` : an action leaves the buffer as it is, for the actions after it;
* `forward_only` : then `forward` does for one receiver what it does for that receiver alone;
* `isolated` : so does a run of packets and decode-target changes, as long as every action ahead of
  the receiver's lets every packet pass.
-/

namespace Scallop

open Av1 Machine

def rewriterPkt (av1 : MandatoryFields) (seq : UInt16) (drop : Bool) : Pkt where
  frame := av1.frameNumber
  seq
  mark := markFromAV1FrameFlags av1.startOfFrame av1.endOfFrame
  drop

/-- The packet is not dropped and keeps its number. -/
def Action.Passes (a : Action) (av1 : MandatoryFields) (seq : UInt16) : Prop :=
  a.drop av1 = false ∧
    (a.sequenceRewriter.offset (rewriterPkt av1 seq false)).toUInt16 = 0

instance (a : Action) (av1 : MandatoryFields) (seq : UInt16) : Decidable (a.Passes av1 seq) := by
  unfold Action.Passes
  infer_instance

namespace DataPlaneModel

/-- The actions ahead of that for the receiver `r`. -/
def ahead (r : IPv4Port) (as : List Action) : List Action := as.takeWhile fun a => a.toAddr ≠ r

/-- The actions for the receiver `r`. -/
def onlyFor (r : IPv4Port) (as : List Action) : List Action := as.filter fun a => a.toAddr = r

/-- What an effect sends to `r`. -/
def datagramTo (r : IPv4Port) : Effect → Option Buf
  | .send toAddr buf => if toAddr = r then some buf else none
  | .toController .. => none

/-- The datagrams that are sent to `r`. -/
def datagramsTo (r : IPv4Port) (es : List Effect) : List Buf := es.filterMap (datagramTo r)

section Receiver
variable {r : IPv4Port} {a : Action} {as : List Action}

theorem onlyFor_cons_self (h : a.toAddr = r) : onlyFor r (a :: as) = a :: onlyFor r as := by
  rw [onlyFor, List.filter_cons_of_pos (by simpa using h), onlyFor]

theorem onlyFor_cons_of_ne (h : a.toAddr ≠ r) : onlyFor r (a :: as) = onlyFor r as := by
  rw [onlyFor, List.filter_cons_of_neg (by simpa using h), onlyFor]

theorem onlyFor_of_notMem (h : r ∉ as.map Action.toAddr) : onlyFor r as = [] := by
  rw [onlyFor, List.filter_eq_nil_iff]
  intro a ha hr
  exact h (List.mem_map.mpr ⟨a, ha, of_decide_eq_true hr⟩)

theorem ahead_cons_of_ne (h : a.toAddr ≠ r) : ahead r (a :: as) = a :: ahead r as := by
  rw [ahead, List.takeWhile_cons_of_pos (by simpa using h), ahead]

@[simp] theorem datagramsTo_nil : datagramsTo r [] = [] := rfl

theorem datagramsTo_send_self (h : a.toAddr = r) (b : Buf) (es : List Effect) :
    datagramsTo r (.send a.toAddr b :: es) = b :: datagramsTo r es :=
  List.filterMap_cons_some (if_pos h)

theorem datagramsTo_send_of_ne (h : a.toAddr ≠ r) (b : Buf) (es : List Effect) :
    datagramsTo r (.send a.toAddr b :: es) = datagramsTo r es :=
  List.filterMap_cons_none (if_neg h)

theorem datagramsTo_append (es es' : List Effect) :
    datagramsTo r (es ++ es') = datagramsTo r es ++ datagramsTo r es' :=
  List.filterMap_append

end Receiver

/-! ## One packet -/

section Forward
variable {av1 : Option MandatoryFields} {r : IPv4Port} {as : List Action} {buf : Buf}

theorem setSeq_of_passes {a : Action} {m : MandatoryFields} (h : a.Passes m (Rtp.seq buf)) :
    Rtp.setSeq buf (((a.sequenceRewriter.callFlags m.frameNumber (Rtp.seq buf) m.startOfFrame
      m.endOfFrame false).2.getD 0).toUInt16) = buf := by
  have hk := @SequenceRewriter.call_kept a.sequenceRewriter (rewriterPkt m (Rtp.seq buf) false)
    rfl rfl
  change Rtp.setSeq buf (((a.sequenceRewriter.call (rewriterPkt m (Rtp.seq buf) false)).2.getD
    0).toUInt16) = buf
  rw [hk, Option.getD_some, UInt32.toUInt16_sub, h.2, UInt16.sub_zero]
  exact (congrArg (Rtp.setSeq buf) (UInt16.toUInt16_toUInt32 _)).trans Rtp.setSeq_seq

theorem datagramsTo_forward_of_notMem (h : r ∉ as.map Action.toAddr) :
    datagramsTo r (forward av1 as buf).2 = [] := by
  rw [datagramsTo, List.filterMap_eq_nil_iff]
  intro e he
  obtain ⟨a, ha, b, rfl⟩ := forward_sends _ _ _ e he
  exact if_neg fun hr => h (List.mem_map.mpr ⟨a, ha, hr⟩)

/-- The receiver's own action: nothing after it is for the receiver. -/
theorem forward_own {a : Action} (hr : a.toAddr = r) (hnot : r ∉ as.map Action.toAddr) :
    onlyFor r (forward av1 (a :: as) buf).1 = (forward av1 [a] buf).1 ∧
      datagramsTo r (forward av1 (a :: as) buf).2 = datagramsTo r (forward av1 [a] buf).2 := by
  have hrest : ∀ b, onlyFor r (forward av1 as b).1 = [] := fun b =>
    onlyFor_of_notMem (by rw [forward_toAddr]; exact hnot)
  have hsends : ∀ b, datagramsTo r (forward av1 as b).2 = [] := fun b =>
    datagramsTo_forward_of_notMem hnot
  have hsend : ∀ (b b' : Buf), datagramsTo r (.send a.toAddr b :: (forward av1 as b').2)
      = datagramsTo r [.send a.toAddr b] := fun b b' => by
    rw [datagramsTo_send_self hr, hsends, datagramsTo_send_self hr, datagramsTo_nil]
  cases av1 with
  | none => exact ⟨by rw [forward, onlyFor_cons_self hr, hrest]; rfl, hsend _ _⟩
  | some m =>
      simp only [forward]
      split
      · exact ⟨by rw [onlyFor_cons_self (by exact hr), onlyFor_of_notMem hnot], rfl⟩
      · exact ⟨by rw [onlyFor_cons_self (by exact hr), hrest], hsend _ _⟩

/-- An action ahead of it that lets the packet pass. -/
theorem forward_ahead {a : Action} (hr : a.toAddr ≠ r)
    (h : ∀ m, av1 = some m → a.Passes m (Rtp.seq buf)) :
    onlyFor r (forward av1 (a :: as) buf).1 = onlyFor r (forward av1 as buf).1 ∧
      datagramsTo r (forward av1 (a :: as) buf).2 = datagramsTo r (forward av1 as buf).2 := by
  cases av1 with
  | none => exact ⟨onlyFor_cons_of_ne hr, datagramsTo_send_of_ne hr _ _⟩
  | some m =>
      have hp := h m rfl
      have hbuf := setSeq_of_passes hp
      simp only [forward, hp.1, Bool.false_eq_true, if_false, hbuf]
      exact ⟨onlyFor_cons_of_ne (by exact hr), datagramsTo_send_of_ne hr _ _⟩

/-- **One packet.** If every action ahead of the receiver's lets the packet pass, the receiver's
action and its datagrams are those of an entry without the other actions. -/
theorem forward_only (hnd : (as.map Action.toAddr).Nodup)
    (h : ∀ m, av1 = some m → ∀ a ∈ ahead r as, a.Passes m (Rtp.seq buf)) :
    onlyFor r (forward av1 as buf).1 = (forward av1 (onlyFor r as) buf).1 ∧
      datagramsTo r (forward av1 as buf).2 = datagramsTo r (forward av1 (onlyFor r as) buf).2 := by
  induction as with
  | nil => exact ⟨rfl, rfl⟩
  | cons a as ih =>
      rw [List.map_cons, List.nodup_cons] at hnd
      by_cases hr : a.toAddr = r
      · have hnot : r ∉ as.map Action.toAddr := hr ▸ hnd.1
        rw [onlyFor_cons_self hr, onlyFor_of_notMem hnot]
        exact forward_own hr hnot
      · rw [ahead_cons_of_ne hr] at h
        obtain ⟨h₁, h₂⟩ := ih hnd.2 fun m hm a' ha' => h m hm a' (List.mem_cons_of_mem _ ha')
        rw [onlyFor_cons_of_ne hr]
        obtain ⟨h₃, h₄⟩ := forward_ahead hr fun m hm => h m hm a List.mem_cons_self
        exact ⟨h₃.trans h₁, h₄.trans h₂⟩

theorem adjustActions_only (toAddr : IPv4Port) (target : Nat) :
    onlyFor r (adjustActions toAddr target as) = adjustActions toAddr target (onlyFor r as) := by
  induction as with
  | nil => rfl
  | cons a as ih =>
      by_cases hr : a.toAddr = r
      · rw [onlyFor_cons_self hr, adjustActions, adjustActions]
        split
        · rw [onlyFor_cons_self (by rw [setTarget_toAddr, hr])]
        · rw [onlyFor_cons_self hr, ih]
      · rw [onlyFor_cons_of_ne hr, adjustActions, ← ih]
        split
        · rename_i ht
          rw [onlyFor_cons_of_ne (by rw [setTarget_toAddr]; exact hr), ih]
          have hnone : ∀ l : List Action, (∀ b ∈ l, b.toAddr ≠ toAddr) →
              adjustActions toAddr target l = l := fun l => by
            induction l with
            | nil => exact fun _ => rfl
            | cons b l ihl =>
                intro hb
                rw [adjustActions, if_neg (hb b List.mem_cons_self),
                  ihl fun x hx => hb x (List.mem_cons_of_mem _ hx)]
          refine (hnone _ fun b hb he => hr ?_).symm
          rw [ht, ← he]
          exact of_decide_eq_true (List.mem_filter.mp hb).2
        · rw [onlyFor_cons_of_ne hr]

end Forward

/-! ## Runs -/

/-- The entry with only the action for `r`. -/
def entryOnly (r : IPv4Port) (e : Entry) : Entry where
  actions := onlyFor r e.actions
  nodup := e.nodup.sublist (List.filter_sublist.map _)

/-- The table whose entry for `m` has only the action for `r`. -/
def tableOnly (m : Match) (r : IPv4Port) (t : SFUTable) : SFUTable where
  entry m' := if m' = m then (t.entry m).map (entryOnly r) else t.entry m'

/-- The data plane whose entry for `m` has only the action for `r`. -/
def only (m : Match) (r : IPv4Port) (dp : DataPlaneModel) : DataPlaneModel :=
  { dp with sfu := tableOnly m r dp.sfu }

/-- What happens to an entry: an RTP packet of its sender, or a change of a decode target. -/
inductive Event where
  | rtp (buf : Buf)
  | adjust (sender toAddr : IPv4Port) (ssrc : SSRC) (target : Nat)

/-- One event; the sender's address is that of the match, and no packet is dropped at random. -/
def step (m : Match) (dp : DataPlaneModel) : Event → DataPlaneModel × List Effect
  | .rtp buf =>
      let o := onPacket false m.ipPort buf dp
      (o.state, o.effects)
  | .adjust sender toAddr ssrc target => (dp.adjustDecodeTarget sender toAddr ssrc target, [])

/-- The packets are RTP packets with the match's SSRC. -/
def Event.On (m : Match) : Event → Prop
  | .rtp buf => Rtp.containsRtpOrRtcp buf = true ∧ Rtp.isRtcp buf = false ∧ Rtp.ssrc buf = m.ssrc
  | .adjust .. => True

/-- Every action ahead of that for `r` lets the packet pass. -/
def Shielded (m : Match) (r : IPv4Port) (dp : DataPlaneModel) : Event → Prop
  | .rtp buf => ∀ d ∈ (descriptor dp.av1RtpExt buf).toOption.join, ∀ e ∈ dp.sfu.entry m,
      ∀ a ∈ ahead r e.actions, a.Passes d.2.mandatoryFields (Rtp.seq buf)
  | .adjust .. => True

instance (m : Match) (r : IPv4Port) (dp : DataPlaneModel) (ev : Event) :
    Decidable (Shielded m r dp ev) := by
  cases ev <;> unfold Shielded <;> infer_instance

section Run
variable {m : Match} {r : IPv4Port}

theorem sfu_only (dp : DataPlaneModel) : (only m r dp).sfu = tableOnly m r dp.sfu := rfl

theorem entry_tableOnly_self (t : SFUTable) :
    (tableOnly m r t).entry m = (t.entry m).map (entryOnly r) := if_pos rfl

theorem entry_tableOnly_of_ne (t : SFUTable) {m' : Match} (h : m' ≠ m) :
    (tableOnly m r t).entry m' = t.entry m' := if_neg h

theorem tableOnly_setEntry_self (t : SFUTable) (e : Entry) :
    tableOnly m r (t.setEntry m e) = (tableOnly m r t).setEntry m (entryOnly r e) := by
  unfold tableOnly SFUTable.setEntry
  congr 1
  funext m'
  dsimp only
  split
  · rw [if_pos rfl]
    rfl
  · rfl

theorem tableOnly_setEntry_of_ne (t : SFUTable) {m' : Match} (h : m' ≠ m) (e : Entry) :
    tableOnly m r (t.setEntry m' e) = (tableOnly m r t).setEntry m' e := by
  unfold tableOnly SFUTable.setEntry
  congr 1
  funext k
  dsimp only
  by_cases hk : k = m
  · rw [if_pos hk, if_neg h.symm, hk, if_neg h.symm, if_pos rfl]
  · rw [if_neg hk, if_neg hk]

theorem commutes_count (f : TotalPacketStatistics → TotalPacketStatistics) :
    Eff.Commutes (only m r) (count f) :=
  Eff.commutes_modify fun _ => rfl

theorem commutes_toController (reason : Reason) (sender : IPv4Port) (buf : Buf) :
    Eff.Commutes (only m r) (toController reason sender buf) := by
  refine Eff.commutes_get_bind (fun _ => rfl) fun dp => ?_
  split
  · exact Eff.commutes_emit _
  · exact Eff.commutes_throw _

theorem commutes_describe (sender : IPv4Port) (buf : Buf) :
    Eff.Commutes (only m r) (describe sender buf) := by
  refine Eff.commutes_get_bind (fun _ => rfl) fun dp => ?_
  refine (Eff.commutes_ofExcept _).bind fun av1 => ?_
  cases av1 with
  | none => exact Eff.commutes_pure _
  | some d =>
      dsimp only
      split
      · exact (commutes_toController _ _ _).bind fun _ =>
          (commutes_count _).bind fun _ => Eff.commutes_pure _
      · exact (commutes_count _).bind fun _ => Eff.commutes_pure _

theorem adjustDecodeTarget_only (dp : DataPlaneModel) (sender toAddr : IPv4Port) (ssrc : SSRC)
    (target : Nat) :
    (only m r dp).adjustDecodeTarget sender toAddr ssrc target
      = only m r (dp.adjustDecodeTarget sender toAddr ssrc target) := by
  unfold adjustDecodeTarget
  by_cases hm : (⟨sender, ssrc⟩ : Match) = m
  · subst hm
    rw [sfu_only, entry_tableOnly_self]
    cases dp.sfu.entry ⟨sender, ssrc⟩ with
    | none => rfl
    | some e =>
        simp only [Option.map_some, only, tableOnly_setEntry_self]
        congr 2
        simp only [entryOnly, Entry.withActions, adjustActions_only]
  · rw [sfu_only, entry_tableOnly_of_ne _ hm]
    cases dp.sfu.entry ⟨sender, ssrc⟩ with
    | none => rfl
    | some e => simp only [only, tableOnly_setEntry_of_ne _ hm]

theorem forwardRTP_only {dp : DataPlaneModel} {buf : Buf} {av1 : Option MandatoryFields}
    (hs : Rtp.ssrc buf = m.ssrc)
    (h : ∀ f, av1 = some f → ∀ e, dp.sfu.entry m = some e →
      ∀ a ∈ ahead r e.actions, a.Passes f (Rtp.seq buf)) :
    (forwardRTP m.ipPort buf av1 (only m r dp)).state
        = only m r (forwardRTP m.ipPort buf av1 dp).state ∧
      datagramsTo r (forwardRTP m.ipPort buf av1 dp).effects
        = datagramsTo r (forwardRTP m.ipPort buf av1 (only m r dp)).effects := by
  have hm : (⟨m.ipPort, Rtp.ssrc buf⟩ : Match) = m := by rw [hs]
  unfold forwardRTP
  rw [Eff.get_bind_run, Eff.get_bind_run, hm, sfu_only, entry_tableOnly_self]
  cases he : dp.sfu.entry m with
  | none => exact ⟨rfl, rfl⟩
  | some e =>
      obtain ⟨h₁, h₂⟩ := forward_only e.nodup fun f hf => h f hf e he
      refine ⟨?_, h₂⟩
      change ({ only m r dp with sfu := _ } : DataPlaneModel) = only m r { dp with sfu := _ }
      simp only [only, tableOnly_setEntry_self]
      congr 2
      simp only [entryOnly, Entry.withActions, h₁]

/-- The program does the same for `r` with and without the other actions. -/
def Isolates (m : Match) (r : IPv4Port) (p : DataPlaneEff Unit) (dp : DataPlaneModel) : Prop :=
  (p (only m r dp)).state = only m r (p dp).state ∧
    datagramsTo r (p dp).effects = datagramsTo r (p (only m r dp)).effects

theorem isolates_count {f : TotalPacketStatistics → TotalPacketStatistics}
    {p : Unit → DataPlaneEff Unit} {dp : DataPlaneModel}
    (h : Isolates m r (p ()) { dp with totalStatistics := f dp.totalStatistics }) :
    Isolates m r (count f >>= p) dp := h

/-- A first part that does not look at the actions. -/
theorem isolates_bind {α : Type} {q : DataPlaneEff α} {p : α → DataPlaneEff Unit}
    {dp : DataPlaneModel} (hq : Eff.Commutes (only m r) q)
    (hp : ∀ a, (q dp).result = .ok a → Isolates m r (p a) (q dp).state) :
    Isolates m r (q >>= p) dp := by
  rcases h : q dp with ⟨s, es, x⟩
  have hg := hq dp
  rw [h] at hg hp
  unfold Isolates
  cases x with
  | error e =>
      rw [Eff.bind_of_error h, Eff.bind_of_error hg]
      exact ⟨rfl, rfl⟩
  | ok a =>
      obtain ⟨h₁, h₂⟩ := hp a rfl
      rw [Eff.bind_of_ok h, Eff.bind_of_ok hg]
      refine ⟨h₁, ?_⟩
      change datagramsTo r (es ++ _) = datagramsTo r (es ++ _)
      rw [datagramsTo_append, datagramsTo_append, h₂]

/-- The fields come from the packet's descriptor. -/
theorem describe_result {dp : DataPlaneModel} {sender : IPv4Port} {buf : Buf}
    {f : MandatoryFields} (h : (describe sender buf dp).result = .ok (some f)) :
    ∃ len dd, descriptor dp.av1RtpExt buf = .ok (some (len, dd)) ∧ dd.mandatoryFields = f := by
  unfold describe at h
  rw [Eff.get_bind_run] at h
  cases hd : descriptor dp.av1RtpExt buf with
  | error e => rw [hd] at h; exact nomatch h
  | ok d =>
      rw [hd, Eff.ofExcept_ok_bind] at h
      cases d with
      | none => exact nomatch h
      | some d =>
          refine ⟨d.1, d.2, rfl, ?_⟩
          dsimp only at h
          split at h
          · obtain ⟨_, -, h⟩ := Eff.result_bind_ok h
            obtain ⟨_, -, h⟩ := Eff.result_bind_ok h
            exact Option.some.inj (Except.ok.inj h)
          · exact Option.some.inj (Except.ok.inj h)

theorem isolates_packet {dp : DataPlaneModel} {buf : Buf} (hssrc : Rtp.ssrc buf = m.ssrc)
    (hs : Shielded m r dp (.rtp buf)) :
    Isolates m r (describe m.ipPort buf >>= forwardRTP m.ipPort buf) dp := by
  refine isolates_bind (commutes_describe _ _) fun av1 hav1 => ?_
  refine forwardRTP_only hssrc fun f hf e he => ?_
  rw [hf] at hav1
  obtain ⟨len, dd, hdd, rfl⟩ := describe_result hav1
  have hkeeps : Eff.Keeps (fun dp' => dp'.sfu = dp.sfu) (describe m.ipPort buf) :=
    describe_keeps (fun _ _ h => h) m.ipPort buf
  have hsfu : (describe m.ipPort buf dp).state.sfu = dp.sfu := hkeeps dp rfl
  rw [hsfu] at he
  exact hs (len, dd) (by rw [hdd]; rfl) e he

theorem not_bufferContainsSTUN {buf : Buf} (h : Rtp.containsRtpOrRtcp buf = true) :
    bufferContainsSTUN buf = false := by
  have h2 := (of_decide_eq_true h).2
  refine decide_eq_false fun hs => ?_
  rw [hs.2.1] at h2
  exact absurd h2 (by decide)

/-- **One event.** -/
theorem step_only {dp : DataPlaneModel} {ev : Event} (hon : ev.On m)
    (hs : Shielded m r dp ev) :
    (step m (only m r dp) ev).1 = only m r (step m dp ev).1 ∧
      datagramsTo r (step m dp ev).2 = datagramsTo r (step m (only m r dp) ev).2 := by
  cases ev with
  | adjust sender toAddr ssrc target =>
      exact ⟨adjustDecodeTarget_only dp sender toAddr ssrc target, rfl⟩
  | rtp buf =>
      obtain ⟨hrtp, hrtcp, hssrc⟩ := hon
      have hprog : onPacket false m.ipPort buf = (do
          count fun st => { st with pkts := st.pkts + 1, bytes := st.bytes + buf.length }
          count fun st => { st with rtpPkts := st.rtpPkts + 1 }
          let av1 ← describe m.ipPort buf
          forwardRTP m.ipPort buf av1) := by
        simp only [onPacket, not_bufferContainsSTUN hrtp, hrtp, hrtcp, handleRTP,
          Bool.false_eq_true, if_false, if_true]
      change Isolates m r (onPacket false m.ipPort buf) dp
      rw [hprog]
      exact isolates_count (isolates_count (isolates_packet hssrc hs))

/-- **Isolation.** In a run in which every action ahead of that for `r` lets every packet pass, the
receiver `r` gets the datagrams that it gets from a data plane without the other actions. -/
theorem isolated {dp : DataPlaneModel} {evs : List Event} (hon : ∀ ev ∈ evs, ev.On m)
    (hs : Along (Shielded m r) (step m) dp evs) :
    (outputs (step m) dp evs).map (datagramsTo r)
      = (outputs (step m) (only m r dp) evs).map (datagramsTo r) := by
  induction evs generalizing dp with
  | nil => rfl
  | cons ev evs ih =>
      obtain ⟨h₁, h₂⟩ := step_only (hon ev List.mem_cons_self) hs.1
      rw [outputs_cons, outputs_cons, List.map_cons, List.map_cons, h₂, h₁,
        ih (fun ev' h => hon ev' (List.mem_cons_of_mem _ h)) hs.2]

end Run

/-! ## Two receivers -/

section Example

/-- A packet of a frame of its own, with template `templateId`. -/
def examplePacket (seq : UInt8) (templateId frame : UInt8) : Buf :=
  [0x90, 0x60, 0, seq, 0, 0, 0, 0, 0, 0, 0, 5, 0xbe, 0xde, 0, 1, 0x12, 0xc0 + templateId, 0, frame]

/-- A sender with SSRC `5` and two receivers. -/
def exampleMatch : Match := ⟨⟨1, 1⟩, 5⟩

def examplePlane : DataPlaneModel where
  av1RtpExt := 1
  sfu := SFUTable.setEntry {} exampleMatch
    { actions := [{ toAddr := ⟨2, 2⟩ }, { toAddr := ⟨3, 3⟩ }] }

theorem isolated_two_receivers :
    (outputs (step exampleMatch) examplePlane [.rtp (examplePacket 7 2 4),
        .adjust ⟨1, 1⟩ ⟨3, 3⟩ 5 0, .rtp (examplePacket 8 2 5)]).map (datagramsTo ⟨3, 3⟩)
      = (outputs (step exampleMatch) (only exampleMatch ⟨3, 3⟩ examplePlane)
        [.rtp (examplePacket 7 2 4), .adjust ⟨1, 1⟩ ⟨3, 3⟩ 5 0,
          .rtp (examplePacket 8 2 5)]).map (datagramsTo ⟨3, 3⟩) :=
  isolated (by
    intro ev hev
    simp only [List.mem_cons, List.not_mem_nil, or_false] at hev
    rcases hev with rfl | rfl | rfl
    · exact ⟨by decide, by decide, by decide⟩
    · exact trivial
    · exact ⟨by decide, by decide, by decide⟩) (by decide)

/-- The first receiver is at the lowest target: a packet that is dropped for it is not sent to the
second one either. -/
theorem drop_hides_packet :
    ¬ ∀ (m : Match) (r : IPv4Port) (dp : DataPlaneModel) (evs : List Event),
      (∀ ev ∈ evs, ev.On m) →
      (outputs (step m) dp evs).map (datagramsTo r)
        = (outputs (step m) (only m r dp) evs).map (datagramsTo r) := by
  intro h
  have hrun := h exampleMatch ⟨3, 3⟩ examplePlane
    [.adjust ⟨1, 1⟩ ⟨2, 2⟩ 5 0, .rtp (examplePacket 7 2 4)] (by
      intro ev hev
      simp only [List.mem_cons, List.not_mem_nil, or_false] at hev
      rcases hev with rfl | rfl
      · exact trivial
      · exact ⟨by decide, by decide, by decide⟩)
  exact absurd hrun (by decide)

end Example

end DataPlaneModel

end Scallop
