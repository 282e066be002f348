import Scallop.SwitchAgent.Links
import Scallop.SwitchAgent.Serving
import Scallop.Wire

/-!
# The report of a switch

The answer of the agent to `get-streams`, `_onAPIGetStreams` of `lib/switch_agent.h`.

* `streamsJson` : the answer, with the streams in the order in which they are walked;
* `Tidy` : a switch that has taken up a sequence of messages, and whose streams are linked; `Tidy.addStream`,
  `Tidy.other` : every event keeps that; `SwitchProcess.final_tidy` : runs;
* `Lists` : the streams that an answer is about are those of the messages, each once;
* `SwitchProcess.report_lists` : in every run the answer lists all streams.
-/

namespace Scallop

open Av1 Machine

namespace SwitchAgentState

/-! ## The answer -/

/-- A receiver; of a video stream, with its decode target. -/
def receiverJson (stream : SendStream) (receiveStream : ReceiveStream) : Json :=
  let j := ((Json.null.set "participant_id" (.int receiveStream.receivingParticipant)).set
    "ip" (.str (IPv4.str receiveStream.addr.ip))).set "port" (.int receiveStream.addr.port.toNat)
  if stream.type = .video ∧ stream.rtx = false then
    j.set "decode_target" (.int receiveStream.decodeTarget.ident)
  else j

def sendStreamJson (stream : SendStream) (receivers : List Json) : Json :=
  (((((((Json.null.set "session_id" (.int stream.sessionId)).set
    "participant_id" (.int stream.sendingParticipant)).set "ssrc" (.int stream.ssrc.toNat)).set
    "ip" (.str (IPv4.str stream.addr.ip))).set "port" (.int stream.addr.port.toNat)).set
    "receivers" (.arr receivers)).set "type" (.str (if stream.type = .audio then "audio" else "video"))).set
    "rtx" (.bool stream.rtx)

def answerJson (streams : List Json) : Json :=
  (Json.null.set "type" (.str "streams")).set "data" (Json.null.set "streams" (.arr streams))

/-- The receive streams of a send stream; an id without one is skipped. -/
def receiversOf (st : SwitchAgentState) (stream : SendStream) : List ReceiveStream :=
  stream.receiveStreamIds.filterMap st.receiver

/-- `_onAPIGetStreams`. -/
def streamsJson (o : WalkOrder) (st : SwitchAgentState) : Json :=
  answerJson ((o.walk st.sendStreams.entries).map fun e =>
    sendStreamJson e.2 ((st.receiversOf e.2).map (receiverJson e.2)))

/-! ## Links -/

section Links
variable {st st' : SwitchAgentState} {sent : List AgentStream} {received : List Reception}

theorem Linked.congr (h : st.Linked) (hsame : st.SameStreams st') : st'.Linked where
  sender id r hr := by
    obtain ⟨r₀, hr₀, hb⟩ := hsame.before hr
    obtain ⟨s, hs, h1, h2, h3, h4, hcount⟩ := h.sender id r₀ hr₀
    have hfields : r₀.sessionId = r.sessionId ∧ r₀.ssrc = r.ssrc ∧ r₀.type = r.type ∧
        r₀.sendingParticipant = r.sendingParticipant ∧ r₀.sendStreamId = r.sendStreamId :=
      ⟨(congrArg (·.sessionId) hb).symm, (congrArg (·.ssrc) hb).symm, (congrArg (·.type) hb).symm,
        (congrArg (·.sendingParticipant) hb).symm, (congrArg (·.sendStreamId) hb).symm⟩
    obtain ⟨g1, g2, g3, g4, g5⟩ := hfields
    rw [hsame.sendStreams, ← g5]
    exact ⟨s, hs, h1.trans g1, h2.trans g2, h3.trans g3, h4.trans g4, hcount⟩
  elsewhere id r sid s hr hs hne := by
    obtain ⟨r₀, hr₀, hb⟩ := hsame.before hr
    rw [hsame.sendStreams] at hs
    exact h.elsewhere id r₀ sid s hr₀ hs fun heq => hne (heq.trans (congrArg (·.sendStreamId) hb).symm)
  listed sid s hs id hid := by
    rw [hsame.sendStreams] at hs
    have hsome := h.listed sid s hs id hid
    obtain ⟨r, hr⟩ := Option.isSome_iff_exists.mp hsome
    have hmap := hsame.receiver id
    rw [hr] at hmap
    obtain ⟨r', hr', -⟩ := Option.map_eq_some_iff.mp hmap
    rw [hr']
    rfl

theorem Stores.freeSend (h : st.Stores sent received) {k : Nat} (hroom : sent.length + k < 2 ^ 32) :
    UInt32.ofNat (sent.length + k) ∉ st.sendStreams := by
  have hnone := h.sender (UInt32.ofNat (sent.length + k))
  rw [UInt32.toNat_ofNat_of_lt' hroom, List.getElem?_eq_none (Nat.le_add_right _ _)] at hnone
  exact AList.lookup_eq_none.mp (Option.map_eq_none_iff.mp hnone)

theorem Stores.freeReceive (h : st.Stores sent received) {k : Nat} (hroom : received.length + k < 2 ^ 32) :
    UInt32.ofNat (received.length + k) ∉ st.receiveStreams := by
  have hnone := h.receiver (UInt32.ofNat (received.length + k))
  rw [UInt32.toNat_ofNat_of_lt' hroom, List.getElem?_eq_none (Nat.le_add_right _ _)] at hnone
  exact AList.lookup_eq_none.mp (Option.map_eq_none_iff.mp hnone)

theorem Stores.idsFree_send (h : st.Stores sent received) {sessionId participantId : Nat} {addr : IPv4Port}
    {type : MediaType} {ssrcs : SSRC × SSRC} (hroom : sent.length + (Rpc.streamSSRCs ssrcs).length ≤ 2 ^ 32) :
    IdsFree st (.addSendStream sessionId participantId addr type ssrcs.1 ssrcs.2) := by
  intro _ _
  rw [h.nextSend]
  unfold Rpc.streamSSRCs at hroom
  split at hroom
  · have hlt : sent.length + 1 < 2 ^ 32 := hroom
    refine ⟨h.freeSend (k := 0) (Nat.lt_of_succ_lt hlt), fun _ => ?_⟩
    have hfree := h.freeSend hlt
    rwa [UInt32.ofNat_add] at hfree
  · rename_i h0
    exact ⟨h.freeSend (k := 0) hroom, fun h0' => absurd h0' h0⟩

theorem Stores.idsFree_receive (h : st.Stores sent received) {sessionId fromParticipantId toParticipantId : Nat}
    {addr : IPv4Port} {ssrcs : SSRC × SSRC}
    (hroom : received.length + (Rpc.streamSSRCs ssrcs).length ≤ 2 ^ 32) :
    IdsFree st (.addReceiveStream sessionId fromParticipantId toParticipantId addr ssrcs.1 ssrcs.2) := by
  intro _
  rw [h.nextReceive]
  unfold Rpc.streamSSRCs at hroom
  split at hroom
  · have hlt : received.length + 1 < 2 ^ 32 := hroom
    refine ⟨h.freeReceive (k := 0) (Nat.lt_of_succ_lt hlt), fun _ _ => ?_⟩
    have hfree := h.freeReceive hlt
    rwa [UInt32.ofNat_add] at hfree
  · rename_i h0
    exact ⟨h.freeReceive (k := 0) hroom, fun h0' => absurd h0' h0⟩

end Links

end SwitchAgentState

namespace Switch

/-- The switch serves the messages, and its streams are linked. -/
structure Tidy (log : List Rpc.AddStream) (sw : Switch) : Prop where
  serves : sw.Serves log
  linked : sw.agent.Linked

section Tidy
variable {o : WalkOrder} {sw : Switch} {log : List Rpc.AddStream} {m : Rpc.AddStream}

theorem tidy_init (dataPlane : DataPlaneModel) : ({ dataPlane } : Switch).Tidy [] :=
  ⟨serves_init dataPlane, SwitchAgentState.linked_init⟩

theorem onAddStream_linked (h : sw.Tidy log) (hfits : Rpc.Fits log m) :
    (onAddStream o m sw).state.agent.Linked := by
  have hstores := h.serves.stores
  have htaken : ∀ ssrc, ssrc ∈ Rpc.taken m.sessionId log ↔ sw.agent.Sends m.sessionId ssrc :=
    fun ssrc => Rpc.mem_taken.trans hstores.sends_iff.symm
  have hindex : ∀ ssrc, ssrc ∈ Rpc.taken m.sessionId log ↔ ssrc ∈ sw.agent.session m.sessionId :=
    fun ssrc => Rpc.mem_taken.trans (hstores.index _ _).symm
  unfold Rpc.Fits at hfits
  cases hdir : m.direction with
  | sendonly =>
      rw [hdir, hindex, hindex] at hfits
      obtain ⟨hmain, hrtx, hroom⟩ := hfits
      have hok := (@SwitchAgentState.addSendStream_ok_iff sw.agent m.sessionId m.participantId m.addr
        m.mediaType m.mainSSRC m.rtxSSRC).mpr ⟨hmain, hrtx⟩
      rw [onAddStream_of_sendonly o hdir, register_ok _ hok]
      exact SwitchAgentState.addSendStream_linked h.linked (hstores.idsFree_send hroom)
  | recvonly =>
      rw [hdir, htaken, htaken] at hfits
      obtain ⟨hmain, hrtx, hroom⟩ := hfits
      have hfound := (SwitchAgentState.getSendStream_isSome_iff (o := o)).mpr hmain
      obtain ⟨⟨sid, s⟩, hs⟩ := Option.isSome_iff_exists.mp hfound
      have hok := (@SwitchAgentState.addReceiveStream_sends o sw.agent m.sessionId s.sendingParticipant
        m.participantId m.addr m.mainSSRC m.rtxSSRC).2.mpr ⟨hmain, hrtx⟩
      rw [onAddStream_of_recvonly o hdir, hs]
      dsimp only
      rw [register_ok _ hok]
      exact SwitchAgentState.addReceiveStream_linked h.linked (hstores.idsFree_receive hroom)
  | sendrecv =>
      rw [hdir] at hfits
      exact hfits.elim
  | inactive =>
      rw [hdir] at hfits
      exact hfits.elim

theorem Tidy.addStream (h : sw.Tidy log) (hacceptable : Rpc.Acceptable log) (hfits : Rpc.Fits log m) :
    (handle o (.addStream m) sw).state.Tidy (log ++ [m]) :=
  ⟨(h.serves.addStream hacceptable hfits).2, onAddStream_linked h hfits⟩

theorem Tidy.other {ev : Event} (h : sw.Tidy log) (hev : ev.message = none) :
    (handle o ev sw).state.Tidy log :=
  ⟨h.serves.other hev, h.linked.congr (handle_sameStreams hev)⟩

end Tidy

end Switch

namespace SwitchAgentState

/-! ## What is listed -/

/-- The streams that an answer is about are those of the messages, each once, and every receive stream comes
under a send stream of its session with its SSRC. -/
structure Lists (sent : List AgentStream) (received : List Reception)
    (entries : List (SendStream × List ReceiveStream)) : Prop where
  senders : (entries.map fun e => e.1.toAgentStream).Perm sent
  receivers : (entries.flatMap fun e => e.2.map ReceiveStream.reception).Perm received
  under : ∀ e ∈ entries, ∀ r ∈ e.2, e.1.sessionId = r.sessionId ∧ e.1.ssrc = r.ssrc ∧ e.1.type = r.type

section Lists
variable {o : WalkOrder} {st : SwitchAgentState} {sent : List AgentStream} {received : List Reception}

/-- The send streams, with their receive streams. -/
def listing (o : WalkOrder) (st : SwitchAgentState) : List (SendStream × List ReceiveStream) :=
  (o.walk st.sendStreams.entries).map fun e => (e.2, st.receiversOf e.2)

theorem streamsJson_eq : streamsJson o st =
    answerJson ((listing o st).map fun e => sendStreamJson e.1 (e.2.map (receiverJson e.1))) := by
  unfold streamsJson listing
  rw [List.map_map]
  rfl

/-- The elements of a list under ids of all its positions. -/
theorem perm_of_ids {α : Type} {l : List α} {ids : List UInt32} (hnodup : ids.Nodup) (hroom : l.length ≤ 2 ^ 32)
    (hmem : ∀ id, id ∈ ids ↔ id.toNat < l.length) : (ids.filterMap fun id => l[id.toNat]?).Perm l := by
  have hperm : (ids.map UInt32.toNat).Perm (List.range l.length) := by
    rw [List.perm_ext_iff_of_nodup (hnodup.map fun _ _ => UInt32.toNat_inj.mp) List.nodup_range]
    intro i
    rw [List.mem_map, List.mem_range]
    constructor
    · rintro ⟨id, hid, rfl⟩
      exact (hmem id).mp hid
    · intro hi
      have htoNat : (UInt32.ofNat i).toNat = i := UInt32.toNat_ofNat_of_lt' (hi.trans_le hroom)
      exact ⟨UInt32.ofNat i, (hmem _).mpr (htoNat.symm ▸ hi), htoNat⟩
  have hfilter := hperm.filterMap fun i => l[i]?
  rw [List.filterMap_map, List.filterMap_getElem?_range] at hfilter
  exact hfilter

/-- An id is in use when it is a position of the list. -/
theorem mem_sendStreams_iff (h : st.Stores sent received) {id : UInt32} :
    id ∈ st.sendStreams ↔ id.toNat < sent.length := by
  rw [← AList.lookup_isSome, ← @Option.isSome_map _ _ SendStream.toAgentStream]
  show (st.sender id).isSome ↔ _
  rw [h.sender]
  simp

theorem receiver_isSome_iff (h : st.Stores sent received) {id : UInt32} :
    (st.receiver id).isSome ↔ id.toNat < received.length := by
  rw [← @Option.isSome_map _ _ ReceiveStream.reception, h.receiver]
  simp

theorem mem_walk_lookup {e : Sigma fun _ : UInt32 => SendStream} :
    e ∈ o.walk st.sendStreams.entries ↔ st.sendStreams.lookup e.1 = some e.2 :=
  UnorderedMap.mem_walk

theorem nodup_walk_keys : ((o.walk st.sendStreams.entries).map Sigma.fst).Nodup :=
  ((o.perm _).map _).nodup_iff.mpr st.sendStreams.nodupKeys

theorem listing_senders (h : st.Stores sent received) :
    ((listing o st).map fun e => e.1.toAgentStream).Perm sent := by
  have hids : ∀ id, id ∈ (o.walk st.sendStreams.entries).map Sigma.fst ↔ id.toNat < sent.length := by
    intro id
    rw [← mem_sendStreams_iff h, ((o.perm _).map _).mem_iff]
    rfl
  refine List.Perm.trans (List.Perm.of_eq ?_) (perm_of_ids (@nodup_walk_keys o st) h.sendRoom hids)
  unfold listing
  rw [List.map_map, List.filterMap_map, ← List.filterMap_eq_map]
  refine List.filterMap_congr fun e he => ?_
  show some e.2.toAgentStream = sent[e.1.toNat]?
  rw [← h.sender]
  unfold sender
  rw [mem_walk_lookup.mp he]
  rfl

/-- The ids that send streams list are those of the receive streams, each once. -/
theorem Linked.ids (h : st.Linked) :
    ((o.walk st.sendStreams.entries).flatMap fun e => e.2.receiveStreamIds).Nodup ∧
      ∀ id, id ∈ ((o.walk st.sendStreams.entries).flatMap fun e => e.2.receiveStreamIds) ↔
        (st.receiver id).isSome := by
  have hsame : ∀ e ∈ o.walk st.sendStreams.entries, ∀ id ∈ e.2.receiveStreamIds,
      ∃ r, st.receiver id = some r ∧ e.1 = r.sendStreamId := by
    intro e he id hid
    obtain ⟨r, hr⟩ := Option.isSome_iff_exists.mp (h.listed e.1 e.2 (mem_walk_lookup.mp he) id hid)
    refine ⟨r, hr, ?_⟩
    by_contra hne
    exact h.elsewhere id r e.1 e.2 hr (mem_walk_lookup.mp he) hne hid
  refine ⟨List.nodup_flatMap.mpr ⟨fun e he => ?_, ?_⟩, fun id => ⟨fun hid => ?_, fun hsome => ?_⟩⟩
  · rw [List.nodup_iff_count_le_one]
    intro id
    by_cases hid : id ∈ e.2.receiveStreamIds
    · obtain ⟨r, hr, hsid⟩ := hsame e he id hid
      obtain ⟨s, hs, -, -, -, -, hcount⟩ := h.sender id r hr
      rw [← hsid, mem_walk_lookup.mp he] at hs
      rw [Option.some.inj hs, hcount]
    · rw [List.count_eq_zero_of_not_mem hid]
      exact Nat.zero_le 1
  · refine (List.pairwise_map.mp (@nodup_walk_keys o st)).imp_of_mem ?_
    intro e e' he he' hne
    refine List.disjoint_left.mpr fun id hid hid' => ?_
    obtain ⟨r, hr, hsid⟩ := hsame e he id hid
    obtain ⟨r', hr', hsid'⟩ := hsame e' he' id hid'
    rw [Option.some.inj (hr.symm.trans hr')] at hsid
    exact hne (hsid.trans hsid'.symm)
  · obtain ⟨e, he, hid⟩ := List.mem_flatMap.mp hid
    obtain ⟨r, hr, -⟩ := hsame e he id hid
    rw [hr]
    rfl
  · obtain ⟨r, hr⟩ := Option.isSome_iff_exists.mp hsome
    obtain ⟨s, hs, -, -, -, -, hcount⟩ := h.sender id r hr
    refine List.mem_flatMap.mpr ⟨⟨r.sendStreamId, s⟩, mem_walk_lookup.mpr hs, ?_⟩
    rw [← List.count_pos_iff, hcount]
    exact Nat.one_pos

theorem listing_receivers (h : st.Stores sent received) (hlinked : st.Linked) :
    ((listing o st).flatMap fun e => e.2.map ReceiveStream.reception).Perm received := by
  obtain ⟨hnodup, hmem⟩ := @Linked.ids o st hlinked
  have hperm := perm_of_ids hnodup h.receiveRoom fun id => (hmem id).trans (receiver_isSome_iff h)
  refine List.Perm.trans (List.Perm.of_eq ?_) hperm
  have hentry : ∀ s : SendStream, (st.receiversOf s).map ReceiveStream.reception =
      s.receiveStreamIds.filterMap fun id => received[id.toNat]? := by
    intro s
    unfold receiversOf
    rw [List.map_filterMap]
    refine List.filterMap_congr fun id _ => ?_
    exact h.receiver id
  unfold listing
  rw [List.flatMap_map, List.filterMap_flatMap]
  exact List.flatMap_congr fun e _ => hentry e.2

theorem listing_lists (h : st.Stores sent received) (hlinked : st.Linked) : Lists sent received (listing o st) where
  senders := listing_senders h
  receivers := listing_receivers h hlinked
  under e he r hr := by
    obtain ⟨e', he', rfl⟩ := List.mem_map.mp he
    obtain ⟨id, hid, hr⟩ := List.mem_filterMap.mp hr
    obtain ⟨s, hs, hsession, hssrc, htype, -, -⟩ := hlinked.sender id r hr
    have hsid : e'.1 = r.sendStreamId := by
      by_contra hne
      exact hlinked.elsewhere id r e'.1 e'.2 hr (mem_walk_lookup.mp he') hne hid
    rw [← hsid, mem_walk_lookup.mp he'] at hs
    rw [Option.some.inj hs]
    exact ⟨hsession, hssrc, htype⟩

end Lists

end SwitchAgentState

namespace Switch

/-- The targets of the video streams that are listed are in force. -/
theorem Tidy.listing_inForce {o : WalkOrder} {sw : Switch} {log : List Rpc.AddStream} (h : sw.Tidy log)
    (hinv : sw.Inv) : ∀ e ∈ SwitchAgentState.listing o sw.agent, ∀ r ∈ e.2, r.Adjustable →
      sw.dataPlane.inForce ⟨e.1.addr, e.1.ssrc⟩ r.addr = some r.decodeTarget := by
  intro e he r hr hadj
  obtain ⟨e', he', rfl⟩ := List.mem_map.mp he
  obtain ⟨id, hid, hr⟩ := List.mem_filterMap.mp hr
  have hlookup := SwitchAgentState.mem_walk_lookup.mp he'
  have hsid : e'.1 = r.sendStreamId := by
    by_contra hne
    exact h.linked.elsewhere id r e'.1 e'.2 hr hlookup hne hid
  have hsender : sw.agent.sender r.sendStreamId = some e'.2.toAgentStream := by
    unfold SwitchAgentState.sender
    rw [← hsid, hlookup]
    rfl
  have hflow : sw.agent.Flow id r e'.2.toAgentStream := ⟨hr, hsender, hadj⟩
  exact hinv.agree.flow hflow

end Switch

namespace SwitchProcess

/-! ## Runs -/

theorem acceptable_of_concat {log : List Rpc.AddStream} {m : Rpc.AddStream} (h : Rpc.Acceptable (log ++ [m])) :
    Rpc.Acceptable log ∧ Rpc.Fits log m := by
  have htake := h.take log.length
  rw [List.take_left'] at htake
  · exact ⟨htake.1, htake.2 m List.getElem?_concat_length⟩
  · rfl

/-- As long as the process runs, the switch is tidy; messages do not end it. -/
theorem final_tidy (av1RtpExt : Nat) (xs : List (WalkOrder × Switch.Event)) (h : Rpc.Acceptable (messages xs))
    (hrun : (final step (init av1RtpExt) xs).running = true) :
    (final step (init av1RtpExt) xs).switch.Tidy (messages xs) := by
  have hinit : (init av1RtpExt).switch.Tidy [] := Switch.tidy_init _
  refine final_rec step (I := fun xs p => Rpc.Acceptable (messages xs) → p.running = true →
    p.switch.Tidy (messages xs)) (fun _ _ => hinit) (fun xs x ih hacceptable hrun => ?_) xs h hrun
  generalize final step (init av1RtpExt) xs = p at *
  have hbefore : p.running = true := by
    by_contra hstopped
    rw [step_of_not_running hstopped] at hrun
    exact hstopped hrun
  rw [step_of_running hbefore]
  rw [messages_concat] at hacceptable ⊢
  obtain ⟨o, ev⟩ := x
  cases ev with
  | addStream m =>
      obtain ⟨hlog, hfits⟩ := acceptable_of_concat hacceptable
      exact (ih hlog hbefore).addStream hlog hfits
  | packet lost sender buf =>
      have hmessage : (Switch.Event.packet lost sender buf).message.toList = [] := rfl
      rw [hmessage, List.append_nil] at hacceptable ⊢
      exact (ih hacceptable hbefore).other rfl
  | setDecodeTarget sessionId ssrc participantId n =>
      have hmessage : (Switch.Event.setDecodeTarget sessionId ssrc participantId n).message.toList = [] := rfl
      rw [hmessage, List.append_nil] at hacceptable ⊢
      exact (ih hacceptable hbefore).other rfl

theorem final_inv (av1RtpExt : Nat) {xs : List (WalkOrder × Switch.Event)}
    (hok : Along StepOk step (init av1RtpExt) xs) (hrun : (final step (init av1RtpExt) xs).running = true) :
    (final step (init av1RtpExt) xs).switch.Inv := by
  have hinv : Always (fun p => p.running = true → p.switch.Inv) step (init av1RtpExt) xs :=
    hok.always (fun p x hp hc => step_inv hp hc) fun _ => Switch.inv_init av1RtpExt
  exact hinv.final hrun

/-- **Reports.** In every run with acceptable messages, whatever datagrams and requests come in between: as long as
the process runs, the answer to `get-streams` lists the streams of the messages, each once, and the receive streams
under their send streams. If the events meet the condition for decode targets, the target of every video stream that
it lists is the one in force in the data plane. -/
theorem report_lists (av1RtpExt : Nat) (xs : List (WalkOrder × Switch.Event)) (o : WalkOrder)
    (h : Rpc.Acceptable (messages xs)) (hrun : (final step (init av1RtpExt) xs).running = true) :
    let sw := (final step (init av1RtpExt) xs).switch
    ∃ entries, SwitchAgentState.Lists (Rpc.sent (messages xs)) (Rpc.received (messages xs)) entries ∧
      SwitchAgentState.streamsJson o sw.agent = SwitchAgentState.answerJson (entries.map fun e =>
        SwitchAgentState.sendStreamJson e.1 (e.2.map (SwitchAgentState.receiverJson e.1))) ∧
      (Along StepOk step (init av1RtpExt) xs → ∀ e ∈ entries, ∀ r ∈ e.2, r.Adjustable →
        sw.dataPlane.inForce ⟨e.1.addr, e.1.ssrc⟩ r.addr = some r.decodeTarget) := by
  intro sw
  have htidy : sw.Tidy (messages xs) := final_tidy av1RtpExt xs h hrun
  have hlists := @SwitchAgentState.listing_lists o _ _ _ htidy.serves.stores htidy.linked
  exact ⟨_, hlists, SwitchAgentState.streamsJson_eq, fun hok =>
    htidy.listing_inForce (final_inv av1RtpExt hok hrun)⟩

theorem acceptable_example : Rpc.Acceptable (messages exampleRun) := by
  have hsend : Rpc.Fits [] (exampleSend .video) := ⟨by decide, by decide, by decide⟩
  have hreceive : Rpc.Fits [exampleSend .video] (exampleReceive .video) := ⟨by decide, by decide, by decide⟩
  exact (Rpc.Acceptable.nil.concat hsend).concat hreceive

theorem report_lists_video :
    let sw := (final step (init 1) exampleRun).switch
    ∃ entries, SwitchAgentState.Lists (Rpc.sent (messages exampleRun)) (Rpc.received (messages exampleRun)) entries ∧
      SwitchAgentState.streamsJson default sw.agent = SwitchAgentState.answerJson (entries.map fun e =>
        SwitchAgentState.sendStreamJson e.1 (e.2.map (SwitchAgentState.receiverJson e.1))) ∧
      (Along StepOk step (init 1) exampleRun → ∀ e ∈ entries, ∀ r ∈ e.2, r.Adjustable →
        sw.dataPlane.inForce ⟨e.1.addr, e.1.ssrc⟩ r.addr = some r.decodeTarget) :=
  report_lists 1 exampleRun default acceptable_example (by decide)

end SwitchProcess

end Scallop
