import Scallop.SwitchAgent.Routing
import Scallop.SwitchAgent.Walk

/-!
# What a switch serves

A switch that has taken up a sequence of messages, whatever else has happened to it.

* `Rpc.Acceptable.sameAddr` : the send streams of a session and an SSRC come from one endpoint;
* `handle_sameStreams` : datagrams and requests leave the streams of the agent;
* `Switch.Serves` : the agent has the streams of the messages, and the data plane sends on to their receivers;
  `Serves.addStream` : another message; `Serves.other` : everything else.
-/

namespace Scallop

open Machine

namespace Rpc

section Acceptable
variable {log : List AddStream} {m : AddStream} {a b : AgentStream}

theorem Fits.new (h : Fits log m) (hsend : m.direction = .sendonly) {ssrc : SSRC}
    (hssrc : ssrc ∈ streamSSRCs m.ssrcs) : ssrc ∉ taken m.sessionId log := by
  unfold Fits at h
  rw [hsend] at h
  rcases mem_streamSSRCs.mp hssrc with rfl | ⟨-, rfl⟩
  · exact h.1
  · exact h.2.1

theorem ssrc_of_mem_sendStreams (h : a ∈ m.sendStreams) : a.ssrc ∈ streamSSRCs m.ssrcs := by
  rw [← m.sendStreams_ssrcs]
  exact List.mem_map_of_mem h

/-- A stream of a new sender is no stream of an old one. -/
theorem Fits.ne_old (h : Fits log m) (hsend : m.direction = .sendonly) (ha : a ∈ m.sendStreams)
    (hb : b ∈ sent log) (hsession : b.sessionId = a.sessionId) : b.ssrc ≠ a.ssrc := by
  intro hssrc
  refine h.new hsend (ssrc_of_mem_sendStreams ha) (mem_taken.mpr ⟨b, hb, ?_, hssrc⟩)
  exact hsession.trans (m.sessionId_of_mem_sendStreams ha)

/-- The send streams of a session and an SSRC come from one endpoint. -/
theorem Acceptable.sameAddr (h : Acceptable log) (ha : a ∈ sent log) (hb : b ∈ sent log)
    (hsession : a.sessionId = b.sessionId) (hssrc : a.ssrc = b.ssrc) : a.addr = b.addr := by
  induction h with
  | nil => exact absurd ha List.not_mem_nil
  | @concat log m h hfits ih =>
      rw [sent_concat, List.mem_append, List.mem_ite_nil_right] at ha hb
      rcases ha with ha | ⟨hsend, ha⟩
      · rcases hb with hb | ⟨hsend, hb⟩
        · exact ih ha hb
        · exact absurd hssrc (hfits.ne_old hsend hb ha hsession)
      · rcases hb with hb | ⟨-, hb⟩
        · exact absurd hssrc.symm (hfits.ne_old hsend ha hb hsession.symm)
        · exact (m.addr_of_mem_sendStreams ha).trans (m.addr_of_mem_sendStreams hb).symm

theorem Acceptable.sender_of_mem (h : Acceptable log) (hm : m ∈ log) (hrecv : m.direction = .recvonly) :
    m.mainSSRC ∈ taken m.sessionId log := by
  induction h with
  | nil => exact absurd hm List.not_mem_nil
  | @concat log m' h hfits ih =>
      refine mem_taken_append ?_
      rcases List.mem_append.mp hm with hm | hm
      · exact ih hm
      · obtain rfl := List.mem_singleton.mp hm
        unfold Fits at hfits
        rw [hrecv] at hfits
        exact hfits.1

/-- A beginning of an acceptable sequence, and the message after it. -/
theorem Acceptable.take (h : Acceptable log) (n : Nat) :
    Acceptable (log.take n) ∧ ∀ m, log[n]? = some m → Fits (log.take n) m := by
  induction h with
  | nil =>
      rw [List.take_nil]
      refine ⟨.nil, fun m hm => ?_⟩
      exact absurd (List.getElem?_nil.symm.trans hm).symm (Option.some_ne_none m)
  | @concat log m h hfits ih =>
      rcases Nat.lt_trichotomy n log.length with hlt | heq | hgt
      · rw [List.take_append_of_le_length hlt.le, List.getElem?_append_left hlt]
        exact ih
      · have hfirst : (log ++ [m]).take n = log := by rw [heq, List.take_left']; rfl
        rw [hfirst, heq, List.getElem?_concat_length]
        refine ⟨h, ?_⟩
        rintro m' hm'
        rw [← Option.some.inj hm']
        exact hfits
      · have hall : (log ++ [m]).length ≤ n := by
          rw [List.length_append]
          exact hgt
        rw [List.take_of_length_le hall, List.getElem?_eq_none hall]
        exact ⟨h.concat hfits, fun m' hm' => absurd hm'.symm (Option.some_ne_none m')⟩

end Acceptable

end Rpc

namespace SwitchAgentState

variable {st st' : SwitchAgentState} {sent : List AgentStream} {received : List Reception}

/-- Other decode targets and estimates make no difference. -/
theorem Stores.congr (h : st.Stores sent received) (hsame : st.SameStreams st') : st'.Stores sent received where
  sender id := (hsame.sender id).trans (h.sender id)
  receiver id := by
    have hbase : ∀ r : ReceiveStream, r.base.reception = r.reception := fun _ => rfl
    have hmap : ∀ o : Option ReceiveStream,
        (o.map ReceiveStream.base).map ReceiveStream.reception = o.map ReceiveStream.reception := by
      intro o
      cases o with
      | none => rfl
      | some r => exact congrArg some (hbase r)
    rw [← hmap, hsame.receiver, hmap]
    exact h.receiver id
  nextSend := hsame.nextSend.trans h.nextSend
  nextReceive := hsame.nextReceive.trans h.nextReceive
  index sessionId ssrc := by
    have hsession : st'.session sessionId = st.session sessionId := by
      unfold session
      rw [hsame.sessions]
    rw [hsession]
    exact h.index sessionId ssrc
  sendRoom := h.sendRoom
  receiveRoom := h.receiveRoom

end SwitchAgentState

namespace Switch

/-! ## Datagrams and requests -/

section SameStreams
variable {o : WalkOrder} {sender : IPv4Port} {buf : Buf} {sw : Switch} {st : SwitchAgentState}

theorem handleRTCPPackets_sameStreams (fuel : Nat) (buf : Buf) :
    Eff.Keeps (fun sw => st.SameStreams sw.agent) (handleRTCPPackets o sender fuel buf) := by
  induction fuel generalizing buf with
  | zero => exact Eff.keeps_pure _
  | succ fuel ih =>
      by_cases hbuf : buf = []
      · rw [handleRTCPPackets, if_pos hbuf]
        exact Eff.keeps_pure _
      · rw [handleRTCPPackets_succ hbuf]
        refine (Eff.keeps_require _ _).bind fun _ => Eff.Keeps.bind ?_ fun _ =>
          (Eff.keeps_require _ _).bind fun _ => ih _
        exact fun sw h => h.trans handleFirst_ok_iff.2

theorem onEffects_sameStreams (es : List Effect) :
    Eff.Keeps (fun sw => st.SameStreams sw.agent) (onEffects o es) := by
  induction es with
  | nil => exact Eff.keeps_pure _
  | cons e es ih =>
      refine Eff.Keeps.bind ?_ fun _ => ih
      cases e with
      | send toAddr buf => exact Eff.keeps_emit _
      | toController reason sender buf =>
          cases reason with
          | stun => exact Eff.keeps_pure _
          | av1 => exact Eff.keeps_get_bind fun _ => (Eff.keeps_ofExcept _).bind fun _ => Eff.keeps_pure _
          | rtcp => exact handleRTCPPackets_sameStreams _ _

/-- Only a message changes the streams of the agent. -/
theorem handle_sameStreams {ev : Event} (h : ev.message = none) :
    sw.agent.SameStreams (handle o ev sw).state.agent := by
  cases ev with
  | addStream m => exact absurd h (Option.some_ne_none m)
  | packet lost sender buf =>
      let out := DataPlaneModel.onPacket lost sender buf sw.dataPlane
      have hkeeps : Eff.Keeps (fun sw' : Switch => sw.agent.SameStreams sw'.agent) (do
          onEffects o out.effects
          Eff.ofExcept out.result) := (onEffects_sameStreams _).bind fun _ => Eff.keeps_ofExcept _
      exact hkeeps { sw with dataPlane := out.state } (.refl _)
  | setDecodeTarget sessionId ssrc participantId n =>
      have hkeeps : Eff.Keeps (fun sw' : Switch => sw.agent.SameStreams sw'.agent)
          (onAPISetDecodeTarget o sessionId ssrc participantId n) :=
        (adjustDecodeTarget_sameStreams _ _ _).bind fun _ => Eff.keeps_emit _
      exact hkeeps sw (.refl _)

end SameStreams

/-! ## Messages -/

/-- The agent has the streams of the messages, and what a sender sends is sent on to its receivers. -/
structure Serves (log : List Rpc.AddStream) (sw : Switch) : Prop where
  stores : sw.agent.Stores (Rpc.sent log) (Rpc.received log)
  routes : ∀ m ∈ log, m.direction = .recvonly → m.addr ≠ zeroAddr → ∀ a ∈ Rpc.sent log,
    a.sessionId = m.sessionId → a.ssrc = m.mainSSRC → ∀ ssrc ∈ Rpc.streamSSRCs m.ssrcs,
      m.addr ∈ sw.dataPlane.sfu.routes ⟨a.addr, ssrc⟩

section Serves
variable {o : WalkOrder} {sw : Switch} {log : List Rpc.AddStream} {m : Rpc.AddStream}

theorem serves_init (dataPlane : DataPlaneModel) : ({ dataPlane } : Switch).Serves [] where
  stores := SwitchAgentState.stores_init
  routes _ hm := absurd hm List.not_mem_nil

theorem mem_routes_handle {ev : Event} {key : Match} {toAddr : IPv4Port}
    (h : toAddr ∈ sw.dataPlane.sfu.routes key) :
    toAddr ∈ (handle o ev sw).state.dataPlane.sfu.routes key := by
  rw [handle_routes]
  exact List.mem_foldl_concatNew.mpr (.inl h)

/-- The receiver of a message that fits gets what its sender sends. -/
theorem mem_routes_receiver {a : AgentStream} {ssrc : SSRC}
    (hstores : sw.agent.Stores (Rpc.sent log) (Rpc.received log)) (hacceptable : Rpc.Acceptable log)
    (hfits : Rpc.Fits log m) (hrecv : m.direction = .recvonly) (haddr : m.addr ≠ zeroAddr)
    (ha : a ∈ Rpc.sent log) (hsession : a.sessionId = m.sessionId) (hmain : a.ssrc = m.mainSSRC)
    (hssrc : ssrc ∈ Rpc.streamSSRCs m.ssrcs) :
    m.addr ∈ (handle o (.addStream m) sw).state.dataPlane.sfu.routes ⟨a.addr, ssrc⟩ := by
  have htaken : ∀ ssrc, ssrc ∈ Rpc.taken m.sessionId log →
      (sw.agent.getSendStream o m.sessionId ssrc).isSome := fun ssrc h =>
    SwitchAgentState.getSendStream_isSome_iff.mpr (hstores.sends_iff.mpr (Rpc.mem_taken.mp h))
  unfold Rpc.Fits at hfits
  rw [hrecv] at hfits
  obtain ⟨⟨sid, s⟩, hs⟩ := Option.isSome_iff_exists.mp (htaken _ hfits.1)
  obtain ⟨hsender, hsSession, hsSsrc⟩ := SwitchAgentState.sender_of_getSendStream hs
  have hsent : s.toAgentStream ∈ Rpc.sent log := hstores.exists_sender.mp ⟨sid, hsender⟩
  have hsame : s.addr = a.addr :=
    hacceptable.sameAddr hsent ha (hsSession.trans hsession.symm) (hsSsrc.trans hmain.symm)
  have hstream : streamOf o sw m = some (receiverStream m s.addr) := by
    unfold streamOf
    rw [hrecv]
    dsimp only
    rw [hs, Option.bind_some, if_pos fun h0 => htaken _ (hfits.2.1 h0)]
  rw [handle_routes]
  refine List.mem_foldl_concatNew.mpr (.inr ?_)
  unfold streamsOf
  dsimp only
  rw [hstream, hsame]
  refine List.mem_flatMap.mpr ⟨_, List.mem_singleton_self _, ?_⟩
  unfold DataPlaneStream.destinations receiverStream
  dsimp only
  rw [if_neg haddr]
  rcases Rpc.mem_streamSSRCs.mp hssrc with rfl | ⟨h0, rfl⟩
  · simp [Rpc.AddStream.ssrcs]
  · simp [Rpc.AddStream.ssrcs] at h0 ⊢
    simp [h0]

theorem Serves.addStream (h : sw.Serves log) (hacceptable : Rpc.Acceptable log) (hfits : Rpc.Fits log m) :
    (handle o (.addStream m) sw).result = .ok () ∧
      (handle o (.addStream m) sw).state.Serves (log ++ [m]) := by
  obtain ⟨hok, -, hstores⟩ := @onAddStream_stores o sw m log h.stores hfits
  refine ⟨hok, hstores, ?_⟩
  intro m' hm' hrecv haddr a ha hsession hmain ssrc hssrc
  rw [Rpc.sent_concat, List.mem_append, List.mem_ite_nil_right] at ha
  rcases List.mem_append.mp hm' with hm' | hm'
  · rcases ha with ha | ⟨hsend, ha⟩
    · exact mem_routes_handle (h.routes m' hm' hrecv haddr a ha hsession hmain ssrc hssrc)
    · obtain ⟨b, hb, hbSession, hbSsrc⟩ := Rpc.mem_taken.mp (hacceptable.sender_of_mem hm' hrecv)
      exact absurd (hbSsrc.trans hmain.symm) (hfits.ne_old hsend ha hb (hbSession.trans hsession.symm))
  · obtain rfl := List.mem_singleton.mp hm'
    rcases ha with ha | ⟨hsend, -⟩
    · exact mem_routes_receiver h.stores hacceptable hfits hrecv haddr ha hsession hmain hssrc
    · rw [hrecv] at hsend
      exact absurd hsend (by decide)

theorem Serves.other {ev : Event} (h : sw.Serves log) (hev : ev.message = none) :
    (handle o ev sw).state.Serves log where
  stores := h.stores.congr (handle_sameStreams hev)
  routes m hm hrecv haddr a ha hsession hmain ssrc hssrc :=
    mem_routes_handle (h.routes m hm hrecv haddr a ha hsession hmain ssrc hssrc)

end Serves

end Switch

end Scallop
