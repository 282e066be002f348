import Scallop.SwitchAgent.Matches

/-!
# What the agent registers of a sequence of messages

The agent as two lists, in the order of its ids: the send streams, and what the receive streams are for.

* `Rpc.AddStream.sendStreams`, `Rpc.AddStream.receptions` : the streams of a message; `Rpc.sent`,
  `Rpc.received` : those of a sequence of messages; `Rpc.taken` : the SSRCs of a session;
* `SwitchAgentState.Stores` : a state of the agent refines such lists; `Stores.addSendStream`,
  `Stores.addReceiveStream` : so do the programs;
* `Rpc.Fits`, `Rpc.Acceptable` : a message that the agent registers after others, and a sequence of such;
* `SwitchProcess.takesUp_of_acceptable` : it takes up all of them, and has their streams then.
-/

namespace Scallop

open Machine

structure Reception where
  sessionId : Nat
  participantId : Nat
  addr : IPv4Port
  ssrc : SSRC
  rtx : Bool
deriving DecidableEq, Repr

def ReceiveStream.reception (r : ReceiveStream) : Reception :=
  ⟨r.sessionId, r.receivingParticipant, r.addr, r.ssrc, r.rtx⟩

namespace Rpc

/-! ## The streams of messages -/

/-- The SSRCs of a stream; it has one for retransmissions if that is not `0`. -/
def streamSSRCs (ssrcs : SSRC × SSRC) : List SSRC :=
  if ssrcs.2 ≠ 0 then [ssrcs.1, ssrcs.2] else [ssrcs.1]

theorem mem_streamSSRCs {ssrcs : SSRC × SSRC} {ssrc : SSRC} :
    ssrc ∈ streamSSRCs ssrcs ↔ ssrc = ssrcs.1 ∨ ssrcs.2 ≠ 0 ∧ ssrc = ssrcs.2 := by
  unfold streamSSRCs
  split
  · rename_i h0
    rw [List.mem_pair, and_iff_right h0]
  · rename_i h0
    rw [List.mem_singleton, or_iff_left fun h => h0 h.1]

namespace AddStream
variable (m : AddStream)

def ssrcs : SSRC × SSRC := (m.mainSSRC, m.rtxSSRC)

/-- The send streams that a message is about, if it is about a sender. -/
def sendStreams : List AgentStream :=
  let main := SwitchAgentState.mainStream m.sessionId m.participantId m.addr m.mediaType m.mainSSRC
  let rtx := SwitchAgentState.mainStream m.sessionId m.participantId m.addr m.mediaType m.rtxSSRC
  if m.rtxSSRC ≠ 0 then [main.toAgentStream, { rtx.toAgentStream with rtx := true }]
  else [main.toAgentStream]

/-- What its receive streams are for, if it is about a receiver. -/
def receptions : List Reception :=
  let main : Reception := ⟨m.sessionId, m.participantId, m.addr, m.mainSSRC, false⟩
  let rtx : Reception := ⟨m.sessionId, m.participantId, m.addr, m.rtxSSRC, true⟩
  if m.rtxSSRC ≠ 0 then [main, rtx] else [main]

theorem sendStreams_ssrcs : m.sendStreams.map (·.ssrc) = streamSSRCs m.ssrcs := by
  unfold sendStreams streamSSRCs
  by_cases h0 : m.rtxSSRC ≠ 0
  · exact (congrArg _ (if_pos h0)).trans (if_pos h0).symm
  · exact (congrArg _ (if_neg h0)).trans (if_neg h0).symm

theorem sessionId_of_mem_sendStreams {a : AgentStream} (h : a ∈ m.sendStreams) :
    a.sessionId = m.sessionId := by
  unfold sendStreams at h
  dsimp only at h
  split at h
  · rcases List.mem_pair.mp h with rfl | rfl
    · rfl
    · rfl
  · obtain rfl := List.mem_singleton.mp h
    rfl

theorem length_sendStreams : m.sendStreams.length = (streamSSRCs m.ssrcs).length := by
  rw [← m.sendStreams_ssrcs, List.length_map]

theorem length_receptions : m.receptions.length = (streamSSRCs m.ssrcs).length := by
  have hssrcs : m.receptions.map (·.ssrc) = streamSSRCs m.ssrcs := by
    unfold receptions streamSSRCs
    by_cases h0 : m.rtxSSRC ≠ 0
    · exact (congrArg _ (if_pos h0)).trans (if_pos h0).symm
    · exact (congrArg _ (if_neg h0)).trans (if_neg h0).symm
  rw [← hssrcs, List.length_map]

end AddStream

def sent (log : List AddStream) : List AgentStream :=
  log.flatMap fun m => if m.direction = .sendonly then m.sendStreams else []

/-- What the receive streams of the messages are for. -/
def received (log : List AddStream) : List Reception :=
  log.flatMap fun m => if m.direction = .recvonly then m.receptions else []

/-- The SSRCs of the send streams of a session. -/
def taken (sessionId : Nat) (log : List AddStream) : List SSRC :=
  ((sent log).filter fun a => a.sessionId = sessionId).map (·.ssrc)

section Log
variable {log : List AddStream} {m : AddStream} {sessionId : Nat} {ssrc : SSRC}

theorem sent_concat : sent (log ++ [m]) =
    sent log ++ if m.direction = .sendonly then m.sendStreams else [] := by
  unfold sent
  rw [List.flatMap_append, List.flatMap_singleton]

theorem received_concat : received (log ++ [m]) =
    received log ++ if m.direction = .recvonly then m.receptions else [] := by
  unfold received
  rw [List.flatMap_append, List.flatMap_singleton]

theorem mem_taken : ssrc ∈ taken sessionId log ↔
    ∃ a ∈ sent log, a.sessionId = sessionId ∧ a.ssrc = ssrc := by
  unfold taken
  rw [List.mem_map]
  simp only [List.mem_filter, decide_eq_true_eq, and_assoc]

/-- A message about a sender takes its SSRCs. -/
theorem taken_concat_of_sendonly (h : m.direction = .sendonly) :
    taken m.sessionId (log ++ [m]) = taken m.sessionId log ++ streamSSRCs m.ssrcs := by
  have hall : m.sendStreams.filter (fun a => a.sessionId = m.sessionId) = m.sendStreams :=
    List.filter_eq_self.mpr fun a ha => decide_eq_true (m.sessionId_of_mem_sendStreams ha)
  unfold taken
  rw [sent_concat, if_pos h, List.filter_append, List.map_append, hall, m.sendStreams_ssrcs]

theorem mem_taken_of_mem (hm : m ∈ log) (h : m.direction = .sendonly) (hssrc : ssrc ∈ streamSSRCs m.ssrcs) :
    ssrc ∈ taken m.sessionId log := by
  rw [← m.sendStreams_ssrcs] at hssrc
  obtain ⟨a, ha, rfl⟩ := List.mem_map.mp hssrc
  refine mem_taken.mpr ⟨a, List.mem_flatMap.mpr ⟨m, hm, ?_⟩, m.sessionId_of_mem_sendStreams ha, rfl⟩
  rw [if_pos h]
  exact ha

theorem mem_taken_append {ms : List AddStream} (h : ssrc ∈ taken sessionId log) :
    ssrc ∈ taken sessionId (log ++ ms) := by
  obtain ⟨a, ha, hkey⟩ := mem_taken.mp h
  refine mem_taken.mpr ⟨a, ?_, hkey⟩
  unfold sent
  rw [List.flatMap_append]
  exact List.mem_append_left _ ha

end Log

end Rpc

/-! ## The agent as lists -/

namespace SwitchAgentState

/-- The agent has the streams of two lists, in the order of the ids. -/
structure Stores (st : SwitchAgentState) (sent : List AgentStream) (received : List Reception) :
    Prop where
  sender : ∀ id, st.sender id = sent[id.toNat]?
  receiver : ∀ id, (st.receiver id).map ReceiveStream.reception = received[id.toNat]?
  nextSend : st.nextSendStreamId = UInt32.ofNat sent.length
  nextReceive : st.nextReceiveStreamId = UInt32.ofNat received.length
  index : ∀ sessionId ssrc, ssrc ∈ st.session sessionId ↔
    ∃ a ∈ sent, a.sessionId = sessionId ∧ a.ssrc = ssrc
  sendRoom : sent.length ≤ 2 ^ 32
  receiveRoom : received.length ≤ 2 ^ 32

theorem stores_init : ({} : SwitchAgentState).Stores [] [] where
  sender _ := rfl
  receiver _ := rfl
  nextSend := rfl
  nextReceive := rfl
  index _ _ := ⟨fun h => absurd h (AList.notMem_empty _), fun ⟨_, ha, _⟩ => absurd ha List.not_mem_nil⟩
  sendRoom := Nat.zero_le _
  receiveRoom := Nat.zero_le _

/-- A list with a new element under the next id. -/
theorem getElem?_concat {α : Type} {l : List α} {a b : α} {id : UInt32} (hroom : l.length < 2 ^ 32) :
    (l ++ [a])[id.toNat]? = some b ↔
      (id = UInt32.ofNat l.length ∧ a = b) ∨ (id ≠ UInt32.ofNat l.length ∧ l[id.toNat]? = some b) := by
  have hid : id = UInt32.ofNat l.length ↔ id.toNat = l.length := by
    rw [← UInt32.toNat_inj, UInt32.toNat_ofNat_of_lt' hroom]
  rw [hid, ne_eq, hid]
  by_cases heq : id.toNat = l.length
  · rw [heq, List.getElem?_concat_length, Option.some.injEq]
    exact ⟨fun h => .inl ⟨rfl, h⟩, fun h => h.elim And.right fun h => absurd rfl h.1⟩
  · have hold : (l ++ [a])[id.toNat]? = l[id.toNat]? := by
      rcases Nat.lt_or_gt_of_ne heq with hlt | hgt
      · exact List.getElem?_append_left hlt
      · rw [List.getElem?_eq_none (Nat.le_of_lt hgt), List.getElem?_eq_none]
        rw [List.length_append]
        exact hgt
    rw [hold]
    exact ⟨fun h => .inr ⟨heq, h⟩, fun h => h.elim (fun h => absurd h.1 heq) And.right⟩

section Stores
variable {st : SwitchAgentState} {sent : List AgentStream} {received : List Reception}
variable {o : WalkOrder} {m : Rpc.AddStream} {sessionId : Nat} {ssrc : SSRC}

theorem Stores.exists_sender (h : st.Stores sent received) {a : AgentStream} :
    (∃ id, st.sender id = some a) ↔ a ∈ sent := by
  simp only [h.sender]
  constructor
  · rintro ⟨id, hid⟩
    exact List.mem_of_getElem? hid
  · intro ha
    obtain ⟨i, hi, rfl⟩ := List.mem_iff_getElem.mp ha
    refine ⟨UInt32.ofNat i, ?_⟩
    rw [UInt32.toNat_ofNat_of_lt' (hi.trans_le h.sendRoom), List.getElem?_eq_getElem hi]

theorem Stores.exists_receiver (h : st.Stores sent received) {k : Reception} :
    (∃ id r, st.receiver id = some r ∧ r.reception = k) ↔ k ∈ received := by
  simp only [← Option.map_eq_some_iff, h.receiver]
  constructor
  · rintro ⟨id, hid⟩
    exact List.mem_of_getElem? hid
  · intro hk
    obtain ⟨i, hi, rfl⟩ := List.mem_iff_getElem.mp hk
    refine ⟨UInt32.ofNat i, ?_⟩
    rw [UInt32.toNat_ofNat_of_lt' (hi.trans_le h.receiveRoom), List.getElem?_eq_getElem hi]

theorem Stores.sends_iff (h : st.Stores sent received) :
    st.Sends sessionId ssrc ↔ ∃ a ∈ sent, a.sessionId = sessionId ∧ a.ssrc = ssrc := by
  simp only [← h.exists_sender]
  constructor
  · rintro ⟨id, a, ha, hkey⟩
    exact ⟨a, ⟨id, ha⟩, hkey⟩
  · rintro ⟨a, ⟨id, ha⟩, hkey⟩
    exact ⟨id, a, ha, hkey⟩

theorem Stores.withSession (h : st.Stores sent received) (sessionId : Nat) :
    (SwitchAgentState.withSession sessionId st).Stores sent received := by
  have hses := @session_withSession st sessionId
  rw [withSession_eq] at hses ⊢
  exact ⟨h.sender, h.receiver, h.nextSend, h.nextReceive,
    fun k ssrc => (hses k).symm ▸ h.index k ssrc, h.sendRoom, h.receiveRoom⟩

theorem Stores.pushSendStream {s : SendStream} (h : st.Stores sent received)
    (hroom : sent.length < 2 ^ 32) :
    (SwitchAgentState.pushSendStream s st).Stores (sent ++ [s.toAgentStream]) received where
  sender id := by
    ext a
    rw [sender_pushSendStream_iff, getElem?_concat hroom, h.nextSend, h.sender]
  receiver := h.receiver
  nextSend := by
    show st.nextSendStreamId + 1 = _
    rw [h.nextSend, List.length_append, UInt32.ofNat_add]
    rfl
  nextReceive := h.nextReceive
  index sessionId ssrc := by
    rw [mem_session_pushSendStream, h.index]
    simp only [List.mem_append, List.mem_singleton, or_and_right, exists_or, exists_eq_left]
    exact or_congr_right (and_congr eq_comm eq_comm)
  sendRoom := by
    rw [List.length_append]
    exact hroom
  receiveRoom := h.receiveRoom

theorem Stores.pushReceiveStream {sid : UInt32} {s : SendStream} {r : ReceiveStream}
    (h : st.Stores sent received) (hs : st.sender sid = some s.toAgentStream)
    (hroom : received.length < 2 ^ 32) :
    (SwitchAgentState.pushReceiveStream (sid, s) r st).Stores sent (received ++ [r.reception]) where
  sender id := (sender_pushReceiveStream hs id).trans (h.sender id)
  receiver id := by
    ext k
    rw [getElem?_concat hroom, ← h.nextReceive, ← h.receiver, Option.map_eq_some_iff]
    simp only [receiver_pushReceiveStream_iff, Option.map_eq_some_iff, or_and_right, exists_or,
      and_assoc, exists_and_left, exists_eq_left']
  nextSend := h.nextSend
  nextReceive := by
    show st.nextReceiveStreamId + 1 = _
    rw [h.nextReceive, List.length_append, UInt32.ofNat_add]
    rfl
  index := h.index
  sendRoom := h.sendRoom
  receiveRoom := by
    rw [List.length_append]
    exact hroom

/-- The send streams of a message, whose SSRCs are new. -/
theorem Stores.addSendStream (h : st.Stores sent received)
    (hmain : m.mainSSRC ∉ st.session m.sessionId) (hrtx : m.rtxSSRC ∉ st.session m.sessionId)
    (hroom : (sent ++ m.sendStreams).length ≤ 2 ^ 32) :
    (SwitchAgentState.addSendStream m.sessionId m.participantId m.addr m.mediaType m.mainSSRC m.rtxSSRC
      st).state.Stores (sent ++ m.sendStreams) received := by
  obtain ⟨-, -, hst⟩ := addSendStream_inv (addSendStream_ok_iff.mpr ⟨hmain, hrtx⟩)
  rw [hst]
  have h₀ := h.withSession m.sessionId
  rw [List.length_append] at hroom
  unfold Rpc.AddStream.sendStreams at hroom ⊢
  dsimp only at hroom ⊢
  split
  · rename_i h0
    rw [if_pos h0] at hroom
    have h₁ := h₀.pushSendStream (s := mainStream m.sessionId m.participantId m.addr m.mediaType m.mainSSRC)
      (Nat.lt_of_succ_lt hroom)
    have h₂ := h₁.pushSendStream
      (s := { mainStream m.sessionId m.participantId m.addr m.mediaType m.rtxSSRC with rtx := true })
      (by rw [List.length_append]; exact hroom)
    rw [List.append_assoc] at h₂
    exact h₂
  · rename_i h0
    rw [if_neg h0] at hroom
    exact h₀.pushSendStream hroom

/-- The receive streams of a message, whose SSRCs are there. -/
theorem Stores.addReceiveStream {fromParticipantId : Nat} (h : st.Stores sent received)
    (hmain : st.Sends m.sessionId m.mainSSRC)
    (hrtx : m.rtxSSRC ≠ 0 → st.Sends m.sessionId m.rtxSSRC)
    (hroom : (received ++ m.receptions).length ≤ 2 ^ 32) :
    (SwitchAgentState.addReceiveStream o m.sessionId fromParticipantId m.participantId m.addr m.mainSSRC
      m.rtxSSRC st).state.Stores sent (received ++ m.receptions) := by
  obtain ⟨sid, s, hs, hst⟩ := addReceiveStream_inv (addReceiveStream_sends.2.mpr ⟨hmain, hrtx⟩)
  obtain ⟨hsender, -, -⟩ := sender_of_getSendStream hs
  rw [List.length_append] at hroom
  unfold Rpc.AddStream.receptions at hroom ⊢
  dsimp only at hroom hst ⊢
  rcases hst with ⟨h0, hst⟩ | ⟨h0, sid', s', hs', hst⟩
  · rw [if_neg (not_not.mpr h0)] at hroom ⊢
    rw [hst]
    exact h.pushReceiveStream hsender hroom
  · rw [if_pos h0] at hroom ⊢
    have h₁ := h.pushReceiveStream (r := receiveStreamOf m m.mainSSRC false sid s) hsender
      (Nat.lt_of_succ_lt hroom)
    obtain ⟨hsender', -, -⟩ := sender_of_getSendStream hs'
    have h₂ := h₁.pushReceiveStream (r := receiveStreamOf m m.rtxSSRC true sid' s') hsender'
      (by rw [List.length_append]; exact hroom)
    rw [List.append_assoc] at h₂
    rw [hst]
    exact h₂

end Stores

end SwitchAgentState

/-! ## Sequences of messages -/

namespace Rpc

/-- The agent registers the message `m` after those of `log`: a sender has new SSRCs, a receiver has
those of a sender, and there are ids left. -/
def Fits (log : List AddStream) (m : AddStream) : Prop :=
  match m.direction with
  | .sendonly => m.mainSSRC ∉ taken m.sessionId log ∧ m.rtxSSRC ∉ taken m.sessionId log ∧
      (sent log).length + (streamSSRCs m.ssrcs).length ≤ 2 ^ 32
  | .recvonly => m.mainSSRC ∈ taken m.sessionId log ∧
      (m.rtxSSRC ≠ 0 → m.rtxSSRC ∈ taken m.sessionId log) ∧
      (received log).length + (streamSSRCs m.ssrcs).length ≤ 2 ^ 32
  | _ => False

/-- Every message fits after the ones before it. -/
inductive Acceptable : List AddStream → Prop where
  | nil : Acceptable []
  | concat {log : List AddStream} {m : AddStream} (h : Acceptable log) (hfits : Fits log m) :
      Acceptable (log ++ [m])

/-- The SSRCs of streams are new, stream by stream. -/
def Fresh (taken : List SSRC) : List (SSRC × SSRC) → Prop
  | [] => True
  | ssrcs :: rest =>
      ssrcs.1 ∉ taken ∧ ssrcs.2 ∉ taken ∧ Fresh (taken ++ streamSSRCs ssrcs) rest

instance Fresh.decidable : (taken : List SSRC) → (streams : List (SSRC × SSRC)) →
    Decidable (Fresh taken streams)
  | _, [] => isTrue trivial
  | taken, ssrcs :: rest =>
      have := Fresh.decidable (taken ++ streamSSRCs ssrcs) rest
      inferInstanceAs (Decidable (_ ∧ _ ∧ Fresh (taken ++ streamSSRCs ssrcs) rest))

section Append
variable {log ms : List AddStream} {sessionId : Nat}

theorem Acceptable.senders (h : Acceptable log)
    (hms : ∀ m ∈ ms, m.direction = .sendonly ∧ m.sessionId = sessionId)
    (hfresh : Fresh (taken sessionId log) (ms.map AddStream.ssrcs))
    (hroom : (sent log).length + ((ms.map AddStream.ssrcs).flatMap streamSSRCs).length ≤ 2 ^ 32) :
    Acceptable (log ++ ms) := by
  induction ms generalizing log with
  | nil => rwa [List.append_nil]
  | cons m ms ih =>
      obtain ⟨hdir, rfl⟩ := hms m List.mem_cons_self
      obtain ⟨hmain, hrtx, hrest⟩ := hfresh
      rw [List.map_cons, List.flatMap_cons, List.length_append, ← Nat.add_assoc] at hroom
      have hfits : Fits log m := by
        unfold Fits
        rw [hdir]
        exact ⟨hmain, hrtx, (Nat.le_add_right _ _).trans hroom⟩
      rw [List.append_cons]
      refine ih (h.concat hfits) (fun m' hm' => hms m' (List.mem_cons_of_mem _ hm')) ?_ ?_
      · rw [taken_concat_of_sendonly hdir]
        exact hrest
      · rw [sent_concat, if_pos hdir, List.length_append, m.length_sendStreams]
        exact hroom

theorem Acceptable.receivers (h : Acceptable log)
    (hms : ∀ m ∈ ms, m.direction = .recvonly ∧
      ∀ ssrc ∈ streamSSRCs m.ssrcs, ssrc ∈ taken m.sessionId log)
    (hroom : (received log).length + ((ms.map AddStream.ssrcs).flatMap streamSSRCs).length ≤ 2 ^ 32) :
    Acceptable (log ++ ms) := by
  induction ms generalizing log with
  | nil => rwa [List.append_nil]
  | cons m ms ih =>
      obtain ⟨hdir, htaken⟩ := hms m List.mem_cons_self
      rw [List.map_cons, List.flatMap_cons, List.length_append, ← Nat.add_assoc] at hroom
      have hfits : Fits log m := by
        unfold Fits
        rw [hdir]
        refine ⟨htaken _ ?_, fun h0 => htaken _ ?_, (Nat.le_add_right _ _).trans hroom⟩
        · exact mem_streamSSRCs.mpr (.inl rfl)
        · exact mem_streamSSRCs.mpr (.inr ⟨h0, rfl⟩)
      rw [List.append_cons]
      refine ih (h.concat hfits) (fun m' hm' => ?_) ?_
      · obtain ⟨hdir', htaken'⟩ := hms m' (List.mem_cons_of_mem _ hm')
        exact ⟨hdir', fun ssrc hssrc => mem_taken_append (htaken' ssrc hssrc)⟩
      · rw [received_concat, if_pos hdir, List.length_append, m.length_receptions]
        exact hroom

end Append

end Rpc

namespace Switch

/-- The agent takes up a stream, and then the data plane does. -/
theorem register_returns {sw : Switch} {prog : AgentStateEff Unit} (f : DataPlaneModel → DataPlaneModel)
    (h : (prog sw.agent).result = .ok ()) :
    ((do onAgent prog; onDataPlane f) sw : Outcome Switch SwitchEffect Fault Unit).result = .ok () := by
  rcases hrun : onAgent prog sw with ⟨sw', es, r⟩
  have hres : (onAgent prog sw).result = .ok () := h
  rw [hrun] at hres
  obtain rfl : r = .ok () := hres
  rw [Eff.bind_of_ok hrun]
  rfl

section OnAddStream
variable {o : WalkOrder} {sw : Switch} {m : Rpc.AddStream} {log : List Rpc.AddStream}

theorem onAddStream_stores (h : sw.agent.Stores (Rpc.sent log) (Rpc.received log))
    (hfits : Rpc.Fits log m) : (onAddStream o m sw).result = .ok () ∧
      (m.direction = .recvonly → (sw.agent.getSendStream o m.sessionId m.mainSSRC).isSome) ∧
      (onAddStream o m sw).state.agent.Stores (Rpc.sent (log ++ [m])) (Rpc.received (log ++ [m])) := by
  have htaken : ∀ ssrc, ssrc ∈ Rpc.taken m.sessionId log ↔ sw.agent.Sends m.sessionId ssrc :=
    fun ssrc => Rpc.mem_taken.trans h.sends_iff.symm
  have hindex : ∀ ssrc, ssrc ∈ Rpc.taken m.sessionId log ↔ ssrc ∈ sw.agent.session m.sessionId :=
    fun ssrc => Rpc.mem_taken.trans (h.index _ _).symm
  unfold Rpc.Fits at hfits
  rw [Rpc.sent_concat, Rpc.received_concat]
  cases hdir : m.direction with
  | sendonly =>
      rw [hdir, hindex, hindex, ← m.length_sendStreams, ← List.length_append] at hfits
      obtain ⟨hmain, hrtx, hroom⟩ := hfits
      have hok := (@SwitchAgentState.addSendStream_ok_iff sw.agent m.sessionId m.participantId m.addr
        m.mediaType m.mainSSRC m.rtxSSRC).mpr ⟨hmain, hrtx⟩
      rw [onAddStream_of_sendonly o hdir, register_ok _ hok, register_returns _ hok]
      refine ⟨rfl, fun hrecv => (nomatch hrecv), ?_⟩
      rw [if_pos rfl, if_neg (by decide), List.append_nil]
      exact h.addSendStream hmain hrtx hroom
  | recvonly =>
      rw [hdir, htaken, htaken, ← m.length_receptions, ← List.length_append] at hfits
      obtain ⟨hmain, hrtx, hroom⟩ := hfits
      have hfound := (SwitchAgentState.getSendStream_isSome_iff (o := o)).mpr hmain
      obtain ⟨⟨sid, s⟩, hs⟩ := Option.isSome_iff_exists.mp hfound
      have hok := (@SwitchAgentState.addReceiveStream_sends o sw.agent m.sessionId s.sendingParticipant
        m.participantId m.addr m.mainSSRC m.rtxSSRC).2.mpr ⟨hmain, hrtx⟩
      rw [onAddStream_of_recvonly o hdir, hs]
      dsimp only
      rw [register_ok _ hok, register_returns _ hok]
      refine ⟨rfl, fun _ => rfl, ?_⟩
      rw [if_neg (by decide), if_pos rfl, List.append_nil]
      exact h.addReceiveStream hmain hrtx hroom
  | sendrecv =>
      rw [hdir] at hfits
      exact hfits.elim
  | inactive =>
      rw [hdir] at hfits
      exact hfits.elim

end OnAddStream

end Switch

namespace SwitchProcess

/-- A message is registered: the agent does not throw, and finds the sender that a receiver is for. -/
structure TakesUp (p : SwitchProcess) (x : WalkOrder × Rpc.AddStream) : Prop where
  returns : (addStreamStep p x).1.running = true
  senderFound : x.2.direction = .recvonly →
    (p.switch.agent.getSendStream x.1 x.2.sessionId x.2.mainSSRC).isSome

/-- The process is running, and its agent has the streams of the messages. -/
structure HasStreams (p : SwitchProcess) (log : List Rpc.AddStream) : Prop where
  running : p.running = true
  stores : p.switch.agent.Stores (Rpc.sent log) (Rpc.received log)

theorem addStreamStep_hasStreams {p : SwitchProcess} {x : WalkOrder × Rpc.AddStream}
    {log : List Rpc.AddStream} (h : p.HasStreams log) (hfits : Rpc.Fits log x.2) :
    TakesUp p x ∧ (addStreamStep p x).1.HasStreams (log ++ [x.2]) := by
  obtain ⟨hok, hfound, hstores⟩ := @Switch.onAddStream_stores x.1 _ x.2 _ h.stores hfits
  have hstep : (addStreamStep p x).1 = {
      switch := (Switch.onAddStream x.1 x.2 p.switch).state
      running := (Switch.onAddStream x.1 x.2 p.switch).result.isOk } := by
    unfold addStreamStep step
    rw [if_pos h.running]
    rfl
  have hrun : (addStreamStep p x).1.running = true := by
    rw [hstep, hok]
    rfl
  exact ⟨⟨hrun, hfound⟩, hrun, hstep ▸ hstores⟩

/-- **Registered streams.** An agent takes up every message of an acceptable sequence, whatever the orders in
which it walks its streams, and has their streams then. -/
theorem takesUp_of_acceptable (av1RtpExt : Nat) {log : List Rpc.AddStream} (h : Rpc.Acceptable log)
    {xs : List (WalkOrder × Rpc.AddStream)} (hxs : xs.map Prod.snd = log) :
    Along TakesUp addStreamStep (init av1RtpExt) xs ∧
      (final addStreamStep (init av1RtpExt) xs).HasStreams log := by
  induction h generalizing xs with
  | nil =>
      obtain rfl := List.map_eq_nil_iff.mp hxs
      exact ⟨trivial, rfl, SwitchAgentState.stores_init⟩
  | concat h hfits ih =>
      obtain ⟨ys, zs, rfl, hys, hzs⟩ := List.map_eq_append_iff.mp hxs
      obtain ⟨x, rfl, rfl⟩ := List.map_eq_singleton_iff.mp hzs
      obtain ⟨halong, hstreams⟩ := ih hys
      obtain ⟨htakes, hstreams'⟩ := addStreamStep_hasStreams hstreams hfits
      rw [along_append, final_append]
      exact ⟨⟨halong, htakes, trivial⟩, hstreams'⟩

end SwitchProcess

end Scallop
