import Scallop.SwitchAgent.State

/-!
# Streams of the switch agent

* `SwitchAgentState.Ok` : every receive stream has its send stream, the listener of an adjustable
  stream has no other one, and no two adjustable streams go from one sender to one receiver;
* `SameStreams` : states that differ only in decode targets and in estimates; `Ok.congr`;
* `Ok.pushSendStream`, `Ok.pushReceiveStream` : new streams;
* `addSendStream_ok`, `addReceiveStream_ok` : what the programs did when they returned.
-/

namespace Scallop

open Av1

namespace ReceiveStream

/-- The stream without its decode target and its estimates. -/
def base (r : ReceiveStream) : ReceiveStream :=
  { r with decodeTarget := .hi, bandwidthEstimates := [] }

/-- Streams for one participant from one send stream. -/
def SameListener (r r' : ReceiveStream) : Prop :=
  r.sessionId = r'.sessionId ∧ r.ssrc = r'.ssrc ∧ r.receivingParticipant = r'.receivingParticipant

instance (r r' : ReceiveStream) : Decidable (r.SameListener r') :=
  inferInstanceAs (Decidable (_ ∧ _ ∧ _))

theorem SameListener.symm {r r' : ReceiveStream} (h : r.SameListener r') : r'.SameListener r :=
  ⟨h.1.symm, h.2.1.symm, h.2.2.symm⟩

section Base
variable {r r' q q' : ReceiveStream} (h : r.base = r'.base)
include h

theorem adjustable_of_base (hr : r.Adjustable) : r'.Adjustable :=
  ⟨(congrArg (·.type) h).symm.trans hr.1, (congrArg (·.rtx) h).symm.trans hr.2⟩

theorem addr_of_base : r.addr = r'.addr := congrArg (·.addr) h

theorem ssrc_of_base : r.ssrc = r'.ssrc := congrArg (·.ssrc) h

theorem sendStreamId_of_base : r.sendStreamId = r'.sendStreamId := congrArg (·.sendStreamId) h

theorem sameListener_of_base (h' : q.base = q'.base) (hs : r.SameListener q) :
    r'.SameListener q' := by
  obtain ⟨h1, h2, h3⟩ := hs
  exact ⟨(congrArg (·.sessionId) h).symm.trans (h1.trans (congrArg (·.sessionId) h')),
    (congrArg (·.ssrc) h).symm.trans (h2.trans (congrArg (·.ssrc) h')),
    (congrArg (·.receivingParticipant) h).symm.trans
      (h3.trans (congrArg (·.receivingParticipant) h'))⟩

end Base

end ReceiveStream

namespace SwitchAgentState

def sender (st : SwitchAgentState) (id : UInt32) : Option AgentStream :=
  (st.sendStreams.lookup id).map SendStream.toAgentStream

def receiver (st : SwitchAgentState) (id : UInt32) : Option ReceiveStream :=
  st.receiveStreams.lookup id

/-- An adjustable receive stream, with its send stream. -/
structure Flow (st : SwitchAgentState) (id : UInt32) (r : ReceiveStream) (s : AgentStream) :
    Prop where
  receiver : st.receiver id = some r
  sender : st.sender r.sendStreamId = some s
  adjustable : r.Adjustable

structure Ok (st : SwitchAgentState) : Prop where
  sender : ∀ id r, st.receiver id = some r → ∃ s, st.sender r.sendStreamId = some s ∧
    s.sessionId = r.sessionId ∧ s.ssrc = r.ssrc ∧ s.type = r.type
  sameSender : ∀ id s id' s', st.sender id = some s → st.sender id' = some s' →
    s.sessionId = s'.sessionId → s.ssrc = s'.ssrc → s.addr = s'.addr ∧ s.type = s'.type
  indexed : ∀ id s, st.sender id = some s → s.ssrc ∈ st.session s.sessionId
  freshSend : ∀ id s, st.sender id = some s → id.toNat < st.nextSendStreamId.toNat
  freshReceive : ∀ id r, st.receiver id = some r → id.toNat < st.nextReceiveStreamId.toNat
  unique : ∀ id r id' r', st.receiver id = some r → st.receiver id' = some r' → r.Adjustable →
    r.SameListener r' → id' = id
  separate : ∀ id r s id' r' s', st.Flow id r s → st.Flow id' r' s' → s.addr = s'.addr →
    s.ssrc = s'.ssrc → r.addr = r'.addr → id' = id

theorem ok_init : ({} : SwitchAgentState).Ok where
  sender _ _ h := nomatch h
  sameSender _ _ _ _ h := nomatch h
  indexed _ _ h := nomatch h
  freshSend _ _ h := nomatch h
  freshReceive _ _ h := nomatch h
  unique _ _ _ _ h := nomatch h
  separate _ _ _ _ _ _ h := nomatch h.receiver

/-! ## Lookups -/

section Lookup
variable {o : WalkOrder} {st : SwitchAgentState} {sessionId participantId : Nat} {ssrc : SSRC}
variable {id : UInt32} {s : SendStream} {r : ReceiveStream} {addr : IPv4Port}

theorem sender_of_getSendStream (h : st.getSendStream o sessionId ssrc = some (id, s)) :
    st.sender id = some s.toAgentStream ∧ s.sessionId = sessionId ∧ s.ssrc = ssrc := by
  obtain ⟨hl, hp⟩ := UnorderedMap.findIf_some h
  rw [decide_eq_true_eq] at hp
  exact ⟨by rw [sender, hl]; rfl, hp⟩

theorem getSendStream_of_sender {a : AgentStream} (h : st.sender id = some a) (o : WalkOrder) :
    ∃ id' s', st.getSendStream o a.sessionId a.ssrc = some (id', s') := by
  obtain ⟨s, hs, rfl⟩ := Option.map_eq_some_iff.mp h
  exact UnorderedMap.findIf_isSome hs (by rw [decide_eq_true_eq]; exact ⟨rfl, rfl⟩)

theorem receiver_of_getReceiveStream
    (h : st.getReceiveStream o sessionId ssrc participantId = some (id, r)) :
    st.receiver id = some r ∧ r.sessionId = sessionId ∧ r.ssrc = ssrc ∧
      r.receivingParticipant = participantId := by
  obtain ⟨hl, hp⟩ := UnorderedMap.findIf_some h
  rw [decide_eq_true_eq] at hp
  exact ⟨hl, hp⟩

theorem receiver_of_getReceiveStreamFrom (h : st.getReceiveStreamFrom o addr ssrc = some (id, r)) :
    st.receiver id = some r ∧ r.addr = addr ∧ r.ssrc = ssrc := by
  obtain ⟨hl, hp⟩ := UnorderedMap.findIf_some h
  rw [decide_eq_true_eq] at hp
  exact ⟨hl, hp⟩

/-- The listener of an adjustable stream has only this one. -/
theorem Ok.getReceiveStream (hok : st.Ok) (h : st.receiver id = some r) (hr : r.Adjustable)
    (o : WalkOrder) :
    st.getReceiveStream o r.sessionId r.ssrc r.receivingParticipant = some (id, r) := by
  refine UnorderedMap.findIf_unique h (by rw [decide_eq_true_eq]; exact ⟨rfl, rfl, rfl⟩) ?_
  intro id' r' h' hp
  rw [decide_eq_true_eq] at hp
  exact hok.unique id r id' r' h h' hr ⟨hp.1.symm, hp.2.1.symm, hp.2.2.symm⟩

end Lookup

/-! ## Changed decode targets -/

/-- States that differ only in the decode targets and the estimates of receive streams. -/
structure SameStreams (st st' : SwitchAgentState) : Prop where
  receiver : ∀ id, (st'.receiver id).map ReceiveStream.base = (st.receiver id).map ReceiveStream.base
  sendStreams : st'.sendStreams = st.sendStreams
  sessions : st'.sessions = st.sessions
  nextSend : st'.nextSendStreamId = st.nextSendStreamId
  nextReceive : st'.nextReceiveStreamId = st.nextReceiveStreamId

section SameStreams
variable {st st' st'' : SwitchAgentState} {id : UInt32} {r r' : ReceiveStream} {s : AgentStream}

theorem SameStreams.refl (st : SwitchAgentState) : SameStreams st st :=
  ⟨fun _ => rfl, rfl, rfl, rfl, rfl⟩

theorem SameStreams.symm (h : SameStreams st st') : SameStreams st' st :=
  ⟨fun id => (h.receiver id).symm, h.sendStreams.symm, h.sessions.symm, h.nextSend.symm,
    h.nextReceive.symm⟩

theorem SameStreams.trans (h : SameStreams st st') (h' : SameStreams st' st'') :
    SameStreams st st'' :=
  ⟨fun id => (h'.receiver id).trans (h.receiver id), h'.sendStreams.trans h.sendStreams,
    h'.sessions.trans h.sessions, h'.nextSend.trans h.nextSend, h'.nextReceive.trans h.nextReceive⟩

theorem SameStreams.before (h : SameStreams st st') (hr : st'.receiver id = some r') :
    ∃ r, st.receiver id = some r ∧ r'.base = r.base := by
  have hb := h.receiver id
  rw [hr, Option.map_some] at hb
  obtain ⟨r, hr, he⟩ := Option.map_eq_some_iff.mp hb.symm
  exact ⟨r, hr, he.symm⟩

theorem SameStreams.sender (h : SameStreams st st') (id : UInt32) : st'.sender id = st.sender id := by
  rw [SwitchAgentState.sender, h.sendStreams, SwitchAgentState.sender]

theorem SameStreams.flow (h : SameStreams st st') (hf : st'.Flow id r' s) :
    ∃ r, st.Flow id r s ∧ r'.base = r.base := by
  obtain ⟨r, hr, hb⟩ := h.before hf.receiver
  refine ⟨r, ⟨hr, ?_, ReceiveStream.adjustable_of_base hb hf.adjustable⟩, hb⟩
  rw [← ReceiveStream.sendStreamId_of_base hb, ← h.sender]
  exact hf.sender

theorem Ok.congr (hok : st.Ok) (h : SameStreams st st') : st'.Ok where
  sender id r' hr' := by
    obtain ⟨r, hr, hb⟩ := h.before hr'
    obtain ⟨s, hs, h1, h2, h3⟩ := hok.sender id r hr
    refine ⟨s, ?_, h1.trans (congrArg (·.sessionId) hb).symm,
      h2.trans (congrArg (·.ssrc) hb).symm, h3.trans (congrArg (·.type) hb).symm⟩
    rw [h.sender, ReceiveStream.sendStreamId_of_base hb]
    exact hs
  sameSender id s id' s' hs hs' := by
    rw [h.sender] at hs hs'
    exact hok.sameSender id s id' s' hs hs'
  indexed id s hs := by
    rw [h.sender] at hs
    rw [session, h.sessions]
    exact hok.indexed id s hs
  freshSend id s hs := by
    rw [h.sender] at hs
    rw [h.nextSend]
    exact hok.freshSend id s hs
  freshReceive id r' hr' := by
    obtain ⟨r, hr, -⟩ := h.before hr'
    rw [h.nextReceive]
    exact hok.freshReceive id r hr
  unique id q id' q' hq hq' hadj hsame := by
    obtain ⟨r, hr, hb⟩ := h.before hq
    obtain ⟨r', hr', hb'⟩ := h.before hq'
    exact hok.unique id r id' r' hr hr' (ReceiveStream.adjustable_of_base hb hadj)
      (ReceiveStream.sameListener_of_base hb hb' hsame)
  separate id q s id' q' s' hf hf' haddr hssrc hto := by
    obtain ⟨r, hr, hb⟩ := h.flow hf
    obtain ⟨r', hr', hb'⟩ := h.flow hf'
    refine hok.separate id r s id' r' s' hr hr' haddr hssrc ?_
    rw [← ReceiveStream.addr_of_base hb, ← ReceiveStream.addr_of_base hb']
    exact hto

theorem receiver_setReceiveStream_iff {id' : UInt32} {r'' : ReceiveStream} :
    (st.setReceiveStream id r').receiver id' = some r'' ↔
      (id' = id ∧ r' = r'') ∨ (id' ≠ id ∧ st.receiver id' = some r'') :=
  UnorderedMap.lookup_insert_iff

theorem sameStreams_setReceiveStream (hr : st.receiver id = some r) (hb : r'.base = r.base) :
    SameStreams st (st.setReceiveStream id r') := by
  refine ⟨fun id' => ?_, rfl, rfl, rfl, rfl⟩
  by_cases hid : id' = id
  · subst hid
    have hset : (st.setReceiveStream id' r').receiver id' = some r' := AList.lookup_insert _
    rw [hset, hr, Option.map_some, Option.map_some, hb]
  · have hset : (st.setReceiveStream id r').receiver id' = st.receiver id' :=
      AList.lookup_insert_ne hid
    rw [hset]

theorem setReceiveStream_setReceiveStream (st : SwitchAgentState) (id : UInt32)
    (r r' : ReceiveStream) :
    (st.setReceiveStream id r).setReceiveStream id r' = st.setReceiveStream id r' := by
  unfold setReceiveStream
  rw [AList.insert_insert]

end SameStreams

/-! ## New send streams -/

section PushSend
variable {st : SwitchAgentState} {s : SendStream} {id : UInt32} {a : AgentStream}

theorem sender_pushSendStream_iff : (pushSendStream s st).sender id = some a ↔
    (id = st.nextSendStreamId ∧ s.toAgentStream = a) ∨
      (id ≠ st.nextSendStreamId ∧ st.sender id = some a) := by
  unfold sender pushSendStream
  by_cases hid : id = st.nextSendStreamId
  · rw [hid]
    dsimp only
    rw [AList.lookup_insert, Option.map_some, Option.some.injEq]
    exact ⟨fun h => .inl ⟨rfl, h⟩, fun h => h.elim And.right fun h => absurd rfl h.1⟩
  · dsimp only
    rw [AList.lookup_insert_ne hid]
    exact ⟨fun h => .inr ⟨hid, h⟩, fun h => h.elim (fun h => absurd h.1 hid) And.right⟩

theorem Ok.sender_pushSendStream (hok : st.Ok) (h : st.sender id = some a) :
    (pushSendStream s st).sender id = some a := by
  refine sender_pushSendStream_iff.mpr (.inr ⟨fun hid => ?_, h⟩)
  have hlt := hok.freshSend id a h
  rw [hid] at hlt
  exact Nat.lt_irrefl _ hlt

theorem mem_session_pushSendStream {sessionId : Nat} {ssrc : SSRC} :
    ssrc ∈ (pushSendStream s st).session sessionId ↔
      ssrc ∈ st.session sessionId ∨ (sessionId = s.sessionId ∧ ssrc = s.ssrc) := by
  unfold pushSendStream
  by_cases hmem : s.ssrc ∈ st.session s.sessionId
  · have hses : ∀ x, ({ st with
        nextSendStreamId := st.nextSendStreamId + 1
        sendStreams := st.sendStreams.insert st.nextSendStreamId s
        sessions := st.sessions } : SwitchAgentState).session x = st.session x := fun _ => rfl
    simp only [if_pos hmem]
    rw [hses]
    refine ⟨.inl, fun h => h.elim id ?_⟩
    rintro ⟨rfl, rfl⟩
    exact hmem
  · simp only [if_neg hmem]
    by_cases hs : sessionId = s.sessionId
    · subst hs
      have hses : ∀ m : UnorderedMap SSRC UInt32, ({ st with
          nextSendStreamId := st.nextSendStreamId + 1
          sendStreams := st.sendStreams.insert st.nextSendStreamId s
          sessions := st.sessions.insert s.sessionId m } : SwitchAgentState).session s.sessionId
            = m := by
        intro m
        unfold session
        rw [AList.lookup_insert, Option.getD_some]
      rw [hses, AList.mem_insert]
      exact ⟨fun h => h.elim (fun h => .inr ⟨rfl, h⟩) .inl, fun h => h.elim .inr fun h => .inl h.2⟩
    · have hses : ∀ m : UnorderedMap SSRC UInt32, ({ st with
          nextSendStreamId := st.nextSendStreamId + 1
          sendStreams := st.sendStreams.insert st.nextSendStreamId s
          sessions := st.sessions.insert s.sessionId m } : SwitchAgentState).session sessionId
            = st.session sessionId := by
        intro m
        unfold session
        rw [AList.lookup_insert_ne hs]
      rw [hses]
      exact ⟨.inl, fun h => h.elim id fun h => absurd h.1 hs⟩

/-- A new send stream; if the session has its SSRC, then with the same address and type. -/
theorem Ok.pushSendStream (hok : st.Ok) (hnext : st.nextSendStreamId.toNat + 1 < 2 ^ 32)
    (hnew : ∀ id a, st.sender id = some a → a.sessionId = s.sessionId → a.ssrc = s.ssrc →
      a.addr = s.addr ∧ a.type = s.type) :
    (SwitchAgentState.pushSendStream s st).Ok where
  sender id r hr := by
    obtain ⟨a, ha, h⟩ := hok.sender id r hr
    exact ⟨a, hok.sender_pushSendStream ha, h⟩
  sameSender id a id' a' ha ha' hsession hssrc := by
    rcases sender_pushSendStream_iff.mp ha with ⟨-, rfl⟩ | ⟨-, ha⟩
    · rcases sender_pushSendStream_iff.mp ha' with ⟨-, rfl⟩ | ⟨-, ha'⟩
      · exact ⟨rfl, rfl⟩
      · obtain ⟨h1, h2⟩ := hnew id' a' ha' hsession.symm hssrc.symm
        exact ⟨h1.symm, h2.symm⟩
    · rcases sender_pushSendStream_iff.mp ha' with ⟨-, rfl⟩ | ⟨-, ha'⟩
      · exact hnew id a ha hsession hssrc
      · exact hok.sameSender id a id' a' ha ha' hsession hssrc
  indexed id a ha := by
    rw [mem_session_pushSendStream]
    rcases sender_pushSendStream_iff.mp ha with ⟨-, rfl⟩ | ⟨-, ha⟩
    · exact .inr ⟨rfl, rfl⟩
    · exact .inl (hok.indexed id a ha)
  freshSend id a ha := by
    have hadd : (st.nextSendStreamId + 1).toNat = st.nextSendStreamId.toNat + 1 := by
      rw [UInt32.toNat_add]
      exact Nat.mod_eq_of_lt hnext
    change id.toNat < (st.nextSendStreamId + 1).toNat
    rw [hadd]
    rcases sender_pushSendStream_iff.mp ha with ⟨rfl, -⟩ | ⟨-, ha⟩
    · exact Nat.lt_succ_self _
    · exact Nat.lt_succ_of_lt (hok.freshSend id a ha)
  freshReceive id r hr := hok.freshReceive id r hr
  unique id r id' r' hr hr' := hok.unique id r id' r' hr hr'
  separate id r a id' r' a' hf hf' := by
    have hold : ∀ {id r a}, (SwitchAgentState.pushSendStream s st).Flow id r a → st.Flow id r a := by
      intro id r a hf
      obtain ⟨b, hb, -⟩ := hok.sender id r hf.receiver
      have he := (hok.sender_pushSendStream hb).symm.trans hf.sender
      exact ⟨hf.receiver, hb.trans he, hf.adjustable⟩
    exact hok.separate id r a id' r' a' (hold hf) (hold hf')

end PushSend

/-! ## New receive streams -/

section PushReceive
variable {st : SwitchAgentState} {sid : UInt32} {s : SendStream} {r : ReceiveStream}

theorem sender_pushReceiveStream (hs : st.sender sid = some s.toAgentStream) (id : UInt32) :
    (pushReceiveStream (sid, s) r st).sender id = st.sender id := by
  unfold pushReceiveStream
  by_cases hid : id = sid
  · rw [hid, hs]
    unfold sender
    dsimp only
    rw [AList.lookup_insert, Option.map_some]
  · unfold sender
    dsimp only
    rw [AList.lookup_insert_ne hid]

theorem receiver_pushReceiveStream_iff {id : UInt32} {r' : ReceiveStream} :
    (pushReceiveStream (sid, s) r st).receiver id = some r' ↔
      (id = st.nextReceiveStreamId ∧ r = r') ∨
        (id ≠ st.nextReceiveStreamId ∧ st.receiver id = some r') :=
  UnorderedMap.lookup_insert_iff

theorem Ok.receiver_pushReceiveStream (hok : st.Ok) {id : UInt32} {r' : ReceiveStream}
    (h : st.receiver id = some r') :
    (SwitchAgentState.pushReceiveStream (sid, s) r st).receiver id = some r' := by
  refine receiver_pushReceiveStream_iff.mpr (.inr ⟨fun hid => ?_, h⟩)
  have hlt := hok.freshReceive id r' h
  rw [hid] at hlt
  exact Nat.lt_irrefl _ hlt

/-- A receive stream that comes for the stream of a sender. -/
structure Fits (st : SwitchAgentState) (sid : UInt32) (s : SendStream) (r : ReceiveStream) :
    Prop where
  sender : st.sender sid = some s.toAgentStream
  id : r.sendStreamId = sid
  session : s.sessionId = r.sessionId
  ssrc : s.ssrc = r.ssrc
  type : s.type = r.type
  /-- It is no second stream for a listener of an adjustable one. -/
  listener : ∀ id r', st.receiver id = some r' → r.Adjustable ∨ r'.Adjustable → ¬ r.SameListener r'
  /-- It does not share the way of an adjustable one. -/
  way : ∀ id r' a, st.Flow id r' a → r.Adjustable → s.addr = a.addr → s.ssrc = a.ssrc →
    r.addr ≠ r'.addr

theorem Ok.pushReceiveStream (hok : st.Ok) (hnext : st.nextReceiveStreamId.toNat + 1 < 2 ^ 32)
    (hfit : st.Fits sid s r) : (SwitchAgentState.pushReceiveStream (sid, s) r st).Ok where
  sender id r' hr' := by
    rw [sender_pushReceiveStream hfit.sender]
    rcases receiver_pushReceiveStream_iff.mp hr' with ⟨-, rfl⟩ | ⟨-, hr'⟩
    · rw [hfit.id]
      exact ⟨_, hfit.sender, hfit.session, hfit.ssrc, hfit.type⟩
    · exact hok.sender id r' hr'
  sameSender id a id' a' ha ha' := by
    rw [sender_pushReceiveStream hfit.sender] at ha ha'
    exact hok.sameSender id a id' a' ha ha'
  indexed id a ha := by
    rw [sender_pushReceiveStream hfit.sender] at ha
    exact hok.indexed id a ha
  freshSend id a ha := by
    rw [sender_pushReceiveStream hfit.sender] at ha
    exact hok.freshSend id a ha
  freshReceive id r' hr' := by
    have hadd : (st.nextReceiveStreamId + 1).toNat = st.nextReceiveStreamId.toNat + 1 := by
      rw [UInt32.toNat_add]
      exact Nat.mod_eq_of_lt hnext
    change id.toNat < (st.nextReceiveStreamId + 1).toNat
    rw [hadd]
    rcases receiver_pushReceiveStream_iff.mp hr' with ⟨rfl, -⟩ | ⟨-, hr'⟩
    · exact Nat.lt_succ_self _
    · exact Nat.lt_succ_of_lt (hok.freshReceive id r' hr')
  unique id q id' q' hq hq' hadj hsame := by
    rcases receiver_pushReceiveStream_iff.mp hq with ⟨rfl, rfl⟩ | ⟨-, hq⟩
    · rcases receiver_pushReceiveStream_iff.mp hq' with ⟨rfl, -⟩ | ⟨-, hq'⟩
      · rfl
      · exact absurd hsame (hfit.listener id' q' hq' (.inl hadj))
    · rcases receiver_pushReceiveStream_iff.mp hq' with ⟨-, rfl⟩ | ⟨-, hq'⟩
      · exact absurd hsame.symm (hfit.listener id q hq (.inr hadj))
      · exact hok.unique id q id' q' hq hq' hadj hsame
  separate id q a id' q' a' hf hf' haddr hssrc hto := by
    have hcases : ∀ {id q a}, (SwitchAgentState.pushReceiveStream (sid, s) r st).Flow id q a →
        (id = st.nextReceiveStreamId ∧ r = q ∧ a = s.toAgentStream) ∨ st.Flow id q a := by
      intro id q a hf
      have hs := hf.sender
      rw [sender_pushReceiveStream hfit.sender] at hs
      rcases receiver_pushReceiveStream_iff.mp hf.receiver with ⟨hid, rfl⟩ | ⟨-, hq⟩
      · rw [hfit.id, hfit.sender, Option.some.injEq] at hs
        exact .inl ⟨hid, rfl, hs.symm⟩
      · exact .inr ⟨hq, hs, hf.adjustable⟩
    rcases hcases hf with ⟨rfl, rfl, rfl⟩ | hold
    · rcases hcases hf' with ⟨rfl, -, -⟩ | hold'
      · rfl
      · exact absurd hto (hfit.way id' q' a' hold' hf.adjustable haddr hssrc)
    · rcases hcases hf' with ⟨rfl, rfl, rfl⟩ | hold'
      · exact absurd hto.symm (hfit.way id q a hold hf'.adjustable haddr.symm hssrc.symm)
      · exact hok.separate id q a id' q' a' hold hold' haddr hssrc hto

end PushReceive

/-! ## The programs -/

structure Extends (st st' : SwitchAgentState) : Prop where
  receiver : ∀ id r, st.receiver id = some r → st'.receiver id = some r
  sender : ∀ id a, st.sender id = some a → st'.sender id = some a

theorem Extends.trans {st st' st'' : SwitchAgentState} (h : Extends st st') (h' : Extends st' st'') :
    Extends st st'' :=
  ⟨fun id r hr => h'.receiver id r (h.receiver id r hr),
    fun id a ha => h'.sender id a (h.sender id a ha)⟩

theorem Extends.flow {st st' : SwitchAgentState} (h : Extends st st') {id : UInt32}
    {r : ReceiveStream} {s : AgentStream} (hf : st.Flow id r s) : st'.Flow id r s :=
  ⟨h.receiver id r hf.receiver, h.sender _ s hf.sender, hf.adjustable⟩

section AddSend
variable {st : SwitchAgentState} {sessionId participantId : Nat} {addr : IPv4Port}
variable {type : MediaType} {mainSSRC rtxSSRC : SSRC}

theorem session_withSession (k : Nat) : (withSession sessionId st).session k = st.session k := by
  unfold withSession
  split
  · rfl
  rename_i hno
  unfold session
  by_cases hk : k = sessionId
  · subst hk
    dsimp only
    rw [AList.lookup_insert, AList.lookup_eq_none.mpr hno]
    rfl
  · dsimp only
    rw [AList.lookup_insert_ne hk]

theorem withSession_eq (sessionId : Nat) (st : SwitchAgentState) :
    withSession sessionId st = { st with sessions := (withSession sessionId st).sessions } := by
  unfold withSession
  split <;> rfl

theorem Ok.withSession (hok : st.Ok) : (SwitchAgentState.withSession sessionId st).Ok := by
  have hses := @session_withSession st sessionId
  rw [withSession_eq] at hses ⊢
  exact ⟨hok.sender, hok.sameSender, fun id s hs => (hses _).symm ▸ hok.indexed id s hs,
    hok.freshSend, hok.freshReceive, hok.unique, fun id r s id' r' s' hf hf' =>
      hok.separate id r s id' r' s' ⟨hf.receiver, hf.sender, hf.adjustable⟩
        ⟨hf'.receiver, hf'.sender, hf'.adjustable⟩⟩

theorem extends_withSession : Extends st (withSession sessionId st) := by
  rw [withSession_eq]
  exact ⟨fun _ _ h => h, fun _ _ h => h⟩

theorem Ok.extends_pushSendStream (hok : st.Ok) (s : SendStream) :
    Extends st (SwitchAgentState.pushSendStream s st) :=
  ⟨fun _ _ h => h, fun _ _ h => hok.sender_pushSendStream h⟩

def mainStream (sessionId participantId : Nat) (addr : IPv4Port) (type : MediaType)
    (mainSSRC : SSRC) : SendStream :=
  { sessionId, sendingParticipant := participantId, addr, ssrc := mainSSRC, type }

/-- What `addSendStream` did when it returned. -/
theorem addSendStream_inv
    (h : (addSendStream sessionId participantId addr type mainSSRC rtxSSRC st).result = .ok ()) :
    mainSSRC ∉ st.session sessionId ∧ rtxSSRC ∉ st.session sessionId ∧
      (addSendStream sessionId participantId addr type mainSSRC rtxSSRC st).state =
        let st₁ := pushSendStream (mainStream sessionId participantId addr type mainSSRC)
          (withSession sessionId st)
        if rtxSSRC ≠ 0 then
          pushSendStream { mainStream sessionId participantId addr type rtxSSRC with rtx := true } st₁
        else st₁ := by
  let st₀ := withSession sessionId st
  let rest : AgentStateEff Unit := do
    Eff.modify (pushSendStream (mainStream sessionId participantId addr type mainSSRC))
    if rtxSSRC ≠ 0 then
      Eff.modify (pushSendStream
        { mainStream sessionId participantId addr type rtxSSRC with rtx := true })
  have hprog : addSendStream sessionId participantId addr type mainSSRC rtxSSRC st = (do
      Eff.require (mainSSRC ∉ st₀.session sessionId) (sendStreamExists mainSSRC)
      Eff.require (rtxSSRC ∉ st₀.session sessionId) (sendStreamExists mainSSRC)
      rest) st₀ := rfl
  rw [hprog] at h ⊢
  obtain ⟨⟨⟩, h₁, h, hs₁⟩ := Eff.bind_ok h
  obtain ⟨hmain, he₁⟩ := Eff.require_ok h₁
  rw [he₁] at h hs₁
  obtain ⟨⟨⟩, h₂, h, hs₂⟩ := Eff.bind_ok h
  obtain ⟨hrtx, he₂⟩ := Eff.require_ok h₂
  rw [he₂] at h hs₂
  rw [session_withSession] at hmain hrtx
  refine ⟨hmain, hrtx, ?_⟩
  rw [hs₁, hs₂]
  by_cases h0 : rtxSSRC ≠ 0
  · simp only [rest, if_pos h0]
    rfl
  · simp only [rest, if_neg h0]
    rfl

theorem addSendStream_ok (hok : st.Ok) (hnext : st.nextSendStreamId.toNat + 2 < 2 ^ 32)
    (h : (addSendStream sessionId participantId addr type mainSSRC rtxSSRC st).result = .ok ()) :
    (addSendStream sessionId participantId addr type mainSSRC rtxSSRC st).state.Ok ∧
      Extends st (addSendStream sessionId participantId addr type mainSSRC rtxSSRC st).state ∧
      (addSendStream sessionId participantId addr type mainSSRC rtxSSRC st).state.receiveStreams
        = st.receiveStreams := by
  obtain ⟨hmain, hrtx, hst⟩ := addSendStream_inv h
  rw [hst]
  have hok₀ : (withSession sessionId st).Ok := hok.withSession
  have hnext₀ : (withSession sessionId st).nextSendStreamId = st.nextSendStreamId := by
    rw [withSession_eq]
  have hrecv₀ : (withSession sessionId st).receiveStreams = st.receiveStreams := by
    rw [withSession_eq]
  have hother : ∀ ssrc, ssrc ∉ st.session sessionId → ∀ id a,
      (withSession sessionId st).sender id = some a → a.sessionId = sessionId → a.ssrc ≠ ssrc := by
    rintro ssrc hno id a ha hs rfl
    have hin := hok₀.indexed id a ha
    rw [hs, session_withSession] at hin
    exact hno hin
  have hok₁ := hok₀.pushSendStream (s := mainStream sessionId participantId addr type mainSSRC)
    (by rw [hnext₀]; omega) fun id a ha hs hssrc => absurd hssrc (hother _ hmain id a ha hs)
  have hext₁ := extends_withSession.trans (hok₀.extends_pushSendStream
    (mainStream sessionId participantId addr type mainSSRC))
  dsimp only
  split
  · refine ⟨hok₁.pushSendStream ?_ fun id a ha hs hssrc => ?_,
      hext₁.trans (hok₁.extends_pushSendStream _), hrecv₀⟩
    · change ((withSession sessionId st).nextSendStreamId + 1).toNat + 1 < 2 ^ 32
      rw [hnext₀, UInt32.toNat_add]
      change (st.nextSendStreamId.toNat + 1) % 2 ^ 32 + 1 < 2 ^ 32
      omega
    · rcases sender_pushSendStream_iff.mp ha with ⟨-, rfl⟩ | ⟨-, ha⟩
      · exact ⟨rfl, rfl⟩
      · exact absurd hssrc (hother _ hrtx id a ha hs)
  · exact ⟨hok₁, hext₁, hrecv₀⟩

end AddSend

section AddReceive
variable {o : WalkOrder} {st : SwitchAgentState} {m : Rpc.AddStream} {fromParticipant : Nat}

/-- The receive stream that comes of a message, for the send stream with an id. -/
def receiveStreamOf (m : Rpc.AddStream) (ssrc : SSRC) (rtx : Bool) (sid : UInt32) (s : SendStream) :
    ReceiveStream :=
  { sessionId := m.sessionId, sendingParticipant := s.sendingParticipant, addr := m.addr, ssrc,
    type := s.type, rtx, sendStreamId := sid, receivingParticipant := m.participantId }

theorem addOneReceiveStream_inv {ssrc : SSRC} {rtx : Bool}
    (h : (addOneReceiveStream o m.sessionId m.participantId m.addr m.mainSSRC ssrc rtx st).result
      = .ok ()) :
    ∃ sid s, st.getSendStream o m.sessionId ssrc = some (sid, s) ∧
      (addOneReceiveStream o m.sessionId m.participantId m.addr m.mainSSRC ssrc rtx st).state
        = pushReceiveStream (sid, s) (receiveStreamOf m ssrc rtx sid s) st := by
  unfold addOneReceiveStream at h ⊢
  rw [Eff.get_bind_run] at h ⊢
  cases hs : st.getSendStream o m.sessionId ssrc with
  | none =>
      rw [hs] at h
      exact nomatch h
  | some e => exact ⟨e.1, e.2, rfl, rfl⟩

/-- What `addReceiveStream` did when it returned. -/
theorem addReceiveStream_inv
    (h : (addReceiveStream o m.sessionId fromParticipant m.participantId m.addr m.mainSSRC m.rtxSSRC
      st).result = .ok ()) :
    ∃ sid s, st.getSendStream o m.sessionId m.mainSSRC = some (sid, s) ∧
      let st₁ := pushReceiveStream (sid, s) (receiveStreamOf m m.mainSSRC false sid s) st
      let st' := (addReceiveStream o m.sessionId fromParticipant m.participantId m.addr m.mainSSRC
        m.rtxSSRC st).state
      (m.rtxSSRC = 0 ∧ st' = st₁) ∨ (m.rtxSSRC ≠ 0 ∧ ∃ sid' s',
        st₁.getSendStream o m.sessionId m.rtxSSRC = some (sid', s') ∧
        st' = pushReceiveStream (sid', s') (receiveStreamOf m m.rtxSSRC true sid' s') st₁) := by
  unfold addReceiveStream at h ⊢
  obtain ⟨⟨⟩, h₁, h, hst⟩ := Eff.bind_ok h
  obtain ⟨sid, s, hs, hst₁⟩ := addOneReceiveStream_inv h₁
  rw [hst₁] at h hst
  refine ⟨sid, s, hs, ?_⟩
  dsimp only
  rw [hst]
  by_cases h0 : m.rtxSSRC ≠ 0
  · rw [if_pos h0] at h ⊢
    obtain ⟨sid', s', hs', hst'⟩ := addOneReceiveStream_inv h
    exact .inr ⟨h0, sid', s', hs', hst'⟩
  · rw [if_neg h0]
    exact .inl ⟨not_not.mp h0, rfl⟩

/-- A message adds receive streams for the send stream `s` that nothing stands against: if it is
video, the participant does not listen to it yet, no other adjustable stream goes from its sender to
the same address, and the retransmission has an SSRC of its own; and the participant does not listen
to the retransmission as to an adjustable stream. -/
structure CanListen (st : SwitchAgentState) (m : Rpc.AddStream) (s : AgentStream) : Prop where
  ids : st.nextReceiveStreamId.toNat + 2 < 2 ^ 32
  rtx : s.type = .video → m.rtxSSRC ≠ m.mainSSRC
  listener : s.type = .video → ∀ e ∈ st.receiveStreams.entries,
    ¬ (e.2.sessionId = m.sessionId ∧ e.2.ssrc = m.mainSSRC ∧
      e.2.receivingParticipant = m.participantId)
  way : s.type = .video → ∀ e ∈ st.receiveStreams.entries, e.2.Adjustable → e.2.addr = m.addr →
    ∀ a ∈ st.sender e.2.sendStreamId, ¬ (a.addr = s.addr ∧ a.ssrc = s.ssrc)
  rtxListener : m.rtxSSRC ≠ 0 → ∀ e ∈ st.receiveStreams.entries, e.2.Adjustable →
    ¬ (e.2.sessionId = m.sessionId ∧ e.2.ssrc = m.rtxSSRC ∧
      e.2.receivingParticipant = m.participantId)

instance (st : SwitchAgentState) (m : Rpc.AddStream) (s : AgentStream) :
    Decidable (st.CanListen m s) :=
  decidable_of_iff (_ ∧ _ ∧ _ ∧ _ ∧ _) ⟨fun h => ⟨h.1, h.2.1, h.2.2.1, h.2.2.2.1, h.2.2.2.2⟩,
    fun h => ⟨h.ids, h.rtx, h.listener, h.way, h.rtxListener⟩⟩

theorem mem_entries {id : UInt32} {r : ReceiveStream} (h : st.receiver id = some r) :
    (⟨id, r⟩ : Sigma fun _ : UInt32 => ReceiveStream) ∈ st.receiveStreams.entries :=
  AList.mem_lookup_iff.mp h

theorem fits_main (hok : st.Ok) {sid : UInt32} {s : SendStream}
    (hs : st.getSendStream o m.sessionId m.mainSSRC = some (sid, s))
    (hc : st.CanListen m s.toAgentStream) :
    st.Fits sid s (receiveStreamOf m m.mainSSRC false sid s) := by
  obtain ⟨hsender, hsession, hssrc⟩ := sender_of_getSendStream hs
  refine ⟨hsender, rfl, hsession, hssrc, rfl, fun id r' hr' hadj hsame => ?_,
    fun id r' a hf hadj haddr hssrc' hto => ?_⟩
  · have hvideo : s.type = .video := by
      rcases hadj with hadj | hadj
      · exact hadj.1
      · obtain ⟨a, ha, h1, h2, h3⟩ := hok.sender id r' hr'
        have hses : s.sessionId = a.sessionId := hsession.trans (hsame.1.trans h1.symm)
        have hss : s.ssrc = a.ssrc := hssrc.trans (hsame.2.1.trans h2.symm)
        exact (hok.sameSender _ _ _ _ hsender ha hses hss).2.trans (h3.trans hadj.1)
    exact hc.listener hvideo _ (mem_entries hr') ⟨hsame.1.symm, hsame.2.1.symm, hsame.2.2.symm⟩
  · exact hc.way hadj.1 _ (mem_entries hf.receiver) hf.adjustable hto.symm a hf.sender
      ⟨haddr.symm, hssrc'.symm⟩

theorem Ok.extends_pushReceiveStream (hok : st.Ok) {sid : UInt32} {s : SendStream}
    (hs : st.sender sid = some s.toAgentStream) (r : ReceiveStream) :
    Extends st (SwitchAgentState.pushReceiveStream (sid, s) r st) :=
  ⟨fun _ _ h => hok.receiver_pushReceiveStream h, fun id _ h => (sender_pushReceiveStream hs id).trans h⟩

/-- A retransmission is no adjustable stream. -/
theorem not_adjustable_rtx {sid : UInt32} {s : SendStream} (ssrc : SSRC) :
    ¬ (receiveStreamOf m ssrc true sid s).Adjustable := fun h => Bool.false_ne_true h.2.symm

theorem fits_rtx {sid sid' : UInt32} {s s' : SendStream} (hc : st.CanListen m s.toAgentStream)
    (h0 : m.rtxSSRC ≠ 0)
    (hs' : (pushReceiveStream (sid, s) (receiveStreamOf m m.mainSSRC false sid s) st).getSendStream o
      m.sessionId m.rtxSSRC = some (sid', s')) :
    (pushReceiveStream (sid, s) (receiveStreamOf m m.mainSSRC false sid s) st).Fits sid' s'
      (receiveStreamOf m m.rtxSSRC true sid' s') := by
  obtain ⟨hsender, hsession, hssrc⟩ := sender_of_getSendStream hs'
  refine ⟨hsender, rfl, hsession, hssrc, rfl, fun id r' hr' hadj hsame => ?_,
    fun id r' a _ hadj => absurd hadj (not_adjustable_rtx _)⟩
  have hadj' := hadj.resolve_left (not_adjustable_rtx _)
  rcases receiver_pushReceiveStream_iff.mp hr' with ⟨-, rfl⟩ | ⟨-, hr'⟩
  · exact hc.rtx hadj'.1 hsame.2.1
  · exact hc.rtxListener h0 _ (mem_entries hr') hadj'
      ⟨hsame.1.symm, hsame.2.1.symm, hsame.2.2.symm⟩

theorem addReceiveStream_ok (hok : st.Ok)
    (hc : ∀ sid s, st.getSendStream o m.sessionId m.mainSSRC = some (sid, s) →
      st.CanListen m s.toAgentStream)
    (h : (addReceiveStream o m.sessionId fromParticipant m.participantId m.addr m.mainSSRC m.rtxSSRC
      st).result = .ok ()) :
    let st' := (addReceiveStream o m.sessionId fromParticipant m.participantId m.addr m.mainSSRC
      m.rtxSSRC st).state
    st'.Ok ∧ Extends st st' ∧ ∀ id r, st'.receiver id = some r → st.receiver id = some r ∨
      (r.decodeTarget = .hi ∧ (r.Adjustable → r.addr = m.addr ∧
        ∃ s, st.getSendStream o m.sessionId m.mainSSRC = some (r.sendStreamId, s))) := by
  obtain ⟨sid, s, hs, hst⟩ := addReceiveStream_inv h
  have hc := hc sid s hs
  have hsender := (sender_of_getSendStream hs).1
  have hids := hc.ids
  have hok₁ := hok.pushReceiveStream (by omega) (fits_main hok hs hc)
  have hext₁ := hok.extends_pushReceiveStream hsender (receiveStreamOf m m.mainSSRC false sid s)
  have hnew₁ : ∀ id r, (pushReceiveStream (sid, s) (receiveStreamOf m m.mainSSRC false sid s)
      st).receiver id = some r → st.receiver id = some r ∨
      (r.decodeTarget = .hi ∧ (r.Adjustable → r.addr = m.addr ∧
        ∃ s, st.getSendStream o m.sessionId m.mainSSRC = some (r.sendStreamId, s))) := by
    intro id r hr
    rcases receiver_pushReceiveStream_iff.mp hr with ⟨-, rfl⟩ | ⟨-, hr⟩
    · exact .inr ⟨rfl, fun _ => ⟨rfl, s, hs⟩⟩
    · exact .inl hr
  dsimp only at hst ⊢
  rcases hst with ⟨-, hst⟩ | ⟨h0, sid', s', hs', hst⟩
  · rw [hst]
    exact ⟨hok₁, hext₁, hnew₁⟩
  · rw [hst]
    have hnext : (pushReceiveStream (sid, s) (receiveStreamOf m m.mainSSRC false sid s)
        st).nextReceiveStreamId.toNat + 1 < 2 ^ 32 := by
      change (st.nextReceiveStreamId + 1).toNat + 1 < 2 ^ 32
      rw [UInt32.toNat_add]
      change (st.nextReceiveStreamId.toNat + 1) % 2 ^ 32 + 1 < 2 ^ 32
      omega
    refine ⟨hok₁.pushReceiveStream hnext (fits_rtx hc h0 hs'),
      hext₁.trans (hok₁.extends_pushReceiveStream (sender_of_getSendStream hs').1 _),
      fun id r hr => ?_⟩
    rcases receiver_pushReceiveStream_iff.mp hr with ⟨-, rfl⟩ | ⟨-, hr⟩
    · exact .inr ⟨rfl, fun hadj => absurd hadj (not_adjustable_rtx _)⟩
    · exact hnew₁ id r hr

end AddReceive

end SwitchAgentState

end Scallop
