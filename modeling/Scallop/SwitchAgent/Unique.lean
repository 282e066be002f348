import Scallop.Lib.Machine
import Scallop.SwitchAgent.Streams

/-!
# One stream for a key

* `Unique` : a session has one send stream for an SSRC, which the index names, and a participant one
  receive stream for an SSRC;
* `OrderFree` : lookups give the same answer in whatever order containers are walked;
  `Unique.orderFree`;
* `Unique.pushSendStream`, `Unique.pushReceiveStream` : new streams under free keys and free ids;
* `Call`, `CallOk` : calls of `addSendStream` and `addReceiveStream`, and when they keep keys apart;
* `calls_unique` : in a run of such calls, keys are unique at every point.
-/

namespace Scallop

open Machine

namespace SwitchAgentState

/-- A key has one stream, and the index of a session has the ids of its send streams. -/
structure Unique (st : SwitchAgentState) : Prop where
  send : ∀ id s id' s', st.sender id = some s → st.sender id' = some s' →
    s.sessionId = s'.sessionId → s.ssrc = s'.ssrc → id = id'
  index : ∀ sessionId ssrc id, (st.session sessionId).lookup ssrc = some id ↔
    ∃ s, st.sender id = some s ∧ s.sessionId = sessionId ∧ s.ssrc = ssrc
  receive : ∀ id r id' r', st.receiver id = some r → st.receiver id' = some r' →
    r.SameListener r' → id = id'

/-- Lookups do not depend on the order in which containers are walked. -/
structure OrderFree (st : SwitchAgentState) : Prop where
  send : ∀ o o' sessionId ssrc, st.getSendStream o sessionId ssrc = st.getSendStream o' sessionId ssrc
  receive : ∀ o o' sessionId ssrc participantId,
    st.getReceiveStream o sessionId ssrc participantId =
      st.getReceiveStream o' sessionId ssrc participantId

theorem unique_init : ({} : SwitchAgentState).Unique where
  send _ _ _ _ h := nomatch h
  index _ _ _ := by
    constructor
    · intro h
      exact nomatch h
    · rintro ⟨s, hs, -⟩
      exact nomatch hs
  receive _ _ _ _ h := nomatch h

section Rules
variable {st : SwitchAgentState} {s : SendStream} {r : ReceiveStream} {sid : UInt32}
variable {sessionId : Nat} {ssrc : SSRC}

theorem Unique.orderFree (h : st.Unique) : st.OrderFree where
  send o o' sessionId ssrc := by
    apply UnorderedMap.findIf_eq_findIf
    intro id s id' s' hs hs' hp hp'
    rw [decide_eq_true_eq] at hp hp'
    have hid : st.sender id = some s.toAgentStream := by unfold sender; rw [hs]; rfl
    have hid' : st.sender id' = some s'.toAgentStream := by unfold sender; rw [hs']; rfl
    exact h.send id _ id' _ hid hid' (hp.1.trans hp'.1.symm) (hp.2.trans hp'.2.symm)
  receive o o' sessionId ssrc participantId := by
    apply UnorderedMap.findIf_eq_findIf
    intro id r id' r' hr hr' hp hp'
    rw [decide_eq_true_eq] at hp hp'
    exact h.receive id r id' r' hr hr'
      ⟨hp.1.trans hp'.1.symm, hp.2.1.trans hp'.2.1.symm, hp.2.2.trans hp'.2.2.symm⟩

/-- The index alone tells send streams apart. -/
theorem unique_of_index
    (index : ∀ sessionId ssrc id, (st.session sessionId).lookup ssrc = some id ↔
      ∃ s, st.sender id = some s ∧ s.sessionId = sessionId ∧ s.ssrc = ssrc)
    (receive : ∀ id r id' r', st.receiver id = some r → st.receiver id' = some r' →
      r.SameListener r' → id = id') : st.Unique where
  send id s id' s' hs hs' hsession hssrc := by
    have h := (index s.sessionId s.ssrc id).mpr ⟨s, hs, rfl, rfl⟩
    have h' := (index s.sessionId s.ssrc id').mpr ⟨s', hs', hsession.symm, hssrc.symm⟩
    exact Option.some.inj (h.symm.trans h')
  index := index
  receive := receive

theorem Unique.mem_session (h : st.Unique) {id : UInt32} {a : AgentStream}
    (ha : st.sender id = some a) : a.ssrc ∈ st.session a.sessionId := by
  apply AList.lookup_isSome.mp
  rw [(h.index _ _ id).mpr ⟨a, ha, rfl, rfl⟩]
  rfl

theorem Unique.withSession (h : st.Unique) (sessionId : Nat) :
    (SwitchAgentState.withSession sessionId st).Unique := by
  have hses := @session_withSession st sessionId
  rw [withSession_eq] at hses ⊢
  exact ⟨h.send, fun k ssrc id => (hses k).symm ▸ h.index k ssrc id, h.receive⟩

theorem lookup_session_pushSendStream (hnew : s.ssrc ∉ st.session s.sessionId) :
    ((SwitchAgentState.pushSendStream s st).session sessionId).lookup ssrc =
      if sessionId = s.sessionId ∧ ssrc = s.ssrc then some st.nextSendStreamId
      else (st.session sessionId).lookup ssrc := by
  unfold SwitchAgentState.pushSendStream
  simp only [if_neg hnew]
  unfold session
  by_cases hs : sessionId = s.sessionId
  · subst hs
    dsimp only
    rw [AList.lookup_insert, Option.getD_some]
    by_cases hq : ssrc = s.ssrc
    · subst hq
      rw [AList.lookup_insert, if_pos ⟨rfl, rfl⟩]
    · rw [AList.lookup_insert_ne hq, if_neg fun h => hq h.2]
  · dsimp only
    rw [AList.lookup_insert_ne hs, if_neg fun h => hs h.1]

/-- A send stream under a free id, whose SSRC is new in its session. -/
theorem Unique.pushSendStream (h : st.Unique) (hfree : st.nextSendStreamId ∉ st.sendStreams)
    (hnew : s.ssrc ∉ st.session s.sessionId) :
    (SwitchAgentState.pushSendStream s st).Unique := by
  have hnone : st.sender st.nextSendStreamId = none := by
    unfold sender
    rw [AList.lookup_eq_none.mpr hfree]
    rfl
  refine unique_of_index (fun sessionId ssrc id => ?_) h.receive
  rw [lookup_session_pushSendStream hnew]
  by_cases hk : sessionId = s.sessionId ∧ ssrc = s.ssrc
  · rw [if_pos hk, Option.some.injEq]
    constructor
    · rintro rfl
      exact ⟨_, sender_pushSendStream_iff.mpr (.inl ⟨rfl, rfl⟩), hk.1.symm, hk.2.symm⟩
    · rintro ⟨a, ha, hsession, hssrc⟩
      rcases sender_pushSendStream_iff.mp ha with ⟨hid, -⟩ | ⟨-, ha⟩
      · exact hid.symm
      · have hmem := h.mem_session ha
        rw [hsession, hssrc, hk.1, hk.2] at hmem
        exact absurd hmem hnew
  · rw [if_neg hk, h.index]
    constructor
    · rintro ⟨a, ha, hkey⟩
      refine ⟨a, sender_pushSendStream_iff.mpr (.inr ⟨?_, ha⟩), hkey⟩
      rintro rfl
      rw [hnone] at ha
      exact nomatch ha
    · rintro ⟨a, ha, hkey⟩
      rcases sender_pushSendStream_iff.mp ha with ⟨-, rfl⟩ | ⟨-, ha⟩
      · exact absurd ⟨hkey.1.symm, hkey.2.symm⟩ hk
      · exact ⟨a, ha, hkey⟩

/-- The participant has no receive stream for the SSRC, those with one of the ids aside. -/
def FreeFor (st : SwitchAgentState) (ids : List UInt32) (sessionId : Nat) (ssrc : SSRC)
    (participantId : Nat) : Prop :=
  ∀ e ∈ st.receiveStreams.entries, e.2.sessionId = sessionId → e.2.ssrc = ssrc →
    e.2.receivingParticipant = participantId → e.1 ∈ ids

instance (st : SwitchAgentState) (ids : List UInt32) (sessionId : Nat) (ssrc : SSRC)
    (participantId : Nat) : Decidable (st.FreeFor ids sessionId ssrc participantId) :=
  List.decidableBAll _ _

theorem FreeFor.receiver {participantId : Nat} {ids : List UInt32} {id : UInt32}
    {r : ReceiveStream} (h : st.FreeFor ids sessionId ssrc participantId)
    (hr : st.receiver id = some r) (hsession : r.sessionId = sessionId) (hssrc : r.ssrc = ssrc)
    (hto : r.receivingParticipant = participantId) : id ∈ ids :=
  h ⟨id, r⟩ (mem_entries hr) hsession hssrc hto

theorem Unique.pushReceiveStream (h : st.Unique) (hs : st.sender sid = some s.toAgentStream)
    (hfree : st.FreeFor [st.nextReceiveStreamId] r.sessionId r.ssrc r.receivingParticipant) :
    (SwitchAgentState.pushReceiveStream (sid, s) r st).Unique := by
  refine unique_of_index (fun sessionId ssrc id => ?_) fun id q id' q' hq hq' hsame => ?_
  · rw [sender_pushReceiveStream hs]
    exact h.index sessionId ssrc id
  · rcases receiver_pushReceiveStream_iff.mp hq with ⟨rfl, rfl⟩ | ⟨hid, hq⟩
    · rcases receiver_pushReceiveStream_iff.mp hq' with ⟨rfl, -⟩ | ⟨hid', hq'⟩
      · rfl
      · have hin := hfree.receiver hq' hsame.1.symm hsame.2.1.symm hsame.2.2.symm
        exact absurd (List.mem_singleton.mp hin) hid'
    · rcases receiver_pushReceiveStream_iff.mp hq' with ⟨rfl, rfl⟩ | ⟨hid', hq'⟩
      · have hin := hfree.receiver hq hsame.1 hsame.2.1 hsame.2.2
        exact absurd (List.mem_singleton.mp hin) hid
      · exact h.receive id q id' q' hq hq' hsame

end Rules

/-! ## Calls -/

inductive Call where
  | addSendStream (sessionId participantId : Nat) (addr : IPv4Port) (type : MediaType)
      (mainSSRC rtxSSRC : SSRC)
  | addReceiveStream (sessionId fromParticipantId toParticipantId : Nat) (addr : IPv4Port)
      (mainSSRC rtxSSRC : SSRC)

def Call.run (o : WalkOrder) : Call → AgentStateEff Unit
  | .addSendStream sessionId participantId addr type mainSSRC rtxSSRC =>
      SwitchAgentState.addSendStream sessionId participantId addr type mainSSRC rtxSSRC
  | .addReceiveStream sessionId fromParticipantId toParticipantId addr mainSSRC rtxSSRC =>
      SwitchAgentState.addReceiveStream o sessionId fromParticipantId toParticipantId addr mainSSRC
        rtxSSRC

/-- One call, with the order in which containers are walked meanwhile. -/
def step (st : SwitchAgentState) (x : WalkOrder × Call) : SwitchAgentState × Except Fault Unit :=
  let out := x.2.run x.1 st
  (out.state, out.result)

/-- The condition on a call. If the session has neither SSRC, the ids for the new send streams are
free, and the two SSRCs differ. If the session has the SSRC of a receive stream, the participant has
no other receive stream for it, and the two SSRCs differ. -/
def CallOk (st : SwitchAgentState) : Call → Prop
  | .addSendStream sessionId _ _ _ mainSSRC rtxSSRC =>
      mainSSRC ∉ st.session sessionId → rtxSSRC ∉ st.session sessionId →
        st.nextSendStreamId ∉ st.sendStreams ∧
          (rtxSSRC ≠ 0 → mainSSRC ≠ rtxSSRC ∧ st.nextSendStreamId + 1 ∉ st.sendStreams)
  | .addReceiveStream sessionId _ toParticipantId _ mainSSRC rtxSSRC =>
      mainSSRC ∈ st.session sessionId →
        st.FreeFor [st.nextReceiveStreamId] sessionId mainSSRC toParticipantId ∧
          (rtxSSRC ≠ 0 → rtxSSRC ∈ st.session sessionId → mainSSRC ≠ rtxSSRC ∧
            st.FreeFor [st.nextReceiveStreamId, st.nextReceiveStreamId + 1] sessionId rtxSSRC
              toParticipantId)

instance (st : SwitchAgentState) : (c : Call) → Decidable (CallOk st c)
  | .addSendStream .. => inferInstanceAs (Decidable (_ → _ → _ ∧ (_ → _ ∧ _)))
  | .addReceiveStream .. => inferInstanceAs (Decidable (_ → _ ∧ (_ → _ → _ ∧ _)))

section Calls
variable {o : WalkOrder} {st : SwitchAgentState} {sessionId participantId : Nat} {addr : IPv4Port}
variable {type : MediaType} {mainSSRC rtxSSRC ssrc : SSRC}

theorem addSendStream_error {e : Fault}
    (h : (addSendStream sessionId participantId addr type mainSSRC rtxSSRC st).result = .error e) :
    (addSendStream sessionId participantId addr type mainSSRC rtxSSRC st).state =
      SwitchAgentState.withSession sessionId st := by
  let st₀ := SwitchAgentState.withSession sessionId st
  let rest : AgentStateEff Unit := do
    Eff.modify (SwitchAgentState.pushSendStream
      (mainStream sessionId participantId addr type mainSSRC))
    if rtxSSRC ≠ 0 then
      Eff.modify (SwitchAgentState.pushSendStream
        { mainStream sessionId participantId addr type rtxSSRC with rtx := true })
  have hprog : addSendStream sessionId participantId addr type mainSSRC rtxSSRC st = (do
      Eff.require (mainSSRC ∉ st₀.session sessionId) (sendStreamExists mainSSRC)
      Eff.require (rtxSSRC ∉ st₀.session sessionId) (sendStreamExists mainSSRC)
      rest) st₀ := rfl
  rw [hprog] at h ⊢
  by_cases hmain : mainSSRC ∉ st₀.session sessionId
  · rw [Eff.require_pos hmain, Eff.pure_bind] at h ⊢
    by_cases hrtx : rtxSSRC ∉ st₀.session sessionId
    · rw [Eff.require_pos hrtx, Eff.pure_bind] at h
      by_cases h0 : rtxSSRC ≠ 0
      · simp only [rest, if_pos h0] at h
        exact nomatch h
      · simp only [rest, if_neg h0] at h
        exact nomatch h
    · rw [Eff.require_neg hrtx]
      rfl
  · rw [Eff.require_neg hmain]
    rfl

theorem addSendStream_unique (h : st.Unique)
    (hc : CallOk st (.addSendStream sessionId participantId addr type mainSSRC rtxSSRC)) :
    (addSendStream sessionId participantId addr type mainSSRC rtxSSRC st).state.Unique := by
  have h₀ := h.withSession sessionId
  have hses := @session_withSession st sessionId
  cases hres : (addSendStream sessionId participantId addr type mainSSRC rtxSSRC st).result with
  | error e =>
      rw [addSendStream_error hres]
      exact h₀
  | ok _ =>
      obtain ⟨hmain, hrtx, hst⟩ := addSendStream_inv hres
      obtain ⟨hfree, hc⟩ := hc hmain hrtx
      rw [hst]
      rw [withSession_eq] at h₀ hses ⊢
      have hmain₀ := hmain
      rw [← hses] at hmain₀
      have h₁ := h₀.pushSendStream
        (s := mainStream sessionId participantId addr type mainSSRC) hfree hmain₀
      dsimp only
      by_cases h0 : rtxSSRC ≠ 0
      · obtain ⟨hne, hfree'⟩ := hc h0
        rw [if_pos h0]
        apply h₁.pushSendStream
        · show st.nextSendStreamId + 1 ∉ st.sendStreams.insert st.nextSendStreamId _
          rw [AList.mem_insert]
          rintro (heq | hmem)
          · have hz : st.nextSendStreamId + 1 - st.nextSendStreamId = 0 := by
              rw [heq, UInt32.sub_self]
            rw [UInt32.add_comm, UInt32.add_sub_cancel] at hz
            exact absurd hz (by decide)
          · exact hfree' hmem
        · rw [mem_session_pushSendStream]
          rintro (hmem | ⟨-, heq⟩)
          · rw [hses] at hmem
            exact hrtx hmem
          · exact hne heq.symm
      · rw [if_neg h0]
        exact h₁

/-- A new receive stream leaves the keys of others free. -/
theorem FreeFor.pushReceiveStream {s : SendStream} {r : ReceiveStream} {sid : UInt32}
    (hfree : st.FreeFor [st.nextReceiveStreamId, st.nextReceiveStreamId + 1] sessionId ssrc
      participantId) (hne : r.ssrc ≠ ssrc) :
    (SwitchAgentState.pushReceiveStream (sid, s) r st).FreeFor [st.nextReceiveStreamId + 1]
      sessionId ssrc participantId := by
  intro e he hsession hssrc hto
  have hr : (SwitchAgentState.pushReceiveStream (sid, s) r st).receiver e.1 = some e.2 :=
    AList.mem_lookup_iff.mpr he
  rcases receiver_pushReceiveStream_iff.mp hr with ⟨-, rfl⟩ | ⟨hid, hr⟩
  · exact absurd hssrc hne
  · have hin := hfree.receiver hr hsession hssrc hto
    rw [List.mem_cons] at hin
    exact hin.resolve_left hid

/-- One receive stream: what was done with the send stream that was found. -/
theorem addOneReceiveStream_cases (o : WalkOrder) (st : SwitchAgentState) (sessionId : Nat)
    (participantId : Nat) (addr : IPv4Port) (mainSSRC ssrc : SSRC) (rtx : Bool) :
    (∃ e, addOneReceiveStream o sessionId participantId addr mainSSRC ssrc rtx st
      = ⟨st, [], .error e⟩) ∨
    ∃ sid s r, st.sender sid = some s.toAgentStream ∧ s.sessionId = sessionId ∧ s.ssrc = ssrc ∧
      r.sessionId = sessionId ∧ r.ssrc = ssrc ∧ r.receivingParticipant = participantId ∧
      addOneReceiveStream o sessionId participantId addr mainSSRC ssrc rtx st
        = ⟨SwitchAgentState.pushReceiveStream (sid, s) r st, [], .ok ()⟩ := by
  unfold addOneReceiveStream
  rw [Eff.get_bind_run]
  cases hs : st.getSendStream o sessionId ssrc with
  | none => exact .inl ⟨_, rfl⟩
  | some e =>
      obtain ⟨sid, s⟩ := e
      obtain ⟨hsender, hsession, hssrc⟩ := sender_of_getSendStream hs
      exact .inr ⟨sid, s, _, hsender, hsession, hssrc, rfl, rfl, rfl, rfl⟩

theorem addReceiveStream_unique {fromParticipantId : Nat} (h : st.Unique)
    (hc : CallOk st (.addReceiveStream sessionId fromParticipantId participantId addr mainSSRC
      rtxSSRC)) :
    (addReceiveStream o sessionId fromParticipantId participantId addr mainSSRC rtxSSRC st).state
      |>.Unique := by
  unfold addReceiveStream
  rcases addOneReceiveStream_cases o st sessionId participantId addr mainSSRC mainSSRC false with
    ⟨e, hrun⟩ | ⟨sid, s, r, hsender, hsession, hssrc, hrsession, hrssrc, hrto, hrun⟩
  · rw [Eff.bind_of_error hrun]
    exact h
  · have hmem := h.mem_session hsender
    rw [hsession, hssrc] at hmem
    obtain ⟨hfree, hc⟩ := hc hmem
    have h₁ : (SwitchAgentState.pushReceiveStream (sid, s) r st).Unique :=
      h.pushReceiveStream hsender (by rw [hrsession, hrssrc, hrto]; exact hfree)
    rw [Eff.bind_of_ok hrun]
    by_cases h0 : rtxSSRC ≠ 0
    · rw [if_pos h0]
      rcases addOneReceiveStream_cases o (SwitchAgentState.pushReceiveStream (sid, s) r st) sessionId
        participantId addr mainSSRC rtxSSRC true with
        ⟨e, hrun'⟩ | ⟨sid', s', r', hsender', hsession', hssrc', hrsession', hrssrc', hrto', hrun'⟩
      · rw [hrun']
        exact h₁
      · have hmem' := h₁.mem_session hsender'
        rw [hsession', hssrc'] at hmem'
        obtain ⟨hne, hfree'⟩ := hc h0 hmem'
        rw [hrun']
        apply h₁.pushReceiveStream hsender'
        rw [hrsession', hrssrc', hrto']
        exact hfree'.pushReceiveStream (by rw [hrssrc]; exact hne)
    · rw [if_neg h0]
      exact h₁

theorem step_unique {x : WalkOrder × Call} (h : st.Unique) (hc : CallOk st x.2) :
    (step st x).1.Unique := by
  obtain ⟨o, c⟩ := x
  cases c with
  | addSendStream sessionId participantId addr type mainSSRC rtxSSRC =>
      exact addSendStream_unique h hc
  | addReceiveStream sessionId fromParticipantId toParticipantId addr mainSSRC rtxSSRC =>
      exact addReceiveStream_unique h hc

end Calls

/-- **Unique keys.** In a run of calls that meet the condition, thrown exceptions included, keys are
unique at every point, and lookups do not depend on the order in which containers are walked. -/
theorem calls_unique {xs : List (WalkOrder × Call)}
    (h : Along (fun st x => CallOk st x.2) step {} xs) :
    Always (fun st => st.Unique ∧ st.OrderFree) step {} xs := by
  have hunique : Always Unique step {} xs := h.always (fun st x hs hc => step_unique hs hc) unique_init
  exact hunique.mono fun st hs => ⟨hs, hs.orderFree⟩

/-- Participant `1` sends from `1:1`; participant `2` listens; the SSRC `5` is announced again. -/
def exampleCalls : List (WalkOrder × Call) :=
  [(default, .addSendStream 1 1 ⟨1, 1⟩ .video 5 6), (default, .addReceiveStream 1 1 2 ⟨2, 2⟩ 5 6),
    (default, .addSendStream 1 3 ⟨3, 3⟩ .video 5 0)]

theorem calls_unique_two_participants :
    Always (fun st => st.Unique ∧ st.OrderFree) step {} exampleCalls :=
  calls_unique (by decide)

/-- Neither a send stream whose retransmission has the same SSRC nor a second listener is refused. -/
theorem same_key_twice :
    ¬ Always (fun st => st.Unique ∧ st.OrderFree) step {}
      [(default, .addSendStream 1 1 ⟨1, 1⟩ .video 5 5)] ∧
    ¬ Always (fun st => st.Unique ∧ st.OrderFree) step {}
      [(default, .addSendStream 1 1 ⟨1, 1⟩ .video 5 0),
        (default, .addReceiveStream 1 1 2 ⟨2, 2⟩ 5 0),
        (default, .addReceiveStream 1 1 2 ⟨2, 2⟩ 5 0)] := by
  constructor
  · intro h
    have hunique := h.final.1
    exact absurd (hunique.send 0 _ 1 _ rfl rfl rfl rfl) (by decide)
  · intro h
    have hunique := h.final.1
    exact absurd (hunique.receive 0 _ 1 _ rfl rfl ⟨rfl, rfl, rfl⟩) (by decide)

end SwitchAgentState

end Scallop
