import Scallop.SwitchAgent.Registry

/-!
# Links between send streams and receive streams

* `Linked` : a receive stream names its send stream, and that one lists it, once;
* `Linked.pushSendStream`, `Linked.pushReceiveStream` : new streams under free ids;
* `FreshIds` : the ids that a call gives out are not in use; `IdsFree` : the ids that it needs are not;
* `calls_linked_iff` : runs of calls; `ids_wrap` : a run of more than `2 ^ 32` calls.
-/

namespace Scallop

open Machine

namespace SwitchAgentState

/-- Receive streams and the lists of send streams name each other. -/
structure Linked (st : SwitchAgentState) : Prop where
  /-- A receive stream has its send stream, which lists it once. -/
  sender : ∀ id r, st.receiver id = some r → ∃ s, st.sendStreams.lookup r.sendStreamId = some s ∧
    s.sessionId = r.sessionId ∧ s.ssrc = r.ssrc ∧ s.type = r.type ∧
    s.sendingParticipant = r.sendingParticipant ∧ s.receiveStreamIds.count id = 1
  /-- No other send stream lists it. -/
  elsewhere : ∀ id r sid s, st.receiver id = some r → st.sendStreams.lookup sid = some s →
    sid ≠ r.sendStreamId → id ∉ s.receiveStreamIds
  /-- What is listed is there. -/
  listed : ∀ sid s, st.sendStreams.lookup sid = some s → ∀ id ∈ s.receiveStreamIds,
    (st.receiver id).isSome

theorem linked_init : ({} : SwitchAgentState).Linked where
  sender _ _ h := nomatch h
  elsewhere _ _ _ _ h := nomatch h
  listed _ _ h := nomatch h

section Push
variable {st : SwitchAgentState} {s : SendStream} {r : ReceiveStream} {sid : UInt32}

theorem Linked.withSession (h : st.Linked) (sessionId : Nat) :
    (SwitchAgentState.withSession sessionId st).Linked := by
  rw [withSession_eq]
  exact ⟨h.sender, h.elsewhere, h.listed⟩

/-- A new send stream, under a free id, without receive streams. -/
theorem Linked.pushSendStream (h : st.Linked) (hfree : st.nextSendStreamId ∉ st.sendStreams)
    (hnone : s.receiveStreamIds = []) : (SwitchAgentState.pushSendStream s st).Linked where
  sender id r hr := by
    obtain ⟨s', hs', hfields⟩ := h.sender id r hr
    refine ⟨s', UnorderedMap.lookup_insert_iff.mpr (.inr ⟨?_, hs'⟩), hfields⟩
    rintro heq
    rw [heq, AList.lookup_eq_none.mpr hfree] at hs'
    exact nomatch hs'
  elsewhere id r sid s' hr hs' hne := by
    rcases UnorderedMap.lookup_insert_iff.mp hs' with ⟨-, rfl⟩ | ⟨-, hs'⟩
    · rw [hnone]
      exact List.not_mem_nil
    · exact h.elsewhere id r sid s' hr hs' hne
  listed sid s' hs' id hid := by
    rcases UnorderedMap.lookup_insert_iff.mp hs' with ⟨-, rfl⟩ | ⟨-, hs'⟩
    · rw [hnone] at hid
      exact absurd hid List.not_mem_nil
    · exact h.listed sid s' hs' id hid

/-- A new receive stream, under a free id, for a send stream. -/
theorem Linked.pushReceiveStream (h : st.Linked) (hfree : st.nextReceiveStreamId ∉ st.receiveStreams)
    (hs : st.sendStreams.lookup sid = some s) (hid : r.sendStreamId = sid)
    (hfields : s.sessionId = r.sessionId ∧ s.ssrc = r.ssrc ∧ s.type = r.type ∧
      s.sendingParticipant = r.sendingParticipant) :
    (SwitchAgentState.pushReceiveStream (sid, s) r st).Linked := by
  have hnone : st.receiver st.nextReceiveStreamId = none := AList.lookup_eq_none.mpr hfree
  have hunlisted : ∀ sid' s', st.sendStreams.lookup sid' = some s' →
      st.nextReceiveStreamId ∉ s'.receiveStreamIds := by
    intro sid' s' hs' hmem
    have hsome := h.listed sid' s' hs' _ hmem
    rw [hnone] at hsome
    exact nomatch hsome
  refine ⟨fun id q hq => ?_, fun id q sid' s' hq hs' hne => ?_, fun sid' s' hs' id hmem => ?_⟩
  · rcases receiver_pushReceiveStream_iff.mp hq with ⟨rfl, rfl⟩ | ⟨hne, hq⟩
    · refine ⟨_, UnorderedMap.lookup_insert_iff.mpr (.inl ⟨hid, rfl⟩), hfields.1, hfields.2.1,
        hfields.2.2.1, hfields.2.2.2, ?_⟩
      rw [List.count_append, List.count_eq_zero_of_not_mem (hunlisted sid s hs), List.count_singleton_self]
    · obtain ⟨s', hs', h1, h2, h3, h4, hcount⟩ := h.sender id q hq
      by_cases heq : q.sendStreamId = sid
      · rw [heq, hs] at hs'
        obtain rfl := Option.some.inj hs'
        refine ⟨_, UnorderedMap.lookup_insert_iff.mpr (.inl ⟨heq, rfl⟩), h1, h2, h3, h4, ?_⟩
        rw [List.count_append, hcount, List.count_eq_zero_of_not_mem]
        exact fun hmem => hne (List.mem_singleton.mp hmem)
      · exact ⟨s', UnorderedMap.lookup_insert_iff.mpr (.inr ⟨heq, hs'⟩), h1, h2, h3, h4, hcount⟩
  · have hold (hs' : st.sendStreams.lookup sid' = some s') : id ∉ s'.receiveStreamIds := by
      rcases receiver_pushReceiveStream_iff.mp hq with ⟨rfl, -⟩ | ⟨-, hq⟩
      · exact hunlisted sid' s' hs'
      · exact h.elsewhere id q sid' s' hq hs' hne
    rcases UnorderedMap.lookup_insert_iff.mp hs' with ⟨rfl, rfl⟩ | ⟨-, hs'⟩
    · rcases receiver_pushReceiveStream_iff.mp hq with ⟨-, rfl⟩ | ⟨hidne, hq⟩
      · exact absurd hid.symm hne
      · intro hmem
        rcases List.mem_append.mp hmem with hmem | hmem
        · exact h.elsewhere id q _ s hq hs hne hmem
        · exact hidne (List.mem_singleton.mp hmem)
    · exact hold hs'
  · have hkeep : (st.receiver id).isSome → ((SwitchAgentState.pushReceiveStream (sid, s) r st).receiver
        id).isSome := by
      intro hsome
      obtain ⟨q, hq⟩ := Option.isSome_iff_exists.mp hsome
      rw [receiver_pushReceiveStream_iff.mpr (.inr ⟨?_, hq⟩)]
      · rfl
      · rintro rfl
        exact nomatch hnone.symm.trans hq
    rcases UnorderedMap.lookup_insert_iff.mp hs' with ⟨-, rfl⟩ | ⟨-, hs'⟩
    · rcases List.mem_append.mp hmem with hmem | hmem
      · exact hkeep (h.listed sid s hs id hmem)
      · rw [List.mem_singleton.mp hmem, receiver_pushReceiveStream_iff.mpr (.inl ⟨rfl, rfl⟩)]
        rfl
    · exact hkeep (h.listed sid' s' hs' id hmem)

end Push

/-! ## Calls -/

/-- The ids from `n` on, up to `n'`. -/
def idsBetween (n n' : UInt32) : List UInt32 :=
  (List.range (n' - n).toNat).map fun i => n + UInt32.ofNat i

/-- The ids that were given out between two states had not been in use. -/
structure FreshIds (st st' : SwitchAgentState) : Prop where
  send : ∀ id ∈ idsBetween st.nextSendStreamId st'.nextSendStreamId, id ∉ st.sendStreams
  receive : ∀ id ∈ idsBetween st.nextReceiveStreamId st'.nextReceiveStreamId, id ∉ st.receiveStreams

/-- The ids that a call gives out are free. -/
def IdsFree (st : SwitchAgentState) : Call → Prop
  | .addSendStream sessionId _ _ _ mainSSRC rtxSSRC =>
      mainSSRC ∉ st.session sessionId → rtxSSRC ∉ st.session sessionId →
        st.nextSendStreamId ∉ st.sendStreams ∧
          (rtxSSRC ≠ 0 → st.nextSendStreamId + 1 ∉ st.sendStreams)
  | .addReceiveStream sessionId _ _ _ mainSSRC rtxSSRC => st.Sends sessionId mainSSRC →
      st.nextReceiveStreamId ∉ st.receiveStreams ∧
        (rtxSSRC ≠ 0 → st.Sends sessionId rtxSSRC → st.nextReceiveStreamId + 1 ∉ st.receiveStreams)

section Ids
variable {n id : UInt32} {P : UInt32 → Prop}

theorem forall_mem_pair : (∀ i ∈ [n, id], P i) ↔ P n ∧ P id := by
  rw [List.forall_mem_cons, List.forall_mem_singleton]

theorem idsBetween_self (n : UInt32) : idsBetween n n = [] := by
  unfold idsBetween
  rw [UInt32.sub_self]
  rfl

theorem idsBetween_one (n : UInt32) : idsBetween n (n + 1) = [n] := by
  unfold idsBetween
  rw [UInt32.add_comm, UInt32.add_sub_cancel]
  show [n + 0] = [n]
  rw [UInt32.add_zero]

theorem idsBetween_two (n : UInt32) : idsBetween n (n + 1 + 1) = [n, n + 1] := by
  unfold idsBetween
  rw [UInt32.add_assoc, UInt32.add_comm, UInt32.add_sub_cancel]
  show [n + 0, n + 1] = [n, n + 1]
  rw [UInt32.add_zero]

end Ids

section Calls
variable {o : WalkOrder} {st : SwitchAgentState} {sessionId participantId : Nat} {addr : IPv4Port}
variable {type : MediaType} {mainSSRC rtxSSRC ssrc : SSRC}

/-- `addSendStream` gives out free ids just when those that it needs are free. -/
theorem addSendStream_freshIds :
    FreshIds st (addSendStream sessionId participantId addr type mainSSRC rtxSSRC st).state ↔
      IdsFree st (.addSendStream sessionId participantId addr type mainSSRC rtxSSRC) := by
  have hnexts : ∀ k, (SwitchAgentState.withSession k st).nextSendStreamId = st.nextSendStreamId ∧
      (SwitchAgentState.withSession k st).nextReceiveStreamId = st.nextReceiveStreamId := by
    intro k
    rw [withSession_eq]
    exact ⟨rfl, rfl⟩
  cases hres : (addSendStream sessionId participantId addr type mainSSRC rtxSSRC st).result with
  | error e =>
      have hno : ¬ (mainSSRC ∉ st.session sessionId ∧ rtxSSRC ∉ st.session sessionId) :=
        fun h => nomatch (addSendStream_ok_iff.mpr h).symm.trans hres
      rw [addSendStream_error hres]
      refine ⟨fun _ hmain hrtx => absurd ⟨hmain, hrtx⟩ hno, fun _ => ⟨?_, ?_⟩⟩
      · rw [(hnexts sessionId).1, idsBetween_self]
        exact fun _ h => absurd h List.not_mem_nil
      · rw [(hnexts sessionId).2, idsBetween_self]
        exact fun _ h => absurd h List.not_mem_nil
  | ok u =>
      obtain ⟨hmain, hrtx, hst⟩ := addSendStream_inv hres
      have hreceive : (addSendStream sessionId participantId addr type mainSSRC rtxSSRC
          st).state.nextReceiveStreamId = st.nextReceiveStreamId := by
        rw [hst, ← (hnexts sessionId).2]
        dsimp only
        split <;> rfl
      have hsend : (addSendStream sessionId participantId addr type mainSSRC rtxSSRC
          st).state.nextSendStreamId =
            if rtxSSRC ≠ 0 then st.nextSendStreamId + 1 + 1 else st.nextSendStreamId + 1 := by
        rw [hst, ← (hnexts sessionId).1]
        dsimp only
        split <;> rfl
      have hiff : FreshIds st (addSendStream sessionId participantId addr type mainSSRC rtxSSRC
          st).state ↔ ∀ id ∈ idsBetween st.nextSendStreamId
            (if rtxSSRC ≠ 0 then st.nextSendStreamId + 1 + 1 else st.nextSendStreamId + 1),
              id ∉ st.sendStreams := by
        rw [← hsend]
        refine ⟨fun h => h.send, fun h => ⟨h, ?_⟩⟩
        rw [hreceive, idsBetween_self]
        exact fun _ h => absurd h List.not_mem_nil
      rw [hiff]
      dsimp only [IdsFree]
      rw [imp_iff_right hmain, imp_iff_right hrtx]
      split
      · rename_i h0
        rw [idsBetween_two, imp_iff_right h0]
        exact forall_mem_pair
      · rename_i h0
        rw [idsBetween_one, List.forall_mem_singleton]
        exact ⟨fun h => ⟨h, fun h0' => absurd h0' h0⟩, fun h => h.1⟩

theorem addSendStream_linked (h : st.Linked)
    (hfree : IdsFree st (.addSendStream sessionId participantId addr type mainSSRC rtxSSRC)) :
    (addSendStream sessionId participantId addr type mainSSRC rtxSSRC st).state.Linked := by
  have h₀ := h.withSession sessionId
  cases hres : (addSendStream sessionId participantId addr type mainSSRC rtxSSRC st).result with
  | error e =>
      rw [addSendStream_error hres]
      exact h₀
  | ok u =>
      obtain ⟨hmain, hrtx, hst⟩ := addSendStream_inv hres
      obtain ⟨hfree, hfree'⟩ := hfree hmain hrtx
      rw [hst]
      rw [withSession_eq] at h₀ ⊢
      have h₁ := h₀.pushSendStream
        (s := mainStream sessionId participantId addr type mainSSRC) hfree rfl
      dsimp only
      split
      · rename_i h0
        refine h₁.pushSendStream ?_ rfl
        show st.nextSendStreamId + 1 ∉ st.sendStreams.insert st.nextSendStreamId _
        rw [AList.mem_insert, not_or]
        refine ⟨fun heq => ?_, hfree' h0⟩
        exact absurd (UInt32.add_eq_left.mp heq) (by decide)
      · exact h₁

/-- A receive stream that comes for a send stream. -/
structure For (r : ReceiveStream) (sid : UInt32) (s : SendStream) : Prop where
  id : r.sendStreamId = sid
  fields : s.sessionId = r.sessionId ∧ s.ssrc = r.ssrc ∧ s.type = r.type ∧
    s.sendingParticipant = r.sendingParticipant

/-- What one receive stream comes to: an exception without a send stream, and else a new stream. -/
theorem addOneReceiveStream_spec (o : WalkOrder) (st : SwitchAgentState) (sessionId toParticipantId : Nat)
    (addr : IPv4Port) (mainSSRC ssrc : SSRC) (rtx : Bool) :
    let run := addOneReceiveStream o sessionId toParticipantId addr mainSSRC ssrc rtx st
    (¬ st.Sends sessionId ssrc ∧ ∃ e, run = ⟨st, [], .error e⟩) ∨
      st.Sends sessionId ssrc ∧ ∃ sid s r, st.sendStreams.lookup sid = some s ∧ For r sid s ∧
        run = ⟨pushReceiveStream (sid, s) r st, [], .ok ()⟩ := by
  dsimp only
  rw [← getSendStream_isSome_iff (o := o)]
  unfold addOneReceiveStream
  rw [Eff.get_bind_run]
  cases hs : st.getSendStream o sessionId ssrc with
  | none => exact .inl ⟨Bool.false_ne_true, _, rfl⟩
  | some e =>
      obtain ⟨hlookup, hkey⟩ := UnorderedMap.findIf_some hs
      obtain ⟨hsession, hssrc⟩ := of_decide_eq_true hkey
      exact .inr ⟨rfl, e.1, e.2, _, hlookup, ⟨rfl, hsession, hssrc, rfl, rfl⟩, rfl⟩

/-- A new receive stream leaves the send streams, their lists apart. -/
theorem sends_pushReceiveStream {sid : UInt32} {s : SendStream} {r : ReceiveStream}
    (hs : st.sendStreams.lookup sid = some s) :
    (pushReceiveStream (sid, s) r st).Sends sessionId ssrc ↔ st.Sends sessionId ssrc := by
  have hsender : st.sender sid = some s.toAgentStream := by
    unfold sender
    rw [hs]
    rfl
  exact sends_congr (sender_pushReceiveStream hsender)

/-- `addReceiveStream` gives out free ids just when those that it needs are free. -/
theorem addReceiveStream_freshIds {fromParticipantId : Nat} :
    FreshIds st (addReceiveStream o sessionId fromParticipantId participantId addr mainSSRC rtxSSRC
      st).state ↔
        IdsFree st (.addReceiveStream sessionId fromParticipantId participantId addr mainSSRC rtxSSRC) := by
  have hsendIds : ∀ st', st'.nextSendStreamId = st.nextSendStreamId → (FreshIds st st' ↔
      ∀ id ∈ idsBetween st.nextReceiveStreamId st'.nextReceiveStreamId, id ∉ st.receiveStreams) := by
    intro st' hnext
    refine ⟨fun h => h.receive, fun h => ⟨?_, h⟩⟩
    rw [hnext, idsBetween_self]
    exact fun _ h => absurd h List.not_mem_nil
  dsimp only [IdsFree]
  unfold addReceiveStream
  rcases addOneReceiveStream_spec o st sessionId participantId addr mainSSRC mainSSRC false with
    ⟨hno, e, hrun⟩ | ⟨hmain, sid, s, r, hs, -, hrun⟩
  · rw [Eff.bind_of_error hrun, hsendIds st rfl, idsBetween_self]
    exact ⟨fun _ h => absurd h hno, fun _ _ h => absurd h List.not_mem_nil⟩
  rw [Eff.bind_of_ok hrun, imp_iff_right hmain]
  by_cases h0 : rtxSSRC ≠ 0
  · rw [if_pos h0, imp_iff_right h0, ← sends_pushReceiveStream (r := r) hs]
    rcases addOneReceiveStream_spec o (pushReceiveStream (sid, s) r st) sessionId participantId addr
      mainSSRC rtxSSRC true with ⟨hno, e, hrun'⟩ | ⟨hrtx, sid', s', r', -, -, hrun'⟩
    · rw [hrun']
      show FreshIds st (pushReceiveStream (sid, s) r st) ↔ _
      rw [hsendIds (pushReceiveStream (sid, s) r st) rfl]
      show (∀ id ∈ idsBetween st.nextReceiveStreamId (st.nextReceiveStreamId + 1), _) ↔ _
      rw [idsBetween_one, List.forall_mem_singleton]
      exact ⟨fun h => ⟨h, fun h' => absurd h' hno⟩, fun h => h.1⟩
    · rw [hrun', imp_iff_right hrtx]
      show FreshIds st (pushReceiveStream (sid', s') r' (pushReceiveStream (sid, s) r st)) ↔ _
      rw [hsendIds (pushReceiveStream (sid', s') r' (pushReceiveStream (sid, s) r st)) rfl]
      show (∀ id ∈ idsBetween st.nextReceiveStreamId (st.nextReceiveStreamId + 1 + 1), _) ↔ _
      rw [idsBetween_two]
      exact forall_mem_pair
  · rw [if_neg h0]
    show FreshIds st (pushReceiveStream (sid, s) r st) ↔ _
    rw [hsendIds (pushReceiveStream (sid, s) r st) rfl]
    show (∀ id ∈ idsBetween st.nextReceiveStreamId (st.nextReceiveStreamId + 1), _) ↔ _
    rw [idsBetween_one, List.forall_mem_singleton]
    exact ⟨fun h => ⟨h, fun h' => absurd h' h0⟩, fun h => h.1⟩

theorem addReceiveStream_linked {fromParticipantId : Nat} (h : st.Linked)
    (hfree : IdsFree st
      (.addReceiveStream sessionId fromParticipantId participantId addr mainSSRC rtxSSRC)) :
    (addReceiveStream o sessionId fromParticipantId participantId addr mainSSRC rtxSSRC st).state
      |>.Linked := by
  unfold addReceiveStream
  rcases addOneReceiveStream_spec o st sessionId participantId addr mainSSRC mainSSRC false with
    ⟨-, e, hrun⟩ | ⟨hmain, sid, s, r, hs, hr, hrun⟩
  · rw [Eff.bind_of_error hrun]
    exact h
  obtain ⟨hfree, hfree'⟩ := hfree hmain
  have h₁ := h.pushReceiveStream hfree hs hr.id hr.fields
  rw [Eff.bind_of_ok hrun]
  by_cases h0 : rtxSSRC ≠ 0
  · rw [if_pos h0]
    rcases addOneReceiveStream_spec o (pushReceiveStream (sid, s) r st) sessionId participantId addr
      mainSSRC rtxSSRC true with ⟨-, e, hrun'⟩ | ⟨hrtx, sid', s', r', hs', hr', hrun'⟩
    · rw [hrun']
      exact h₁
    · rw [hrun']
      refine h₁.pushReceiveStream ?_ hs' hr'.id hr'.fields
      show st.nextReceiveStreamId + 1 ∉ st.receiveStreams.insert st.nextReceiveStreamId r
      rw [AList.mem_insert, not_or]
      refine ⟨fun heq => ?_, hfree' h0 ((sends_pushReceiveStream hs).mp hrtx)⟩
      exact absurd (UInt32.add_eq_left.mp heq) (by decide)
  · rw [if_neg h0]
    exact h₁

end Calls

/-! ## Runs -/

theorem step_freshIds {st : SwitchAgentState} {x : WalkOrder × Call} :
    FreshIds st (step st x).1 ↔ IdsFree st x.2 := by
  obtain ⟨o, c⟩ := x
  cases c with
  | addSendStream => exact addSendStream_freshIds
  | addReceiveStream => exact addReceiveStream_freshIds

theorem step_linked {st : SwitchAgentState} {x : WalkOrder × Call} (h : st.Linked)
    (hfree : IdsFree st x.2) : (step st x).1.Linked := by
  obtain ⟨o, c⟩ := x
  cases c with
  | addSendStream => exact addSendStream_linked h hfree
  | addReceiveStream => exact addReceiveStream_linked h hfree

/-- The streams are linked at every point of a run, exceptions included, and ids are never reused. -/
def LinkedRun (xs : List (WalkOrder × Call)) : Prop :=
  Always Linked step {} xs ∧ Along (fun st x => FreshIds st (step st x).1) step {} xs

/-- **Linked streams.** That is so just when the ids that every call gives out are free. -/
theorem calls_linked_iff (xs : List (WalkOrder × Call)) :
    LinkedRun xs ↔ Along (fun st x => IdsFree st x.2) step {} xs := by
  have hiff : Along (fun st x => FreshIds st (step st x).1) step {} xs ↔
      Along (fun st x => IdsFree st x.2) step {} xs := by
    simp only [step_freshIds]
  constructor
  · rintro ⟨-, h⟩
    exact hiff.mp h
  · intro h
    exact ⟨h.always (fun _ _ hs hfree => step_linked hs hfree) linked_init, hiff.mpr h⟩

/-! ## More than `2 ^ 32` calls -/

def wrapMessage (i : Nat) : Rpc.AddStream :=
  { sessionId := i / 2, participantId := 1, ip := 1, port := 1, mainSSRC := .ofNat (i % 2 + 1)
    mediaType := .video, direction := .sendonly }

def addSendStreams (ms : List Rpc.AddStream) : List (WalkOrder × Call) :=
  ms.map fun m => (default, .addSendStream m.sessionId m.participantId m.addr m.mediaType m.mainSSRC
    m.rtxSSRC)

def wrapCalls (n : Nat) : List (WalkOrder × Call) := addSendStreams ((List.range n).map wrapMessage)

theorem wrapCalls_succ (n : Nat) : wrapCalls (n + 1) = wrapCalls n ++ addSendStreams [wrapMessage n] := by
  unfold wrapCalls addSendStreams
  rw [List.range_succ, List.map_append, List.map_append]
  rfl

/-- The messages have different keys, and no SSRC is `0`. -/
theorem wrapMessage_inj {i j : Nat} (hsession : (wrapMessage i).sessionId = (wrapMessage j).sessionId)
    (hssrc : (wrapMessage i).mainSSRC = (wrapMessage j).mainSSRC) : i = j := by
  have hsession : i / 2 = j / 2 := hsession
  have hmod : i % 2 + 1 = j % 2 + 1 := by
    have hlt : ∀ k, k % 2 + 1 < UInt32.size := fun k =>
      Nat.lt_of_le_of_lt (Nat.succ_le_of_lt (Nat.mod_lt k Nat.two_pos)) (by decide)
    rw [← UInt32.toNat_ofNat_of_lt' (hlt i), ← UInt32.toNat_ofNat_of_lt' (hlt j)]
    exact congrArg UInt32.toNat hssrc
  omega

theorem wrapMessage_ne_zero (i : Nat) : (wrapMessage i).mainSSRC ≠ 0 := by
  show UInt32.ofNat (i % 2 + 1) ≠ 0
  rcases Nat.mod_two_eq_zero_or_one i with h | h
  · rw [h]
    decide
  · rw [h]
    decide

def wrapStreams (n : Nat) : List AgentStream :=
  (List.range n).flatMap fun i => (wrapMessage i).sendStreams

theorem wrapStreams_succ (n : Nat) :
    wrapStreams (n + 1) = wrapStreams n ++ (wrapMessage n).sendStreams := by
  unfold wrapStreams
  rw [List.range_succ, List.flatMap_append, List.flatMap_singleton]

theorem length_wrapStreams (n : Nat) : (wrapStreams n).length = n := by
  induction n with
  | zero => rfl
  | succ n ih =>
      rw [wrapStreams_succ, List.length_append, ih]
      rfl

/-- An agent with the first streams takes the next one. -/
theorem Stores.takes_next {st : SwitchAgentState} {n : Nat} (h : st.Stores (wrapStreams n) []) :
    (wrapMessage n).mainSSRC ∉ st.session (wrapMessage n).sessionId ∧
      (wrapMessage n).rtxSSRC ∉ st.session (wrapMessage n).sessionId := by
  have hkey : ∀ ssrc ∈ st.session (wrapMessage n).sessionId, ∃ i < n,
      (wrapMessage i).sessionId = (wrapMessage n).sessionId ∧ (wrapMessage i).mainSSRC = ssrc := by
    intro ssrc hmem
    obtain ⟨a, ha, hsession, hssrc⟩ := (h.index _ ssrc).mp hmem
    obtain ⟨i, hi, ha⟩ := List.mem_flatMap.mp ha
    obtain rfl : a = _ := List.mem_singleton.mp ha
    exact ⟨i, List.mem_range.mp hi, hsession, hssrc⟩
  constructor
  · intro hmem
    obtain ⟨i, hi, hsession, hssrc⟩ := hkey _ hmem
    exact hi.ne (wrapMessage_inj hsession hssrc)
  · intro hmem
    obtain ⟨i, -, -, hssrc⟩ := hkey _ hmem
    exact wrapMessage_ne_zero i hssrc

theorem wrapCalls_stores {n : Nat} (hn : n ≤ 2 ^ 32) :
    (final step {} (wrapCalls n)).Stores (wrapStreams n) [] := by
  induction n with
  | zero => exact stores_init
  | succ n ih =>
      have hst := ih (Nat.le_of_succ_le hn)
      rw [wrapCalls_succ, final_append, wrapStreams_succ]
      refine hst.addSendStream (m := wrapMessage n) hst.takes_next.1 hst.takes_next.2 ?_
      rw [← wrapStreams_succ, length_wrapStreams]
      exact hn

/-- After `2 ^ 32` of these calls, the id for the next stream is in use. -/
theorem not_idsFree_of_wrapped {st : SwitchAgentState} {n : Nat} (hn : n = 2 ^ 32)
    (h : st.Stores (wrapStreams n) []) :
    ¬ IdsFree st (.addSendStream (wrapMessage n).sessionId (wrapMessage n).participantId
      (wrapMessage n).addr (wrapMessage n).mediaType (wrapMessage n).mainSSRC (wrapMessage n).rtxSSRC) := by
  intro hfree
  obtain ⟨hfree, -⟩ := hfree h.takes_next.1 h.takes_next.2
  have hnext : st.nextSendStreamId.toNat < (wrapStreams n).length := by
    rw [h.nextSend, length_wrapStreams, hn]
    decide
  have hsender := h.sender st.nextSendStreamId
  rw [List.getElem?_eq_getElem hnext, sender, AList.lookup_eq_none.mpr hfree] at hsender
  cases hsender

theorem not_linkedRun_of_wrapped {n : Nat} (hn : n = 2 ^ 32) : ¬ LinkedRun (wrapCalls (n + 1)) := by
  rintro ⟨-, h⟩
  rw [wrapCalls_succ, along_append] at h
  have hfree := step_freshIds.mp h.2.1
  exact not_idsFree_of_wrapped hn (wrapCalls_stores hn.le) hfree

/-- **Ids wrap.** The call after `2 ^ 32` streams gives out an id that is in use. -/
theorem ids_wrap : ¬ LinkedRun (wrapCalls (2 ^ 32 + 1)) := not_linkedRun_of_wrapped rfl

end SwitchAgentState

end Scallop
