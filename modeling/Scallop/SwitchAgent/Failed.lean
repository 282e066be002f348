import Scallop.SwitchAgent.Matches

/-!
# What a failed call leaves in the state of the agent

* `addSendStream_failed` : `addSendStream` looks at both SSRCs before it stores a stream, so a call
  that fails stores none;
* `addReceiveStream_unchanged_iff` : `addReceiveStream` looks for the stream with the retransmissions
  once the main one is stored, so a call that fails leaves the state just when it fails at the main
  one.
-/

namespace Scallop

namespace SwitchAgentState

section Failed
variable {o : WalkOrder} {st : SwitchAgentState} {sessionId fromParticipantId toParticipantId : Nat}
variable {addr : IPv4Port} {type : MediaType} {mainSSRC rtxSSRC ssrc : SSRC} {rtx : Bool} {e : Fault}

/-- A call of `addSendStream` that fails adds no stream, and takes no id. -/
theorem addSendStream_failed
    (h : (addSendStream sessionId fromParticipantId addr type mainSSRC rtxSSRC st).result =
      .error e) :
    let st' := (addSendStream sessionId fromParticipantId addr type mainSSRC rtxSSRC st).state
    st'.sendStreams = st.sendStreams ∧ st'.receiveStreams = st.receiveStreams ∧
      st'.nextSendStreamId = st.nextSendStreamId ∧
      st'.nextReceiveStreamId = st.nextReceiveStreamId ∧
      ∀ id, st'.session id = st.session id := by
  dsimp only
  rw [addSendStream_error h, withSession_eq]
  refine ⟨rfl, rfl, rfl, rfl, fun id => ?_⟩
  rw [← withSession_eq]
  exact session_withSession ..

theorem addOneReceiveStream_of_none (h : ¬ st.Sends sessionId ssrc) :
    addOneReceiveStream o sessionId toParticipantId addr mainSSRC ssrc rtx st =
      ⟨st, [], .error (noSendStream mainSSRC)⟩ := by
  unfold addOneReceiveStream
  rw [Eff.get_bind_run]
  cases hs : st.getSendStream o sessionId ssrc with
  | none => rfl
  | some s => exact absurd (getSendStream_isSome_iff.mp (by rw [hs]; rfl)) h

/-- With one, the receive stream takes the next id. -/
theorem addOneReceiveStream_of_sends (h : st.Sends sessionId ssrc) :
    ∃ st', addOneReceiveStream o sessionId toParticipantId addr mainSSRC ssrc rtx st =
        ⟨st', [], .ok ()⟩ ∧ st'.nextReceiveStreamId = st.nextReceiveStreamId + 1 ∧
      ∀ sessionId ssrc, st'.Sends sessionId ssrc ↔ st.Sends sessionId ssrc := by
  obtain ⟨hsender, -⟩ := @addOneReceiveStream_sends o st sessionId ssrc toParticipantId addr
    mainSSRC rtx
  unfold addOneReceiveStream at hsender ⊢
  rw [Eff.get_bind_run] at hsender ⊢
  obtain ⟨s, hs⟩ := Option.isSome_iff_exists.mp (getSendStream_isSome_iff (o := o).mpr h)
  rw [hs] at hsender ⊢
  exact ⟨_, rfl, rfl, fun _ _ => sends_congr hsender⟩

/-- **A call that fails leaves the state just when it fails at the main stream.** -/
theorem addReceiveStream_unchanged_iff (o : WalkOrder) (st : SwitchAgentState)
    (sessionId fromParticipantId toParticipantId : Nat) (addr : IPv4Port) (mainSSRC rtxSSRC : SSRC) :
    (∀ e, (addReceiveStream o sessionId fromParticipantId toParticipantId addr mainSSRC rtxSSRC
          st).result = .error e →
        (addReceiveStream o sessionId fromParticipantId toParticipantId addr mainSSRC rtxSSRC
          st).state = st) ↔
      ¬ (st.Sends sessionId mainSSRC ∧ rtxSSRC ≠ 0 ∧ ¬ st.Sends sessionId rtxSSRC) := by
  unfold addReceiveStream
  by_cases hmain : st.Sends sessionId mainSSRC
  · obtain ⟨st', hrun, hnext, hsends⟩ := @addOneReceiveStream_of_sends o st sessionId
      toParticipantId addr mainSSRC mainSSRC false hmain
    rw [Eff.bind_of_ok hrun]
    by_cases h0 : rtxSSRC = 0
    · rw [if_neg (not_not.mpr h0)]
      exact ⟨fun _ h => h.2.1 h0, fun _ e he => nomatch he⟩
    rw [if_pos h0]
    by_cases hrtx : st.Sends sessionId rtxSSRC
    · obtain ⟨st'', hrun', -⟩ := @addOneReceiveStream_of_sends o st' sessionId toParticipantId addr
        mainSSRC rtxSSRC true ((hsends _ _).mpr hrtx)
      rw [hrun']
      exact ⟨fun _ h => h.2.2 hrtx, fun _ e he => nomatch he⟩
    · rw [addOneReceiveStream_of_none fun h => hrtx ((hsends _ _).mp h)]
      constructor
      · intro h
        have hstate : st' = st := h _ rfl
        rw [hstate] at hnext
        exact absurd hnext (by simp)
      · exact fun h => absurd ⟨hmain, h0, hrtx⟩ h
  · rw [Eff.bind_of_error (addOneReceiveStream_of_none hmain)]
    exact ⟨fun _ h => hmain h.1, fun _ _ _ => rfl⟩

/-- A sender with the SSRC `1`, and no retransmissions. -/
def oneSender : SwitchAgentState :=
  (addSendStream 0 1 ⟨7, 7⟩ .video 1 0 {}).state

/-- A receiver asks for retransmissions, too. -/
theorem addReceiveStream_half :
    ¬ ∀ e, (addReceiveStream default 0 1 2 ⟨8, 8⟩ 1 5 oneSender).result = .error e →
      (addReceiveStream default 0 1 2 ⟨8, 8⟩ 1 5 oneSender).state = oneSender := by
  intro h
  have hstate := h (noSendStream 1) rfl
  exact absurd (congrArg SwitchAgentState.nextReceiveStreamId hstate) (by decide)

end Failed

end SwitchAgentState

end Scallop
