import Scallop.Controller.Notifications
import Scallop.Controller.Transactions

/-!
# Receive streams

* `Matched` : every receive stream is one of a send stream that is there, one for a mid; ids are not given
  twice;
* `Covers` : a participant receives every stream of another one; `Served` : during a transaction, who is not
  awaited does, with exceptions;
* `Connected` : exactly one receive stream for every stream, with its SSRCs; `Matched.connected`;
* `matched_kept`, `Matched.joined`, `Matched.erase` : every step keeps the streams matched, as long as
  ids are fresh.
-/

namespace Scallop

namespace DistinctMids

variable {streams : List Stream} {stream stream' : Stream} {mid : String}

theorem eq_of_mid (h : DistinctMids streams) (hs : stream ∈ streams) (hs' : stream' ∈ streams)
    (hmid : stream.description.mid = stream'.description.mid) : stream = stream' :=
  List.inj_on_of_nodup_map h.nodup hs hs' hmid

theorem filter_eq (h : DistinctMids streams) (hs : stream ∈ streams) (hmid : stream.HasMid mid) :
    streams.filter (fun s => s.HasMid mid) = [stream] := by
  have hall : ∀ s ∈ streams.filter fun s => s.HasMid mid, s = stream := by
    intro s hs'
    obtain ⟨hs', hmid'⟩ := List.mem_filter.mp hs'
    exact h.eq_of_mid hs' hs ((of_decide_eq_true hmid').trans hmid.symm)
  have hmem : stream ∈ streams.filter fun s => s.HasMid mid :=
    List.mem_filter.mpr ⟨hs, decide_eq_true hmid⟩
  have hnodup : (streams.filter fun s => s.HasMid mid).Nodup := (List.Nodup.of_map _ h.nodup).filter _
  generalize streams.filter (fun s => s.HasMid mid) = found at hall hmem hnodup
  match found with
  | [] => exact absurd hmem List.not_mem_nil
  | [s] => rw [hall s List.mem_cons_self]
  | s :: s' :: rest =>
      have heq : s = s' := (hall s List.mem_cons_self).trans
        (hall s' (List.mem_cons_of_mem _ List.mem_cons_self)).symm
      rw [heq] at hnodup
      exact absurd List.mem_cons_self (List.nodup_cons.mp hnodup).1

end DistinctMids

namespace Session

/-! ## What is received -/

/-- Participants know their ids, which are not given twice, and what they receive from one that is there
are streams that it sends, one for a mid. -/
structure Matched (s : Session) : Prop where
  consistent : Consistent s
  sendMids : ∀ k, s.participantExists k = true → DistinctMids (s.participant k).outgoingStreams
  receiveMids : ∀ k, s.participantExists k = true →
    ∀ j, DistinctMids ((s.participant k).receiver j).streams
  receives : ∀ k, s.participantExists k = true → ∀ j, s.participantExists j = true →
    ∀ stream ∈ ((s.participant k).receiver j).streams, ∃ sent ∈ (s.participant j).outgoingStreams,
      stream.description.mid = sent.description.mid ∧ stream.Receives sent
  ids : ∀ k, s.participantExists k = true → k ≤ s.nextParticipantId
  senders : ∀ k, s.participantExists k = true →
    ∀ j, ((s.participant k).receiver j).streams ≠ [] → j ≤ s.nextParticipantId

/-- The participant `k` has a receive stream for every stream that `init` sends. -/
def Covers (s : Session) (k init : Nat) : Prop :=
  ∀ sent ∈ (s.participant init).outgoingStreams, ∀ mid, sent.HasMid mid →
    ((s.participant k).receiver init).hasStreamWithMid mid = true

/-- Everybody else has exactly one receive stream for every stream that `init` sends, and it has the SSRCs
of that stream. -/
def Connected (s : Session) (init : Nat) : Prop :=
  ∀ k, k ≠ init → s.participantExists k = true → ∀ sent ∈ (s.participant init).outgoingStreams,
    ∃ mid, sent.HasMid mid ∧ ∃ stream, stream.Receives sent ∧
      ((s.participant k).receiver init).streams.filter (fun s => s.HasMid mid) = [stream]

/-- While an offer is to be answered, everybody else but `ids` is awaited, or receives all streams
already. -/
def Served (s : Session) (ids : List Nat) : Prop :=
  ∀ init, s.roles init = some .gotOffer → ∀ k, k ≠ init → s.participantExists k = true →
    k ∈ ids ∨ s.roles k = some .awaitAnswer ∨ s.Covers k init

section Matched
variable {s s' : Session} {id init k : Nat}

/-- One receive stream for a mid that is received, with the SSRCs of the stream. -/
theorem Matched.receivesOne (h : s.Matched) (hk : s.participantExists k = true)
    (hinit : s.participantExists init = true) {sent : Stream} {mid : String}
    (hsent : sent ∈ (s.participant init).outgoingStreams) (hmid : sent.HasMid mid)
    (hreceived : ((s.participant k).receiver init).hasStreamWithMid mid = true) :
    ∃ stream, stream.Receives sent ∧
      ((s.participant k).receiver init).streams.filter (fun s => s.HasMid mid) = [stream] := by
  obtain ⟨stream, hstream, hstreamMid⟩ := Transceiver.hasStreamWithMid_iff.mp hreceived
  obtain ⟨sent', hsent', hsame, hreceives⟩ := h.receives k hk init hinit stream hstream
  obtain rfl : sent' = sent := (h.sendMids init hinit).eq_of_mid hsent' hsent
    (hsame.symm.trans (hstreamMid.trans hmid.symm))
  exact ⟨stream, hreceives, (h.receiveMids k hk init).filter_eq hstream hstreamMid⟩

theorem Matched.connected (h : s.Matched) (hinit : s.participantExists init = true)
    (hcovers : ∀ k, k ≠ init → s.participantExists k = true → s.Covers k init) :
    s.Connected init := by
  intro k hne hk sent hsent
  obtain ⟨mid, hmid⟩ := Option.isSome_iff_exists.mp ((h.sendMids init hinit).isSome sent hsent)
  exact ⟨mid, hmid, h.receivesOne hk hinit hsent hmid (hcovers k hne hk sent hsent mid hmid)⟩

theorem matched_new {sfuConfig : SFUConfig} : Matched { id, sfuConfig } where
  consistent := consistent_new
  sendMids _ hk := absurd hk not_participantExists_new
  receiveMids _ hk := absurd hk not_participantExists_new
  receives _ hk := absurd hk not_participantExists_new
  ids _ hk := absurd hk not_participantExists_new
  senders _ hk := absurd hk not_participantExists_new

structure SameSession (s s' : Session) : Prop where
  exists_iff : ∀ k, s'.participantExists k = true ↔ s.participantExists k = true
  participants : ∀ k, SameStreams (s.participant k) (s'.participant k)
  next : s'.nextParticipantId = s.nextParticipantId

theorem sameSession_update {f : Participant → Participant} (hexists : s.participantExists id = true)
    (hf : SameStreams (s.participant id) (f (s.participant id))) : SameSession s (s.update id f) where
  exists_iff k := participantExists_update.trans
    ⟨fun h => h.elim (fun h => h ▸ hexists) fun h => h, .inr⟩
  participants k := by
    by_cases hk : k = id
    · rw [hk, participant_update_self]
      exact hf
    · rw [participant_update_of_ne hk]
      exact ⟨rfl, rfl, fun _ => rfl⟩
  next := rfl

theorem Matched.congr (h : s.Matched) (hconsistent : Consistent s') (hsame : SameSession s s') :
    s'.Matched where
  consistent := hconsistent
  sendMids k hk := by
    rw [(hsame.participants k).sent]
    exact h.sendMids k ((hsame.exists_iff k).mp hk)
  receiveMids k hk j := by
    rw [(hsame.participants k).received]
    exact h.receiveMids k ((hsame.exists_iff k).mp hk) j
  receives k hk j hj stream hstream := by
    rw [(hsame.participants k).received] at hstream
    rw [(hsame.participants j).sent]
    exact h.receives k ((hsame.exists_iff k).mp hk) j ((hsame.exists_iff j).mp hj) stream hstream
  ids k hk := by
    rw [hsame.next]
    exact h.ids k ((hsame.exists_iff k).mp hk)
  senders k hk j hj := by
    rw [(hsame.participants k).received] at hj
    rw [hsame.next]
    exact h.senders k ((hsame.exists_iff k).mp hk) j hj

theorem SameSession.covers (hsame : SameSession s s') : s'.Covers k init ↔ s.Covers k init := by
  unfold Covers Transceiver.hasStreamWithMid
  rw [(hsame.participants init).sent, (hsame.participants k).received]

end Matched

/-! ## Steps -/

section Steps
variable {s s' : Session} {id sender k j : Nat} {stream : Stream}

theorem participantExists_update_of_exists {f : Participant → Participant}
    (h : s.participantExists id = true) :
    (s.update id f).participantExists k = true ↔ s.participantExists k = true :=
  participantExists_update.trans ⟨fun hk => hk.elim (fun hk => hk ▸ h) fun hk => hk, .inr⟩

theorem outgoingStreams_send :
    ((s.update id fun p => p.addOutgoingStream stream).participant k).outgoingStreams =
      if k = id then (s.participant k).outgoingStreams ++ [stream]
      else (s.participant k).outgoingStreams := by
  by_cases hk : k = id
  · rw [hk, participant_update_self, if_pos rfl]
    rfl
  · rw [participant_update_of_ne hk, if_neg hk]

theorem receiver_send :
    ((s.update id fun p => p.addOutgoingStream stream).participant k).receiver j =
      (s.participant k).receiver j := by
  by_cases hk : k = id
  · rw [hk, participant_update_self]
    rfl
  · rw [participant_update_of_ne hk]

theorem streams_receive :
    (((s.update id fun p => p.updateReceiver sender fun r => r.addStream stream).participant
        k).receiver j).streams =
      if k = id ∧ j = sender then ((s.participant k).receiver j).streams ++ [stream]
      else ((s.participant k).receiver j).streams := by
  by_cases hk : k = id
  · rw [hk, participant_update_self]
    by_cases hj : j = sender
    · rw [hj, Participant.receiver_updateReceiver_self, if_pos ⟨rfl, rfl⟩]
      rfl
    · rw [Participant.receiver_updateReceiver_of_ne hj, if_neg fun h => hj h.2]
  · rw [participant_update_of_ne hk, if_neg fun h => hk h.1]

theorem Matched.send (h : s.Matched) (hexists : s.participantExists id = true) {mid : String}
    (hsend : stream.isSend = true) (hmid : stream.HasMid mid)
    (hnew : ¬ (s.participant id).sendsStreamWithMid mid = true) :
    (s.update id fun p => p.addOutgoingStream stream).Matched where
  consistent := h.consistent.change (.send hexists hsend hmid hnew rfl)
  sendMids k hk := by
    rw [participantExists_update_of_exists hexists] at hk
    rw [outgoingStreams_send]
    split
    · rename_i heq
      subst heq
      exact distinctMids_append (h.sendMids k hk) hmid fun s' hs' hmid' =>
        hnew (Transceiver.hasStreamWithMid_iff.mpr ⟨s', hs', hmid'⟩)
    · exact h.sendMids k hk
  receiveMids k hk j := by
    rw [participantExists_update_of_exists hexists] at hk
    rw [receiver_send]
    exact h.receiveMids k hk j
  receives k hk j hj stream' hstream := by
    rw [participantExists_update_of_exists hexists] at hk hj
    rw [receiver_send] at hstream
    obtain ⟨sent, hsent, hsame⟩ := h.receives k hk j hj stream' hstream
    refine ⟨sent, ?_, hsame⟩
    rw [outgoingStreams_send]
    split
    · exact List.mem_append_left _ hsent
    · exact hsent
  ids k hk := h.ids k ((participantExists_update_of_exists hexists).mp hk)
  senders k hk j hj := by
    rw [receiver_send] at hj
    exact h.senders k ((participantExists_update_of_exists hexists).mp hk) j hj

/-- A receive stream with a new mid, for a stream with that mid. -/
theorem Matched.receive (h : s.Matched) (hexists : s.participantExists id = true)
    (hsender : s.participantExists sender = true) {sent : Stream} {mid : String}
    (hsent : sent ∈ (s.participant sender).outgoingStreams) (hsentMid : sent.HasMid mid)
    (hreceives : stream.Receives sent) (hmid : stream.HasMid mid)
    (hnew : ¬ ((s.participant id).receiver sender).hasStreamWithMid mid = true) :
    (s.update id fun p => p.updateReceiver sender fun r => r.addStream stream).Matched where
  consistent := h.consistent.update hexists rfl fun _ hmem => .inl hmem
  sendMids k hk := by
    rw [participantExists_update_of_exists hexists] at hk
    rw [outgoingStreams_receive]
    exact h.sendMids k hk
  receiveMids k hk j := by
    rw [participantExists_update_of_exists hexists] at hk
    rw [streams_receive]
    split
    · rename_i heq
      obtain ⟨rfl, rfl⟩ := heq
      exact distinctMids_append (h.receiveMids k hk j) hmid fun s' hs' hmid' =>
        hnew (Transceiver.hasStreamWithMid_iff.mpr ⟨s', hs', hmid'⟩)
    · exact h.receiveMids k hk j
  receives k hk j hj stream' hstream := by
    rw [participantExists_update_of_exists hexists] at hk hj
    rw [outgoingStreams_receive]
    rw [streams_receive] at hstream
    split at hstream
    · rename_i heq
      obtain ⟨rfl, rfl⟩ := heq
      rcases List.mem_append.mp hstream with hstream | hstream
      · exact h.receives k hk j hj stream' hstream
      · rw [List.mem_singleton.mp hstream]
        exact ⟨sent, hsent, Eq.trans hmid (Eq.symm hsentMid), hreceives⟩
    · exact h.receives k hk j hj stream' hstream
  ids k hk := h.ids k ((participantExists_update_of_exists hexists).mp hk)
  senders k hk j hj := by
    rw [participantExists_update_of_exists hexists] at hk
    by_cases heq : k = id ∧ j = sender
    · exact heq.2 ▸ h.ids sender hsender
    · rw [streams_receive, if_neg heq] at hj
      exact h.senders k hk j hj

theorem matched_kept {τ ω : Type} {f : Session → Nat → Stream → Eff τ ω Fault Unit} :
    KeptBy f fun s _ => Matched s where
  quiet h hchange := by
    have hconsistent := h.consistent.change hchange
    cases hchange with
    | other hexists hf => exact h.congr hconsistent (sameSession_update hexists hf)
  told h hchange _ := by
    cases hchange with
    | send hexists hsend hmid hnew hs' => exact hs' ▸ h.send hexists hsend hmid hnew
    | receive hexists hsender hsent hsentMid hreceives hmid hnew hs' hinitiator =>
        exact hs' ▸ h.receive hexists hsender hsent hsentMid hreceives hmid hnew

/-- A new participant, whose id has not been given before. -/
theorem Matched.joined {ip : String} {port : UInt16} (h : s.Matched)
    (hfresh : s.nextParticipantId + 1 < 2 ^ 32) : (s.joined ip port).Matched := by
  have hnext : s.nextId = s.nextParticipantId + 1 := Nat.mod_eq_of_lt hfresh
  have hold : ∀ {k}, (s.joined ip port).participantExists k = true → k ≠ s.nextId →
      s.participantExists k = true := fun hk hne => (participantExists_joined.mp hk).resolve_left hne
  refine ⟨h.consistent.joined, fun k hk => ?_, fun k hk j => ?_, fun k hk j hj stream hstream => ?_,
    fun k hk => ?_, fun k hk j hj => ?_⟩
  · by_cases heq : k = s.nextId
    · rw [heq, participant_joined_self]
      exact distinctMids_nil
    · rw [participant_joined_of_ne heq]
      exact h.sendMids k (hold hk heq)
  · by_cases heq : k = s.nextId
    · rw [heq, participant_joined_self]
      exact distinctMids_nil
    · rw [participant_joined_of_ne heq]
      exact h.receiveMids k (hold hk heq) j
  · by_cases heq : k = s.nextId
    · rw [heq, participant_joined_self] at hstream
      exact absurd hstream List.not_mem_nil
    · rw [participant_joined_of_ne heq] at hstream
      have hne : j ≠ s.nextId := by
        rintro rfl
        have hle := h.senders k (hold hk heq) s.nextId (List.ne_nil_of_mem hstream)
        omega
      rw [participant_joined_of_ne hne]
      exact h.receives k (hold hk heq) j (hold hj hne) stream hstream
  · show k ≤ s.nextId
    by_cases heq : k = s.nextId
    · exact heq.le
    · have hle := h.ids k (hold hk heq)
      omega
  · show j ≤ s.nextId
    by_cases heq : k = s.nextId
    · rw [heq, participant_joined_self] at hj
      exact absurd rfl hj
    · rw [participant_joined_of_ne heq] at hj
      have hle := h.senders k (hold hk heq) j hj
      omega

theorem Matched.erase (h : s.Matched) (id : Nat) : (s.erase id).Matched := by
  have hold : ∀ {k}, (s.erase id).participantExists k = true →
      k ≠ id ∧ s.participantExists k = true := fun hk => participantExists_erase.mp hk
  refine ⟨h.consistent.erase id, fun k hk => ?_, fun k hk j => ?_, fun k hk j hj stream hstream => ?_,
    fun k hk => h.ids k (hold hk).2, fun k hk j hj => ?_⟩
  · rw [participant_erase_of_ne (hold hk).1]
    exact h.sendMids k (hold hk).2
  · rw [participant_erase_of_ne (hold hk).1]
    exact h.receiveMids k (hold hk).2 j
  · rw [participant_erase_of_ne (hold hk).1] at hstream
    rw [participant_erase_of_ne (hold hj).1]
    exact h.receives k (hold hk).2 j (hold hj).2 stream hstream
  · rw [participant_erase_of_ne (hold hk).1] at hj
    exact h.senders k (hold hk).2 j hj

end Steps

end Session

end Scallop
