import Scallop.Controller.Signaling

/-!
# Changes of the streams

What the operations of a session do to the streams of its participants, and what they tell of it.

* `Notification` : a call of the new-stream callback;
* `Change` : a step of a session, with the call that it makes, if any;
* `Consistent` : participants know their ids and send send streams;
* `KeptBy` : a condition that every step keeps, with its call; `Makes` : a program of such steps;
* `addOffer_makes`, `getOffer_makes`, `addAnswer_makes`, `getAnswer_makes` : an operation makes such
  steps, also when it throws;
* `joined`, `addParticipant_joins` : a new participant.
-/

namespace Scallop

/-- A call of the new-stream callback, with the participant whose offer is active. -/
structure Notification where
  participantId : Nat
  initiator : Option Nat
  stream : Stream
deriving DecidableEq

namespace Transceiver

variable {t : Transceiver} {mid : String}

theorem hasStreamWithMid_iff : t.hasStreamWithMid mid = true ↔ ∃ s ∈ t.streams, s.HasMid mid := by
  unfold hasStreamWithMid
  rw [List.any_eq_true]
  simp only [decide_eq_true_eq]

theorem hasStreamWithMid_addStream {s : Stream} :
    (t.addStream s).hasStreamWithMid mid = (t.hasStreamWithMid mid || s.HasMid mid) := by
  unfold hasStreamWithMid addStream
  rw [List.any_append, List.any_cons, List.any_nil, Bool.or_false]

end Transceiver

theorem Transceiver.updateICECandidates_streams (t : Transceiver) (sdp : Sdp.SessionDescription) :
    (t.updateICECandidates sdp).streams = t.streams := by
  unfold updateICECandidates
  induction descriptionCandidates sdp generalizing t with
  | nil => rfl
  | cons c cs ih =>
      rw [List.foldl_cons, ih]
      split
      · rfl
      · rfl

theorem Participant.sendStreamWithMid_ok {p : Participant} {mid : String} {s : Stream}
    (h : p.sendStreamWithMid mid = .ok s) : s ∈ p.outgoingStreams ∧ s.HasMid mid := by
  unfold sendStreamWithMid at h
  split at h
  · rename_i s' hfind
    obtain rfl := Except.ok.inj h
    exact ⟨List.mem_of_find?_eq_some hfind, of_decide_eq_true (List.find?_some hfind :)⟩
  · exact nomatch h

namespace Session

/-! ## Steps -/

def initiator (s : Session) : Option Nat := (s.participantInState .gotOffer).toOption

structure SameStreams (p p' : Participant) : Prop where
  id : p'.id = p.id
  sent : p'.outgoingStreams = p.outgoingStreams
  received : ∀ j, (p'.receiver j).streams = (p.receiver j).streams

/-- A step of a session, with the call of the callback that it makes, if any. -/
inductive Change : Session → Option Notification → Session → Prop where
  /-- Something else than the streams of a participant. -/
  | other {s : Session} {id : Nat} {f : Participant → Participant}
      (hexists : s.participantExists id = true)
      (hf : SameStreams (s.participant id) (f (s.participant id))) : Change s none (s.update id f)
  /-- A send stream with a new mid. -/
  | send {s s' : Session} {id : Nat} {stream : Stream} {mid : String}
      (hexists : s.participantExists id = true) (hsend : stream.isSend = true)
      (hmid : stream.HasMid mid) (hnew : ¬ (s.participant id).sendsStreamWithMid mid = true)
      (hs' : s' = s.update id fun p => p.addOutgoingStream stream) :
      Change s (some ⟨id, s'.initiator, stream⟩) s'
  /-- A receive stream with a new mid, for a send stream with that mid of the initiator. -/
  | receive {s s' : Session} {id sender : Nat} {stream sent : Stream} {mid : String}
      (hexists : s.participantExists id = true) (hsender : s.participantExists sender = true)
      (hsent : sent ∈ (s.participant sender).outgoingStreams) (hsentMid : sent.HasMid mid)
      (hreceives : stream.Receives sent) (hmid : stream.HasMid mid)
      (hnew : ¬ ((s.participant id).receiver sender).hasStreamWithMid mid = true)
      (hs' : s' = s.update id fun p => p.updateReceiver sender fun r => r.addStream stream)
      (hinitiator : s'.initiator = some sender) :
      Change s (some ⟨id, s'.initiator, stream⟩) s'

/-- Participants know their ids, and what they send are send streams. -/
structure Consistent (s : Session) : Prop where
  ids : ∀ k, s.participantExists k = true → (s.participant k).id = k
  sends : ∀ k, s.participantExists k = true →
    ∀ stream ∈ (s.participant k).outgoingStreams, stream.isSend = true

section Consistent
variable {s : Session} {id : Nat} {f : Participant → Participant}

theorem consistent_new {sfuConfig : SFUConfig} : Consistent { id, sfuConfig } :=
  ⟨fun _ hk => absurd hk not_participantExists_new, fun _ hk => absurd hk not_participantExists_new⟩

theorem Consistent.update (h : Consistent s) (hexists : s.participantExists id = true)
    (hid : (f (s.participant id)).id = (s.participant id).id)
    (hsends : ∀ stream ∈ (f (s.participant id)).outgoingStreams,
      stream ∈ (s.participant id).outgoingStreams ∨ stream.isSend = true) :
    Consistent (s.update id f) where
  ids k hk := by
    by_cases heq : k = id
    · subst heq
      rw [participant_update_self, hid, h.ids k hexists]
    · rw [participant_update_of_ne heq]
      exact h.ids k ((participantExists_update.mp hk).resolve_left heq)
  sends k hk stream hmem := by
    by_cases heq : k = id
    · subst heq
      rw [participant_update_self] at hmem
      exact (hsends stream hmem).elim (h.sends k hexists stream) fun h => h
    · rw [participant_update_of_ne heq] at hmem
      exact h.sends k ((participantExists_update.mp hk).resolve_left heq) stream hmem

theorem Consistent.change {s' : Session} {n : Option Notification} (h : Consistent s)
    (hchange : Change s n s') : Consistent s' := by
  cases hchange with
  | other hexists hf =>
      exact h.update hexists hf.id fun stream hmem => .inl (hf.sent ▸ hmem)
  | send hexists hsend hmid hnew hs' =>
      subst hs'
      refine h.update hexists rfl fun stream' hmem => ?_
      rw [Participant.outgoingStreams_addOutgoingStream] at hmem
      rcases List.mem_append.mp hmem with hmem | hmem
      · exact .inl hmem
      · exact .inr (List.mem_singleton.mp hmem ▸ hsend)
  | receive hexists hsender hsent hsentMid hreceives hmid hnew hs' hinitiator =>
      subst hs'
      exact h.update hexists rfl fun _ hmem => .inl hmem

end Consistent

/-! ## Joins and leaves -/

def nextId (s : Session) : Nat := (s.nextParticipantId + 1) % 2 ^ 32

/-- The session with a new participant, under the next id. -/
def joined (s : Session) (ip : String) (port : UInt16) : Session :=
  ({ s with nextParticipantId := s.nextId } : Session).update s.nextId fun _ =>
    { id := s.nextId, controlIp := ip, controlPort := port }

section Join
variable {s : Session} {ip : String} {port : UInt16} {k : Nat}

@[simp] theorem participant_joined_self :
    (s.joined ip port).participant s.nextId =
      { id := s.nextId, controlIp := ip, controlPort := port } := participant_update_self

theorem participant_joined_of_ne (h : k ≠ s.nextId) :
    (s.joined ip port).participant k = s.participant k := participant_update_of_ne h

theorem participantExists_joined :
    (s.joined ip port).participantExists k = true ↔ k = s.nextId ∨ s.participantExists k = true :=
  participantExists_update

theorem roles_joined : (s.joined ip port).roles = Function.update s.roles s.nextId (some .stable) :=
  roles_update

theorem addParticipant_joins {τ ω : Type} (s₀ : Session × τ) :
    Eff.Triple (· = s₀) (addParticipant ip port : SessionEff τ ω Nat)
      (fun id s => id = s₀.1.nextId ∧ ¬ s₀.1.participantExists id = true ∧
        s = (s₀.1.joined ip port, s₀.2))
      fun _ s => ∃ n, s = ({ s₀.1 with nextParticipantId := n }, s₀.2) := by
  unfold addParticipant
  refine Eff.triple_get_bind ?_
  rintro s₁ rfl
  refine Eff.triple_require_bind (fun _ => ?_) fun s _ hs => ⟨s₁.1.nextParticipantId, hs⟩
  refine Eff.Triple.bind (R := fun _ s => s = ({ s₁.1 with nextParticipantId := s₁.1.nextId }, s₁.2))
    (Eff.triple_modify ?_) fun _ => ?_
  · rintro s rfl
    rfl
  refine Eff.triple_require_bind (fun hnew => ?_) fun s _ hs => ⟨_, hs⟩
  refine Eff.Triple.bind (R := fun _ s => s = (s₁.1.joined ip port, s₁.2)) (Eff.triple_modify ?_)
    fun _ => Eff.triple_pure fun s hs => ⟨rfl, hnew, hs⟩
  rintro s rfl
  rfl

theorem Consistent.joined (h : Consistent s) : Consistent (s.joined ip port) where
  ids k hk := by
    by_cases heq : k = s.nextId
    · rw [heq, participant_joined_self]
    · rw [participant_joined_of_ne heq]
      exact h.ids k ((participantExists_joined.mp hk).resolve_left heq)
  sends k hk stream hmem := by
    by_cases heq : k = s.nextId
    · rw [heq, participant_joined_self] at hmem
      exact absurd hmem List.not_mem_nil
    · rw [participant_joined_of_ne heq] at hmem
      exact h.sends k ((participantExists_joined.mp hk).resolve_left heq) stream hmem

theorem Consistent.erase (h : Consistent s) (id : Nat) : Consistent (s.erase id) where
  ids k hk := by
    obtain ⟨hne, hk⟩ := participantExists_erase.mp hk
    rw [participant_erase_of_ne hne, h.ids k hk]
  sends k hk := by
    obtain ⟨hne, hk⟩ := participantExists_erase.mp hk
    rw [participant_erase_of_ne hne]
    exact h.sends k hk

end Join

/-! ## What the operations change -/

abbrev Triple {τ ω α : Type} (P : Session → Prop) (m : SessionEff τ ω α) (Q : α → Session → Prop)
    (E : Fault → Session → Prop) : Prop :=
  Eff.Triple (fun s : Session × τ => P s.1) m (fun a s => Q a s.1) fun e s => E e s.1

def NeverThrows {τ ω : Type} (f : Session → Nat → Stream → Eff τ ω Fault Unit) : Prop :=
  ∀ s id stream t, (f s id stream t).result = .ok ()

/-- A condition on a session and the state of its callback that every step keeps, together with its
call, if that returns. -/
structure KeptBy {τ ω : Type} (f : Session → Nat → Stream → Eff τ ω Fault Unit)
    (Inv : Session → τ → Prop) : Prop where
  quiet : ∀ {s s' t}, Inv s t → Change s none s' → Inv s' t
  told : ∀ {s s' t n}, Inv s t → Change s (some n) s' →
    (f s' n.participantId n.stream t).result = .ok () →
      Inv s' (f s' n.participantId n.stream t).state

section Operations
variable {τ ω : Type} {f : Session → Nat → Stream → Eff τ ω Fault Unit}
variable {Inv : Session → τ → Prop} {fromId forId initKey offerId : Nat}
variable {media : Sdp.MediaDescription} {medias : List Sdp.MediaDescription}

/-- From a session in `Pre`, the program keeps `Inv` and ends in `Post`; when it throws, it has kept `Inv`
unless the callback is to blame. -/
abbrev Makes {α : Type} (f : Session → Nat → Stream → Eff τ ω Fault Unit)
    (Inv : Session → τ → Prop) (Pre : Session → Prop) (m : SessionEff τ ω α)
    (Post : Session → Prop) : Prop :=
  Eff.Triple (fun s : Session × τ => Inv s.1 s.2 ∧ Pre s.1) m
    (fun _ s => Inv s.1 s.2 ∧ Post s.1) fun _ s => NeverThrows f → Inv s.1 s.2

theorem Makes.keeps {α : Type} {Pre Post : Session → Prop} {m : SessionEff τ ω α}
    (h : Makes f Inv Pre m Post) (hf : NeverThrows f) {s : Session × τ} (hs : Inv s.1 s.2)
    (hpre : Pre s.1) : Inv (m s).state.1 (m s).state.2 :=
  (h.mono (fun _ h => h) (fun _ _ h => h.1) fun _ _ h => h hf).ends ⟨hs, hpre⟩

theorem modify_makes (hf : KeptBy f Inv) {Pre Post : Session → Prop} {g : Session → Session}
    (hg : ∀ s, Pre s → Change s none (g s) ∧ Post (g s)) :
    Makes f Inv Pre (modify g : SessionEff τ ω Unit) Post := by
  apply Eff.triple_modify
  intro s h
  obtain ⟨hchange, hpost⟩ := hg s.1 h.2
  exact ⟨hf.quiet h.1 hchange, hpost⟩

theorem add_notify (hf : KeptBy f Inv) {s₀ : Session × τ} {g : Session → Session} {id : Nat}
    {stream : Stream} (h₀ : Inv s₀.1 s₀.2)
    (hchange : Change s₀.1 (some ⟨id, (g s₀.1).initiator, stream⟩) (g s₀.1)) :
    Eff.Triple (· = s₀) (do modify g; notify (some f) id stream)
      (fun _ s => Inv s.1 s.2 ∧ s.1 = g s₀.1) fun _ _ => ¬ NeverThrows f := by
  refine Eff.Triple.bind (R := fun _ s => s = (g s₀.1, s₀.2)) (Eff.triple_modify ?_) fun _ => ?_
  · rintro s rfl
    rfl
  unfold notify
  refine Eff.triple_get_bind ?_
  rintro s rfl
  dsimp only
  have hcall : Eff.Triple (· = s₀.2) (f (g s₀.1) id stream) (fun _ t => Inv (g s₀.1) t)
      fun _ _ => ¬ NeverThrows f := by
    rintro t rfl
    cases hres : (f (g s₀.1) id stream s₀.2).result with
    | ok u => exact hf.told h₀ hchange hres
    | error e => exact fun h => nomatch hres.symm.trans (h (g s₀.1) id stream s₀.2)
  refine Eff.triple_zoom hcall ?_ ?_ fun _ _ _ _ h => h
  · rintro s rfl
    rfl
  · rintro s - t rfl h
    exact ⟨h, rfl⟩

theorem withCandidate_ok {t : Transceiver} {media' : Sdp.MediaDescription}
    (h : withCandidate t media = .ok media') :
    media'.mid = media.mid ∧ media'.direction = media.direction := by
  unfold withCandidate at h
  split at h
  · split at h
    · exact nomatch h
    · obtain rfl := Except.ok.inj h
      exact ⟨rfl, rfl⟩
  · obtain rfl := Except.ok.inj h
    exact ⟨rfl, rfl⟩

theorem newSendStream_ok {s : Session} {stream : Stream}
    (h : s.newSendStream fromId media = .ok stream) :
    stream.description.mid = media.mid ∧ stream.description.direction = media.direction := by
  unfold newSendStream at h
  obtain ⟨media', hmedia, h⟩ := Except.of_bind_ok h
  rw [Stream.ofDescription_description h]
  exact withCandidate_ok hmedia

theorem addOfferMedia_makes (hf : KeptBy f Inv) :
    Makes f Inv (fun s => s.participantExists fromId = true)
      (addOfferMedia (some f) fromId media) fun s => s.participantExists fromId = true := by
  unfold addOfferMedia
  split
  · rename_i hdir
    split
    · exact Eff.triple_throw fun _ h _ => h.1
    · rename_i mid hmid
      refine Eff.triple_get_bind fun s₀ h₀ => ?_
      split
      · exact Eff.triple_pure fun s hs => hs ▸ h₀
      · rename_i hsent
        refine Eff.Triple.bind (R := fun stream s => s = s₀ ∧
          s₀.1.newSendStream fromId media = .ok stream) ?_ fun stream => ?_
        · exact Eff.triple_ofExcept (fun stream s hnew hs => ⟨hs, hnew⟩) fun _ s _ hs _ => hs ▸ h₀.1
        · refine Eff.triple_intro ?_
          rintro s ⟨rfl, hnew⟩
          obtain ⟨hstreamMid, hstreamDir⟩ := newSendStream_ok hnew
          have hsend := Stream.isSend_of_direction (hstreamDir.trans hdir)
          refine (add_notify hf h₀.1 (.send h₀.2 hsend (hstreamMid.trans hmid) hsent rfl)).mono
            (fun _ h => h) ?_ fun _ _ h hnever => absurd hnever h
          rintro - s' ⟨hinv, hs'⟩
          rw [hs']
          exact ⟨hs' ▸ hinv, participantExists_update.mpr (.inl rfl)⟩
  · exact Eff.triple_pure fun _ h => h

theorem addOfferMedias_makes (hf : KeptBy f Inv) : ∀ {medias : List Sdp.MediaDescription},
    Makes f Inv (fun s => s.participantExists fromId = true)
      (addOfferMedias (some f) fromId medias) fun s => s.participantExists fromId = true
  | [] => Eff.triple_pure fun _ h => h
  | _ :: _ => (addOfferMedia_makes hf).bind fun _ => addOfferMedias_makes hf

theorem addOffer_makes (hf : KeptBy f Inv) {offer : Sdp.SessionDescription} :
    Makes f Inv (fun _ => True) (addOffer (some f) fromId offer) fun _ => True := by
  unfold addOffer
  refine Eff.triple_get_bind fun s₀ h₀ => ?_
  refine Eff.triple_require_bind (fun hexists => ?_) fun s _ hs _ => hs ▸ h₀.1
  refine Eff.triple_require_bind (fun _ => ?_) fun s _ hs _ => hs ▸ h₀.1
  have hfirst : Makes f Inv (fun s => s.participantExists fromId = true)
      (modify fun s => s.update fromId fun p =>
        { p with sender := p.sender.updateICECandidates offer } : SessionEff τ ω Unit)
      fun s => s.participantExists fromId = true := by
    refine modify_makes hf fun s h => ⟨.other h ⟨rfl, ?_, fun j => rfl⟩, ?_⟩
    · exact Transceiver.updateICECandidates_streams _ _
    · exact participantExists_update.mpr (.inl rfl)
  have hlast : Makes f Inv (fun s => s.participantExists fromId = true)
      (modify fun s => s.update fromId fun p => { p with signalingState := .gotOffer } :
        SessionEff τ ω Unit) fun _ => True :=
    modify_makes hf fun s h => ⟨.other h ⟨rfl, rfl, fun j => rfl⟩, trivial⟩
  refine Eff.Triple.bind (hfirst.pre fun s hs => hs ▸ ⟨h₀.1, hexists⟩) fun _ => ?_
  exact (addOfferMedias_makes hf).bind fun _ => hlast

theorem change_setState {s : Session} {id : Nat} {state : SignalingState}
    (h : s.participantExists id = true) : Change s none (s.setState id state) :=
  .other h ⟨rfl, rfl, fun _ => rfl⟩

theorem getOffer_makes (hf : KeptBy f Inv) : Makes f Inv (fun _ => True)
    (getOffer forId : SessionEff τ ω Sdp.SessionDescription) fun _ => True := by
  refine Eff.triple_intro fun s₀ h₀ => ?_
  by_cases hexists : s₀.1.participantExists forId = true
  · refine (getOffer_sets hexists).mono (fun _ h => h) ?_ ?_
    · rintro - s rfl
      exact ⟨hf.quiet h₀.1 (change_setState hexists), trivial⟩
    · rintro - s rfl -
      exact hf.quiet h₀.1 (change_setState hexists)
  · rintro s rfl
    rw [getOffer_unknown hexists]
    exact fun _ => h₀.1

theorem getAnswer_makes (hf : KeptBy f Inv) : Makes f Inv (fun _ => True)
    (getAnswer forId : SessionEff τ ω Sdp.SessionDescription) fun _ => True := by
  refine Eff.triple_intro fun s₀ h₀ => ?_
  by_cases hstate : s₀.1.roles forId = some .gotOffer
  · have hexists : s₀.1.participantExists forId = true := by
      rw [← roles_isSome_iff, hstate]
      rfl
    refine (getAnswer_sets hstate).mono (fun _ h => h) ?_ ?_
    · rintro - s rfl
      exact ⟨hf.quiet h₀.1 (change_setState hexists), trivial⟩
    · rintro e s ⟨rfl, -⟩ -
      exact h₀.1
  · rintro s rfl
    obtain ⟨hsame, e, he⟩ := getAnswer_refused (ω := ω) hstate
    rw [he]
    intro
    rw [hsame]
    exact h₀.1

theorem newReceiveStream_mid {s : Session} {stream : Stream} {ssrcs : Sdp.SSRCDescription}
    (h : s.newReceiveStream offerId fromId media ssrcs = .ok stream) :
    stream.description.mid = media.mid := by
  unfold newReceiveStream at h
  obtain ⟨media', hmedia, h⟩ := Except.of_bind_ok h
  rw [Stream.ofDescription_description h]
  exact (withCandidate_ok hmedia).1

theorem newReceiveStream_receives {s : Session} {stream sent : Stream} {ssrcs : Sdp.SSRCDescription}
    (h : s.newReceiveStream offerId fromId media ssrcs = .ok stream) (hsend : sent.isSend = true)
    (hssrcs : sent.description.ssrcDescription = some ssrcs) : stream.Receives sent := by
  unfold newReceiveStream at h
  obtain ⟨media', -, h⟩ := Except.of_bind_ok h
  exact Stream.ofDescription_receives h hsend hssrcs

theorem sendSSRCs_ok {s : Session} {mid : String} {ssrcs : Sdp.SSRCDescription}
    (h : s.sendSSRCs initKey mid = .ok ssrcs) :
    ∃ sent ∈ (s.participant initKey).outgoingStreams, sent.HasMid mid ∧
      sent.description.ssrcDescription = some ssrcs := by
  unfold sendSSRCs at h
  obtain ⟨sent, hsent, h⟩ := Except.of_bind_ok h
  obtain ⟨hmem, hmid⟩ := Participant.sendStreamWithMid_ok hsent
  refine ⟨sent, hmem, hmid, ?_⟩
  unfold Stream.deref at h
  split at h
  · rename_i heq
    obtain rfl := Except.ok.inj h
    exact heq
  · exact nomatch h

/-- A session in which a participant may answer the offer of another one. -/
structure Answering (initId fromId : Nat) (s : Session) : Prop where
  consistent : Consistent s
  initiator : s.participantInState .gotOffer = .ok initId
  initExists : s.participantExists initId = true
  fromExists : s.participantExists fromId = true

theorem Answering.of_query {s : Session} (hconsistent : Consistent s)
    (hquery : s.participantInState .gotOffer = .ok initKey)
    (hfrom : s.participantExists fromId = true) : Answering initKey fromId s := by
  obtain ⟨k, hk, hid, -⟩ := participantInState_ok_iff.mp hquery
  have hexists : s.participantExists k = true := by
    rw [← roles_isSome_iff, hk]
    rfl
  obtain rfl : k = initKey := (hconsistent.ids k hexists).symm.trans hid
  exact ⟨hconsistent, hquery, hexists, hfrom⟩

theorem Answering.update {s : Session} {g : Participant → Participant}
    (h : Answering initKey fromId s) (hconsistent : Consistent (s.update fromId g))
    (hid : (g (s.participant fromId)).id = (s.participant fromId).id)
    (hstate : (g (s.participant fromId)).signalingState = (s.participant fromId).signalingState) :
    Answering initKey fromId (s.update fromId g) where
  consistent := hconsistent
  initiator := (participantInState_update h.fromExists hid hstate).mpr h.initiator
  initExists := participantExists_update.mpr (.inr h.initExists)
  fromExists := participantExists_update.mpr (.inl rfl)

theorem sameStreams_updateReceiver {p : Participant} {j : Nat} {g : Transceiver → Transceiver}
    (hg : (g (p.receiver j)).streams = (p.receiver j).streams) :
    SameStreams p (p.updateReceiver j g) where
  id := rfl
  sent := rfl
  received k := by
    by_cases hk : k = j
    · rw [hk, Participant.receiver_updateReceiver_self, hg]
    · rw [Participant.receiver_updateReceiver_of_ne hk]

/-- What is received does not matter for what is sent. -/
theorem outgoingStreams_receive {s : Session} {id sender k : Nat} {g : Transceiver → Transceiver} :
    ((s.update id fun p => p.updateReceiver sender g).participant k).outgoingStreams =
      (s.participant k).outgoingStreams := by
  by_cases hk : k = id
  · rw [hk, participant_update_self]
    rfl
  · rw [participant_update_of_ne hk]

theorem outgoingStreams_touchReceiver {s : Session} {k : Nat} :
    ((s.touchReceiver offerId fromId).participant k).outgoingStreams =
      (s.participant k).outgoingStreams := outgoingStreams_receive

theorem addAnswerMedia_makes (hf : KeptBy f Inv) :
    Makes f Inv (Answering initKey fromId)
      (addAnswerMedia (some f) initKey initKey fromId media) (Answering initKey fromId) := by
  unfold addAnswerMedia
  split
  · exact Eff.triple_throw fun _ h _ => h.1
  · rename_i mid hmid
    refine Eff.triple_get_bind fun s₀ h₀ => ?_
    refine Eff.Triple.bind (R := fun ssrcs s => s = s₀ ∧ s₀.1.sendSSRCs initKey mid = .ok ssrcs)
      (Eff.triple_ofExcept (fun _ _ h hs => ⟨hs, h⟩) fun _ _ _ hs _ => hs ▸ h₀.1) fun ssrcs => ?_
    let touched := s₀.1.touchReceiver initKey fromId
    have htouch : Change s₀.1 none touched :=
      .other h₀.2.fromExists (sameStreams_updateReceiver rfl)
    have hinv : Inv touched s₀.2 := hf.quiet h₀.1 htouch
    have hanswering : Answering initKey fromId touched :=
      h₀.2.update (h₀.2.consistent.change htouch) rfl rfl
    refine Eff.Triple.bind (R := fun _ s => s = (touched, s₀.2) ∧
      s₀.1.sendSSRCs initKey mid = .ok ssrcs) (Eff.triple_modify ?_) fun _ => ?_
    · rintro s ⟨rfl, hssrcs⟩
      exact ⟨rfl, hssrcs⟩
    refine Eff.triple_get_bind ?_
    rintro s₁ ⟨rfl, hssrcs⟩
    dsimp only
    refine Eff.Triple.bind (R := fun stream s => s = (touched, s₀.2) ∧
      touched.newReceiveStream initKey fromId media ssrcs = .ok stream) (Eff.triple_ofExcept
        (fun _ _ h hs => ⟨hs, h⟩) fun _ _ _ hs _ => hs ▸ hinv) fun stream => ?_
    split
    · exact Eff.triple_pure fun s hs => hs.1 ▸ ⟨hinv, hanswering⟩
    · rename_i hreceived
      refine Eff.triple_intro ?_
      rintro s ⟨rfl, hnew⟩
      obtain ⟨sent, hsent, hsentMid, hdescription⟩ := sendSSRCs_ok hssrcs
      have hstreamMid := newReceiveStream_mid hnew
      have hreceives := newReceiveStream_receives hnew
        (h₀.2.consistent.sends initKey h₀.2.initExists sent hsent) hdescription
      rw [← @outgoingStreams_touchReceiver fromId initKey] at hsent
      have hinitiator := congrArg Except.toOption ((participantInState_update
        (f := fun p => p.updateReceiver initKey fun r => r.addStream stream)
        hanswering.fromExists rfl rfl).mpr hanswering.initiator)
      have hreceive := Change.receive hanswering.fromExists hanswering.initExists hsent hsentMid
        hreceives (hstreamMid.trans hmid) hreceived rfl hinitiator
      refine (add_notify hf hinv hreceive).mono (fun _ h => h) ?_ fun _ _ h hnever => absurd hnever h
      rintro - s' ⟨hinv', hs'⟩
      rw [hs']
      exact ⟨hs' ▸ hinv', hanswering.update (hanswering.consistent.change hreceive) rfl rfl⟩

theorem addAnswerMedias_makes (hf : KeptBy f Inv) : ∀ {medias : List Sdp.MediaDescription},
    Makes f Inv (Answering initKey fromId)
      (addAnswerMedias (some f) initKey initKey fromId medias) (Answering initKey fromId)
  | [] => Eff.triple_pure fun _ h => h
  | _ :: _ => (addAnswerMedia_makes hf).bind fun _ => addAnswerMedias_makes hf

theorem sameStreams_addAnswerCandidates (p : Participant) (answer : Sdp.SessionDescription) :
    SameStreams p (addAnswerCandidates p offerId answer) := by
  unfold addAnswerCandidates
  induction Transceiver.descriptionCandidates answer generalizing p with
  | nil => exact ⟨rfl, rfl, fun _ => rfl⟩
  | cons c cs ih =>
      have hfirst := sameStreams_updateReceiver (p := p) (j := offerId)
        (g := fun r => r.addICECandidate c) rfl
      have hrest := ih (p.updateReceiver offerId fun r => r.addICECandidate c)
      exact ⟨hrest.id.trans hfirst.id, hrest.sent.trans hfirst.sent,
        fun j => (hrest.received j).trans (hfirst.received j)⟩

/-- An answer of a participant that is there. -/
theorem addAnswer_makes (hf : KeptBy f Inv) {answer : Sdp.SessionDescription} :
    Makes f Inv (fun s => Consistent s ∧ s.participantExists fromId = true)
      (addAnswer (some f) fromId answer) fun _ => True := by
  unfold addAnswer
  refine Eff.triple_get_bind fun s₀ h₀ => ?_
  obtain ⟨hinv, hconsistent, hfrom⟩ := h₀
  refine Eff.Triple.bind (R := fun initKey s => s = s₀ ∧
    s₀.1.participantInState .gotOffer = .ok initKey) (Eff.triple_ofExcept (fun _ _ h hs => ⟨hs, h⟩)
      fun _ _ _ hs _ => hs ▸ hinv) fun initKey => ?_
  refine Eff.Triple.bind (R := fun _ s => s = s₀ ∧ Answering initKey fromId s₀.1)
    (Eff.triple_modify ?_) fun _ => ?_
  · rintro s ⟨rfl, hquery⟩
    have h := Answering.of_query hconsistent hquery hfrom
    refine ⟨Prod.ext ?_ rfl, h⟩
    show (s.1.update initKey fun p => p).update fromId (fun p => p) = s.1
    rw [update_eq_self h.initExists rfl, update_eq_self hfrom rfl]
  refine Eff.triple_get_bind ?_
  rintro s₁ ⟨rfl, hanswering⟩
  rw [hanswering.consistent.ids initKey hanswering.initExists]
  refine Eff.triple_require_bind (fun _ => ?_) fun s _ hs _ => hs ▸ hinv
  have hcandidates : Makes f Inv (Answering initKey fromId)
      (modify fun s => s.update fromId fun p => addAnswerCandidates p initKey answer :
        SessionEff τ ω Unit) (Answering initKey fromId) := by
    refine modify_makes hf fun s h => ?_
    have hsame := @sameStreams_addAnswerCandidates initKey (s.participant fromId) answer
    have hchange : Change s none (s.update fromId fun p => addAnswerCandidates p initKey answer) :=
      .other h.fromExists hsame
    exact ⟨hchange, h.update (h.consistent.change hchange) hsame.id
      (addAnswerCandidates_signalingState _ _ _)⟩
  have hlast : Makes f Inv (Answering initKey fromId)
      (modify fun s => s.update fromId fun p => { p with signalingState := .stable } :
        SessionEff τ ω Unit) fun _ => True :=
    modify_makes hf fun s h => ⟨.other h.fromExists ⟨rfl, rfl, fun j => rfl⟩, trivial⟩
  refine Eff.Triple.bind (hcandidates.pre fun s hs => hs ▸ ⟨hinv, hanswering⟩) fun _ => ?_
  exact (addAnswerMedias_makes hf).bind fun _ => hlast

end Operations

end Session

end Scallop
