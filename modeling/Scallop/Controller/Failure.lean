import Scallop.Controller.Signaling

/-!
# Failed signaling operations

What an operation that throws leaves behind.

* `OfferAddsNothing`, `AnswerAddsNothing` : the sections before the one that fails add nothing;
* `Op.LeavesNothing` : when a failed operation does not change the participants;
* `failed_unchanged_iff` : that is exact; `getOffer_failed_changes` : an operation that leaves a
  participant in `awaitAnswer`.
-/

namespace Scallop

namespace Transceiver

variable {t : Transceiver} {sdp : Sdp.SessionDescription} {c : Sdp.ICECandidate}

theorem updateICECandidates_eq_self (h : ∀ c ∈ descriptionCandidates sdp, c ∈ t.iceCandidates) :
    t.updateICECandidates sdp = t := by
  unfold updateICECandidates
  generalize descriptionCandidates sdp = cs at h ⊢
  induction cs with
  | nil => rfl
  | cons c cs ih =>
      have hc : t.hasICECandidate c = true := decide_eq_true (h c List.mem_cons_self)
      rw [List.foldl_cons, if_pos hc]
      exact ih fun c' hc' => h c' (List.mem_cons_of_mem _ hc')

theorem mem_updateICECandidates (hc : c ∈ descriptionCandidates sdp ∨ c ∈ t.iceCandidates) :
    c ∈ (t.updateICECandidates sdp).iceCandidates := by
  unfold updateICECandidates
  generalize descriptionCandidates sdp = cs at hc ⊢
  induction cs generalizing t with
  | nil => exact hc.resolve_left List.not_mem_nil
  | cons c' cs ih =>
      rw [List.foldl_cons]
      apply ih
      rcases hc with hc | hc
      · rcases List.mem_cons.mp hc with rfl | hc
        · right
          split
          · exact of_decide_eq_true ‹_›
          · exact List.mem_append_right _ List.mem_cons_self
        · exact .inl hc
      · right
        split
        · exact hc
        · exact List.mem_append_left _ hc

end Transceiver

namespace Session

/-! ## Offers -/

/-- The sections of an offer add no stream before one of them fails. -/
def OfferAddsNothing (s : Session) (fromId : Nat) : List Sdp.MediaDescription → Prop
  | [] => True
  | media :: medias =>
      if media.direction = some .sendonly then
        match media.mid with
        | none => True
        | some mid =>
            if (s.participant fromId).sendsStreamWithMid mid then OfferAddsNothing s fromId medias
            else ∃ e, s.newSendStream fromId media = .error e
      else OfferAddsNothing s fromId medias

section Offers
variable {τ ω : Type} {onNewStream : OnNewStream τ ω} {s : Session × τ} {fromId forId : Nat}
variable {e : Fault}

theorem participant_congr {s s' : Session} (h : s'.participants = s.participants) (id : Nat) :
    s'.participant id = s.participant id := by
  unfold participant
  rw [h]

/-- With a new stream the participant has more streams, however the rest ends. -/
theorem addOfferMedias_new_length {media : Sdp.MediaDescription} {medias : List Sdp.MediaDescription}
    {mid : String} {stream : Stream} (hdir : media.direction = some .sendonly)
    (hmid : media.mid = some mid) (hsent : ¬ (s.1.participant fromId).sendsStreamWithMid mid = true)
    (hnew : s.1.newSendStream fromId media = .ok stream) :
    (s.1.participant fromId).outgoingStreams.length <
      ((addOfferMedias onNewStream fromId (media :: medias) s).state.1.participant
        fromId).outgoingStreams.length := by
  let n := (s.1.participant fromId).outgoingStreams.length
  have hadd : ∀ (s₁ : Session) stream, n < (s₁.participant fromId).outgoingStreams.length →
      n < ((s₁.update fromId fun p => p.addOutgoingStream stream).participant
        fromId).outgoingStreams.length := by
    intro s₁ stream h
    rw [participant_update_self, Participant.outgoingStreams_addOutgoingStream, List.length_append]
    omega
  refine Eff.holds_bind (I := fun s' : Session × τ =>
    n < (s'.1.participant fromId).outgoingStreams.length) ?_ fun _ => addOfferMedias_keeps hadd
  rw [addOfferMedia_of_new hdir hmid hsent hnew]
  refine notify_keeps (P := fun s' => n < (s'.participant fromId).outgoingStreams.length) _ ?_
  show n < ((s.1.update fromId fun p => p.addOutgoingStream stream).participant
    fromId).outgoingStreams.length
  rw [participant_update_self, Participant.outgoingStreams_addOutgoingStream, List.length_append]
  exact Nat.lt_succ_self n

theorem addOfferMedias_unchanged_iff : ∀ {medias : List Sdp.MediaDescription},
    (addOfferMedias onNewStream fromId medias s).result = .error e →
      ((addOfferMedias onNewStream fromId medias s).state.1.participants = s.1.participants ↔
        OfferAddsNothing s.1 fromId medias)
  | [], herr => nomatch herr
  | media :: medias, herr => by
      unfold addOfferMedias at herr ⊢
      unfold OfferAddsNothing
      by_cases hdir : media.direction = some .sendonly
      · rw [if_pos hdir]
        cases hmid : media.mid with
        | none =>
            rw [Eff.bind_of_error (addOfferMedia_of_no_mid hdir hmid)]
            exact ⟨fun _ => trivial, fun _ => rfl⟩
        | some mid =>
            dsimp only
            by_cases hsent : (s.1.participant fromId).sendsStreamWithMid mid = true
            · rw [Eff.bind_of_ok (addOfferMedia_of_sent hdir hmid hsent)] at herr ⊢
              rw [if_pos hsent]
              exact addOfferMedias_unchanged_iff herr
            · rw [if_neg hsent]
              cases hnew : s.1.newSendStream fromId media with
              | error e' =>
                  rw [Eff.bind_of_error (addOfferMedia_of_error hdir hmid hsent hnew)]
                  exact ⟨fun _ => ⟨e', rfl⟩, fun _ => rfl⟩
              | ok stream =>
                  refine ⟨fun hsame => ?_, fun ⟨_, h⟩ => nomatch h⟩
                  have hlen := @addOfferMedias_new_length _ _ onNewStream _ _ _ medias _ _ hdir hmid
                    hsent hnew
                  unfold addOfferMedias at hlen
                  rw [participant_congr hsame] at hlen
                  exact absurd hlen (lt_irrefl _)
      · rw [Eff.bind_of_ok (addOfferMedia_of_direction hdir)] at herr ⊢
        rw [if_neg hdir]
        exact addOfferMedias_unchanged_iff herr

theorem addOffer_unchanged_iff {offer : Sdp.SessionDescription}
    (herr : (addOffer onNewStream fromId offer s).result = .error e) :
    (addOffer onNewStream fromId offer s).state.1.participants = s.1.participants ↔
      (s.1.participantExists fromId = true → ¬ s.1.signalingActive = true →
        (∀ c ∈ Transceiver.descriptionCandidates offer,
          c ∈ (s.1.participant fromId).sender.iceCandidates) ∧
        OfferAddsNothing s.1 fromId offer.mediaDescriptions) := by
  unfold addOffer at herr ⊢
  rw [Eff.get_bind_run] at herr ⊢
  by_cases hexists : s.1.participantExists fromId = true
  · rw [Eff.require_pos hexists, Eff.pure_bind] at herr ⊢
    by_cases hactive : s.1.signalingActive = true
    · rw [Eff.require_neg (not_not.mpr hactive), Eff.throw_bind_run]
      exact ⟨fun _ _ h => absurd hactive h, fun _ => rfl⟩
    · rw [Eff.require_pos hactive, Eff.pure_bind] at herr ⊢
      let s₁ : Session × τ := (s.1.update fromId fun p =>
        { p with sender := p.sender.updateICECandidates offer }, s.2)
      change (((addOfferMedias onNewStream fromId offer.mediaDescriptions) >>= _) s₁).result = _
        at herr
      show (((addOfferMedias onNewStream fromId offer.mediaDescriptions) >>= _) s₁).state.1.participants
        = _ ↔ _
      obtain ⟨herr, hstate⟩ := Eff.bind_error_left (fun _ _ => ⟨(), rfl⟩) herr
      rw [hstate]
      let known : Session → Prop := fun s' => ∀ c ∈ Transceiver.descriptionCandidates offer,
        c ∈ (s'.participant fromId).sender.iceCandidates
      have hknown : known (addOfferMedias onNewStream fromId offer.mediaDescriptions s₁).state.1 := by
        refine addOfferMedias_keeps (P := known) ?_ s₁ ?_
        · intro s' stream h c hc
          rw [participant_update_self]
          exact h c hc
        · intro c hc
          show c ∈ ((s.1.update fromId _).participant fromId).sender.iceCandidates
          rw [participant_update_self]
          exact Transceiver.mem_updateICECandidates (.inl hc)
      have hsame : known s.1 → s₁ = s := by
        intro h
        have hself : s.1.update fromId (fun p =>
            { p with sender := p.sender.updateICECandidates offer }) = s.1 := by
          apply update_eq_self hexists
          rw [Transceiver.updateICECandidates_eq_self h]
        exact Prod.ext hself rfl
      constructor
      · intro hparticipants _ _
        have h : known s.1 := by
          intro c hc
          rw [← participant_congr hparticipants]
          exact hknown c hc
        refine ⟨h, ?_⟩
        rw [hsame h] at herr hparticipants
        exact (addOfferMedias_unchanged_iff herr).mp hparticipants
      · intro h
        obtain ⟨h, hadds⟩ := h hexists hactive
        rw [hsame h] at herr ⊢
        exact (addOfferMedias_unchanged_iff herr).mpr hadds
  · rw [Eff.require_neg hexists, Eff.throw_bind_run]
    exact ⟨fun _ h => absurd h hexists, fun _ => rfl⟩

theorem getOffer_unchanged_iff :
    (getOffer forId s : Outcome _ ω _ _).state.1.participants = s.1.participants ↔
      (s.1.participantExists forId = true →
        (s.1.participant forId).signalingState = .awaitAnswer) := by
  unfold getOffer
  rw [Eff.get_bind_run]
  by_cases hexists : s.1.participantExists forId = true
  · rw [Eff.require_pos hexists, Eff.pure_bind]
    let s₁ : Session × τ := (s.1.update forId fun p =>
      { p with signalingState := .awaitAnswer }, s.2)
    have hkeeps : Eff.Keeps (fun s' : Session × τ => s' = s₁) (do
        let s ← Eff.get
        let initPartId ← Eff.ofExcept (s.1.participantInState .gotOffer)
        let initPart ← Eff.ofExcept (s.1.getParticipant initPartId)
        let medias ← Eff.ofExcept
          (initPart.outgoingStreams.mapM (forwardedMedia s.1.sfuConfig .sendonly))
        return addMedia s.1.sfuConfig.sessionTemplate medias : SessionEff τ ω _) :=
      Eff.keeps_get_bind fun _ => (Eff.keeps_ofExcept _).bind fun _ =>
        (Eff.keeps_ofExcept _).bind fun _ => (Eff.keeps_ofExcept _).bind fun _ => Eff.keeps_pure _
    unfold modify
    rw [Eff.modify_bind_run, hkeeps s₁ rfl]
    constructor
    · intro hparticipants _
      rw [← participant_congr hparticipants]
      show ((s.1.update forId _).participant forId).signalingState = _
      rw [participant_update_self]
    · intro h
      have hself : s.1.update forId (fun p => { p with signalingState := .awaitAnswer }) = s.1 := by
        apply update_eq_self hexists
        rw [← h hexists]
      show (s.1.update forId _).participants = _
      rw [hself]
  · rw [Eff.require_neg hexists, Eff.throw_bind_run]
    exact ⟨fun _ h => absurd h hexists, fun _ => rfl⟩

end Offers

/-! ## Answers -/

def AnswerAddsNothing (s : Session) (initKey offerId fromId : Nat) :
    List Sdp.MediaDescription → Prop
  | [] => True
  | media :: medias =>
      match media.mid with
      | none => True
      | some mid =>
          match s.sendSSRCs initKey mid with
          | .error _ => True
          | .ok ssrcs => offerId ∈ (s.participant fromId).receivers ∧
              match s.newReceiveStream offerId fromId media ssrcs with
              | .error _ => True
              | .ok _ => ((s.participant fromId).receiver offerId).hasStreamWithMid mid ∧
                  AnswerAddsNothing s initKey offerId fromId medias

section Answers
variable {τ ω : Type} {onNewStream : OnNewStream τ ω} {s : Session × τ} {fromId forId : Nat}
variable {initKey offerId : Nat} {e : Fault}

theorem touchReceiver_eq_self {s : Session} (hexists : s.participantExists fromId = true)
    (hmem : offerId ∈ (s.participant fromId).receivers) : s.touchReceiver offerId fromId = s :=
  update_eq_self hexists (Participant.updateReceiver_eq_self hmem rfl)

theorem mem_receivers_touchReceiver {s : Session} :
    offerId ∈ ((s.touchReceiver offerId fromId).participant fromId).receivers := by
  unfold touchReceiver
  rw [participant_update_self]
  exact Std.ExtTreeMap.mem_insert_self

theorem mem_receivers_of_hasStreamWithMid {p : Participant} {mid : String}
    (h : (p.receiver offerId).hasStreamWithMid mid = true) : offerId ∈ p.receivers := by
  by_contra hmem
  unfold Participant.receiver at h
  rw [Std.ExtTreeMap.getD_eq_fallback hmem] at h
  exact nomatch h

/-- With a new stream the receiver has more streams, however the rest ends. -/
theorem addAnswerMedias_new_length {media : Sdp.MediaDescription}
    {medias : List Sdp.MediaDescription} {mid : String} {ssrcs : Sdp.SSRCDescription}
    {stream : Stream} (hmid : media.mid = some mid)
    (hssrcs : s.1.sendSSRCs initKey mid = .ok ssrcs)
    (hnew : s.1.newReceiveStream offerId fromId media ssrcs = .ok stream)
    (hreceived : ¬ ((s.1.participant fromId).receiver offerId).hasStreamWithMid mid = true) :
    ((s.1.participant fromId).receiver offerId).streams.length <
      (((addAnswerMedias onNewStream initKey offerId fromId (media :: medias) s).state.1.participant
        fromId).receiver offerId).streams.length := by
  let n := ((s.1.participant fromId).receiver offerId).streams.length
  let Grown (s' : Session) : Prop := n < ((s'.participant fromId).receiver offerId).streams.length
  have htouch : ∀ s' : Session, Grown s' → Grown (s'.touchReceiver offerId fromId) := by
    intro s' h
    show n < (((s'.update fromId _).participant fromId).receiver offerId).streams.length
    rw [participant_update_self, Participant.receiver_updateReceiver_self]
    exact h
  have hlen : ∀ (s' : Session) stream,
      (((s'.update fromId fun p => p.updateReceiver offerId fun r =>
        r.addStream stream).participant fromId).receiver offerId).streams.length =
        ((s'.participant fromId).receiver offerId).streams.length + 1 := by
    intro s' stream
    rw [participant_update_self, Participant.receiver_updateReceiver_self]
    exact List.length_append
  have hadd : ∀ (s' : Session) stream, Grown s' →
      Grown (s'.update fromId fun p => p.updateReceiver offerId fun r => r.addStream stream) :=
    fun s' stream h => h.trans (by rw [hlen]; exact Nat.lt_succ_self _)
  refine Eff.holds_bind (I := fun s' : Session × τ => Grown s'.1) ?_
    fun _ => addAnswerMedias_keeps htouch hadd
  rw [addAnswerMedia_of_new hmid hssrcs hnew hreceived]
  refine notify_keeps (P := Grown) _ ?_
  show n < _
  rw [hlen]
  show n < (((s.1.update fromId _).participant fromId).receiver offerId).streams.length + 1
  rw [participant_update_self, Participant.receiver_updateReceiver_self]
  exact Nat.lt_succ_self n

theorem addAnswerMedias_unchanged_iff (hexists : s.1.participantExists fromId = true) :
    ∀ {medias : List Sdp.MediaDescription},
      (addAnswerMedias onNewStream initKey offerId fromId medias s).result = .error e →
        ((addAnswerMedias onNewStream initKey offerId fromId medias s).state.1.participants =
          s.1.participants ↔ AnswerAddsNothing s.1 initKey offerId fromId medias)
  | [], herr => nomatch herr
  | media :: medias, herr => by
      have htouch : (s.1.touchReceiver offerId fromId).participants = s.1.participants →
          offerId ∈ (s.1.participant fromId).receivers := by
        intro h
        rw [← participant_congr h]
        exact mem_receivers_touchReceiver
      unfold addAnswerMedias at herr ⊢
      unfold AnswerAddsNothing
      cases hmid : media.mid with
      | none =>
          rw [Eff.bind_of_error (addAnswerMedia_of_no_mid hmid)]
          exact ⟨fun _ => trivial, fun _ => rfl⟩
      | some mid =>
          dsimp only
          cases hssrcs : s.1.sendSSRCs initKey mid with
          | error e' =>
              rw [Eff.bind_of_error (addAnswerMedia_of_unknown hmid hssrcs)]
              exact ⟨fun _ => trivial, fun _ => rfl⟩
          | ok ssrcs =>
              dsimp only
              cases hnew : s.1.newReceiveStream offerId fromId media ssrcs with
              | error e' =>
                  rw [Eff.bind_of_error (addAnswerMedia_of_error hmid hssrcs hnew)]
                  refine ⟨fun h => ⟨htouch h, trivial⟩, fun h => ?_⟩
                  dsimp only
                  rw [touchReceiver_eq_self hexists h.1]
              | ok stream =>
                  by_cases hreceived :
                      ((s.1.participant fromId).receiver offerId).hasStreamWithMid mid = true
                  · have hmem := mem_receivers_of_hasStreamWithMid hreceived
                    have hrun := @addAnswerMedia_of_received _ _ onNewStream _ _ _ _ _ _ _ _ hmid
                      hssrcs hnew hreceived
                    rw [touchReceiver_eq_self hexists hmem] at hrun
                    rw [Eff.bind_of_ok hrun] at herr ⊢
                    have ih := addAnswerMedias_unchanged_iff hexists herr
                    exact ⟨fun h => ⟨hmem, hreceived, ih.mp h⟩, fun h => ih.mpr h.2.2⟩
                  · refine ⟨fun hsame => ?_, fun h => absurd h.2.1 hreceived⟩
                    have hlen := @addAnswerMedias_new_length _ _ onNewStream _ _ _ _ _ medias _ _ _
                      hmid hssrcs hnew hreceived
                    unfold addAnswerMedias at hlen
                    rw [participant_congr hsame] at hlen
                    exact absurd hlen (lt_irrefl _)

theorem addAnswerCandidates_iceCandidates (p : Participant) (answer : Sdp.SessionDescription) :
    ((addAnswerCandidates p offerId answer).receiver offerId).iceCandidates =
      (p.receiver offerId).iceCandidates ++ Transceiver.descriptionCandidates answer := by
  unfold addAnswerCandidates
  induction Transceiver.descriptionCandidates answer generalizing p with
  | nil => exact (List.append_nil _).symm
  | cons c cs ih =>
      rw [List.foldl_cons, ih, Participant.receiver_updateReceiver_self]
      exact (List.append_cons _ c cs).symm

/-- What `addAnswer` does with an answer that is awaited. -/
def addAwaitedAnswer (onNewStream : OnNewStream τ ω) (initKey offerId fromId : Nat)
    (answer : Sdp.SessionDescription) : SessionEff τ ω Unit := do
  modify fun s => s.update fromId fun p => addAnswerCandidates p offerId answer
  addAnswerMedias onNewStream initKey offerId fromId answer.mediaDescriptions
  modify fun s => s.update fromId fun p => { p with signalingState := .stable }

theorem addAwaitedAnswer_unchanged_iff {answer : Sdp.SessionDescription}
    (hexists : s.1.participantExists fromId = true)
    (herr : (addAwaitedAnswer onNewStream initKey offerId fromId answer s).result = .error e) :
    (addAwaitedAnswer onNewStream initKey offerId fromId answer s).state.1.participants =
      s.1.participants ↔ Transceiver.descriptionCandidates answer = [] ∧
        AnswerAddsNothing s.1 initKey offerId fromId answer.mediaDescriptions := by
  let s₁ : Session × τ := (s.1.update fromId fun p => addAnswerCandidates p offerId answer, s.2)
  change ((addAnswerMedias onNewStream initKey offerId fromId answer.mediaDescriptions >>= _)
    s₁).result = _ at herr
  show ((addAnswerMedias onNewStream initKey offerId fromId answer.mediaDescriptions >>= _)
    s₁).state.1.participants = _ ↔ _
  obtain ⟨herr, hstate⟩ := Eff.bind_error_left (fun _ _ => ⟨(), rfl⟩) herr
  rw [hstate]
  let candidates := ((s.1.participant fromId).receiver offerId).iceCandidates ++
    Transceiver.descriptionCandidates answer
  let Known (s' : Session) : Prop :=
    ((s'.participant fromId).receiver offerId).iceCandidates = candidates
  have hknown : Known (addAnswerMedias onNewStream initKey offerId fromId
      answer.mediaDescriptions s₁).state.1 := by
    refine addAnswerMedias_keeps (P := Known) ?_ ?_ s₁ ?_
    · intro s' h
      show (((s'.update fromId _).participant fromId).receiver offerId).iceCandidates = candidates
      rw [participant_update_self, Participant.receiver_updateReceiver_self]
      exact h
    · intro s' stream h
      show (((s'.update fromId _).participant fromId).receiver offerId).iceCandidates = candidates
      rw [participant_update_self, Participant.receiver_updateReceiver_self]
      exact h
    · show (((s.1.update fromId _).participant fromId).receiver offerId).iceCandidates = candidates
      rw [participant_update_self]
      exact addAnswerCandidates_iceCandidates _ answer
  have hsame : Transceiver.descriptionCandidates answer = [] → s₁ = s := by
    intro h
    refine Prod.ext ?_ rfl
    show s.1.update fromId (fun p => addAnswerCandidates p offerId answer) = s.1
    apply update_eq_self hexists
    unfold addAnswerCandidates
    rw [h]
    rfl
  constructor
  · intro hparticipants
    have hnil : Transceiver.descriptionCandidates answer = [] := by
      have h : ((s.1.participant fromId).receiver offerId).iceCandidates = candidates := by
        rw [← participant_congr hparticipants]
        exact hknown
      exact List.self_eq_append_right.mp h
    rw [hsame hnil] at herr hparticipants
    exact ⟨hnil, (addAnswerMedias_unchanged_iff hexists herr).mp hparticipants⟩
  · rintro ⟨hnil, hadds⟩
    rw [hsame hnil] at herr ⊢
    exact (addAnswerMedias_unchanged_iff hexists herr).mpr hadds

/-- An answer of a participant that is there, to one that is there. -/
theorem addAnswer_run {answer : Sdp.SessionDescription}
    (hinit : s.1.participantInState .gotOffer = .ok initKey)
    (hinitKey : s.1.participantExists initKey = true)
    (hfrom : s.1.participantExists fromId = true) :
    addAnswer onNewStream fromId answer s = (do
      Eff.require ((s.1.participant fromId).signalingState = .awaitAnswer)
        (.logicError "Session: addAnswer: unexpected answer")
      addAwaitedAnswer onNewStream initKey (s.1.participant initKey).id fromId answer :
        SessionEff τ ω Unit) s := by
  let rest (s : Session × τ) : Outcome (Session × τ) ω Fault Unit := (do
    Eff.require ((s.1.participant fromId).signalingState = .awaitAnswer)
      (.logicError "Session: addAnswer: unexpected answer")
    addAwaitedAnswer onNewStream initKey (s.1.participant initKey).id fromId answer :
      SessionEff τ ω Unit) s
  have hrest : addAnswer onNewStream fromId answer s =
      rest ((s.1.update initKey fun p => p).update fromId fun p => p, s.2) := by
    unfold addAnswer
    rw [Eff.get_bind_run, hinit]
    rfl
  have hsame : (s.1.update initKey fun p => p).update fromId (fun p => p) = s.1 := by
    rw [update_eq_self hinitKey rfl, update_eq_self hfrom rfl]
  rw [hrest, hsame]

theorem addAnswer_exists {answer : Sdp.SessionDescription} {k : Nat}
    (hinit : s.1.participantInState .gotOffer = .ok initKey) (hk : k = initKey ∨ k = fromId) :
    (addAnswer onNewStream fromId answer s).state.1.participantExists k = true := by
  have hupdate : ∀ (s' : Session) id f, s'.participantExists k = true →
      (s'.update id f).participantExists k = true :=
    fun s' id f h => participantExists_update.mpr (.inr h)
  unfold addAnswer
  rw [Eff.get_bind_run, hinit, Eff.ofExcept_ok_bind]
  unfold modify
  rw [Eff.modify_bind_run]
  refine Eff.keeps_get_bind (I := fun s' : Session × τ => s'.1.participantExists k = true)
    (fun s' => ?_) _ ?_
  · refine Eff.keeps_require_bind fun _ => ?_
    refine Eff.Keeps.bind (Eff.keeps_modify fun s' h => hupdate s'.1 _ _ h) fun _ => ?_
    exact (addAnswerMedias_keeps (P := fun s' => s'.participantExists k = true)
      (fun s' h => hupdate s' _ _ h) fun s' _ h => hupdate s' _ _ h).bind fun _ =>
      Eff.keeps_modify fun s' h => hupdate s'.1 _ _ h
  · rcases hk with rfl | rfl
    · exact hupdate _ _ _ (participantExists_update.mpr (.inl rfl))
    · exact participantExists_update.mpr (.inl rfl)

theorem addAnswer_unchanged_iff {answer : Sdp.SessionDescription}
    (herr : (addAnswer onNewStream fromId answer s).result = .error e) :
    (addAnswer onNewStream fromId answer s).state.1.participants = s.1.participants ↔
      ∀ initKey, s.1.participantInState .gotOffer = .ok initKey →
        s.1.participantExists initKey = true ∧ s.1.participantExists fromId = true ∧
        ((s.1.participant fromId).signalingState = .awaitAnswer →
          Transceiver.descriptionCandidates answer = [] ∧
          AnswerAddsNothing s.1 initKey (s.1.participant initKey).id fromId
            answer.mediaDescriptions) := by
  cases hinit : s.1.participantInState .gotOffer with
  | error e' =>
      unfold addAnswer
      rw [Eff.get_bind_run, hinit, Eff.ofExcept_error_bind_run]
      exact ⟨fun _ _ h => (nomatch h), fun _ => rfl⟩
  | ok initKey =>
      constructor
      · intro hparticipants initKey' hinit'
        obtain rfl := Except.ok.inj hinit'
        have hback : ∀ k, k = initKey ∨ k = fromId → s.1.participantExists k = true := by
          intro k hk
          have h := @addAnswer_exists _ _ onNewStream _ _ _ answer _ hinit hk
          unfold participantExists at h ⊢
          rwa [hparticipants] at h
        have hinitKey := hback initKey (.inl rfl)
        have hfrom := hback fromId (.inr rfl)
        refine ⟨hinitKey, hfrom, fun hstate => ?_⟩
        rw [addAnswer_run hinit hinitKey hfrom, Eff.require_pos hstate, Eff.pure_bind]
          at herr hparticipants
        exact (addAwaitedAnswer_unchanged_iff hfrom herr).mp hparticipants
      · intro h
        obtain ⟨hinitKey, hfrom, h⟩ := h initKey rfl
        rw [addAnswer_run hinit hinitKey hfrom] at herr ⊢
        by_cases hstate : (s.1.participant fromId).signalingState = .awaitAnswer
        · rw [Eff.require_pos hstate, Eff.pure_bind] at herr ⊢
          exact (addAwaitedAnswer_unchanged_iff hfrom herr).mpr (h hstate)
        · rw [Eff.require_neg hstate, Eff.throw_bind_run]

theorem getAnswer_unchanged (herr : (getAnswer forId s : Outcome _ ω _ _).result = .error e) :
    (getAnswer forId s : Outcome _ ω _ _).state = s := by
  have h : Eff.Triple (· = s) (getAnswer forId : SessionEff τ ω _) (fun _ _ => True)
      fun _ s' => s' = s := by
    unfold getAnswer
    refine Eff.triple_get_bind fun s₀ h₀ => ?_
    refine Eff.triple_require_bind (fun _ => ?_) fun _ _ hs => hs.trans h₀
    refine Eff.triple_require_bind (fun _ => ?_) fun _ _ hs => hs.trans h₀
    refine Eff.Triple.bind (R := fun _ _ => True) (Eff.triple_ofExcept (fun _ _ _ _ => trivial)
      fun _ _ _ hs => hs.trans h₀) fun _ => ?_
    exact Eff.Triple.bind (R := fun _ _ => True) (Eff.triple_modify fun _ _ => trivial) fun _ =>
      Eff.triple_pure fun _ _ => trivial
  exact h.throws rfl herr

end Answers

/-! ## All operations -/

/-- When an operation that fails does not change the participants. -/
def Op.LeavesNothing (s : Session) : Op → Prop
  | .addParticipant _ _ => True
  | .removeParticipant _ => True
  | .addOffer fromId offer =>
      s.participantExists fromId = true → ¬ s.signalingActive = true →
        (∀ c ∈ Transceiver.descriptionCandidates offer,
          c ∈ (s.participant fromId).sender.iceCandidates) ∧
        OfferAddsNothing s fromId offer.mediaDescriptions
  | .getOffer forId =>
      s.participantExists forId = true → (s.participant forId).signalingState = .awaitAnswer
  | .addAnswer fromId answer =>
      ∀ initKey, s.participantInState .gotOffer = .ok initKey →
        s.participantExists initKey = true ∧ s.participantExists fromId = true ∧
        ((s.participant fromId).signalingState = .awaitAnswer →
          Transceiver.descriptionCandidates answer = [] ∧
          AnswerAddsNothing s initKey (s.participant initKey).id fromId answer.mediaDescriptions)
  | .getAnswer _ => True

section Operations
variable {τ ω : Type} (onNewStream : OnNewStream τ ω)

theorem addParticipant_unchanged {s : Session × τ} {ip : String} {port : UInt16} {e : Fault}
    (herr : (addParticipant ip port s : Outcome _ ω _ _).result = .error e) :
    (addParticipant ip port s : Outcome _ ω _ _).state.1.participants = s.1.participants := by
  have h : Eff.Triple (fun s' : Session × τ => s'.1.participants = s.1.participants)
      (addParticipant ip port : SessionEff τ ω Nat) (fun _ _ => True)
      fun _ s' => s'.1.participants = s.1.participants := by
    unfold addParticipant
    refine Eff.triple_get_bind fun s₀ h₀ => ?_
    refine Eff.triple_require_bind (fun _ => ?_) fun _ _ hs => hs ▸ h₀
    refine Eff.Triple.bind (R := fun _ s' => s'.1.participants = s.1.participants)
      (Eff.triple_modify fun s' hs => hs ▸ h₀) fun _ => ?_
    refine Eff.triple_require_bind (fun _ => ?_) fun _ _ hs => hs
    exact Eff.Triple.bind (R := fun _ _ => True) (Eff.triple_modify fun _ _ => trivial) fun _ =>
      Eff.triple_pure fun _ _ => trivial
  exact h.throws rfl herr

theorem removeParticipant_unchanged {s : Session × τ} {id : Nat} {e : Fault}
    (herr : (removeParticipant id s : Outcome _ ω _ _).result = .error e) :
    (removeParticipant id s : Outcome _ ω _ _).state = s := by
  unfold removeParticipant at herr ⊢
  rw [Eff.get_bind_run] at herr ⊢
  by_cases hexists : s.1.participantExists id = true
  · rw [Eff.require_pos hexists] at herr
    exact nomatch herr
  · rw [Eff.require_neg hexists, Eff.throw_bind_run]

/-- **Failed operations.** An operation that throws leaves the participants as they were just when it
had changed nothing before: no new candidate, no new stream, no other state and no new participant. -/
theorem failed_unchanged_iff (s : Session × τ) (op : Op) {e : Fault}
    (herr : (step onNewStream s op).2.2 = .error e) :
    (step onNewStream s op).1.1.participants = s.1.participants ↔ op.LeavesNothing s.1 := by
  have hval : ∀ {α : Type} {m : SessionEff τ ω α},
      ((m >>= fun _ => pure () : SessionEff τ ω Unit) s).result = .error e →
        (m s).result = .error e ∧
          ((m >>= fun _ => pure () : SessionEff τ ω Unit) s).state = (m s).state :=
    fun h => Eff.bind_error_left (fun _ _ => ⟨(), rfl⟩) h
  cases op with
  | addParticipant ip port =>
      obtain ⟨herr, hstate⟩ := hval herr
      refine ⟨fun _ => trivial, fun _ => ?_⟩
      exact (congrArg (fun s => s.1.participants) hstate).trans (addParticipant_unchanged herr)
  | removeParticipant id =>
      refine ⟨fun _ => trivial, fun _ => ?_⟩
      show (Session.removeParticipant id s : Outcome _ ω _ _).state.1.participants = _
      rw [removeParticipant_unchanged herr]
  | addOffer fromId offer => exact addOffer_unchanged_iff herr
  | getOffer forId =>
      obtain ⟨-, hstate⟩ := hval herr
      have hparticipants := congrArg (fun s => s.1.participants) hstate
      exact ⟨fun h => getOffer_unchanged_iff.mp (hparticipants.symm.trans h),
        fun h => hparticipants.trans (getOffer_unchanged_iff.mpr h)⟩
  | addAnswer fromId answer => exact addAnswer_unchanged_iff herr
  | getAnswer forId =>
      obtain ⟨herr, hstate⟩ := hval herr
      refine ⟨fun _ => trivial, fun _ => ?_⟩
      exact congrArg (fun s => s.1.participants) (hstate.trans (getAnswer_unchanged herr))

end Operations

/-- A session with one participant, in a state. -/
def sessionOfOne (state : SignalingState) : Session where
  id := 0
  sfuConfig := SFUConfig.of "1.2.3.4" 3202 "7Ad/" "UKZe/aYNEouGzQUhChnKGiIS" ⟨0, 0⟩
  nextParticipantId := 1
  participants := (∅ : Std.ExtTreeMap Nat Participant).insert 1
    { id := 1, controlIp := "127.0.0.1", controlPort := 49222, signalingState := state }

/-- The answer of a stranger is unexpected, but the stranger stays. -/
theorem failed_unchanged_iff_stranger :
    let s := (sessionOfOne .gotOffer, ())
    let s' := (step (none : OnNewStream Unit Unit) s (.addAnswer 2 {})).1
    s'.1.participants ≠ s.1.participants := by
  intro s s'
  have hop : ¬ (Op.addAnswer 2 {}).LeavesNothing s.1 :=
    fun h => absurd (h 1 rfl).2.1 (by decide)
  exact (failed_unchanged_iff none s (.addAnswer 2 {}) rfl).not.mpr hop

/-- Asked for an offer that nobody made, the session throws, and still awaits an answer. -/
theorem getOffer_failed_changes :
    let s := (sessionOfOne .stable, ())
    let out := step (none : OnNewStream Unit Unit) s (.getOffer 1)
    out.2.2 = .error (.logicError "Session: participantInState: no participants in state") ∧
      out.1.1.participants ≠ s.1.participants := by
  intro s out
  refine ⟨rfl, fun h => ?_⟩
  exact absurd (congrArg Participant.signalingState (participant_congr h 1)) (by decide)

end Session

end Scallop
