import Scallop.Controller.Receivers

/-!
# Who is served

What the operations of a session do for the participants that are to receive the streams of another one.

* `Served.await`, `Served.settle`, `Served.erase` : changes of the roles;
* `Extends`, `Holds` : what an answer changes, and what its sections give; `addAnswer_holds`;
* `Ready` : between events; `Covered` : an answer with all sections;
* `addOffer_matched`, `getOffer_leads`, `addAnswer_ready`, `getAnswer_ready`, `Ready.joined`, `Ready.erase` : the
  operations; `Ready.connected` : once nobody is awaited;
* `addAnswer_silent`, `getAnswer_silent` : they write nothing.
-/

namespace Scallop

namespace Session

/-! ## Who is served -/

section Served
variable {s s' : Session} {id init k : Nat} {state : SignalingState}

theorem sameSession_setState (h : s.participantExists id = true) : SameSession s (s.setState id state) :=
  sameSession_update h ⟨rfl, rfl, fun _ => rfl⟩

/-- An exception less, since it is awaited now. -/
theorem Served.await {ids : List Nat} (h : s.Served (id :: ids)) (hexists : s.participantExists id = true) :
    (s.setState id .awaitAnswer).Served ids := by
  intro init hinit k hne hk
  have hsame : SameSession s (s.setState id .awaitAnswer) := sameSession_setState hexists
  rw [roles_setState] at hinit ⊢
  rw [hsame.covers]
  by_cases heq : k = id
  · rw [heq, Function.update_self]
    exact .inr (.inl rfl)
  · rw [Function.update_of_ne heq]
    refine (h init (Roles.gotOffer_of_update (by decide) hinit) k hne ((hsame.exists_iff k).mp hk)).imp_left
      fun hmem => ?_
    exact (List.mem_cons.mp hmem).resolve_left heq

theorem Served.settle {ids : List Nat} (h : s.Served ids) (hrole : s.roles id = some .gotOffer) :
    (s.setState id .stable).Served ids := by
  intro init hinit k hne hk
  have hexists : s.participantExists id = true := by
    rw [← roles_isSome_iff, hrole]
    rfl
  have hsame : SameSession s (s.setState id .stable) := sameSession_setState hexists
  rw [roles_setState] at hinit ⊢
  rw [hsame.covers]
  have hserved := h init (Roles.gotOffer_of_update (by decide) hinit) k hne ((hsame.exists_iff k).mp hk)
  refine hserved.imp_right (Or.imp_left fun hk' => ?_)
  rw [Function.update_of_ne, hk']
  rintro rfl
  exact nomatch hrole.symm.trans hk'

theorem served_keys : s.Served s.participants.keys :=
  fun _ _ _ _ hk => .inl (Std.ExtTreeMap.mem_keys.mpr (Std.ExtTreeMap.contains_iff_mem.mp hk))

theorem Served.erase (h : s.Served []) (id : Nat) : (s.erase id).Served [] := by
  intro init hinit k hne hk
  obtain ⟨hkid, hk⟩ := participantExists_erase.mp hk
  have hroles : (s.erase id).roles = Function.update s.roles id none := roles_erase s id
  rw [hroles] at hinit ⊢
  have hinitId : init ≠ id := by
    rintro rfl
    rw [Function.update_self] at hinit
    exact nomatch hinit
  rw [Function.update_of_ne hinitId] at hinit
  rw [Function.update_of_ne hkid]
  unfold Covers
  rw [participant_erase_of_ne hinitId, participant_erase_of_ne hkid]
  exact h init hinit k hne hk

theorem Connected.setState (h : s.Connected init) (hexists : s.participantExists id = true) :
    (s.setState id state).Connected init := by
  have hsame : SameSession s (s.setState id state) := sameSession_setState hexists
  intro k hne hk sent hsent
  rw [(hsame.participants init).sent] at hsent
  rw [(hsame.participants k).received]
  exact h k hne ((hsame.exists_iff k).mp hk) sent hsent

end Served

/-! ## Answers -/

/-- An answer of `id` to `init` leaves the other participants alone, and what `id` sends and receives. -/
structure Extends (s₀ : Session) (init id : Nat) (s : Session) : Prop where
  exists_iff : ∀ k, s.participantExists k = true ↔ s₀.participantExists k = true
  others : ∀ k, k ≠ id → s.participant k = s₀.participant k
  received : ∀ mid, ((s₀.participant id).receiver init).hasStreamWithMid mid = true →
    ((s.participant id).receiver init).hasStreamWithMid mid = true

def Holds (init id : Nat) (media : Sdp.MediaDescription) (s : Session) : Prop :=
  ∃ mid, media.mid = some mid ∧ ((s.participant id).receiver init).hasStreamWithMid mid = true

section Answers
variable {τ ω : Type} {onNewStream : OnNewStream τ ω} {s₀ s : Session} {init initKey id : Nat}
variable {media : Sdp.MediaDescription}

theorem Extends.update {f : Participant → Participant} (h : s₀.Extends init id s)
    (hexists : s₀.participantExists id = true)
    (hf : ∀ mid, ((s.participant id).receiver init).hasStreamWithMid mid = true →
      ((f (s.participant id)).receiver init).hasStreamWithMid mid = true) :
    s₀.Extends init id (s.update id f) where
  exists_iff k := (participantExists_update_of_exists ((h.exists_iff id).mpr hexists)).trans
    (h.exists_iff k)
  others k hk := by rw [participant_update_of_ne hk, h.others k hk]
  received mid hmid := by
    rw [participant_update_self]
    exact hf mid (h.received mid hmid)

theorem hasStreamWithMid_addStream {t : Transceiver} {stream : Stream} {mid : String} :
    (t.addStream stream).hasStreamWithMid mid = true ↔
      t.hasStreamWithMid mid = true ∨ stream.HasMid mid := by
  rw [Transceiver.hasStreamWithMid_addStream, Bool.or_eq_true, decide_eq_true_eq]

theorem extends_addStream {stream : Stream} (h : s₀.Extends init id s)
    (hexists : s₀.participantExists id = true) :
    s₀.Extends init id (s.update id fun p => p.updateReceiver init fun r => r.addStream stream) := by
  refine h.update hexists fun mid hmid => ?_
  rw [Participant.receiver_updateReceiver_self, hasStreamWithMid_addStream]
  exact .inl hmid

theorem extends_touchReceiver (h : s₀.Extends init id s) (hexists : s₀.participantExists id = true) :
    s₀.Extends init id (s.touchReceiver init id) := by
  refine h.update hexists fun mid hmid => ?_
  rw [Participant.receiver_updateReceiver_self]
  exact hmid

theorem holds_touchReceiver (h : Holds init id media s) : Holds init id media (s.touchReceiver init id) := by
  obtain ⟨mid, hmedia, hmid⟩ := h
  refine ⟨mid, hmedia, ?_⟩
  unfold touchReceiver
  rw [participant_update_self, Participant.receiver_updateReceiver_self]
  exact hmid

theorem holds_addStream {stream : Stream} (h : Holds init id media s) :
    Holds init id media (s.update id fun p => p.updateReceiver init fun r => r.addStream stream) := by
  obtain ⟨mid, hmedia, hmid⟩ := h
  refine ⟨mid, hmedia, ?_⟩
  rw [participant_update_self, Participant.receiver_updateReceiver_self, hasStreamWithMid_addStream]
  exact .inl hmid

theorem addAnswerMedia_holds (hexists : s₀.participantExists id = true) :
    Triple (s₀.Extends init id) (addAnswerMedia onNewStream initKey init id media)
      (fun _ s => s₀.Extends init id s ∧ Holds init id media s) fun _ _ => True := by
  unfold addAnswerMedia
  split
  · exact Eff.triple_throw fun _ _ => trivial
  · rename_i mid hmid
    refine Eff.triple_get_bind fun s₁ h₁ => ?_
    refine Eff.Triple.bind (R := fun _ s => s₀.Extends init id s.1)
      (Eff.triple_ofExcept (fun _ _ _ hs => hs ▸ h₁) fun _ _ _ _ => trivial) fun ssrcs => ?_
    refine Eff.Triple.bind (R := fun _ s => s₀.Extends init id s.1)
      (Eff.triple_modify fun s h => extends_touchReceiver h hexists) fun _ => ?_
    refine Eff.triple_get_bind fun s₂ h₂ => ?_
    refine Eff.Triple.bind (R := fun stream s => s = s₂ ∧ stream.HasMid mid)
      (Eff.triple_ofExcept (fun stream s hnew hs => ⟨hs, (newReceiveStream_mid hnew).trans hmid⟩)
        fun _ _ _ _ => trivial) fun stream => Eff.triple_intro ?_
    rintro s ⟨rfl, hstream⟩
    split
    · rename_i hreceived
      exact Eff.triple_pure fun s hs => hs ▸ ⟨h₂, mid, hmid, hreceived⟩
    · let s₃ := s.1.update id fun p => p.updateReceiver init fun r => r.addStream stream
      have h₃ : s₀.Extends init id s₃ ∧ Holds init id media s₃ := by
        refine ⟨extends_addStream h₂ hexists, mid, hmid, ?_⟩
        rw [participant_update_self, Participant.receiver_updateReceiver_self,
          hasStreamWithMid_addStream]
        exact .inr hstream
      refine Eff.Triple.bind (R := fun _ s' => s'.1 = s₃) (Eff.triple_modify ?_) fun _ => ?_
      · rintro s' rfl
        rfl
      · exact (Eff.Triple.of_keeps (notify_keeps (P := (· = s₃)))).mono (fun _ h => h)
          (fun _ s' h => by rw [h]; exact h₃) fun _ _ _ => trivial

theorem addAnswerMedias_holds (hexists : s₀.participantExists id = true) :
    ∀ {medias : List Sdp.MediaDescription},
      Triple (s₀.Extends init id) (addAnswerMedias onNewStream initKey init id medias)
        (fun _ s => s₀.Extends init id s ∧ ∀ media ∈ medias, Holds init id media s) fun _ _ => True
  | [] => Eff.triple_pure fun s h => ⟨h, fun media hmem => absurd hmem List.not_mem_nil⟩
  | media :: medias => by
      refine Eff.Triple.bind (R := fun _ s => s₀.Extends init id s.1 ∧ Holds init id media s.1)
        (addAnswerMedia_holds hexists) fun _ => ?_
      have hkeep : Eff.Keeps (fun s : Session × τ => Holds init id media s.1)
          (addAnswerMedias onNewStream initKey init id medias) :=
        addAnswerMedias_keeps (fun s h => holds_touchReceiver h) fun s stream h => holds_addStream h
      refine ((addAnswerMedias_holds hexists).and (Eff.Triple.of_keeps hkeep)).mono (fun _ h => h) ?_
        fun _ _ _ => trivial
      rintro - s ⟨⟨hextends, hholds⟩, hfirst⟩
      exact ⟨hextends, fun media' hmem => (List.mem_cons.mp hmem).elim (fun h => h ▸ hfirst)
        (hholds media')⟩

/-- An answer of a participant that is there. -/
theorem addAnswer_holds {answer : Sdp.SessionDescription} {s₀ : Session × τ}
    (hconsistent : Consistent s₀.1) (hexists : s₀.1.participantExists id = true) :
    Eff.Triple (· = s₀) (addAnswer onNewStream id answer)
      (fun _ s => ∃ init, s₀.1.participantInState .gotOffer = .ok init ∧ s₀.1.Extends init id s.1 ∧
        ∀ media ∈ answer.mediaDescriptions, Holds init id media s.1) fun _ _ => True := by
  unfold addAnswer
  refine Eff.triple_get_bind ?_
  rintro s₁ rfl
  refine Eff.Triple.bind (R := fun initKey s => s = s₁ ∧
    s₁.1.participantInState .gotOffer = .ok initKey) (Eff.triple_ofExcept (fun _ _ h hs => ⟨hs, h⟩)
      fun _ _ _ _ => trivial) fun initKey => Eff.triple_intro ?_
  rintro s ⟨rfl, hquery⟩
  have hanswering := Answering.of_query hconsistent hquery hexists
  refine Eff.Triple.bind (R := fun _ s' => s' = s) (Eff.triple_modify ?_) fun _ => ?_
  · rintro s' rfl
    refine Prod.ext ?_ rfl
    show (s'.1.update initKey fun p => p).update id (fun p => p) = s'.1
    rw [update_eq_self hanswering.initExists rfl, update_eq_self hexists rfl]
  refine Eff.triple_get_bind ?_
  rintro s' rfl
  rw [hconsistent.ids initKey hanswering.initExists]
  refine Eff.triple_require_bind (fun _ => ?_) fun _ _ _ => trivial
  have hsame := @sameStreams_addAnswerCandidates initKey (s'.1.participant id) answer
  have hextends : s'.1.Extends initKey id s'.1 := ⟨fun _ => Iff.rfl, fun _ _ => rfl, fun _ h => h⟩
  refine Eff.Triple.bind (R := fun _ s => s'.1.Extends initKey id s.1) (Eff.triple_modify ?_) fun _ => ?_
  · rintro s rfl
    refine hextends.update (f := fun p => addAnswerCandidates p initKey answer) hexists fun mid hmid => ?_
    unfold Transceiver.hasStreamWithMid at hmid ⊢
    rw [hsame.received]
    exact hmid
  refine Eff.Triple.bind (addAnswerMedias_holds hexists) fun _ => Eff.triple_modify ?_
  rintro s ⟨hextends, hholds⟩
  refine ⟨initKey, hquery, hextends.update (f := fun p => { p with signalingState := .stable }) hexists
    fun _ h => h, fun media hmem => ?_⟩
  obtain ⟨mid, hmedia, hmid⟩ := hholds media hmem
  refine ⟨mid, hmedia, ?_⟩
  rw [participant_update_self]
  exact hmid

end Answers

/-! ## Operations -/

/-- Streams are matched, and during a transaction everybody is awaited or served. -/
structure Ready (s : Session) : Prop where
  matched : s.Matched
  served : s.Served []

/-- An answer of `id` has a section for every stream of the participant that has made the offer, or `id`
receives that stream already. -/
def Covered (s : Session) (id : Nat) (answer : Sdp.SessionDescription) : Prop :=
  ∀ init, s.participantInState .gotOffer = .ok init →
    ∀ sent ∈ (s.participant init).outgoingStreams, ∀ mid, sent.HasMid mid →
      ((s.participant id).receiver init).hasStreamWithMid mid = true ∨
        ∃ media ∈ answer.mediaDescriptions, media.mid = some mid

section Operations
variable {τ ω : Type} {onNewStream : Session → Nat → Stream → Eff τ ω Fault Unit}
variable {s : Session} {init id : Nat} {ids : List Nat}

theorem ready_new {sfuConfig : SFUConfig} : Ready { id, sfuConfig } where
  matched := matched_new
  served _ _ _ _ hk := absurd hk not_participantExists_new

theorem Ready.erase (h : s.Ready) (id : Nat) : (s.erase id).Ready :=
  ⟨h.matched.erase id, h.served.erase id⟩

/-- Once nobody is awaited, everybody is connected. -/
theorem Ready.connected (h : s.Ready) (hinit : s.roles init = some .gotOffer)
    (hawaiting : ¬ s.roles.Awaiting) : s.Connected init := by
  have hexists : s.participantExists init = true := by
    rw [← roles_isSome_iff, hinit]
    rfl
  refine h.matched.connected hexists fun k hne hk => ?_
  rcases h.served init hinit k hne hk with hmem | hk' | hcovers
  · exact absurd hmem List.not_mem_nil
  · exact absurd ⟨k, hk'⟩ hawaiting
  · exact hcovers

theorem Matched.setState {state : SignalingState} (h : s.Matched) (hexists : s.participantExists id = true) :
    (s.setState id state).Matched :=
  h.congr (h.consistent.change (change_setState hexists)) (sameSession_setState hexists)

theorem addAnswer_ready {answer : Sdp.SessionDescription} {s₀ : Session} (h₀ : s₀.Ready)
    (hexists : s₀.participantExists id = true) (hcovered : s₀.Covered id answer) :
    Triple (· = s₀) (addAnswer (some onNewStream) id answer) (fun _ => Ready) fun _ _ => True := by
  refine Eff.triple_intro ?_
  rintro s₁ rfl
  have hroles := @addAnswer_roles τ ω onNewStream id s₁.1.roles answer
  have hmakes := @addAnswer_makes τ ω onNewStream _ id matched_kept answer
  refine ((hroles.and hmakes).and (addAnswer_holds h₀.matched.consistent hexists)).mono ?_ ?_
    fun _ _ _ => trivial
  · rintro s rfl
    exact ⟨⟨⟨h₀.matched.consistent, rfl, roles_isSome_iff.mpr hexists⟩, h₀.matched,
      h₀.matched.consistent, hexists⟩, rfl⟩
  rintro - s ⟨⟨⟨hawait, hs⟩, hmatched, -⟩, init, hquery, hextends, hholds⟩
  refine ⟨hmatched, fun init' hinit' k hne hk => ?_⟩
  rw [hs] at hinit' ⊢
  have hk := (hextends.exists_iff k).mp hk
  have hinit₀ := Roles.gotOffer_of_update (by decide) hinit'
  obtain rfl : init' = init := by
    obtain ⟨j, hj, hid, hunique⟩ := participantInState_ok_iff.mp hquery
    have hexists' : s₁.1.participantExists j = true := by
      rw [← roles_isSome_iff, hj]
      rfl
    rw [hunique init' hinit₀, ← hid, h₀.matched.consistent.ids j hexists']
  have hinitId : init' ≠ id := by
    rintro rfl
    exact nomatch hinit₀.symm.trans hawait
  unfold Covers
  rw [hextends.others init' hinitId]
  by_cases hkid : k = id
  · subst hkid
    refine .inr (.inr fun sent hsent mid hmid => ?_)
    rcases hcovered init' hquery sent hsent mid hmid with hreceived | ⟨media, hmem, hmedia⟩
    · exact hextends.received mid hreceived
    · obtain ⟨mid', hmedia', hreceived⟩ := hholds media hmem
      obtain rfl := Option.some.inj (hmedia.symm.trans hmedia')
      exact hreceived
  · rw [Function.update_of_ne hkid, hextends.others k hkid]
    exact h₀.served init' hinit₀ k hne hk

theorem getAnswer_ready :
    Triple Ready (getAnswer id : SessionEff τ ω _) (fun _ => Ready) fun _ _ => True := by
  refine Eff.triple_intro fun s₀ h₀ => ?_
  by_cases hrole : s₀.1.roles id = some .gotOffer
  · have hexists : s₀.1.participantExists id = true := by
      rw [← roles_isSome_iff, hrole]
      rfl
    refine (getAnswer_sets hrole).mono (fun _ h => h) ?_ fun _ _ _ => trivial
    rintro - s rfl
    exact ⟨h₀.matched.setState hexists, h₀.served.settle hrole⟩
  · rintro s rfl
    obtain ⟨-, e, he⟩ := getAnswer_refused (ω := ω) hrole
    rw [he]
    trivial

/-- What `getOffer` leads to, where it returns. -/
theorem getOffer_leads {P Q : Session → Prop} (h : ∀ s, P s → s.participantExists id = true →
    Q (s.setState id .awaitAnswer)) :
    Triple P (getOffer id : SessionEff τ ω _) (fun _ => Q) fun _ _ => True := by
  refine Eff.triple_intro fun s₀ h₀ => ?_
  by_cases hexists : s₀.1.participantExists id = true
  · refine (getOffer_sets hexists).mono (fun _ h => h) ?_ fun _ _ _ => trivial
    rintro - s rfl
    exact h s₀.1 h₀ hexists
  · rintro s rfl
    rw [getOffer_unknown hexists]
    trivial

theorem getAnswer_connected : Triple (fun s => s.Connected init) (getAnswer id : SessionEff τ ω _)
    (fun _ s => s.Connected init) fun _ s => s.Connected init := by
  refine Eff.triple_intro fun s₀ h₀ => ?_
  by_cases hrole : s₀.1.roles id = some .gotOffer
  · have hexists : s₀.1.participantExists id = true := by
      rw [← roles_isSome_iff, hrole]
      rfl
    refine (getAnswer_sets hrole).mono (fun _ h => h) ?_ fun _ _ h => h.1 ▸ h₀
    rintro - s rfl
    exact h₀.setState hexists
  · rintro s rfl
    obtain ⟨hsame, e, he⟩ := getAnswer_refused (ω := ω) hrole
    rw [he]
    dsimp only
    rw [hsame]
    exact h₀

theorem addOffer_matched {offer : Sdp.SessionDescription} :
    Triple Matched (addOffer (some onNewStream) id offer)
      (fun _ s => s.Matched ∧ s.roles.Offering id) fun _ _ => True := by
  refine Eff.triple_intro fun s₀ h₀ => ?_
  have hroles := @addOffer_roles τ ω (some onNewStream) id s₀.1.roles offer
  have hmakes := @addOffer_makes τ ω onNewStream _ id matched_kept offer
  refine (hroles.and hmakes).mono ?_ ?_ fun _ _ _ => trivial
  · rintro s rfl
    exact ⟨rfl, h₀, trivial⟩
  · rintro - s ⟨hoffer, hmatched, -⟩
    exact ⟨hmatched, hoffer.offering⟩

/-! ## Operations are silent -/

section Silent
variable {media : Sdp.MediaDescription} {initKey offerId : Nat}
variable (hcall : ∀ s id stream, Eff.Only (fun _ => False) (onNewStream s id stream))

theorem getAnswer_silent : Eff.Only (fun _ => False) (getAnswer id : SessionEff τ ω _) := by
  unfold getAnswer
  refine Eff.only_get_bind fun s => (Eff.only_require _ _).bind fun _ => ?_
  refine (Eff.only_require _ _).bind fun _ => (Eff.only_ofExcept _).bind fun medias => ?_
  exact Eff.Only.bind (Eff.only_modify _) fun _ => Eff.only_pure _

include hcall

theorem addAnswerMedia_silent :
    Eff.Only (fun _ => False) (addAnswerMedia (some onNewStream) initKey offerId id media) := by
  unfold addAnswerMedia
  split
  · exact Eff.only_throw _
  · refine Eff.only_get_bind fun s => (Eff.only_ofExcept _).bind fun ssrcs => ?_
    refine Eff.Only.bind (Eff.only_modify _) fun _ => Eff.only_get_bind fun s => ?_
    refine (Eff.only_ofExcept _).bind fun stream => ?_
    split
    · exact Eff.only_pure _
    · refine Eff.Only.bind (Eff.only_modify _) fun _ => Eff.only_get_bind fun s => ?_
      exact Eff.only_zoom (hcall _ _ _) fun _ h => h

theorem addAnswerMedias_silent : ∀ {medias : List Sdp.MediaDescription},
    Eff.Only (fun _ => False) (addAnswerMedias (some onNewStream) initKey offerId id medias)
  | [] => Eff.only_pure _
  | _ :: _ => (addAnswerMedia_silent hcall).bind fun _ => addAnswerMedias_silent

theorem addAnswer_silent {answer : Sdp.SessionDescription} :
    Eff.Only (fun _ => False) (addAnswer (some onNewStream) id answer) := by
  unfold addAnswer
  refine Eff.only_get_bind fun s => (Eff.only_ofExcept _).bind fun initKey => ?_
  refine Eff.Only.bind (Eff.only_modify _) fun _ => Eff.only_get_bind fun s => ?_
  refine (Eff.only_require _ _).bind fun _ => Eff.Only.bind (Eff.only_modify _) fun _ => ?_
  exact (addAnswerMedias_silent hcall).bind fun _ => Eff.only_modify _

end Silent

theorem one_lt_countParticipants {k j : Nat} (hk : s.participantExists k = true)
    (hj : s.participantExists j = true) (hne : k ≠ j) : 1 < s.countParticipants := by
  have hlen : s.participants.keys.length = s.countParticipants := Std.ExtTreeMap.length_keys
  have hmem : ∀ {i}, s.participantExists i = true → i ∈ s.participants.keys := fun hi =>
    Std.ExtTreeMap.mem_keys.mpr (Std.ExtTreeMap.contains_iff_mem.mp hi)
  have hsub : [k, j] ⊆ s.participants.keys :=
    List.cons_subset.mpr ⟨hmem hk, List.cons_subset.mpr ⟨hmem hj, List.nil_subset _⟩⟩
  rw [← hlen]
  exact (List.subperm_of_subset (List.nodup_cons.mpr ⟨fun h => hne (List.mem_singleton.mp h),
    List.nodup_singleton j⟩) hsub).length_le

/-- In a session of one, or without streams, everybody is served. -/
theorem served_of_quiet (hquiet : ¬ (1 < s.countParticipants ∧ 0 < s.countStreams)) :
    s.Served ids := by
  intro init hinit k hne hk
  have hinitExists : s.participantExists init = true := by
    rw [← roles_isSome_iff, hinit]
    rfl
  refine .inr (.inr fun sent hsent => absurd ⟨?_, ?_⟩ hquiet)
  · exact one_lt_countParticipants hk hinitExists hne
  · exact countStreams_pos_iff.mpr ⟨init, hinitExists, List.length_pos_of_mem hsent⟩

/-- The participant that has joined is the only exception. -/
theorem Ready.joined {ip : String} {port : UInt16} (h : s.Ready)
    (hfresh : s.nextParticipantId + 1 < 2 ^ 32) :
    (s.joined ip port).Matched ∧ (s.joined ip port).Served [s.nextId] := by
  refine ⟨h.matched.joined hfresh, fun init hinit k hne hk => ?_⟩
  by_cases hkid : k = s.nextId
  · exact .inl (List.mem_singleton.mpr hkid)
  right
  rw [roles_joined] at hinit ⊢
  have hinitId : init ≠ s.nextId := by
    rintro rfl
    rw [Function.update_self] at hinit
    exact nomatch hinit
  rw [Function.update_of_ne hinitId] at hinit
  rw [Function.update_of_ne hkid]
  unfold Covers
  rw [participant_joined_of_ne hinitId, participant_joined_of_ne hkid]
  exact (h.served init hinit k hne ((participantExists_joined.mp hk).resolve_left hkid)).resolve_left
    List.not_mem_nil

end Operations

end Session

end Scallop
