import Scallop.Controller.Model
import Scallop.Controller.Served
import Scallop.Controller.StreamSafety

/-!
# When operations of a session return

The operations that messages of clients lead to, each with the exact condition on the session before it under
which it does not throw.

* `Transceiver.Takes` : a section makes a stream; `Participant.newSections` : the sections of an offer that
  make one;
* `Session.TakesOffer`, `Session.TakesSection`, `Session.PassesOn` : the conditions of an offer, of a section
  of an answer, and of the streams that are passed on;
* `addOffer_ends`, `addAnswer_ends`, `getOffer_ends`, `getAnswer_ends` : the operations.
-/

namespace Scallop

open Sdp

namespace Switches

/-- The switch that streams are told to is there. -/
def Ready (s : Switches) : Prop := (s.connectionById allowedSwitchId).isSome

theorem ready_congr {s s' : Switches} (h : s'.server = s.server) : s'.Ready ↔ s.Ready := by
  unfold Ready connectionById
  rw [h]

theorem connection_ends (s : Switches) :
    Eff.EndsWhen s.Ready (fun _ s' => s' = s) (connection allowedSwitchId) s := by
  unfold connection Ready
  apply Eff.endsWhen_get_bind
  cases h : s.connectionById allowedSwitchId with
  | some e =>
      obtain ⟨remote, i⟩ := e
      apply Eff.EndsWhen.of_true _ rfl
      exact Eff.endsWhen_pure rfl
  | none => exact Eff.endsWhen_throw.of_false Bool.false_ne_true

end Switches

/-! ## Sections -/

/-- A stream that can be passed on, and printed. -/
structure Stream.Printable (s : Stream) : Prop where
  connectionData : s.description.connectionData.isSome
  mid : s.description.mid.isSome

namespace Transceiver

variable {t t' : Transceiver} {media : MediaDescription} {cfg : SFUConfig} {ssrcs : SSRCDescription}

/-- A section makes a stream: with a candidate that is known, if it has none, it passes the checks of the
constructor, and what is read then is there. -/
def Takes (t : Transceiver) (media : MediaDescription) (cfg : SFUConfig) (ssrcs : SSRCDescription := {}) : Prop :=
  ∃ media', Session.withCandidate t media = .ok media' ∧ Stream.Checked media' cfg ssrcs ∧ Stream.Read media'

theorem takes_congr (h : t'.iceCandidates = t.iceCandidates) :
    t'.Takes media cfg ssrcs ↔ t.Takes media cfg ssrcs := by
  unfold Takes Session.withCandidate
  rw [h]

theorem isOk_iff_takes : (∃ stream, (do
      let media ← Session.withCandidate t media
      Stream.ofDescription media cfg ssrcs) = .ok stream) ↔ t.Takes media cfg ssrcs := by
  unfold Takes
  constructor
  · intro ⟨stream, h⟩
    obtain ⟨media', hmedia, hstream⟩ := Except.of_bind_ok h
    exact ⟨media', hmedia, Stream.ofDescription_isOk_iff.mp ⟨stream, hstream⟩⟩
  · intro ⟨media', hmedia, hboth⟩
    rw [hmedia, Except.bind_ok]
    exact Stream.ofDescription_isOk_iff.mpr hboth

end Transceiver

namespace Participant

variable {p : Participant} {medias : List MediaDescription} {media : MediaDescription} {mid : String}

/-- A section of an offer is for a stream that is not sent yet. -/
def IsNew (p : Participant) (media : MediaDescription) : Bool :=
  media.direction = some .sendonly && media.mid.any fun mid => !p.sendsStreamWithMid mid

/-- The sections of an offer that make a stream: the first ones for every mid. -/
def newSections (p : Participant) (medias : List MediaDescription) : List MediaDescription :=
  (medias.filter p.IsNew).eraseDupsBy fun m m' => m.mid = m'.mid

/-- The sections of an offer can be added: those for sending have mids, and those that make a stream can be
made one, of which a switch is told. -/
structure TakesSections (p : Participant) (cfg : SFUConfig) (t : Switches) (medias : List MediaDescription) :
    Prop where
  mids : ∀ media ∈ medias, media.direction = some .sendonly → media.mid.isSome
  streams : ∀ media ∈ p.newSections medias, p.sender.Takes media cfg
  switch : p.newSections medias ≠ [] → t.Ready

theorem isNew_iff : p.IsNew media = true ↔ media.direction = some .sendonly ∧
    ∃ mid, media.mid = some mid ∧ ¬ p.sendsStreamWithMid mid = true := by
  unfold IsNew
  cases hmid : media.mid with
  | none => simp
  | some mid => simp

theorem TakesSections.congr {cfg : SFUConfig} {t t' : Switches} (ht : t'.Ready ↔ t.Ready)
    (h : p.TakesSections cfg t medias) : p.TakesSections cfg t' medias :=
  ⟨h.mids, h.streams, fun hne => ht.mpr (h.switch hne)⟩

theorem newSections_of_skipped (h : ¬ p.IsNew media = true) :
    p.newSections (media :: medias) = p.newSections medias := by
  unfold newSections
  rw [List.filter_cons_of_neg h]

theorem sendsStreamWithMid_addOutgoingStream {stream : Stream} {mid' : String} (hmid : stream.HasMid mid) :
    (p.addOutgoingStream stream).sendsStreamWithMid mid' = (p.sendsStreamWithMid mid' || mid = mid') := by
  unfold sendsStreamWithMid addOutgoingStream
  rw [Transceiver.hasStreamWithMid_addStream]
  unfold Stream.HasMid at hmid
  simp [Stream.HasMid, hmid]

theorem newSections_of_new {stream : Stream} (hnew : p.IsNew media = true) (hmid : media.mid = some mid)
    (hstream : stream.HasMid mid) :
    p.newSections (media :: medias) = media :: (p.addOutgoingStream stream).newSections medias := by
  unfold newSections
  rw [List.filter_cons_of_pos hnew, List.eraseDupsBy_cons, List.filter_filter]
  congr 2
  apply List.filter_congr
  intro m _
  unfold IsNew
  cases hm : m.mid with
  | none => simp
  | some mid' =>
      simp only [Option.any_some, sendsStreamWithMid_addOutgoingStream hstream, hmid]
      by_cases heq : mid = mid' <;> simp [heq, eq_comm]

end Participant

/-- `_onNewStream` of the controller needs a switch. -/
theorem onNewStream_ends (session : Session) (id : Nat) (stream : Stream) (s : Switches) :
    Eff.EndsWhen s.Ready (fun _ s' => s'.server = s.server) (onNewStream session id stream) s := by
  unfold onNewStream
  rw [if_neg stream.direction_ne_none]
  refine ((Switches.connection_ends s).bind (D := True) ?_).congr (iff_of_eq (and_true _)) fun _ _ _ h => h
  intro i s' _ hs'
  apply Eff.endsWhen_modify
  rw [hs']

namespace Session

/-! ## Sessions with the same participants -/

/-- Participants come and go, and change their ids, in neither of two sessions. -/
structure SameShape (s s' : Session) : Prop where
  id : s'.id = s.id
  sfuConfig : s'.sfuConfig = s.sfuConfig
  exists_iff : ∀ k, s'.participantExists k = true ↔ s.participantExists k = true
  ids : ∀ k, (s'.participant k).id = (s.participant k).id
  count : s'.countParticipants = s.countParticipants

def Numbered (s : Session) : Prop := ∀ k, s.participantExists k = true → (s.participant k).id = k

section SameShape
variable {s s' s'' : Session} {id k init : Nat} {f : Participant → Participant} {state : SignalingState}

theorem SameShape.refl (s : Session) : s.SameShape s := ⟨rfl, rfl, fun _ => Iff.rfl, fun _ => rfl, rfl⟩

theorem SameShape.trans (h : s.SameShape s') (h' : s'.SameShape s'') : s.SameShape s'' where
  id := h'.id.trans h.id
  sfuConfig := h'.sfuConfig.trans h.sfuConfig
  exists_iff k := (h'.exists_iff k).trans (h.exists_iff k)
  ids k := (h'.ids k).trans (h.ids k)
  count := h'.count.trans h.count

theorem SameShape.numbered (h : s.SameShape s') (hs : s.Numbered) : s'.Numbered := by
  intro k hk
  rw [h.ids k]
  exact hs k ((h.exists_iff k).mp hk)

theorem sameShape_update (hexists : s.participantExists id = true)
    (hid : (f (s.participant id)).id = (s.participant id).id) : s.SameShape (s.update id f) where
  id := rfl
  sfuConfig := rfl
  exists_iff k := by
    rw [participantExists_update]
    constructor
    · rintro (rfl | h)
      · exact hexists
      · exact h
    · exact .inr
  ids k := by
    by_cases hk : k = id
    · rw [hk, participant_update_self, hid]
    · rw [participant_update_of_ne hk]
  count := by
    unfold countParticipants update
    rw [Std.ExtTreeMap.size_insert]
    exact if_pos hexists

theorem sameShape_setState (hexists : s.participantExists id = true) : s.SameShape (s.setState id state) :=
  sameShape_update hexists rfl

theorem outgoingStreams_setState :
    ((s.setState id state).participant k).outgoingStreams = (s.participant k).outgoingStreams := by
  unfold setState
  by_cases hk : k = id
  · rw [hk, participant_update_self]
    rfl
  · rw [participant_update_of_ne hk]

/-- The query finds the participant with the role. -/
theorem participantInState_gotOffer (hs : s.Numbered) (h : s.participantInState .gotOffer = .ok init) :
    s.participantExists init = true ∧ s.roles.Offering init := by
  obtain ⟨k, hrole, hid, hunique⟩ := participantInState_ok_iff.mp h
  have hexists : s.participantExists k = true := by
    rw [← roles_isSome_iff, hrole]
    rfl
  obtain rfl : k = init := (hs k hexists).symm.trans hid
  exact ⟨hexists, hrole, hunique⟩

theorem participantInState_of_roles (hs : s.Numbered) (h : s.roles.Offering init) :
    s.participantInState .gotOffer = .ok init := by
  refine participantInState_ok_iff.mpr ⟨init, h.gotOffer, hs init ?_, h.unique⟩
  rw [← roles_isSome_iff, h.gotOffer]
  rfl

end SameShape

/-! ## Offers -/

section Offers
variable {fromId : Nat} {media : MediaDescription} {medias : List MediaDescription}

theorem modify_bind_ends {τ ω α : Type} {C : Prop} {Q : α → Session × τ → Prop} {f : Session → Session}
    {k : Unit → SessionEff τ ω α} {s : Session × τ} (h : Eff.EndsWhen C Q (k ()) (f s.1, s.2)) :
    Eff.EndsWhen C Q (modify f >>= k) s := Eff.endsWhen_modify_bind h

theorem notify_ends {id : Nat} {stream : Stream} (s : Session × Switches) :
    Eff.EndsWhen s.2.Ready (fun _ s' => s'.1 = s.1 ∧ s'.2.server = s.2.server)
      (notify (some onNewStream) id stream) s := by
  unfold notify
  apply Eff.endsWhen_get_bind
  dsimp only
  apply Eff.endsWhen_zoom (onNewStream_ends s.1 id stream s.2)
  intro _ t _ ht
  exact ⟨rfl, ht⟩

theorem newSendStream_isOk_iff {s : Session} : (∃ stream, s.newSendStream fromId media = .ok stream) ↔
    (s.participant fromId).sender.Takes media s.sfuConfig := Transceiver.isOk_iff_takes

structure Added (fromId : Nat) (medias : List MediaDescription) (s s' : Session) : Prop where
  sameShape : s.SameShape s'
  roles : s'.roles = s.roles
  printable : (∀ stream ∈ (s'.participant fromId).outgoingStreams, stream.Printable) ↔
    (∀ stream ∈ (s.participant fromId).outgoingStreams, stream.Printable) ∧
      ∀ media ∈ (s.participant fromId).newSections medias, media.connectionData.isSome

theorem withCandidate_connectionData {t : Transceiver} {media' : MediaDescription}
    (h : withCandidate t media = .ok media') : media'.connectionData = media.connectionData := by
  unfold withCandidate at h
  split at h
  · split at h
    · exact nomatch h
    · obtain rfl := Except.ok.inj h
      rfl
  · obtain rfl := Except.ok.inj h
    rfl

theorem newSendStream_printable {s : Session} {stream : Stream} {mid : String} (hmid : media.mid = some mid)
    (h : s.newSendStream fromId media = .ok stream) : stream.Printable ↔ media.connectionData.isSome := by
  obtain ⟨media', hmedia, hstream⟩ := Except.of_bind_ok h
  have hdata : stream.description.connectionData = media.connectionData := by
    rw [Stream.ofDescription_description hstream, withCandidate_connectionData hmedia]
  have hsome : stream.description.mid.isSome := by
    rw [(newSendStream_ok h).1, hmid]
    rfl
  rw [← hdata]
  exact ⟨fun h => h.connectionData, fun h => ⟨h, hsome⟩⟩

theorem takesSections_of_skipped {p : Participant} {cfg : SFUConfig} {t : Switches} (h : ¬ p.IsNew media = true)
    (hmid : media.direction = some .sendonly → media.mid.isSome) :
    p.TakesSections cfg t medias ↔ p.TakesSections cfg t (media :: medias) := by
  have hsections := @Participant.newSections_of_skipped p medias media h
  constructor
  · intro htakes
    refine ⟨?_, hsections ▸ htakes.streams, hsections ▸ htakes.switch⟩
    intro m hm
    rcases List.mem_cons.mp hm with rfl | hm
    · exact hmid
    · exact htakes.mids m hm
  · intro htakes
    refine ⟨fun m hm => htakes.mids m (List.mem_cons_of_mem _ hm), ?_, ?_⟩
    · rw [← hsections]
      exact htakes.streams
    · rw [← hsections]
      exact htakes.switch

theorem takesSections_of_new {p : Participant} {cfg : SFUConfig} {t : Switches} {stream : Stream} {mid : String}
    (hnew : p.IsNew media = true) (hmid : media.mid = some mid) (hstream : stream.HasMid mid)
    (htakes : p.sender.Takes media cfg) :
    t.Ready ∧ (p.addOutgoingStream stream).TakesSections cfg t medias ↔ p.TakesSections cfg t (media :: medias) := by
  have hsections := @Participant.newSections_of_new p medias media mid stream hnew hmid hstream
  constructor
  · intro ⟨hready, hrest⟩
    refine ⟨?_, ?_, fun _ => hready⟩
    · intro m hm
      rcases List.mem_cons.mp hm with rfl | hm
      · intro
        rw [hmid]
        rfl
      · exact hrest.mids m hm
    · intro m hm
      rw [hsections] at hm
      rcases List.mem_cons.mp hm with rfl | hm
      · exact htakes
      · exact hrest.streams m hm
  · intro hall
    have hready : t.Ready := by
      apply hall.switch
      rw [hsections]
      exact List.cons_ne_nil _ _
    refine ⟨hready, fun m hm => hall.mids m (List.mem_cons_of_mem _ hm), ?_, fun _ => hready⟩
    intro m hm
    apply hall.streams m
    rw [hsections]
    exact List.mem_cons_of_mem _ hm

theorem Added.of_skipped {s s' : Session} (h : Added fromId medias s s')
    (hskip : ¬ (s.participant fromId).IsNew media = true) : Added fromId (media :: medias) s s' where
  sameShape := h.sameShape
  roles := h.roles
  printable := by
    rw [Participant.newSections_of_skipped hskip]
    exact h.printable

theorem Added.of_new {s s' : Session} {stream : Stream} {mid : String} (hexists : s.participantExists fromId = true)
    (hnew : (s.participant fromId).IsNew media = true) (hmid : media.mid = some mid)
    (hstream : s.newSendStream fromId media = .ok stream)
    (h : Added fromId medias (s.update fromId fun p => p.addOutgoingStream stream) s') :
    Added fromId (media :: medias) s s' where
  sameShape := (sameShape_update hexists rfl).trans h.sameShape
  roles := h.roles.trans (roles_update_of_state hexists rfl)
  printable := by
    have hprintable := newSendStream_printable hmid hstream
    have hsections := @Participant.newSections_of_new _ medias media mid stream hnew hmid
      ((newSendStream_ok hstream).1.trans hmid)
    rw [h.printable, hsections, participant_update_self, Participant.outgoingStreams_addOutgoingStream]
    constructor
    · intro ⟨hall, hrest⟩
      refine ⟨fun s hs => hall s (List.mem_append_left _ hs), ?_⟩
      intro m hm
      rcases List.mem_cons.mp hm with rfl | hm
      · exact hprintable.mp (hall stream (List.mem_append_right _ List.mem_cons_self))
      · exact hrest m hm
    · intro ⟨hall, hrest⟩
      refine ⟨?_, fun m hm => hrest m (List.mem_cons_of_mem _ hm)⟩
      intro s hs
      rcases List.mem_append.mp hs with hs | hs
      · exact hall s hs
      · obtain rfl := List.mem_singleton.mp hs
        exact hprintable.mpr (hrest media List.mem_cons_self)

theorem addOfferMedias_ends {s : Session × Switches} (hexists : s.1.participantExists fromId = true) :
    Eff.EndsWhen ((s.1.participant fromId).TakesSections s.1.sfuConfig s.2 medias)
      (fun _ s' => Added fromId medias s.1 s'.1) (addOfferMedias (some onNewStream) fromId medias) s := by
  induction medias generalizing s with
  | nil =>
      have hnone : (s.1.participant fromId).newSections [] = [] := rfl
      apply (Eff.endsWhen_pure _).of_true
      · refine ⟨fun _ h => absurd h List.not_mem_nil, ?_, fun h => absurd hnone h⟩
        rw [hnone]
        exact fun _ h => absurd h List.not_mem_nil
      · refine ⟨SameShape.refl _, rfl, ?_⟩
        rw [hnone]
        exact ⟨fun h => ⟨h, fun _ h => absurd h List.not_mem_nil⟩, fun h => h.1⟩
  | cons media medias ih =>
      unfold addOfferMedias
      by_cases hnew : (s.1.participant fromId).IsNew media = true
      · obtain ⟨hdir, mid, hmid, hsent⟩ := Participant.isNew_iff.mp hnew
        cases hstream : s.1.newSendStream fromId media with
        | error e =>
            apply Eff.endsWhen_bind_of_error (addOfferMedia_of_error hdir hmid hsent hstream)
            intro htakes
            obtain ⟨stream, hok⟩ := newSendStream_isOk_iff.mpr (htakes.streams media (by
              unfold Participant.newSections
              rw [List.filter_cons_of_pos hnew, List.eraseDupsBy_cons]
              exact List.mem_cons_self))
            exact nomatch hstream.symm.trans hok
        | ok stream =>
            let s₁ : Session × Switches := (s.1.update fromId fun p => p.addOutgoingStream stream, s.2)
            have hrun := (notify_ends s₁).of_run (addOfferMedia_of_new hdir hmid hsent hstream)
            have htakes := newSendStream_isOk_iff.mp ⟨stream, hstream⟩
            have hstreamMid : stream.HasMid mid := (newSendStream_ok hstream).1.trans hmid
            refine (hrun.bind fun _ s' _ hs' => ?_).congr
              (takesSections_of_new hnew hmid hstreamMid htakes) fun _ _ _ h => h
            have hready := Switches.ready_congr hs'.2
            have hs₁ : s'.1.participantExists fromId = true := by
              rw [hs'.1]
              exact participantExists_update.mpr (.inl rfl)
            have hp : s'.1.participant fromId = (s.1.participant fromId).addOutgoingStream stream := by
              rw [hs'.1]
              exact participant_update_self
            apply (ih hs₁).congr
            · rw [hp, hs'.1]
              exact ⟨fun h => h.congr hready.symm, fun h => h.congr hready⟩
            · intro _ s'' _ h
              rw [hs'.1] at h
              exact h.of_new hexists hnew hmid hstream
      · have hskip (hrun : addOfferMedia (some onNewStream) fromId media s = ⟨s, [], .ok ()⟩)
            (hmid : media.direction = some .sendonly → media.mid.isSome) :=
          (Eff.endsWhen_bind_of_ok (f := fun _ => addOfferMedias (some onNewStream) fromId medias) hrun
            (ih hexists)).congr (takesSections_of_skipped hnew hmid) fun _ _ _ h => Added.of_skipped h hnew
        by_cases hdir : media.direction = some .sendonly
        · cases hmid : media.mid with
          | none =>
              apply Eff.endsWhen_bind_of_error (addOfferMedia_of_no_mid hdir hmid)
              intro htakes
              have h := htakes.mids media List.mem_cons_self hdir
              rw [hmid] at h
              exact nomatch h
          | some mid =>
              have hsent : (s.1.participant fromId).sendsStreamWithMid mid = true := by
                by_contra hsent
                exact hnew (Participant.isNew_iff.mpr ⟨hdir, mid, hmid, hsent⟩)
              refine hskip (addOfferMedia_of_sent hdir hmid hsent) fun _ => ?_
              rw [hmid]
              rfl
        · exact hskip (addOfferMedia_of_direction hdir) fun h => absurd h hdir

/-- An offer is taken when no signaling is active, and its sections can be added. -/
structure TakesOffer (s : Session) (t : Switches) (fromId : Nat) (offer : SessionDescription) : Prop where
  inactive : ¬ s.signalingActive = true
  sections : ({ s.participant fromId with
      sender := (s.participant fromId).sender.updateICECandidates offer } : Participant).TakesSections
    s.sfuConfig t offer.mediaDescriptions

structure AfterOffer (fromId : Nat) (offer : SessionDescription) (s s' : Session) : Prop where
  sameShape : s.SameShape s'
  offering : s'.roles.Offering fromId
  printable : (∀ stream ∈ (s'.participant fromId).outgoingStreams, stream.Printable) ↔
    (∀ stream ∈ (s.participant fromId).outgoingStreams, stream.Printable) ∧
      ∀ media ∈ (s.participant fromId).newSections offer.mediaDescriptions, media.connectionData.isSome

theorem newSections_congr {p p' : Participant} (h : p'.outgoingStreams = p.outgoingStreams) :
    p'.newSections medias = p.newSections medias := by
  have hsends : p'.sendsStreamWithMid = p.sendsStreamWithMid := by
    funext mid
    unfold Participant.sendsStreamWithMid Transceiver.hasStreamWithMid
    unfold Participant.outgoingStreams at h
    rw [h]
  unfold Participant.newSections Participant.IsNew
  rw [hsends]

theorem addOffer_ends {offer : SessionDescription} {s : Session × Switches}
    (hexists : s.1.participantExists fromId = true) : Eff.EndsWhen (s.1.TakesOffer s.2 fromId offer)
      (fun _ s' => AfterOffer fromId offer s.1 s'.1) (addOffer (some onNewStream) fromId offer) s := by
  let g (p : Participant) : Participant := { p with sender := p.sender.updateICECandidates offer }
  let s₁ : Session × Switches := (s.1.update fromId g, s.2)
  have hfirst : s.1.SameShape s₁.1 := sameShape_update (f := g) hexists rfl
  have hs₁ : s₁.1.participantExists fromId = true := (hfirst.exists_iff fromId).mpr hexists
  have hp : s₁.1.participant fromId = { s.1.participant fromId with
      sender := (s.1.participant fromId).sender.updateICECandidates offer } := participant_update_self
  have hstreams : (s₁.1.participant fromId).outgoingStreams = (s.1.participant fromId).outgoingStreams := by
    rw [hp]
    exact Transceiver.updateICECandidates_streams _ _
  unfold addOffer
  apply Eff.endsWhen_get_bind
  refine (Eff.endsWhen_require_bind fun _ => Eff.endsWhen_require_bind fun hinactive =>
    modify_bind_ends ((addOfferMedias_ends hs₁).bind (D := True) ?_)).congr ?_ fun _ _ _ h => h
  · intro _ s' _ h
    apply Eff.endsWhen_modify
    have hs' := (h.sameShape.exists_iff fromId).mpr hs₁
    refine ⟨hfirst.trans (h.sameShape.trans (sameShape_setState hs')), ?_, ?_⟩
    · have hstable : s.1.roles.AllStable := not_not.mp (signalingActive_iff.not.mp hinactive)
      show (s'.1.setState fromId .gotOffer).roles.Offering fromId
      rw [roles_setState, h.roles]
      refine ⟨Function.update_self .., ?_⟩
      intro k hk
      by_contra hne
      rw [Function.update_of_ne hne, roles_update_of_state hexists rfl] at hk
      exact nomatch hstable k _ hk
    · show (∀ stream ∈ ((s'.1.setState fromId .gotOffer).participant fromId).outgoingStreams,
        stream.Printable) ↔ _
      rw [outgoingStreams_setState, h.printable, hstreams, newSections_congr hstreams]
  · rw [hp]
    constructor
    · intro ⟨_, hinactive, hsections, _⟩
      exact ⟨hinactive, hsections⟩
    · intro h
      exact ⟨hexists, h.inactive, h.sections, trivial⟩

end Offers

/-! ## Answers -/

section Answers
variable {init fromId : Nat} {media : MediaDescription} {medias : List MediaDescription} {t t' : Switches}
variable {s s' s'' : Session}

/-- A section of an answer is taken when the participant that has made the offer sends a stream with its mid,
and it makes a receive stream, of which the switch is told if it is new. -/
def TakesSection (s : Session) (t : Switches) (init fromId : Nat) (media : MediaDescription) : Prop :=
  ∃ mid ssrcs, media.mid = some mid ∧ s.sendSSRCs init mid = .ok ssrcs ∧
    ((s.participant fromId).receiver init).Takes media s.sfuConfig ssrcs ∧
    (¬ ((s.participant fromId).receiver init).hasStreamWithMid mid = true → t.Ready)

/-- Streams have been received, which needs the switch. -/
structure Received (t : Switches) (init fromId : Nat) (s s' : Session) : Prop where
  sameShape : s.SameShape s'
  roles : s'.roles = s.roles
  sent : ∀ k, (s'.participant k).outgoingStreams = (s.participant k).outgoingStreams
  candidates : ((s'.participant fromId).receiver init).iceCandidates =
    ((s.participant fromId).receiver init).iceCandidates
  kept : ∀ mid, ((s.participant fromId).receiver init).hasStreamWithMid mid = true →
    ((s'.participant fromId).receiver init).hasStreamWithMid mid = true
  told : ∀ mid, ((s'.participant fromId).receiver init).hasStreamWithMid mid = true →
    ((s.participant fromId).receiver init).hasStreamWithMid mid = true ∨ t.Ready

theorem Received.refl : Received t init fromId s s where
  sameShape := .refl s
  roles := rfl
  sent _ := rfl
  candidates := rfl
  kept _ h := h
  told _ h := .inl h

theorem Received.trans (h : Received t init fromId s s') (ht : t'.Ready ↔ t.Ready)
    (h' : Received t' init fromId s' s'') : Received t init fromId s s'' where
  sameShape := h.sameShape.trans h'.sameShape
  roles := h'.roles.trans h.roles
  sent k := (h'.sent k).trans (h.sent k)
  candidates := h'.candidates.trans h.candidates
  kept mid hmid := h'.kept mid (h.kept mid hmid)
  told mid hmid := by
    rcases h'.told mid hmid with hmid | hready
    · exact h.told mid hmid
    · exact .inr (ht.mp hready)

theorem Received.takesSection_iff (h : Received t init fromId s s') (ht : t'.Ready ↔ t.Ready) :
    s'.TakesSection t' init fromId media ↔ s.TakesSection t init fromId media := by
  unfold TakesSection
  simp only [sendSSRCs_congr (h.sent init), Transceiver.takes_congr h.candidates, h.sameShape.sfuConfig, ht]
  constructor
  · intro ⟨mid, ssrcs, hmid, hssrcs, htakes, hready⟩
    refine ⟨mid, ssrcs, hmid, hssrcs, htakes, fun hnew => ?_⟩
    by_cases hhas : ((s'.participant fromId).receiver init).hasStreamWithMid mid = true
    · exact (h.told mid hhas).resolve_left hnew
    · exact hready hhas
  · intro ⟨mid, ssrcs, hmid, hssrcs, htakes, hready⟩
    exact ⟨mid, ssrcs, hmid, hssrcs, htakes, fun hnew => hready fun hhas => hnew (h.kept mid hhas)⟩

theorem received_update {g : Transceiver → Transceiver} (hexists : s.participantExists fromId = true)
    (hcandidates : ∀ r, (g r).iceCandidates = r.iceCandidates)
    (hkept : ∀ r mid, r.hasStreamWithMid mid = true → (g r).hasStreamWithMid mid = true)
    (htold : t.Ready ∨ ∀ r mid, (g r).hasStreamWithMid mid = true → r.hasStreamWithMid mid = true) :
    Received t init fromId s (s.update fromId fun p => p.updateReceiver init g) := by
  have hreceiver : ((s.update fromId fun p => p.updateReceiver init g).participant fromId).receiver init =
      g ((s.participant fromId).receiver init) := by
    rw [participant_update_self, Participant.receiver_updateReceiver_self]
  refine ⟨sameShape_update hexists rfl, roles_update_of_state hexists rfl, fun k => outgoingStreams_receive, ?_, ?_, ?_⟩
  · rw [hreceiver, hcandidates]
  · intro mid hmid
    rw [hreceiver]
    exact hkept _ mid hmid
  · intro mid hmid
    rw [hreceiver] at hmid
    rcases htold with hready | hsame
    · exact .inr hready
    · exact .inl (hsame _ mid hmid)

theorem received_touchReceiver (hexists : s.participantExists fromId = true) :
    Received t init fromId s (s.touchReceiver init fromId) :=
  received_update hexists (fun _ => rfl) (fun _ _ h => h) (.inr fun _ _ h => h)

theorem newReceiveStream_isOk_iff {ssrcs : SSRCDescription} :
    (∃ stream, s.newReceiveStream init fromId media ssrcs = .ok stream) ↔
      ((s.participant fromId).receiver init).Takes media s.sfuConfig ssrcs := Transceiver.isOk_iff_takes

end Answers

section Answers
variable {init fromId : Nat} {media : MediaDescription} {medias : List MediaDescription} {s : Session × Switches}

theorem addAnswerMedia_ends (hexists : s.1.participantExists fromId = true) :
    Eff.EndsWhen (s.1.TakesSection s.2 init fromId media)
      (fun _ s' => Received s.2 init fromId s.1 s'.1 ∧ (s'.2.Ready ↔ s.2.Ready))
      (addAnswerMedia (some onNewStream) init init fromId media) s := by
  have htouch := @received_touchReceiver init fromId s.2 s.1 hexists
  cases hmid : media.mid with
  | none =>
      apply Eff.endsWhen_of_error (addAnswerMedia_of_no_mid hmid)
      intro ⟨mid, _, hmid', _⟩
      exact nomatch hmid.symm.trans hmid'
  | some mid =>
      cases hssrcs : s.1.sendSSRCs init mid with
      | error e =>
          apply Eff.endsWhen_of_error (addAnswerMedia_of_unknown hmid hssrcs)
          intro ⟨mid', ssrcs, hmid', hssrcs', _⟩
          obtain rfl := Option.some.inj (hmid.symm.trans hmid')
          exact nomatch hssrcs.symm.trans hssrcs'
      | ok ssrcs =>
          cases hnew : s.1.newReceiveStream init fromId media ssrcs with
          | error e =>
              apply Eff.endsWhen_of_error (addAnswerMedia_of_error hmid hssrcs hnew)
              intro ⟨mid', ssrcs', hmid', hssrcs', htakes, _⟩
              obtain rfl := Option.some.inj (hmid.symm.trans hmid')
              obtain rfl := Except.ok.inj (hssrcs.symm.trans hssrcs')
              obtain ⟨stream, hok⟩ := newReceiveStream_isOk_iff.mpr htakes
              exact nomatch hnew.symm.trans hok
          | ok stream =>
              have htakes := newReceiveStream_isOk_iff.mp ⟨stream, hnew⟩
              by_cases hhas : ((s.1.participant fromId).receiver init).hasStreamWithMid mid = true
              · apply Eff.endsWhen_of_ok (addAnswerMedia_of_received hmid hssrcs hnew hhas)
                · exact ⟨mid, ssrcs, hmid, hssrcs, htakes, fun h => absurd hhas h⟩
                · exact ⟨htouch, Iff.rfl⟩
              · let s₁ : Session × Switches := ((s.1.touchReceiver init fromId).update fromId fun p =>
                  p.updateReceiver init fun r => r.addStream stream, s.2)
                apply ((notify_ends s₁).of_run (addAnswerMedia_of_new hmid hssrcs hnew hhas)).congr
                · constructor
                  · intro hready
                    exact ⟨mid, ssrcs, hmid, hssrcs, htakes, fun _ => hready⟩
                  · intro ⟨mid', _, hmid', _, _, hready⟩
                    obtain rfl := Option.some.inj (hmid.symm.trans hmid')
                    exact hready hhas
                · intro _ s' hC hs'
                  have hready : s.2.Ready := by
                    obtain ⟨mid', _, hmid', _, _, hready⟩ := hC
                    obtain rfl := Option.some.inj (hmid.symm.trans hmid')
                    exact hready hhas
                  have hkept (r : Transceiver) (mid : String) (h : r.hasStreamWithMid mid = true) :
                      (r.addStream stream).hasStreamWithMid mid = true := by
                    rw [Transceiver.hasStreamWithMid_addStream, h]
                    rfl
                  rw [hs'.1]
                  exact ⟨htouch.trans Iff.rfl (received_update ((htouch.sameShape.exists_iff fromId).mpr hexists)
                    (fun _ => rfl) hkept (.inl hready)), Switches.ready_congr hs'.2⟩

theorem addAnswerMedias_ends (hexists : s.1.participantExists fromId = true) :
    Eff.EndsWhen (∀ media ∈ medias, s.1.TakesSection s.2 init fromId media)
      (fun _ s' => Received s.2 init fromId s.1 s'.1)
      (addAnswerMedias (some onNewStream) init init fromId medias) s := by
  induction medias generalizing s with
  | nil =>
      apply (Eff.endsWhen_pure _).of_true fun _ h => absurd h List.not_mem_nil
      exact .refl
  | cons media medias ih =>
      refine ((addAnswerMedia_ends hexists).bind fun _ s' _ hs' => ?_).congr List.forall_mem_cons.symm
        fun _ _ _ h => h
      apply (ih ((hs'.1.sameShape.exists_iff fromId).mpr hexists)).congr
      · exact forall₂_congr fun m _ => hs'.1.takesSection_iff hs'.2
      · intro _ s'' _ h
        exact hs'.1.trans hs'.2 h

/-- An answer to the offer of `init` is taken when it is awaited, and its sections are taken, with the
candidates that it brings. -/
structure TakesAnswer (s : Session) (t : Switches) (init fromId : Nat) (answer : SessionDescription) : Prop where
  awaited : (s.participant fromId).signalingState = .awaitAnswer
  sections : ∀ media ∈ answer.mediaDescriptions,
    (s.update fromId fun p => addAnswerCandidates p init answer).TakesSection t init fromId media

structure AfterAnswer (fromId : Nat) (s s' : Session) : Prop where
  sameShape : s.SameShape s'
  roles : s'.roles = Function.update s.roles fromId (some .stable)
  sent : ∀ k, (s'.participant k).outgoingStreams = (s.participant k).outgoingStreams

theorem addAnswer_ends {answer : SessionDescription} (hnumbered : s.1.Numbered)
    (hexists : s.1.participantExists fromId = true) :
    Eff.EndsWhen (∃ init, s.1.participantInState .gotOffer = .ok init ∧ s.1.TakesAnswer s.2 init fromId answer)
      (fun _ s' => AfterAnswer fromId s.1 s'.1) (addAnswer (some onNewStream) fromId answer) s := by
  unfold addAnswer
  apply Eff.endsWhen_get_bind
  apply Eff.endsWhen_ofExcept_bind
  intro init hinit
  obtain ⟨hinitExists, hoffering⟩ := participantInState_gotOffer hnumbered hinit
  apply modify_bind_ends
  rw [update_eq_self hinitExists rfl, update_eq_self hexists rfl]
  apply Eff.endsWhen_get_bind
  dsimp only
  rw [hnumbered init hinitExists]
  let g (p : Participant) : Participant := addAnswerCandidates p init answer
  let s₁ : Session × Switches := (s.1.update fromId g, s.2)
  have hsame : SameStreams (s.1.participant fromId) (g (s.1.participant fromId)) :=
    sameStreams_addAnswerCandidates _ answer
  have hfirst : s.1.SameShape s₁.1 := sameShape_update (f := g) hexists hsame.id
  have hs₁ : s₁.1.participantExists fromId = true := (hfirst.exists_iff fromId).mpr hexists
  have hloop : Eff.EndsWhen (∀ media ∈ answer.mediaDescriptions, s₁.1.TakesSection s₁.2 init fromId media)
      (fun _ s' => AfterAnswer fromId s.1 s'.1) (do
        addAnswerMedias (some onNewStream) init init fromId answer.mediaDescriptions
        modify fun s => s.update fromId fun p => { p with signalingState := .stable }) s₁ := by
    refine ((addAnswerMedias_ends hs₁).bind (D := True) ?_).congr (iff_of_eq (and_true _)) fun _ _ _ h => h
    intro _ s' _ h
    apply Eff.endsWhen_modify
    have hs' := (h.sameShape.exists_iff fromId).mpr hs₁
    refine ⟨hfirst.trans (h.sameShape.trans (sameShape_setState hs')), ?_, fun k => ?_⟩
    · show (s'.1.setState fromId .stable).roles = _
      rw [roles_setState, h.roles, roles_update_of_state hexists (addAnswerCandidates_signalingState _ _ _)]
    · show ((s'.1.setState fromId .stable).participant k).outgoingStreams = _
      rw [outgoingStreams_setState, h.sent k]
      by_cases hk : k = fromId
      · rw [hk, participant_update_self]
        exact hsame.sent
      · rw [participant_update_of_ne hk]
  refine (Eff.endsWhen_require_bind fun _ => modify_bind_ends hloop).congr ?_ fun _ _ _ h => h
  exact ⟨fun h => ⟨h.1, h.2⟩, fun h => ⟨h.awaited, h.sections⟩⟩

end Answers

/-! ## Streams that are passed on -/

section Send
variable {τ ω : Type} {cfg : SFUConfig} {direction : Direction} {stream : Stream} {media : MediaDescription}

theorem checkLines_ok_iff {d : SessionDescription} :
    d.checkLines = .ok () ↔ ∀ media ∈ d.mediaDescriptions, media.mid.isSome := by
  unfold SessionDescription.checkLines
  rw [← List.all_eq_true]
  split
  · exact ⟨fun _ => ‹_›, fun _ => rfl⟩
  · exact ⟨fun h => (nomatch h), fun h => absurd h ‹_›⟩

theorem forwardedMedia_ensures (cfg : SFUConfig) (direction : Direction) (stream : Stream) :
    (forwardedMedia cfg direction stream).Ensures
      (fun media => stream.description.connectionData.isSome ∧ media.mid = stream.description.mid)
      fun _ => ¬ stream.description.connectionData.isSome := by
  unfold forwardedMedia Stream.offer Stream.deref
  cases hdata : stream.description.connectionData with
  | none => exact Bool.false_ne_true
  | some data =>
      cases htype : stream.description.type with
      | video => exact ⟨rfl, rfl⟩
      | audio => exact ⟨rfl, rfl⟩

theorem answeredMedia_ensures (cfg : SFUConfig) (stream : Stream) :
    (answeredMedia cfg stream).Ensures
      (fun media => stream.description.connectionData.isSome ∧ media.mid = stream.description.mid)
      fun _ => ¬ stream.description.connectionData.isSome := by
  unfold answeredMedia
  apply (forwardedMedia_ensures cfg .recvonly stream).bind
  intro media h
  exact h

/-- The description of streams that are passed on, by a function for one of them. -/
theorem mapM_ensures {f : Stream → Except Fault MediaDescription} (hf : ∀ stream, (f stream).Ensures
      (fun media => stream.description.connectionData.isSome ∧ media.mid = stream.description.mid)
      fun _ => ¬ stream.description.connectionData.isSome) (streams : List Stream) :
    (streams.mapM f).Ensures (fun medias => (∀ stream ∈ streams, stream.description.connectionData.isSome) ∧
      ((∀ media ∈ medias, media.mid.isSome) ↔ ∀ stream ∈ streams, stream.description.mid.isSome))
      fun _ => ¬ ∀ stream ∈ streams, stream.description.connectionData.isSome := by
  cases h : streams.mapM f with
  | error e =>
      obtain ⟨stream, hmem, he⟩ := Except.of_mapM_error h
      intro hall
      exact (hf stream).of_error he (hall stream hmem)
  | ok medias =>
      refine ⟨fun stream hmem => ?_, fun hall stream hmem => ?_, fun hall media hmem => ?_⟩
      · obtain ⟨media, -, hmedia⟩ := Except.exists_result_of_mapM_ok h hmem
        exact ((hf stream).of_ok hmedia).1
      · obtain ⟨media, hmem', hmedia⟩ := Except.exists_result_of_mapM_ok h hmem
        rw [← ((hf stream).of_ok hmedia).2]
        exact hall media hmem'
      · obtain ⟨stream, hmem', hmedia⟩ := Except.exists_source_of_mapM_ok h hmem
        rw [((hf stream).of_ok hmedia).2]
        exact hall stream hmem'

/-- The streams of a participant can be passed on. -/
structure PassesOn (s : Session) (id : Nat) : Prop where
  template : ∀ media ∈ s.sfuConfig.sessionTemplate.mediaDescriptions, media.mid.isSome
  streams : ∀ stream ∈ (s.participant id).outgoingStreams, stream.Printable

/-- The streams of a participant can be put into a description. -/
def ConnectionsKnown (s : Session) (id : Nat) : Prop :=
  ∀ stream ∈ (s.participant id).outgoingStreams, stream.description.connectionData.isSome

def MidsKnown (s : Session) (id : Nat) : Prop :=
  (∀ media ∈ s.sfuConfig.sessionTemplate.mediaDescriptions, media.mid.isSome) ∧
    ∀ stream ∈ (s.participant id).outgoingStreams, stream.description.mid.isSome

theorem passesOn_iff {s : Session} {id : Nat} : s.PassesOn id ↔ s.ConnectionsKnown id ∧ s.MidsKnown id := by
  constructor
  · intro h
    exact ⟨fun stream hmem => (h.streams stream hmem).connectionData, h.template,
      fun stream hmem => (h.streams stream hmem).mid⟩
  · intro ⟨hdata, htemplate, hmids⟩
    exact ⟨htemplate, fun stream hmem => ⟨hdata stream hmem, hmids stream hmem⟩⟩

/-- The streams of a participant have been put into a description. -/
def Prints (s : Session) (id : Nat) (d : SessionDescription) : Prop := d.checkLines = .ok () ↔ s.MidsKnown id

theorem prints_addMedia {s : Session} {id : Nat} {medias : List MediaDescription} {d : SessionDescription}
    (hd : d.mediaDescriptions = s.sfuConfig.sessionTemplate.mediaDescriptions)
    (h : (∀ media ∈ medias, media.mid.isSome) ↔
      ∀ stream ∈ (s.participant id).outgoingStreams, stream.description.mid.isSome) :
    s.Prints id (addMedia d medias) := by
  unfold Prints MidsKnown addMedia
  rw [checkLines_ok_iff, ← h]
  dsimp only
  rw [hd]
  exact List.forall_mem_append

theorem PassesOn.congr {s s' : Session} {id : Nat} (hconfig : s'.sfuConfig = s.sfuConfig)
    (hstreams : (s'.participant id).outgoingStreams = (s.participant id).outgoingStreams) :
    s'.PassesOn id ↔ s.PassesOn id := by
  constructor
  · intro h
    exact ⟨hconfig ▸ h.template, hstreams ▸ h.streams⟩
  · intro h
    exact ⟨hconfig ▸ h.template, hstreams ▸ h.streams⟩

theorem AfterOffer.passesOn_iff {s s' : Session} {fromId : Nat} {offer : SessionDescription}
    (h : AfterOffer fromId offer s s') : s'.PassesOn fromId ↔ s.PassesOn fromId ∧
      ∀ media ∈ (s.participant fromId).newSections offer.mediaDescriptions, media.connectionData.isSome := by
  constructor
  · intro hpasses
    obtain ⟨hold, hnew⟩ := h.printable.mp hpasses.streams
    exact ⟨⟨h.sameShape.sfuConfig ▸ hpasses.template, hold⟩, hnew⟩
  · intro ⟨hpasses, hnew⟩
    exact ⟨h.sameShape.sfuConfig ▸ hpasses.template, h.printable.mpr ⟨hpasses.streams, hnew⟩⟩

theorem getOffer_ends {forId : Nat} {s : Session × τ} (hnumbered : s.1.Numbered)
    (hexists : s.1.participantExists forId = true) :
    Eff.EndsWhen (∃ init, (s.1.setState forId .awaitAnswer).participantInState .gotOffer = .ok init ∧
        s.1.ConnectionsKnown init)
      (fun offer s' => s' = (s.1.setState forId .awaitAnswer, s.2) ∧
        ∀ init, (s.1.setState forId .awaitAnswer).participantInState .gotOffer = .ok init → s.1.Prints init offer)
      (getOffer forId : SessionEff τ ω _) s := by
  let s₁ := s.1.setState forId .awaitAnswer
  have hs₁ : s₁.Numbered := (sameShape_setState hexists).numbered hnumbered
  have hstreams (init : Nat) : (s₁.participant init).outgoingStreams = (s.1.participant init).outgoingStreams :=
    outgoingStreams_setState
  have hrest (init : Nat) (hinit : s₁.participantInState .gotOffer = .ok init) :
    Eff.EndsWhen (s.1.ConnectionsKnown init)
      (fun offer s' => s' = (s₁, s.2) ∧ ∀ init, s₁.participantInState .gotOffer = .ok init → s.1.Prints init offer)
      (do
        let initPart ← Eff.ofExcept (s₁.getParticipant init)
        let medias ← Eff.ofExcept (initPart.outgoingStreams.mapM (forwardedMedia s₁.sfuConfig .sendonly))
        return addMedia s₁.sfuConfig.sessionTemplate medias : SessionEff τ ω _) (s₁, s.2) := by
    have hget : s₁.getParticipant init = .ok (s₁.participant init) := by
      unfold getParticipant
      rw [participants_of_exists (participantInState_gotOffer hs₁ hinit).1]
    have hensures := mapM_ensures (forwardedMedia_ensures s₁.sfuConfig .sendonly)
      (s.1.participant init).outgoingStreams
    rw [hget, Eff.ofExcept_ok_bind, hstreams init]
    cases hmedias : (s.1.participant init).outgoingStreams.mapM (forwardedMedia s₁.sfuConfig .sendonly) with
    | error e =>
        rintro _ rfl
        exact hensures.of_error hmedias
    | ok medias =>
        obtain ⟨hdata, hmids⟩ := hensures.of_ok hmedias
        apply (Eff.endsWhen_pure _).of_true hdata
        refine ⟨rfl, fun init' hinit' => ?_⟩
        obtain rfl := Except.ok.inj (hinit.symm.trans hinit')
        exact prints_addMedia rfl hmids
  unfold getOffer
  apply Eff.endsWhen_get_bind
  rw [Eff.require_pos hexists, Eff.pure_bind]
  apply modify_bind_ends
  apply Eff.endsWhen_get_bind
  exact Eff.endsWhen_ofExcept_bind hrest

theorem getAnswer_ends {forId : Nat} {s : Session × τ} (hrole : s.1.roles forId = some .gotOffer) :
    Eff.EndsWhen (s.1.ConnectionsKnown forId)
      (fun answer s' => s' = (s.1.setState forId .stable, s.2) ∧ s.1.Prints forId answer)
      (getAnswer forId : SessionEff τ ω _) s := by
  have hexists : s.1.participantExists forId = true := by
    rw [← roles_isSome_iff, hrole]
    rfl
  have hstate : (s.1.participant forId).signalingState = .gotOffer := by
    rw [roles_of_exists hexists] at hrole
    exact Option.some.inj hrole
  have hensures := mapM_ensures (answeredMedia_ensures s.1.sfuConfig) (s.1.participant forId).outgoingStreams
  unfold getAnswer
  apply Eff.endsWhen_get_bind
  rw [Eff.require_pos hexists, Eff.pure_bind, Eff.require_pos hstate, Eff.pure_bind]
  dsimp only
  cases hmedias : (s.1.participant forId).outgoingStreams.mapM (answeredMedia s.1.sfuConfig) with
  | error e =>
      rintro _ rfl
      exact hensures.of_error hmedias
  | ok medias =>
      obtain ⟨hdata, hmids⟩ := hensures.of_ok hmedias
      rw [Eff.ofExcept_ok_bind]
      apply modify_bind_ends
      apply (Eff.endsWhen_pure _).of_true hdata
      exact ⟨rfl, prints_addMedia rfl hmids⟩

end Send

/-! ## Joins -/

section Joins
variable {τ ω : Type} {s : Session} {ip : String} {port : UInt16} {init : Nat}

/-- A new participant has the only id that is its own. -/
theorem participantInState_joined
    (hfree : ¬ s.participantExists s.nextId = true) :
    ((s.joined ip port).setState s.nextId .awaitAnswer).participantInState .gotOffer = .ok init ↔
      s.participantInState .gotOffer = .ok init := by
  have hnone : s.roles s.nextId = none := roles_eq_none_iff.mpr (Bool.eq_false_of_not_eq_true hfree)
  have hroles (k : Nat) : ((s.joined ip port).setState s.nextId .awaitAnswer).roles k = some .gotOffer ↔
      s.roles k = some .gotOffer := by
    rw [roles_setState, roles_joined, Function.update_idem]
    by_cases hk : k = s.nextId
    · rw [hk, Function.update_self, hnone]
      exact ⟨fun h => (nomatch h), fun h => (nomatch h)⟩
    · rw [Function.update_of_ne hk]
  have hids (k : Nat) (hk : s.roles k = some .gotOffer) :
      (((s.joined ip port).setState s.nextId .awaitAnswer).participant k).id = (s.participant k).id := by
    have hne : k ≠ s.nextId := by
      rintro rfl
      exact nomatch hnone.symm.trans hk
    unfold setState
    rw [participant_update_of_ne hne, participant_joined_of_ne hne]
  rw [participantInState_ok_iff, participantInState_ok_iff]
  simp only [hroles]
  constructor
  · intro ⟨k, hk, hid, hunique⟩
    exact ⟨k, hk, (hids k hk).symm.trans hid, hunique⟩
  · intro ⟨k, hk, hid, hunique⟩
    exact ⟨k, hk, (hids k hk).trans hid, hunique⟩

theorem addParticipant_ends (s : Session × τ) :
    Eff.EndsWhen (¬ s.1.participantExistsAt ip port = true ∧ ¬ s.1.participantExists s.1.nextId = true)
      (fun id s' => id = s.1.nextId ∧ s' = (s.1.joined ip port, s.2))
      (addParticipant ip port : SessionEff τ ω Nat) s := by
  unfold addParticipant
  apply Eff.endsWhen_get_bind
  refine Eff.endsWhen_require_bind fun _ => ?_
  apply modify_bind_ends
  refine (Eff.endsWhen_require_bind (D := True) fun _ => ?_).congr (iff_of_eq (and_true _)) fun _ _ _ h => h
  apply modify_bind_ends
  exact Eff.endsWhen_pure ⟨rfl, rfl⟩

theorem countStreams_joined (hfree : ¬ s.participantExists s.nextId = true) :
    0 < (s.joined ip port).countStreams ↔ 0 < s.countStreams := by
  rw [countStreams_pos_iff, countStreams_pos_iff]
  have hold (k : Nat) (hk : s.participantExists k = true) : (s.joined ip port).participant k = s.participant k := by
    apply participant_joined_of_ne
    rintro rfl
    exact hfree hk
  constructor
  · intro ⟨k, hk, hpos⟩
    rcases participantExists_joined.mp hk with rfl | hk
    · rw [participant_joined_self] at hpos
      exact absurd hpos (Nat.lt_irrefl 0)
    · rw [hold k hk] at hpos
      exact ⟨k, hk, hpos⟩
  · intro ⟨k, hk, hpos⟩
    exact ⟨k, participantExists_joined.mpr (.inr hk), by rwa [hold k hk]⟩

theorem countParticipants_joined (hfree : ¬ s.participantExists s.nextId = true) (hstreams : 0 < s.countStreams) :
    1 < (s.joined ip port).countParticipants := by
  obtain ⟨k, hk, -⟩ := countStreams_pos_iff.mp hstreams
  apply one_lt_countParticipants (participantExists_joined.mpr (.inr hk)) (participantExists_joined.mpr (.inl rfl))
  rintro rfl
  exact hfree hk

end Joins

end Session

end Scallop
