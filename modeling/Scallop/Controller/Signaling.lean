import Mathlib.Data.List.Dedup
import Mathlib.Logic.Function.Basic
import Scallop.Controller.Session
import Scallop.Lib.Except
import Scallop.Lib.Machine
import Scallop.Lib.Triple

/-!
# Signaling transactions

* `Roles` : the signaling states of the participants of a session, an abstract view; `Roles.Move`,
  `Roles.Offer` : how they change, with one way to get to `gotOffer`; `SingleInitiator`;
* `Session.roles` : the view of a session; `participantInState_multiple_iff`, `signalingActive_iff` : what
  the queries of a session say about it;
* `*_roles` : what every operation does to the view;
* `Op`, `step` : runs of operations; `single_initiator`.
-/

namespace Scallop

open Machine

/-! ## Roles -/

/-- The signaling states of the participants that there are. -/
abbrev Roles := Nat → Option SignalingState

namespace Roles

def AllStable (r : Roles) : Prop := ∀ id state, r id = some state → state = .stable

/-- At most one participant has made an offer. -/
def SingleInitiator (r : Roles) : Prop :=
  ∀ id id', r id = some .gotOffer → r id' = some .gotOffer → id = id'

/-- A change of the roles by which nobody gets to `gotOffer`. -/
inductive Move (r : Roles) : Roles → Prop where
  | join {id : Nat} (hnew : r id = none) : Move r (Function.update r id (some .stable))
  | leave (id : Nat) : Move r (Function.update r id none)
  | await {id : Nat} (hid : (r id).isSome) : Move r (Function.update r id (some .awaitAnswer))
  | settle {id : Nat} (hid : (r id).isSome) : Move r (Function.update r id (some .stable))

abbrev Moves : Roles → Roles → Prop := Relation.ReflTransGen Move

/-- A participant makes an offer, when all are stable. -/
structure Offer (r : Roles) (id : Nat) (r' : Roles) : Prop where
  allStable : r.AllStable
  stable : r id = some .stable
  roles : r' = Function.update r id (some .gotOffer)

section Moves
variable {r r' : Roles} {id k : Nat}

theorem gotOffer_of_update {state : Option SignalingState} (hne : state ≠ some .gotOffer)
    (hk : Function.update r id state k = some .gotOffer) : r k = some .gotOffer := by
  by_cases heq : k = id
  · rw [heq, Function.update_self] at hk
    exact absurd hk hne
  · rwa [Function.update_of_ne heq] at hk

theorem Move.gotOffer (h : Move r r') (hk : r' k = some .gotOffer) : r k = some .gotOffer := by
  cases h with
  | join hnew => exact gotOffer_of_update (by decide) hk
  | leave id => exact gotOffer_of_update (by decide) hk
  | await hid => exact gotOffer_of_update (by decide) hk
  | settle hid => exact gotOffer_of_update (by decide) hk

theorem Moves.gotOffer (h : Moves r r') (hk : r' k = some .gotOffer) : r k = some .gotOffer := by
  induction h with
  | refl => exact hk
  | tail _ hmove ih => exact ih (hmove.gotOffer hk)

theorem SingleInitiator.moves (hone : r.SingleInitiator) (h : Moves r r') : r'.SingleInitiator :=
  fun id id' hid hid' => hone id id' (h.gotOffer hid) (h.gotOffer hid')

theorem Offer.gotOffer (h : Offer r id r') (hk : r' k = some .gotOffer) : k = id := by
  by_contra hne
  rw [h.roles, Function.update_of_ne hne] at hk
  exact absurd (h.allStable k _ hk) (by decide)

theorem Offer.singleInitiator (h : Offer r id r') : r'.SingleInitiator :=
  fun _ _ hk hk' => (h.gotOffer hk).trans (h.gotOffer hk').symm

end Moves

end Roles

/-! ## The roles of a session -/

namespace Session

/-- The signaling states of the participants. -/
def roles (s : Session) : Roles := fun id => (s.participants[id]?).map Participant.signalingState

section Queries
variable {s : Session} {id : Nat} {state : SignalingState} {f : Participant → Participant}

theorem roles_eq_none_iff : s.roles id = none ↔ s.participantExists id = false := by
  unfold roles
  rw [Option.map_eq_none_iff, ← Bool.not_eq_true, participantExists_iff, Option.not_isSome_iff_eq_none]

theorem roles_isSome_iff : (s.roles id).isSome ↔ s.participantExists id = true := by
  unfold roles
  rw [Option.isSome_map, participantExists_iff]

theorem roles_of_exists (h : s.participantExists id = true) :
    s.roles id = some (s.participant id).signalingState := by
  unfold roles
  rw [participants_of_exists h, Option.map_some]

theorem roles_update : (s.update id f).roles =
    Function.update s.roles id (some (f (s.participant id)).signalingState) := by
  funext k
  unfold roles
  by_cases hk : k = id
  · rw [hk, Function.update_self, participants_update_self, Option.map_some]
  · rw [Function.update_of_ne hk, participants_update_of_ne hk]

/-- The session with a participant in another state. -/
def setState (s : Session) (id : Nat) (state : SignalingState) : Session :=
  s.update id fun p => { p with signalingState := state }

theorem roles_setState {state : SignalingState} :
    (s.setState id state).roles = Function.update s.roles id (some state) := roles_update

/-- A participant that is there, changed in anything but its state. -/
theorem roles_update_of_state (h : s.participantExists id = true)
    (hf : (f (s.participant id)).signalingState = (s.participant id).signalingState) :
    (s.update id f).roles = s.roles := by
  rw [roles_update, hf, ← roles_of_exists h, Function.update_eq_self]

theorem signalingActive_iff : s.signalingActive = true ↔ ¬ s.roles.AllStable := by
  unfold signalingActive Roles.AllStable
  rw [List.any_eq_true]
  constructor
  · rintro ⟨⟨k, p⟩, hmem, hstate⟩ h
    have hrole : s.roles k = some p.signalingState := by
      unfold roles
      rw [mem_participants_iff.mp hmem, Option.map_some]
    exact of_decide_eq_true hstate (h k _ hrole)
  · intro h
    push Not at h
    obtain ⟨k, state, hrole, hne⟩ := h
    obtain ⟨p, hp, rfl⟩ := Option.map_eq_some_iff.mp hrole
    exact ⟨(k, p), mem_participants_iff.mpr hp, decide_eq_true hne⟩

def keysInState (s : Session) (state : SignalingState) : List Nat :=
  (s.participants.toList.filter fun e => e.2.signalingState = state).map Prod.fst

theorem mem_keysInState : id ∈ s.keysInState state ↔ s.roles id = some state := by
  unfold keysInState roles
  rw [List.mem_map, Option.map_eq_some_iff]
  constructor
  · rintro ⟨⟨k, p⟩, hmem, rfl⟩
    obtain ⟨hmem, hstate⟩ := List.mem_filter.mp hmem
    exact ⟨p, mem_participants_iff.mp hmem, of_decide_eq_true hstate⟩
  · rintro ⟨p, hp, hstate⟩
    exact ⟨(id, p), List.mem_filter.mpr ⟨mem_participants_iff.mpr hp, decide_eq_true hstate⟩, rfl⟩

theorem nodup_keysInState : (s.keysInState state).Nodup := by
  have hkeys : (s.participants.toList.map Prod.fst).Nodup := by
    rw [Std.ExtTreeMap.map_fst_toList_eq_keys]
    exact Std.ExtTreeMap.nodup_keys
  exact hkeys.sublist (List.filter_sublist.map Prod.fst)

theorem length_particpantsInState :
    (s.particpantsInState state).length = (s.keysInState state).length := by
  unfold particpantsInState keysInState
  rw [List.length_map, List.length_map]

/-- The query complains about several participants just when there are several. -/
theorem participantInState_multiple_iff :
    s.participantInState state = .error multipleInState ↔
      ∃ id id', id ≠ id' ∧ s.roles id = some state ∧ s.roles id' = some state := by
  have hlen := @length_particpantsInState s state
  have hnodup := @nodup_keysInState s state
  simp only [← mem_keysInState]
  unfold participantInState
  generalize s.particpantsInState state = ids at hlen
  generalize s.keysInState state = keys at hlen hnodup
  match ids, keys, hlen with
  | [], [], _ =>
      refine ⟨fun h => absurd h (by decide), ?_⟩
      rintro ⟨id, id', -, hid, -⟩
      exact absurd hid List.not_mem_nil
  | [a], [k], _ =>
      refine ⟨fun h => (nomatch h), ?_⟩
      rintro ⟨id, id', hne, hid, hid'⟩
      exact absurd ((List.mem_singleton.mp hid).trans (List.mem_singleton.mp hid').symm) hne
  | a :: b :: ids, k :: k' :: keys, _ =>
      refine ⟨fun _ => ⟨k, k', ?_, List.mem_cons_self, List.mem_cons_of_mem _ List.mem_cons_self⟩,
        fun _ => rfl⟩
      intro heq
      rw [heq] at hnodup
      exact (List.nodup_cons.mp hnodup).1 List.mem_cons_self

/-- The query returns just when one participant is in the state. -/
theorem participantInState_ok_iff {i : Nat} : s.participantInState state = .ok i ↔
    ∃ k, s.roles k = some state ∧ (s.participant k).id = i ∧
      ∀ k', s.roles k' = some state → k' = k := by
  have hnodup := @nodup_keysInState s state
  have hid : ∀ e ∈ s.participants.toList.filter fun e => e.2.signalingState = state,
      (s.participant e.1).id = e.2.id := by
    rintro ⟨k, p⟩ he
    rw [participant_of_some (mem_participants_iff.mp (List.mem_of_mem_filter he))]
  simp only [← mem_keysInState]
  unfold participantInState particpantsInState
  unfold keysInState at hnodup ⊢
  generalize s.participants.toList.filter (fun e => e.2.signalingState = state) = es
    at hnodup hid ⊢
  match es with
  | [] =>
      refine ⟨fun h => (nomatch h), ?_⟩
      rintro ⟨k, hk, -⟩
      exact absurd hk List.not_mem_nil
  | [(k, p)] =>
      have hp := hid (k, p) List.mem_cons_self
      constructor
      · intro h
        obtain rfl := Except.ok.inj h
        exact ⟨k, List.mem_cons_self, hp, fun k' hk' => List.mem_singleton.mp hk'⟩
      · rintro ⟨k', hk', rfl, -⟩
        obtain rfl := List.mem_singleton.mp hk'
        exact congrArg Except.ok hp.symm
  | (k, p) :: (k', p') :: es =>
      refine ⟨fun h => (nomatch h), ?_⟩
      rintro ⟨i, -, -, huniq⟩
      have heq : k = k' := (huniq k List.mem_cons_self).trans
        (huniq k' (List.mem_cons_of_mem _ List.mem_cons_self)).symm
      rw [heq] at hnodup
      exact absurd List.mem_cons_self (List.nodup_cons.mp hnodup).1

/-- A participant that is there, changed in anything but its id and its state. -/
theorem participantInState_update {i : Nat} (h : s.participantExists id = true)
    (hid : (f (s.participant id)).id = (s.participant id).id)
    (hstate : (f (s.participant id)).signalingState = (s.participant id).signalingState) :
    (s.update id f).participantInState state = .ok i ↔ s.participantInState state = .ok i := by
  have hids : ∀ k, ((s.update id f).participant k).id = (s.participant k).id := by
    intro k
    by_cases hk : k = id
    · rw [hk, participant_update_self, hid]
    · rw [participant_update_of_ne hk]
  rw [participantInState_ok_iff, participantInState_ok_iff, roles_update_of_state h hstate]
  simp only [hids]

end Queries

/-! ## What the operations do to the roles -/

section Operations
variable {τ ω : Type} {onNewStream : OnNewStream τ ω} {fromId forId id : Nat}
variable {media : Sdp.MediaDescription} {P : Session → Prop} {r : Roles}

theorem notify_keeps {stream : Stream} :
    Eff.Keeps (fun s : Session × τ => P s.1) (notify onNewStream id stream) := by
  unfold notify
  refine Eff.keeps_get_bind fun s => ?_
  split
  · exact Eff.keeps_throw _
  · exact fun _ h => h

theorem addOfferMedia_keeps
    (hadd : ∀ s stream, P s → P (s.update fromId fun p => p.addOutgoingStream stream)) :
    Eff.Keeps (fun s : Session × τ => P s.1) (addOfferMedia onNewStream fromId media) := by
  unfold addOfferMedia
  split
  · split
    · exact Eff.keeps_throw _
    · refine Eff.keeps_get_bind fun s => ?_
      split
      · exact Eff.keeps_pure _
      · exact (Eff.keeps_ofExcept _).bind fun stream =>
          Eff.Keeps.bind (Eff.keeps_modify fun s h => hadd s.1 stream h) fun _ => notify_keeps
  · exact Eff.keeps_pure _

theorem addOfferMedias_keeps
    (hadd : ∀ s stream, P s → P (s.update fromId fun p => p.addOutgoingStream stream)) :
    ∀ {medias : List Sdp.MediaDescription},
      Eff.Keeps (fun s : Session × τ => P s.1) (addOfferMedias onNewStream fromId medias)
  | [] => Eff.keeps_pure _
  | _ :: _ => (addOfferMedia_keeps hadd).bind fun _ => addOfferMedias_keeps hadd

section AddAnswer
variable {initKey offerId : Nat}
variable (htouch : ∀ s : Session, P s → P (s.touchReceiver offerId fromId))
variable (hadd : ∀ (s : Session) stream, P s →
  P (s.update fromId fun p => p.updateReceiver offerId fun r => r.addStream stream))
include htouch hadd

theorem addAnswerMedia_keeps : Eff.Keeps (fun s : Session × τ => P s.1)
    (addAnswerMedia onNewStream initKey offerId fromId media) := by
  unfold addAnswerMedia
  split
  · exact Eff.keeps_throw _
  · refine Eff.keeps_get_bind fun s => (Eff.keeps_ofExcept _).bind fun ssrcs => ?_
    refine Eff.Keeps.bind (Eff.keeps_modify fun s h => htouch s.1 h) fun _ => ?_
    refine Eff.keeps_get_bind fun s => (Eff.keeps_ofExcept _).bind fun stream => ?_
    split
    · exact Eff.keeps_pure _
    · exact Eff.Keeps.bind (Eff.keeps_modify fun s h => hadd s.1 stream h) fun _ => notify_keeps

theorem addAnswerMedias_keeps : ∀ {medias : List Sdp.MediaDescription},
    Eff.Keeps (fun s : Session × τ => P s.1)
      (addAnswerMedias onNewStream initKey offerId fromId medias)
  | [] => Eff.keeps_pure _
  | _ :: _ => (addAnswerMedia_keeps htouch hadd).bind fun _ => addAnswerMedias_keeps

end AddAnswer

/-- The roles are `r`, and a participant is among them. -/
def HasRoles (r : Roles) (id : Nat) (s : Session) : Prop := s.roles = r ∧ (r id).isSome

/-- A participant that is there, changed in anything but its state. -/
theorem HasRoles.update {s : Session} {f : Participant → Participant} (h : HasRoles r id s)
    (hf : ∀ p, (f p).signalingState = p.signalingState) : HasRoles r id (s.update id f) := by
  refine ⟨?_, h.2⟩
  have hexists : s.participantExists id = true := by
    rw [← roles_isSome_iff, h.1]
    exact h.2
  rw [roles_update_of_state hexists (hf _), h.1]

theorem addOffer_roles {offer : Sdp.SessionDescription} :
    Eff.Triple (fun s : Session × τ => s.1.roles = r) (addOffer onNewStream fromId offer)
      (fun _ s => Roles.Offer r fromId s.1.roles) fun _ s => s.1.roles = r := by
  unfold addOffer
  refine Eff.triple_get_bind fun s₀ h₀ => ?_
  refine Eff.triple_require_bind (fun hexists => ?_) fun s _ hs => hs ▸ h₀
  refine Eff.triple_require_bind (fun hactive => ?_) fun s _ hs => hs ▸ h₀
  have hstable : r.AllStable := by
    rw [signalingActive_iff, not_not, h₀] at hactive
    exact hactive
  have hrole : (r fromId).isSome := by
    rw [← h₀, roles_isSome_iff]
    exact hexists
  have hloop : Eff.Keeps (fun s : Session × τ => HasRoles r fromId s.1)
      (addOfferMedias onNewStream fromId offer.mediaDescriptions) :=
    addOfferMedias_keeps fun s stream h => h.update fun _ => rfl
  have hfirst : Eff.Triple (fun s : Session × τ => s = s₀)
      (modify fun s => s.update fromId fun p =>
        { p with sender := p.sender.updateICECandidates offer } : SessionEff τ ω Unit)
      (fun _ s => HasRoles r fromId s.1) fun _ s => s.1.roles = r := by
    apply Eff.triple_modify
    rintro s rfl
    have h : HasRoles r fromId s.1 := ⟨h₀, hrole⟩
    exact h.update fun _ => rfl
  refine hfirst.bind fun _ => Eff.Triple.bind (R := fun _ s => HasRoles r fromId s.1)
    ((Eff.Triple.of_keeps hloop).mono (fun _ h => h) (fun _ _ h => h) fun _ _ h => h.1) fun _ => ?_
  apply Eff.triple_modify
  intro s hs
  obtain ⟨state, hstate⟩ := Option.isSome_iff_exists.mp hrole
  obtain rfl := hstable fromId state hstate
  refine ⟨hstable, hstate, ?_⟩
  show (s.1.update fromId _).roles = _
  rw [roles_update, hs.1]

/-- An unknown participant is added by `operator[]`. -/
theorem moves_touch (s : Session) (id : Nat) :
    Roles.Moves s.roles (s.update id fun p => p).roles := by
  by_cases h : s.participantExists id = true
  · rw [roles_update_of_state h rfl]
  · have hnone := roles_eq_none_iff.mpr (Bool.eq_false_of_not_eq_true h)
    have hdefault : s.participant id = {} := by
      rw [participant_eq, Option.map_eq_none_iff.mp hnone]
      rfl
    rw [roles_update, hdefault]
    exact .single (.join hnone)

theorem roles_erase (s : Session) (id : Nat) :
    ({ s with participants := s.participants.erase id } : Session).roles =
      Function.update s.roles id none := by
  funext k
  unfold roles
  dsimp only
  rw [Std.ExtTreeMap.getElem?_erase]
  by_cases hk : k = id
  · rw [hk, if_pos (Nat.compare_eq_eq.mpr rfl), Function.update_self]
    rfl
  · rw [if_neg (by rw [Nat.compare_eq_eq]; exact fun h => hk h.symm), Function.update_of_ne hk]

/-- The program makes moves only, however it ends. -/
abbrev OnlyMoves {α : Type} (m : SessionEff τ ω α) : Prop :=
  ∀ r, Eff.Triple (fun s : Session × τ => s.1.roles = r) m (fun _ s => Roles.Moves r s.1.roles)
    fun _ s => Roles.Moves r s.1.roles

theorem addParticipant_onlyMoves (ip : String) (port : UInt16) :
    OnlyMoves (addParticipant ip port : SessionEff τ ω Nat) := by
  intro r
  unfold addParticipant
  refine Eff.triple_get_bind fun s₀ h₀ => ?_
  refine Eff.triple_require_bind (fun _ => ?_) fun s _ hs => by rw [hs, h₀]
  let id := (s₀.1.nextParticipantId + 1) % 2 ^ 32
  refine Eff.Triple.bind (R := fun _ s => s.1.roles = r ∧ s.1.participants = s₀.1.participants)
    (Eff.triple_modify ?_) fun _ => ?_
  · rintro s rfl
    exact ⟨h₀, rfl⟩
  refine Eff.triple_require_bind (fun hnew => ?_) fun s _ hs => by rw [hs.1]
  refine Eff.Triple.bind (R := fun _ s => Roles.Moves r s.1.roles) (Eff.triple_modify ?_) fun _ =>
    Eff.triple_pure fun _ h => h
  intro s hs
  have hnone : s.1.roles id = none := by
    rw [roles_eq_none_iff]
    unfold participantExists at hnew ⊢
    rw [hs.2]
    exact Bool.eq_false_of_not_eq_true hnew
  have hroles := @roles_update s.1 id fun _ => { id, controlIp := ip, controlPort := port }
  rw [← hs.1]
  exact .single (hroles ▸ .join hnone)

theorem removeParticipant_onlyMoves (id : Nat) :
    OnlyMoves (removeParticipant id : SessionEff τ ω Unit) := by
  intro r
  unfold removeParticipant
  refine Eff.triple_get_bind fun s₀ h₀ => ?_
  refine Eff.triple_require_bind (fun _ => Eff.triple_modify ?_) fun s _ hs => by rw [hs, h₀]
  rintro s rfl
  show Roles.Moves r ({ s.1 with participants := s.1.participants.erase id } : Session).roles
  rw [roles_erase, h₀]
  exact .single (.leave id)

theorem forwardedMedia_error {cfg : SFUConfig} {direction : Direction} {stream : Stream} {e : Fault}
    (h : forwardedMedia cfg direction stream = .error e) : e = .emptyOptional := by
  unfold forwardedMedia Stream.offer Stream.deref at h
  cases hdata : stream.description.connectionData with
  | none =>
      rw [hdata] at h
      exact (Except.error.inj h).symm
  | some data =>
      rw [hdata] at h
      cases htype : stream.description.type <;> rw [htype] at h <;> exact nomatch h

theorem answeredMedia_error {cfg : SFUConfig} {stream : Stream} {e : Fault}
    (h : answeredMedia cfg stream = .error e) : e = .emptyOptional := by
  unfold answeredMedia at h
  rcases Except.of_bind_error h with h | ⟨media, -, h⟩
  · exact forwardedMedia_error h
  · exact nomatch h

/-- The state is switched first, whatever comes of the offer. -/
theorem getOffer_sets {s₀ : Session × τ} (hexists : s₀.1.participantExists forId = true) :
    Eff.Triple (· = s₀) (getOffer forId : SessionEff τ ω Sdp.SessionDescription)
      (fun _ s => s = (s₀.1.setState forId .awaitAnswer, s₀.2))
      fun _ s => s = (s₀.1.setState forId .awaitAnswer, s₀.2) := by
  unfold getOffer
  refine Eff.triple_get_bind ?_
  rintro s₁ rfl
  rw [Eff.require_pos hexists, Eff.pure_bind]
  refine Eff.Triple.bind (R := fun _ s => s = (s₁.1.setState forId .awaitAnswer, s₁.2))
    (Eff.triple_modify ?_) fun _ => ?_
  · rintro s rfl
    rfl
  · apply Eff.Triple.of_keeps
    exact Eff.keeps_get_bind fun s => (Eff.keeps_ofExcept _).bind fun initPartId =>
      (Eff.keeps_ofExcept _).bind fun initPart => (Eff.keeps_ofExcept _).bind fun medias =>
        Eff.keeps_pure _

theorem getOffer_unknown {s : Session × τ} (hexists : ¬ s.1.participantExists forId = true) :
    (getOffer forId : SessionEff τ ω _) s = ⟨s, [], .error (.logicError
      "Session: getOffer: participant does not exist")⟩ := by
  unfold getOffer
  rw [Eff.get_bind_run, Eff.require_neg hexists]
  rfl

theorem getOffer_onlyMoves (forId : Nat) :
    OnlyMoves (getOffer forId : SessionEff τ ω Sdp.SessionDescription) := by
  intro r
  refine Eff.triple_intro ?_
  rintro s₀ rfl
  by_cases hexists : s₀.1.participantExists forId = true
  · have hmove : Roles.Moves s₀.1.roles (s₀.1.setState forId .awaitAnswer).roles := by
      rw [roles_setState]
      exact .single (.await (roles_isSome_iff.mpr hexists))
    refine (getOffer_sets hexists).mono (fun _ h => h) ?_ ?_
    · rintro - s rfl
      exact hmove
    · rintro - s rfl
      exact hmove
  · rintro s rfl
    rw [getOffer_unknown hexists]

/-- An answer, for a participant that has made an offer. -/
theorem getAnswer_sets {s₀ : Session × τ} (hstate : s₀.1.roles forId = some .gotOffer) :
    Eff.Triple (· = s₀) (getAnswer forId : SessionEff τ ω Sdp.SessionDescription)
      (fun _ s => s = (s₀.1.setState forId .stable, s₀.2))
      fun e s => s = s₀ ∧ e = .emptyOptional := by
  have hexists : s₀.1.participantExists forId = true := by
    rw [← roles_isSome_iff, hstate]
    rfl
  have hgotOffer : (s₀.1.participant forId).signalingState = .gotOffer := by
    rw [roles_of_exists hexists] at hstate
    exact Option.some.inj hstate
  unfold getAnswer
  refine Eff.triple_get_bind ?_
  rintro s₁ rfl
  rw [Eff.require_pos hexists, Eff.pure_bind, Eff.require_pos hgotOffer, Eff.pure_bind]
  refine Eff.Triple.bind (R := fun _ s => s = s₁) (Eff.triple_ofExcept (fun _ _ _ h => h) ?_)
    fun medias => ?_
  · intro e s he hs
    obtain ⟨stream, -, he⟩ := Except.of_mapM_error he
    exact ⟨hs, answeredMedia_error he⟩
  · refine Eff.Triple.bind (R := fun _ s => s = (s₁.1.setState forId .stable, s₁.2))
      (Eff.triple_modify ?_) fun _ => Eff.triple_pure fun _ h => h
    rintro s rfl
    rfl

theorem getAnswer_refused {s : Session × τ} (hstate : s.1.roles forId ≠ some .gotOffer) :
    ((getAnswer forId : SessionEff τ ω _) s).state = s ∧
      ∃ e, ((getAnswer forId : SessionEff τ ω _) s).result = .error e := by
  unfold getAnswer
  rw [Eff.get_bind_run]
  by_cases hexists : s.1.participantExists forId = true
  · rw [Eff.require_pos hexists, Eff.pure_bind, Eff.require_neg]
    · exact ⟨rfl, _, rfl⟩
    · intro hgotOffer
      exact hstate (by rw [roles_of_exists hexists, hgotOffer])
  · rw [Eff.require_neg hexists]
    exact ⟨rfl, _, rfl⟩

theorem getAnswer_onlyMoves (forId : Nat) :
    OnlyMoves (getAnswer forId : SessionEff τ ω Sdp.SessionDescription) := by
  intro r
  refine Eff.triple_intro ?_
  rintro s₀ rfl
  by_cases hstate : s₀.1.roles forId = some .gotOffer
  · refine (getAnswer_sets hstate).mono (fun _ h => h) ?_ ?_
    · rintro - s rfl
      rw [roles_setState]
      exact .single (.settle (by rw [hstate]; rfl))
    · rintro e s ⟨rfl, -⟩
      exact .refl
  · rintro s rfl
    obtain ⟨hsame, e, he⟩ := getAnswer_refused (ω := ω) hstate
    rw [he]
    show Roles.Moves s.1.roles (getAnswer forId s : Outcome _ ω _ _).state.1.roles
    rw [hsame]

theorem addAnswerCandidates_signalingState (p : Participant) (offerId : Nat)
    (answer : Sdp.SessionDescription) :
    (addAnswerCandidates p offerId answer).signalingState = p.signalingState := by
  unfold addAnswerCandidates
  induction Transceiver.descriptionCandidates answer generalizing p with
  | nil => rfl
  | cons c cs ih => exact ih _

theorem addAnswer_onlyMoves (fromId : Nat) (answer : Sdp.SessionDescription) :
    OnlyMoves (addAnswer onNewStream fromId answer) := by
  intro r
  unfold addAnswer
  refine Eff.triple_get_bind fun s₀ h₀ => ?_
  refine Eff.Triple.bind (R := fun _ s => s = s₀) (Eff.triple_ofExcept (fun _ _ _ h => h)
    fun _ s _ hs => by rw [hs, h₀]) fun initKey => ?_
  let touched (s : Session) : Session := (s.update initKey fun p => p).update fromId fun p => p
  let r₁ := (touched s₀.1).roles
  have hmoves : Roles.Moves r r₁ := by
    rw [← h₀]
    exact (moves_touch _ _).trans (moves_touch _ _)
  have hfrom : (r₁ fromId).isSome := by
    show ((touched s₀.1).roles fromId).isSome
    rw [roles_update, Function.update_self]
    rfl
  refine Eff.Triple.bind (R := fun _ s => HasRoles r₁ fromId s.1) (Eff.triple_modify ?_) fun _ => ?_
  · rintro s rfl
    exact ⟨rfl, hfrom⟩
  refine Eff.triple_get_bind fun s₁ h₁ => ?_
  refine Eff.triple_require_bind (fun hstate => ?_) fun s _ hs => by rw [hs, h₁.1]; exact hmoves
  refine Eff.Triple.bind (R := fun _ s => HasRoles r₁ fromId s.1) (Eff.triple_modify ?_) fun _ => ?_
  · rintro s rfl
    exact h₁.update (f := fun p => addAnswerCandidates p (s.1.participant initKey).id answer)
      fun p => addAnswerCandidates_signalingState p _ answer
  have hloop : Eff.Keeps (fun s : Session × τ => HasRoles r₁ fromId s.1)
      (addAnswerMedias onNewStream initKey (s₁.1.participant initKey).id fromId
        answer.mediaDescriptions) :=
    addAnswerMedias_keeps (fun s h => h.update fun _ => rfl) fun s stream h => h.update fun _ => rfl
  refine Eff.Triple.bind (R := fun _ s => HasRoles r₁ fromId s.1)
    ((Eff.Triple.of_keeps hloop).mono (fun _ h => h) (fun _ _ h => h) fun _ s h => by
      rw [h.1]; exact hmoves) fun _ => ?_
  apply Eff.triple_modify
  intro s hs
  show Roles.Moves r (s.1.update fromId _).roles
  rw [roles_update, hs.1]
  exact hmoves.tail (.settle hfrom)

/-- The query in `getOffer` is about the roles with the new state. -/
theorem getOffer_query (forId : Nat) :
    Eff.Triple (fun s : Session × τ => s.1.roles.SingleInitiator)
      (getOffer forId : SessionEff τ ω Sdp.SessionDescription) (fun _ _ => True)
      fun e _ => e ≠ multipleInState := by
  unfold getOffer
  refine Eff.triple_get_bind fun s₀ h₀ => ?_
  refine Eff.triple_require_bind (fun hexists => ?_) fun _ _ _ => by decide
  refine Eff.Triple.bind (R := fun _ s => s.1.roles.SingleInitiator) (Eff.triple_modify ?_)
    fun _ => ?_
  · rintro s rfl
    show (s.1.update forId _).roles.SingleInitiator
    rw [roles_update]
    exact h₀.moves (.single (.await (roles_isSome_iff.mpr hexists)))
  refine Eff.triple_get_bind fun s₁ h₁ => ?_
  have hquery : ∀ e, s₁.1.participantInState .gotOffer = .error e → e ≠ multipleInState := by
    rintro e he rfl
    obtain ⟨id, id', hne, hid, hid'⟩ := participantInState_multiple_iff.mp he
    exact hne (h₁ id id' hid hid')
  have hget : ∀ id e, s₁.1.getParticipant id = .error e → e ≠ multipleInState := by
    intro id e he
    unfold getParticipant at he
    split at he
    · exact nomatch he
    · obtain rfl := Except.error.inj he
      decide
  refine Eff.Triple.bind (R := fun _ _ => True) (Eff.triple_ofExcept (fun _ _ _ _ => trivial)
    fun e _ he _ => hquery e he) fun initPartId => ?_
  refine Eff.Triple.bind (R := fun _ _ => True) (Eff.triple_ofExcept (fun _ _ _ _ => trivial)
    fun e _ he _ => hget initPartId e he) fun initPart => ?_
  refine Eff.Triple.bind (R := fun _ _ => True) (Eff.triple_ofExcept (fun _ _ _ _ => trivial) ?_)
    fun medias => Eff.triple_pure fun _ _ => trivial
  intro e _ he _
  obtain ⟨stream, -, he⟩ := Except.of_mapM_error he
  rw [forwardedMedia_error he]
  decide

end Operations

/-! ## Runs -/

inductive Op where
  | addParticipant (ip : String) (port : UInt16)
  | removeParticipant (id : Nat)
  | addOffer (fromId : Nat) (offer : Sdp.SessionDescription)
  | getOffer (forId : Nat)
  | addAnswer (fromId : Nat) (answer : Sdp.SessionDescription)
  | getAnswer (forId : Nat)

section Runs
variable {τ ω : Type} (onNewStream : OnNewStream τ ω)

/-- Run an operation; its value does not matter. -/
def Op.run : Op → SessionEff τ ω Unit
  | .addParticipant ip port => do let _ ← Session.addParticipant ip port
  | .removeParticipant id => Session.removeParticipant id
  | .addOffer fromId offer => Session.addOffer onNewStream fromId offer
  | .getOffer forId => do let _ ← Session.getOffer forId
  | .addAnswer fromId answer => Session.addAnswer onNewStream fromId answer
  | .getAnswer forId => do let _ ← Session.getAnswer forId

/-- One operation; a caller that catches its exception goes on. -/
def step (s : Session × τ) (op : Op) : (Session × τ) × (List ω × Except Fault Unit) :=
  let out := op.run onNewStream s
  (out.state, out.effects, out.result)

/-- What an operation does to the roles: an offer, or moves. -/
def Op.Changes (op : Op) (r r' : Roles) : Prop :=
  Roles.Moves r r' ∨ ∃ fromId offer, op = .addOffer fromId offer ∧ Roles.Offer r fromId r'

/-- The concrete operations refine the abstract changes. -/
theorem step_changes (s : Session × τ) (op : Op) :
    op.Changes s.1.roles (step onNewStream s op).1.1.roles := by
  have hval : ∀ {α : Type} {m : SessionEff τ ω α}, OnlyMoves m →
      Roles.Moves s.1.roles ((m >>= fun _ => pure () : SessionEff τ ω Unit) s).state.1.roles := by
    intro α m h
    rw [Eff.state_bind_pure]
    exact (h s.1.roles).ends rfl
  cases op with
  | addParticipant ip port => exact .inl (hval (addParticipant_onlyMoves ip port))
  | removeParticipant id => exact .inl ((removeParticipant_onlyMoves id s.1.roles).ends rfl)
  | addOffer fromId offer =>
      have h := @addOffer_roles τ ω onNewStream fromId s.1.roles offer s rfl
      show Op.Changes _ _ (Session.addOffer onNewStream fromId offer s).state.1.roles
      cases hres : (Session.addOffer onNewStream fromId offer s).result with
      | ok u =>
          rw [hres] at h
          exact .inr ⟨fromId, offer, rfl, h⟩
      | error e =>
          rw [hres] at h
          rw [h]
          exact .inl .refl
  | getOffer forId => exact .inl (hval (getOffer_onlyMoves forId))
  | addAnswer fromId answer => exact .inl ((addAnswer_onlyMoves fromId answer s.1.roles).ends rfl)
  | getAnswer forId => exact .inl (hval (getAnswer_onlyMoves forId))

theorem step_singleInitiator {s : Session × τ} (op : Op) (hone : s.1.roles.SingleInitiator) :
    (step onNewStream s op).1.1.roles.SingleInitiator := by
  rcases step_changes onNewStream s op with hmoves | ⟨fromId, offer, -, hoffer⟩
  · exact hone.moves hmoves
  · exact hoffer.singleInitiator

/-- At most one participant is in `gotOffer`, so the query for it does not complain. -/
structure OneInitiator (s : Session) : Prop where
  roles : s.roles.SingleInitiator
  query : s.participantInState .gotOffer ≠ .error multipleInState

/-- A participant gets to `gotOffer` by an offer of its own, when all are stable; and the query in
`getOffer` does not complain, either. -/
structure EntersByOffer (s : Session × τ) (op : Op) : Prop where
  enters : ∀ id, s.1.roles id ≠ some .gotOffer →
    (step onNewStream s op).1.1.roles id = some .gotOffer →
      s.1.roles.AllStable ∧ ∃ offer, op = .addOffer id offer
  query : ∀ id, op = .getOffer id → (step onNewStream s op).2.2 ≠ .error multipleInState

theorem oneInitiator_of_roles {s : Session} (hone : s.roles.SingleInitiator) : OneInitiator s := by
  refine ⟨hone, fun h => ?_⟩
  obtain ⟨id, id', hne, hid, hid'⟩ := participantInState_multiple_iff.mp h
  exact hne (hone id id' hid hid')

theorem entersByOffer_of_roles {s : Session × τ} (hone : s.1.roles.SingleInitiator) (op : Op) :
    EntersByOffer onNewStream s op where
  enters id hid hid' := by
    rcases step_changes onNewStream s op with hmoves | ⟨fromId, offer, hop, hoffer⟩
    · exact absurd (hmoves.gotOffer hid') hid
    · obtain rfl := hoffer.gotOffer hid'
      exact ⟨hoffer.allStable, offer, hop⟩
  query id hop := by
    subst hop
    have h : Eff.Triple (fun s : Session × τ => s.1.roles.SingleInitiator)
        (Op.run onNewStream (.getOffer id)) (fun _ _ => True) fun e _ => e ≠ multipleInState :=
      (getOffer_query id).bind fun _ => Eff.triple_pure fun _ _ => trivial
    intro hres
    exact h.throws hone hres rfl

/-- **Single initiator.** In a run of operations, thrown exceptions included, at most one participant is
in `gotOffer` at every point, and it got there by an offer of its own, when all were stable. -/
theorem single_initiator (id : Nat) (sfuConfig : SFUConfig) (t : τ) (ops : List Op) :
    Always (fun s => OneInitiator s.1) (step onNewStream) ({ id, sfuConfig }, t) ops ∧
      Along (EntersByOffer onNewStream) (step onNewStream) ({ id, sfuConfig }, t) ops := by
  have hinit : ({ id, sfuConfig } : Session).roles.SingleInitiator := by
    intro k k' hk
    unfold roles at hk
    rw [Std.ExtTreeMap.getElem?_empty] at hk
    exact nomatch hk
  have hall : Always (fun s => s.1.roles.SingleInitiator) (step onNewStream)
      ({ id, sfuConfig }, t) ops :=
    Along.always (P := fun _ _ => True) (fun _ op h _ => step_singleInitiator onNewStream op h)
      (Along.of_forall (fun _ _ => trivial) _ _) hinit
  exact ⟨hall.mono fun _ h => oneInitiator_of_roles h,
    hall.along fun _ op h => entersByOffer_of_roles onNewStream h op⟩

end Runs

end Session

end Scallop
