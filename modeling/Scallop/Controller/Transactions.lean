import Scallop.Controller.Changes

/-!
# Transactions under way

* `Roles.Offering` : one participant has made an offer; `Roles.Settled` : nobody waits, or one participant
  waits for the answers of others;
* `Settled.join`, `Settled.leave`, `Offering.await`, `Offering.answer`, `Offering.settle` : how the roles
  stay settled, or get there;
* `Session.Good`, `Session.Offered` : sessions between transactions, and in one; `*_good`,
  `getOffer_awaits` : what the operations of a session do to them, for a caller that has checked that the
  participant is there.
-/

namespace Scallop

open Machine

namespace Roles

structure Offering (r : Roles) (id : Nat) : Prop where
  gotOffer : r id = some .gotOffer
  unique : ∀ k, r k = some .gotOffer → k = id

def Awaiting (r : Roles) : Prop := ∃ k, r k = some .awaitAnswer

/-- Nobody waits, or exactly one participant waits for the answers of others. -/
def Settled (r : Roles) : Prop := r.AllStable ∨ (∃ id, r.Offering id) ∧ r.Awaiting

/-- A participant that is neither the one who waits, nor the only one who is waited for. -/
structure MayLeave (r : Roles) (id : Nat) : Prop where
  notInitiator : r id ≠ some .gotOffer
  last : r id = some .awaitAnswer → ∃ k, k ≠ id ∧ r k = some .awaitAnswer

section Settled
variable {r r' : Roles} {id k : Nat}

theorem Settled.offering (h : r.Settled) (hk : r k = some .awaitAnswer) : ∃ id, r.Offering id := by
  rcases h with h | h
  · exact absurd (h k _ hk) (by decide)
  · exact h.1

theorem Settled.join (h : r.Settled) (hnew : r id = none) :
    Settled (Function.update r id (some .stable)) := by
  have hne : ∀ {k state}, r k = some state → k ≠ id := by
    rintro k state hk rfl
    exact nomatch hnew.symm.trans hk
  rcases h with h | ⟨⟨i, hoffer⟩, k, hk⟩
  · left
    intro k state hk
    by_cases heq : k = id
    · rw [heq, Function.update_self] at hk
      exact (Option.some.inj hk).symm
    · rw [Function.update_of_ne heq] at hk
      exact h k state hk
  · refine .inr ⟨⟨i, ?_, fun k hk => hoffer.unique k (gotOffer_of_update (by decide) hk)⟩, k, ?_⟩
    · rw [Function.update_of_ne (hne hoffer.gotOffer), hoffer.gotOffer]
    · rw [Function.update_of_ne (hne hk), hk]

theorem AllStable.of_join (h : AllStable (Function.update r id (some .stable)))
    (hnew : r id = none) : r.AllStable := by
  intro k state hk
  refine h k state ?_
  rw [Function.update_of_ne, hk]
  rintro rfl
  exact nomatch hnew.symm.trans hk

theorem Offer.offering (h : Offer r id r') : r'.Offering id where
  gotOffer := by rw [h.roles, Function.update_self]
  unique k hk := h.gotOffer hk

theorem Offer.not_awaiting (h : Offer r id r') : ¬ r'.Awaiting := by
  rintro ⟨k, hk⟩
  rw [h.roles] at hk
  by_cases heq : k = id
  · rw [heq, Function.update_self] at hk
    exact nomatch hk
  · rw [Function.update_of_ne heq] at hk
    exact nomatch h.allStable k _ hk

theorem Offering.await (h : r.Offering id) (hk : k ≠ id) :
    Offering (Function.update r k (some .awaitAnswer)) id ∧
      Awaiting (Function.update r k (some .awaitAnswer)) := by
  refine ⟨⟨?_, fun j hj => h.unique j (gotOffer_of_update (by decide) hj)⟩, k, ?_⟩
  · rw [Function.update_of_ne hk.symm, h.gotOffer]
  · rw [Function.update_self]

theorem Offering.settle (h : r.Offering id) (hawaiting : ¬ r.Awaiting) :
    AllStable (Function.update r id (some .stable)) := by
  intro k state hk
  by_cases heq : k = id
  · rw [heq, Function.update_self] at hk
    exact (Option.some.inj hk).symm
  · rw [Function.update_of_ne heq] at hk
    cases state with
    | stable => rfl
    | gotOffer => exact absurd (h.unique k hk) heq
    | awaitAnswer => exact absurd ⟨k, hk⟩ hawaiting

theorem Offering.answer (h : r.Offering id) (hk : r k = some .awaitAnswer) :
    Offering (Function.update r k (some .stable)) id := by
  have hne : id ≠ k := by
    rintro rfl
    exact nomatch h.gotOffer.symm.trans hk
  refine ⟨?_, fun j hj => h.unique j (gotOffer_of_update (by decide) hj)⟩
  rw [Function.update_of_ne hne, h.gotOffer]

theorem Settled.leave (h : r.Settled) (hleave : r.MayLeave id) :
    Settled (Function.update r id none) := by
  rcases h with h | ⟨⟨i, hoffer⟩, k, hk⟩
  · left
    intro k state hk
    by_cases heq : k = id
    · rw [heq, Function.update_self] at hk
      exact nomatch hk
    · rw [Function.update_of_ne heq] at hk
      exact h k state hk
  · obtain ⟨k', hne, hk'⟩ : ∃ k', k' ≠ id ∧ r k' = some .awaitAnswer := by
      by_cases heq : k = id
      · exact hleave.last (heq ▸ hk)
      · exact ⟨k, heq, hk⟩
    have hi : i ≠ id := by
      rintro rfl
      exact hleave.notInitiator hoffer.gotOffer
    refine .inr ⟨⟨i, ?_, fun j hj => hoffer.unique j (gotOffer_of_update (by decide) hj)⟩, k', ?_⟩
    · rw [Function.update_of_ne hi, hoffer.gotOffer]
    · rw [Function.update_of_ne hne, hk']

end Settled

end Roles

namespace Session

section Queries
variable {s : Session} {id : Nat} {state : SignalingState}

theorem particpantsInState_eq_nil_iff :
    s.particpantsInState state = [] ↔ ¬ ∃ k, s.roles k = some state := by
  rw [← List.length_eq_zero_iff, length_particpantsInState, List.length_eq_zero_iff,
    List.eq_nil_iff_forall_not_mem, not_exists]
  exact forall_congr' fun k => not_congr mem_keysInState

theorem participantInState_of_offering (hconsistent : Consistent s) (h : s.roles.Offering id) :
    s.participantInState .gotOffer = .ok id := by
  refine participantInState_ok_iff.mpr ⟨id, h.gotOffer, hconsistent.ids id ?_, h.unique⟩
  rw [← roles_isSome_iff, h.gotOffer]
  rfl

theorem participantExists_of_mem_keys (h : id ∈ s.participants.keys) :
    s.participantExists id = true :=
  Std.ExtTreeMap.contains_iff_mem.mpr (Std.ExtTreeMap.mem_keys.mp h)

theorem exists_other (h : 1 < s.countParticipants) (id : Nat) : ∃ k ∈ s.participants.keys, k ≠ id := by
  have hlen : s.participants.keys.length = s.countParticipants := Std.ExtTreeMap.length_keys
  have hnodup : s.participants.keys.Nodup := Std.ExtTreeMap.nodup_keys
  match hkeys : s.participants.keys with
  | [] =>
      rw [← hlen, hkeys] at h
      exact absurd h (by decide : ¬ 1 < 0)
  | [k] =>
      rw [← hlen, hkeys] at h
      exact absurd h (lt_irrefl 1)
  | k :: k' :: ks =>
      rw [hkeys] at hnodup
      by_cases hk : k = id
      · refine ⟨k', List.mem_cons_of_mem _ List.mem_cons_self, fun hk' => ?_⟩
        rw [hk, hk'] at hnodup
        exact (List.nodup_cons.mp hnodup).1 List.mem_cons_self
      · exact ⟨k, List.mem_cons_self, hk⟩

theorem signalingActive_of_offering (h : s.roles.Offering id) : s.signalingActive = true :=
  signalingActive_iff.mpr fun hstable => absurd (hstable id _ h.gotOffer) (by decide)

end Queries

theorem countStreams_pos_iff {s : Session} : 0 < s.countStreams ↔
    ∃ k, s.participantExists k = true ∧ 0 < (s.participant k).outgoingStreams.length := by
  unfold countStreams
  rw [List.sum_pos_iff_exists_pos_nat]
  constructor
  · rintro ⟨n, hn, hpos⟩
    obtain ⟨⟨k, p⟩, hmem, rfl⟩ := List.mem_map.mp hn
    have hp := mem_participants_iff.mp hmem
    refine ⟨k, participantExists_iff.mpr (hp ▸ rfl), ?_⟩
    rw [participant_of_some hp]
    exact hpos
  · rintro ⟨k, hexists, hpos⟩
    exact ⟨_, List.mem_map.mpr ⟨(k, s.participant k),
      mem_participants_iff.mpr (participants_of_exists hexists), rfl⟩, hpos⟩

theorem countStreams_of_joined {s : Session} {ip : String} {port : UInt16}
    (h : 0 < (s.joined ip port).countStreams) : 0 < s.countStreams := by
  obtain ⟨k, hexists, hpos⟩ := countStreams_pos_iff.mp h
  by_cases hk : k = s.nextId
  · rw [hk, participant_joined_self] at hpos
    exact absurd hpos (lt_irrefl 0)
  · rw [participant_joined_of_ne hk] at hpos
    exact countStreams_pos_iff.mpr
      ⟨k, (participantExists_joined.mp hexists).resolve_left hk, hpos⟩

/-! ## Sessions between transactions, and in one -/

/-- Participants know their ids, and no transaction is stuck. -/
structure Good (s : Session) : Prop where
  consistent : Consistent s
  settled : s.roles.Settled

/-- A participant has made an offer, and nobody is to answer it yet. -/
structure Offered (s : Session) (id : Nat) : Prop where
  consistent : Consistent s
  offering : s.roles.Offering id
  notAwaiting : ¬ s.roles.Awaiting

theorem good_new {id : Nat} {sfuConfig : SFUConfig} : Good { id, sfuConfig } where
  consistent := consistent_new
  settled := .inl fun k state hk => by
    have hexists := roles_isSome_iff.mp (Option.isSome_iff_exists.mpr ⟨state, hk⟩)
    exact absurd hexists not_participantExists_new

theorem Good.joined {s : Session} {ip : String} {port : UInt16} (h : s.Good)
    (hnew : ¬ s.participantExists s.nextId = true) : (s.joined ip port).Good where
  consistent := h.consistent.joined
  settled := by
    rw [roles_joined]
    exact h.settled.join (roles_eq_none_iff.mpr (Bool.eq_false_of_not_eq_true hnew))

theorem Good.erase {s : Session} {id : Nat} (h : s.Good) (hleave : s.roles.MayLeave id) :
    (s.erase id).Good where
  consistent := h.consistent.erase id
  settled := by
    have hroles : (s.erase id).roles = Function.update s.roles id none := roles_erase s id
    rw [hroles]
    exact h.settled.leave hleave

section Operations
variable {τ ω : Type} {onNewStream : Session → Nat → Stream → Eff τ ω Fault Unit}
variable {id : Nat} {r : Roles}

/-- `Consistent` is kept by every step, whatever the callback does. -/
theorem consistent_kept : KeptBy onNewStream fun s _ => Consistent s :=
  ⟨fun h hchange => h.change hchange, fun h hchange _ => h.change hchange⟩

/-- An answer of a participant that is there; it was awaited. -/
theorem addAnswer_roles {answer : Sdp.SessionDescription} :
    Eff.Triple (fun s : Session × τ => Consistent s.1 ∧ HasRoles r id s.1)
      (addAnswer (some onNewStream) id answer)
      (fun _ s => r id = some .awaitAnswer ∧ s.1.roles = Function.update r id (some .stable))
      fun _ s => s.1.roles = r := by
  unfold addAnswer
  refine Eff.triple_get_bind fun s₀ h₀ => ?_
  obtain ⟨hconsistent, hroles⟩ := h₀
  have hfrom : s₀.1.participantExists id = true := by
    rw [← roles_isSome_iff, hroles.1]
    exact hroles.2
  refine Eff.Triple.bind (R := fun initKey s => s = s₀ ∧
    s₀.1.participantInState .gotOffer = .ok initKey) (Eff.triple_ofExcept (fun _ _ h hs => ⟨hs, h⟩)
      fun _ _ _ hs => hs ▸ hroles.1) fun initKey => ?_
  refine Eff.Triple.bind (R := fun _ s => s = s₀) (Eff.triple_modify ?_) fun _ => ?_
  · rintro s ⟨rfl, hquery⟩
    have h := Answering.of_query hconsistent hquery hfrom
    refine Prod.ext ?_ rfl
    show (s.1.update initKey fun p => p).update id (fun p => p) = s.1
    rw [update_eq_self h.initExists rfl, update_eq_self hfrom rfl]
  refine Eff.triple_get_bind ?_
  rintro s₁ rfl
  refine Eff.triple_require_bind (fun hstate => ?_) fun s _ hs => hs ▸ hroles.1
  have hawait : r id = some .awaitAnswer := by
    rw [← hroles.1, roles_of_exists hfrom, hstate]
  refine Eff.Triple.bind (R := fun _ s => HasRoles r id s.1) (Eff.triple_modify ?_) fun _ => ?_
  · rintro s rfl
    exact hroles.update (f := fun p => addAnswerCandidates p (s.1.participant initKey).id answer)
      fun p => addAnswerCandidates_signalingState p _ answer
  have hloop : Eff.Keeps (fun s : Session × τ => HasRoles r id s.1)
      (addAnswerMedias (some onNewStream) initKey (s₁.1.participant initKey).id id
        answer.mediaDescriptions) :=
    addAnswerMedias_keeps (fun s h => h.update fun _ => rfl) fun s stream h => h.update fun _ => rfl
  refine Eff.Triple.bind (R := fun _ s => HasRoles r id s.1)
    ((Eff.Triple.of_keeps hloop).mono (fun _ h => h) (fun _ _ h => h) fun _ s h => h.1) fun _ => ?_
  apply Eff.triple_modify
  intro s hs
  refine ⟨hawait, ?_⟩
  show (s.1.update id _).roles = _
  rw [roles_update, hs.1]

/-- The answer to an offer that nobody is to answer any more. -/
theorem getAnswer_good :
    Triple (fun s => s.Offered id) (getAnswer id : SessionEff τ ω _) (fun _ => Good)
      fun e _ => e.IsUndefined := by
  refine Eff.triple_intro fun s₀ h₀ => ?_
  have hexists : s₀.1.participantExists id = true := by
    rw [← roles_isSome_iff, h₀.offering.gotOffer]
    rfl
  refine (getAnswer_sets h₀.offering.gotOffer).mono (fun _ h => h) ?_ fun e s h => h.2 ▸ .inl rfl
  rintro - s rfl
  refine ⟨h₀.consistent.change (change_setState hexists), .inl ?_⟩
  rw [roles_setState]
  exact h₀.offering.settle h₀.notAwaiting

theorem addOffer_good {offer : Sdp.SessionDescription} :
    Triple Good (addOffer (some onNewStream) id offer) (fun _ s => s.Offered id)
      fun _ s => s.roles.Settled := by
  refine Eff.triple_intro fun s₀ h₀ => ?_
  have hroles := @addOffer_roles τ ω (some onNewStream) id s₀.1.roles offer
  refine (hroles.and (addOffer_makes (consistent_kept (τ := τ)))).mono ?_ ?_ ?_
  · rintro s rfl
    exact ⟨rfl, h₀.consistent, trivial⟩
  · rintro - s ⟨hoffer, hconsistent, -⟩
    exact ⟨hconsistent, hoffer.offering, hoffer.not_awaiting⟩
  · rintro - s ⟨hs, -⟩
    exact hs ▸ h₀.settled

theorem addAnswer_good {answer : Sdp.SessionDescription} :
    Triple (fun s => s.Good ∧ s.participantExists id = true)
      (addAnswer (some onNewStream) id answer)
      (fun _ s => Consistent s ∧ ∃ init, s.roles.Offering init) fun _ s => s.roles.Settled := by
  refine Eff.triple_intro ?_
  rintro s₀ ⟨h₀, hexists⟩
  have hroles := @addAnswer_roles τ ω onNewStream id s₀.1.roles answer
  refine (hroles.and (addAnswer_makes (consistent_kept (τ := τ)))).mono ?_ ?_ ?_
  · rintro s rfl
    exact ⟨⟨h₀.consistent, rfl, roles_isSome_iff.mpr hexists⟩, h₀.consistent, h₀.consistent, hexists⟩
  · rintro - s ⟨⟨hawait, hs⟩, hconsistent, -⟩
    obtain ⟨init, hoffering⟩ := h₀.settled.offering hawait
    exact ⟨hconsistent, init, hs ▸ hoffering.answer hawait⟩
  · rintro - s ⟨hs, -⟩
    exact hs ▸ h₀.settled

/-- An offer of another participant awaits an answer. -/
theorem getOffer_awaits {init : Nat} {s₀ : Session × τ} (hconsistent : Consistent s₀.1)
    (hoffering : s₀.1.roles.Offering init) (hne : id ≠ init)
    (hexists : s₀.1.participantExists id = true) :
    let s := s₀.1.setState id .awaitAnswer
    Consistent s ∧ s.roles.Offering init ∧ s.roles.Awaiting := by
  obtain ⟨hoffering', hawaiting⟩ := hoffering.await hne
  dsimp only
  rw [roles_setState]
  exact ⟨hconsistent.change (change_setState hexists), hoffering', hawaiting⟩

end Operations

end Session

end Scallop
