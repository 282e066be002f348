import Scallop.Controller.Handlers
import Scallop.Controller.Returns

/-!
# Participants that know their ids

* `*_numbered` : every operation of a session keeps that its participants know their ids, also when it throws;
* `Controller.AllNumbered`, `handle_allNumbered` : so does every handler;
* `Process.allNumbered` : and a run.
-/

namespace Scallop

open Machine

namespace Session

section Operations
variable {τ ω : Type} {fromId forId id : Nat} {onNewStream : OnNewStream τ ω}

/-- The program keeps that the participants know their ids, from sessions in `P`. -/
abbrev KeepsNumbered {α : Type} (P : Session → Prop) (m : SessionEff τ ω α) : Prop :=
  Triple (fun s => s.Numbered ∧ P s) m (fun _ => Numbered) fun _ => Numbered

theorem Numbered.congr {s s' : Session} (h : s.Numbered) (hs : s'.participants = s.participants) : s'.Numbered := by
  unfold Numbered participantExists participant
  rw [hs]
  exact h

theorem Numbered.joined {s : Session} {ip : String} {port : UInt16} (h : s.Numbered) : (s.joined ip port).Numbered := by
  intro k hk
  by_cases heq : k = s.nextId
  · rw [heq, participant_joined_self]
  · rw [participant_joined_of_ne heq]
    exact h k ((participantExists_joined.mp hk).resolve_left heq)

theorem Numbered.erase {s : Session} (h : s.Numbered) (id : Nat) : (s.erase id).Numbered := by
  intro k hk
  obtain ⟨hne, hk⟩ := participantExists_erase.mp hk
  rw [participant_erase_of_ne hne, h k hk]

theorem addParticipant_numbered {ip : String} {port : UInt16} :
    KeepsNumbered (fun _ => True) (addParticipant ip port : SessionEff τ ω Nat) := by
  apply Eff.triple_intro
  intro s₀ h₀
  apply (addParticipant_joins s₀).mono (fun _ h => h)
  · intro id s hs
    rw [hs.2.2]
    exact h₀.1.joined
  · intro e s ⟨n, hs⟩
    rw [hs]
    exact h₀.1.congr rfl

theorem removeParticipant_numbered :
    KeepsNumbered (fun _ => True) (removeParticipant id : SessionEff τ ω Unit) := by
  apply Eff.triple_intro
  intro s₀ h₀
  unfold removeParticipant
  apply Eff.triple_get_bind
  rintro s rfl
  apply Eff.triple_require_bind
  · intro _
    apply Eff.triple_modify
    rintro s' rfl
    exact h₀.1.erase id
  · rintro s' _ rfl
    exact h₀.1

/-- A condition on a session with a participant. -/
def NumberedWith (fromId : Nat) (s : Session) : Prop := s.Numbered ∧ s.participantExists fromId = true

theorem NumberedWith.update {s : Session} {f : Participant → Participant} (h : NumberedWith fromId s)
    (hid : ∀ p, (f p).id = p.id) : NumberedWith fromId (s.update fromId f) := by
  have hshape : s.SameShape (s.update fromId f) := sameShape_update h.2 (hid _)
  exact ⟨hshape.numbered h.1, (hshape.exists_iff fromId).mpr h.2⟩

theorem addOffer_numbered {offer : Sdp.SessionDescription} :
    KeepsNumbered (fun _ => True) (addOffer onNewStream fromId offer) := by
  have hloop : Eff.Keeps (fun s : Session × τ => NumberedWith fromId s.1)
      (addOfferMedias onNewStream fromId offer.mediaDescriptions) :=
    addOfferMedias_keeps fun s stream h => h.update fun _ => rfl
  unfold addOffer
  apply Eff.triple_get_bind
  intro s₀ h₀
  apply Eff.triple_require_bind
  · intro hexists
    apply Eff.triple_require_bind
    · intro _
      refine (Eff.Triple.of_keeps (I := fun s : Session × τ => NumberedWith fromId s.1) ?_).mono ?_
        (fun _ _ h => h.1) fun _ _ h => h.1
      · apply Eff.Keeps.bind
        · exact Eff.keeps_modify fun s h => h.update fun _ => rfl
        · intro
          exact hloop.bind fun _ => Eff.keeps_modify fun s h => h.update fun _ => rfl
      · rintro s rfl
        exact ⟨h₀.1, hexists⟩
    · rintro s _ rfl
      exact h₀.1
  · rintro s _ rfl
    exact h₀.1

theorem getOffer_numbered : KeepsNumbered (fun _ => True) (getOffer forId : SessionEff τ ω _) := by
  apply Eff.triple_intro
  intro s₀ h₀
  by_cases hexists : s₀.1.participantExists forId = true
  · have hset : (s₀.1.setState forId .awaitAnswer).Numbered := (sameShape_setState hexists).numbered h₀.1
    apply (getOffer_sets hexists).mono (fun _ h => h)
    · rintro - s rfl
      exact hset
    · rintro - s rfl
      exact hset
  · rintro s rfl
    rw [getOffer_unknown hexists]
    exact h₀.1

theorem getAnswer_numbered : KeepsNumbered (fun _ => True) (getAnswer forId : SessionEff τ ω _) := by
  apply Eff.triple_intro
  intro s₀ h₀
  by_cases hrole : s₀.1.roles forId = some .gotOffer
  · have hexists : s₀.1.participantExists forId = true := by
      rw [← roles_isSome_iff, hrole]
      rfl
    apply (getAnswer_sets hrole).mono (fun _ h => h)
    · rintro - s rfl
      exact (sameShape_setState hexists).numbered h₀.1
    · rintro e s ⟨rfl, -⟩
      exact h₀.1
  · rintro s rfl
    obtain ⟨hsame, e, he⟩ := getAnswer_refused (ω := ω) hrole
    rw [he]
    dsimp only
    rw [hsame]
    exact h₀.1

theorem addAnswer_numbered {answer : Sdp.SessionDescription} :
    KeepsNumbered (fun s => s.participantExists fromId = true) (addAnswer onNewStream fromId answer) := by
  unfold addAnswer
  apply Eff.triple_get_bind
  intro s₀ h₀
  cases hinit : s₀.1.participantInState .gotOffer with
  | error e =>
      rintro s rfl
      exact h₀.1
  | ok init =>
      have hinitExists := (participantInState_gotOffer h₀.1 hinit).1
      rw [Eff.ofExcept_ok_bind]
      refine Eff.Triple.bind (R := fun _ s => s = s₀) (Eff.triple_modify ?_) fun _ => ?_
      · rintro s rfl
        refine Prod.ext ?_ rfl
        show (s.1.update init fun p => p).update fromId (fun p => p) = s.1
        rw [update_eq_self hinitExists rfl, update_eq_self h₀.2 rfl]
      · refine (Eff.Triple.of_keeps (I := fun s : Session × τ => NumberedWith fromId s.1) ?_).mono ?_
          (fun _ _ h => h.1) fun _ _ h => h.1
        · apply Eff.keeps_get_bind
          intro s
          dsimp only
          refine Eff.Keeps.bind (Eff.keeps_require _ _) fun _ => ?_
          apply Eff.Keeps.bind
          · exact Eff.keeps_modify fun s h => h.update fun p => (sameStreams_addAnswerCandidates p answer).id
          · intro
            apply Eff.Keeps.bind
            · exact addAnswerMedias_keeps (fun s h => h.update fun _ => rfl) fun s _ h => h.update fun _ => rfl
            · intro
              exact Eff.keeps_modify fun s h => h.update fun _ => rfl
        · rintro s rfl
          exact h₀

end Operations

end Session

/-! ## Handlers -/

namespace Controller

/-- In every session, the participants know their ids. -/
def AllNumbered (v : View) : Prop := ∀ k, (v.session k).Numbered

section Handlers
variable {env : Env} {c₀ : Controller} {sessionId id i : Nat}

theorem leads_allNumbered {α : Type} {P : Session → Prop} {m : SessionEff Switches (Nat × ClientMessage) α}
    (h : Session.KeepsNumbered P m) : Leads (fun v => AllNumbered v ∧ P (v.session sessionId))
      (onSession sessionId m) (fun _ => AllNumbered) fun _ => AllNumbered := by
  apply (leads_onSession (G := Session.Numbered) h).mono
  · intro c hc
    exact ⟨⟨hc.1 sessionId, hc.2⟩, others_of_all hc.1⟩
  · intro a c hc
    exact all_of_others hc.2 hc.1
  · intro e c hc
    exact all_of_others hc.2 hc.1

/-- An operation that keeps it from any session. -/
theorem leads_from {α : Type} {P : View → Prop} {m : SessionEff Switches (Nat × ClientMessage) α}
    (h : Session.KeepsNumbered (fun _ => True) m) (hP : ∀ v, P v → AllNumbered v) :
    Leads P (onSession sessionId m) (fun _ => AllNumbered) fun _ => AllNumbered :=
  (leads_allNumbered h).pre fun c hc => ⟨hP c.view hc, trivial⟩

theorem onNewParticipant_allNumbered {remote : IPv4Port} (h₀ : AllNumbered c₀.view) :
    Eff.Triple (· = c₀) (onNewParticipant env i remote (some sessionId)) (fun _ c => AllNumbered c.view)
      fun _ c => AllNumbered c.view := by
  refine onNewParticipant_triple (J := fun _ => AllNumbered) (fun _ _ h => h) (fun _ _ _ h => h) h₀
    (fun _ _ h _ => h) (leads_from Session.addParticipant_numbered ?_) fun _ id =>
      leads_from Session.getOffer_numbered fun _ h => h.1
  rintro v rfl
  exact h₀

theorem onClientOffer_allNumbered {sdp : String} (h₀ : AllNumbered c₀.view) :
    Eff.Triple (· = c₀) (onClientOffer env i sdp) (fun _ c => AllNumbered c.view) fun _ c => AllNumbered c.view := by
  refine onClientOffer_triple (B := AllNumbered) rfl (fun _ _ h => h) h₀ (fun offer _ _ =>
    leads_from Session.addOffer_numbered ?_) (fun ids => ?_) (leads_from Session.getAnswer_numbered fun _ h => h.1)
  · rintro v rfl
    exact h₀
  · apply Eff.Triple.pre (P := fun c => AllNumbered c.view) _ fun c hc => hc.1
    apply forwardOffers_triple (L := fun _ => AllNumbered) (fun _ h => h) fun _ _ h => h
    intro k ids _
    exact (leads_from Session.getOffer_numbered fun _ h => h).mono (fun _ h => h) (fun _ _ h => ⟨h, fun _ => h⟩)
      fun _ _ h => h

theorem onClientAnswer_allNumbered {sdp : String} (h₀ : AllNumbered c₀.view) :
    Eff.Triple (· = c₀) (onClientAnswer env i sdp) (fun _ c => AllNumbered c.view) fun _ c => AllNumbered c.view := by
  refine onClientAnswer_triple (A := AllNumbered) rfl (fun _ _ h => h) h₀ (fun answer _ hexists =>
    (leads_allNumbered Session.addAnswer_numbered).pre ?_) (completeTransaction_triple (fun _ _ h => h)
      (fun _ h _ => h) (fun _ _ h _ _ => h) fun init => leads_from Session.getAnswer_numbered fun _ h => h.1)
  intro c hc
  have hsession : c.session = c₀.session := congrArg View.session hc
  refine ⟨hc ▸ h₀, ?_⟩
  show (c.session _).participantExists _ = true
  rw [hsession]
  exact hexists

theorem handle_allNumbered (event : Event) (h₀ : AllNumbered c₀.view) :
    Eff.Triple (· = c₀) (handle env event) (fun _ c => AllNumbered c.view) fun _ c => AllNumbered c.view := by
  apply handle_triple event (fun _ _ h => h) h₀
  · intro client sessionId conn remote _ _ _
    exact onNewParticipant_allNumbered h₀
  · intro client sdp conn remote _ _ _
    exact onClientOffer_allNumbered h₀
  · intro client sdp conn remote _ _ _
    exact onClientAnswer_allNumbered h₀
  · intro client ws _ _ _
    apply onClientClose_triple h₀
    intro _
    apply leads_from Session.removeParticipant_numbered
    rintro v rfl
    exact h₀

end Handlers

theorem allNumbered_init {sfuConfig : SFUConfig} : AllNumbered ({ sfuConfig } : Controller).view := by
  intro k i hi
  have hsession : ({ sfuConfig } : Controller).view.session k = { id := k, sfuConfig } := session_new
  rw [hsession] at hi
  exact absurd hi Session.not_participantExists_new

end Controller

/-- In every state of the controller, the participants know their ids. -/
theorem Process.allNumbered (env : Env) (sfuConfig : SFUConfig) (events : List Event) :
    Controller.AllNumbered (final (step env) (init sfuConfig) events).controller.view := by
  have hmeets : (final (step env) (init sfuConfig) events).Meets Controller.AllNumbered
      fun _ => Controller.AllNumbered :=
    (always_of_handle (P := fun _ _ => True) Controller.allNumbered_init
      (fun p event _ h => Controller.handle_allNumbered event h)
      (Along.of_forall (fun _ _ => trivial) (init sfuConfig) events)).final
  unfold Meets at hmeets
  split at hmeets
  · exact hmeets
  · exact hmeets

end Scallop
