import Scallop.Controller.Handlers

/-!
# Transactions that get stuck

After every event nobody waits, or one participant waits for the answers of others.

* `onClientOffer_settles`, `onClientAnswer_settles`, `onClientClose_settles`, `onNewParticipant_settles` :
  what the handlers keep, thrown exceptions included;
* `Safe` : events that leave no transaction stuck: nobody leaves who waits, or is the only one to be
  waited for, and nobody is sent an offer of which there is none;
* `Process.always_settled` : runs of such events.
-/

namespace Scallop

open Machine

namespace Controller

abbrev AllGood (v : View) : Prop := ∀ k, (v.session k).Good

/-- How a handler may fail: by undefined behaviour, or with all transactions as they should be. -/
def FailsSettled (e : Fault) (v : View) : Prop :=
  e.IsUndefined ∨ ∀ k, (v.session k).roles.Settled

section Handlers
variable {env : Env} {sessionId id i : Nat} {c₀ : Controller} {m : ClientMeta} {sdp : String}
variable {e : Fault} {v : View}

theorem failsSettled_of_allGood (h : AllGood v) : FailsSettled e v := .inr fun k => (h k).settled

theorem failsSettled_of_others (hself : (v.session sessionId).roles.Settled)
    (h : Others Session.Good sessionId v) : FailsSettled e v :=
  .inr (all_of_others (G := fun s => s.roles.Settled) (fun k hk => (h k hk).settled) hself)

/-- The answer to an offer that nobody is to answer any more. -/
theorem getAnswer_settles : Leads
    (fun v => (v.session sessionId).Offered id ∧ Others Session.Good sessionId v)
    (onSession sessionId (Session.getAnswer id)) (fun _ => AllGood) FailsSettled :=
  (leads_onSession Session.getAnswer_good).mono (fun _ h => h)
    (fun _ _ h => all_of_others h.2 h.1) fun _ _ h => .inl h.1

/-- Somebody has made an offer; whether it is to be answered is open. -/
def Answered (sessionId : Nat) (v : View) : Prop :=
  (Session.Consistent (v.session sessionId) ∧ ∃ init, (v.session sessionId).roles.Offering init) ∧
    Others Session.Good sessionId v

/-- Once nobody is awaited, the transaction is over. -/
theorem completeTransaction_settles :
    Leads (Answered sessionId) (completeTransaction env sessionId) (fun _ => AllGood) FailsSettled := by
  refine completeTransaction_triple (fun _ _ => failsSettled_of_allGood) ?_ ?_ ?_
  · rintro v ⟨⟨hconsistent, init, hoffering⟩, hothers⟩ hopen
    refine all_of_others hothers ⟨hconsistent, .inr ⟨⟨init, hoffering⟩, ?_⟩⟩
    by_contra hawaiting
    exact hopen ⟨Session.signalingActive_of_offering hoffering,
      Session.particpantsInState_eq_nil_iff.mpr hawaiting⟩
  · rintro e v ⟨⟨hconsistent, init, hoffering⟩, -⟩ - hquery
    exact nomatch hquery.symm.trans (Session.participantInState_of_offering hconsistent hoffering)
  · intro init
    refine getAnswer_settles.pre ?_
    rintro c ⟨⟨⟨hconsistent, init', hoffering⟩, hothers⟩, ⟨-, hnobody⟩, hquery⟩
    obtain rfl := Except.ok.inj
      (hquery.symm.trans (Session.participantInState_of_offering hconsistent hoffering))
    exact ⟨⟨hconsistent, hoffering, Session.particpantsInState_eq_nil_iff.mp hnobody⟩, hothers⟩

theorem onClientAnswer_settles (h₀ : AllGood c₀.view) :
    Eff.Triple (· = c₀) (onClientAnswer env i sdp) (fun _ c => AllGood c.view)
      fun e c => FailsSettled e c.view := by
  refine onClientAnswer_triple rfl (fun _ _ => failsSettled_of_allGood) h₀ (fun answer _ hexists => ?_)
    completeTransaction_settles
  refine (leads_onSession Session.addAnswer_good).mono ?_ (fun _ _ h => h) fun e c h => failsSettled_of_others h.1 h.2
  intro c hc
  rw [hc]
  exact ⟨⟨h₀ _, hexists⟩, others_of_all h₀⟩

/-- While offers are made to `ids`, and to somebody else than the one who waits. -/
structure Forwarding (id : Nat) (ids : List Nat) (s : Session) : Prop where
  consistent : Session.Consistent s
  offering : s.roles.Offering id
  exist : ∀ k ∈ ids, s.participantExists k = true
  awaiting : (∃ k ∈ ids, k ≠ id) ∨ s.roles.Awaiting

theorem forwardOffers_settles {ids : List Nat} : Leads
    (fun v => Forwarding id ids (v.session sessionId) ∧ Others Session.Good sessionId v)
    (forwardOffers env sessionId id ids) (fun _ => AllGood) FailsSettled := by
  refine forwardOffers_triple (L := fun ids v => Forwarding id ids (v.session sessionId) ∧
    Others Session.Good sessionId v) ?_ ?_ ?_
  · rintro v ⟨h, hothers⟩
    have hawaiting := h.awaiting.resolve_left fun ⟨k, hk, _⟩ => absurd hk List.not_mem_nil
    exact all_of_others hothers ⟨h.consistent, .inr ⟨⟨id, h.offering⟩, hawaiting⟩⟩
  · rintro ids v ⟨h, hothers⟩
    refine ⟨⟨h.consistent, h.offering, fun k hk => h.exist k (List.mem_cons_of_mem _ hk), ?_⟩, hothers⟩
    refine h.awaiting.imp_left fun ⟨k, hk, hne⟩ => ⟨k, ?_, hne⟩
    exact (List.mem_cons.mp hk).resolve_left hne
  · intro k ids hne
    have hstep : Session.Triple (Forwarding id (k :: ids))
        (Session.getOffer k : SessionEff Switches (Nat × ClientMessage) _)
        (fun _ s => Forwarding id ids s ∧ s.roles.Settled) fun _ s => s.roles.Settled := by
      refine Eff.triple_intro fun s₀ h₀ => ?_
      have hexists := h₀.exist k List.mem_cons_self
      obtain ⟨hconsistent, hoffering, hawaiting⟩ :=
        Session.getOffer_awaits h₀.consistent h₀.offering hne hexists
      refine (Session.getOffer_sets hexists).mono (fun _ h => h) ?_ ?_
      · rintro - s rfl
        refine ⟨⟨hconsistent, hoffering, fun j hj => ?_, .inr hawaiting⟩,
          .inr ⟨⟨id, hoffering⟩, hawaiting⟩⟩
        exact Session.participantExists_update.mpr (.inr (h₀.exist j (List.mem_cons_of_mem _ hj)))
      · rintro - s rfl
        exact .inr ⟨⟨id, hoffering⟩, hawaiting⟩
    refine (leads_onSession hstep).mono
      (fun _ h => h) ?_ fun e c h => failsSettled_of_others h.1 h.2
    rintro - c ⟨⟨h, hsettled⟩, hothers⟩
    exact ⟨⟨h, hothers⟩, fun e => failsSettled_of_others hsettled hothers⟩

theorem onClientOffer_settles (h₀ : AllGood c₀.view) :
    Eff.Triple (· = c₀) (onClientOffer env i sdp) (fun _ c => AllGood c.view)
      fun e c => FailsSettled e c.view := by
  let m := c₀.clients.metaData i
  refine onClientOffer_triple (m := m) rfl (fun _ _ => failsSettled_of_allGood) h₀
    (B := fun v => (v.session m.sessionId).Offered m.participantId ∧ Others Session.Good m.sessionId v)
    (fun offer _ _ => ?_) (fun ids => ?_) (getAnswer_settles.pre fun c h => h.1)
  · refine (leads_onSession Session.addOffer_good).mono ?_ (fun _ _ h => h)
      fun e c h => failsSettled_of_others h.1 h.2
    intro c hc
    rw [hc]
    exact ⟨h₀ _, others_of_all h₀⟩
  · refine forwardOffers_settles.pre ?_
    rintro c ⟨⟨hoffered, hothers⟩, hcount, rfl⟩
    obtain ⟨k, hk, hne⟩ := Session.exists_other hcount m.participantId
    exact ⟨⟨hoffered.consistent, hoffered.offering,
      fun k hk => Session.participantExists_of_mem_keys hk, .inl ⟨k, hk, hne⟩⟩, hothers⟩

theorem onClientClose_settles (h₀ : AllGood c₀.view)
    (hleave : (c₀.session m.sessionId).roles.MayLeave m.participantId) :
    Eff.Triple (fun c => c.view = c₀.view) (onClientClose m) (fun _ c => AllGood c.view)
      fun e c => FailsSettled e c.view := by
  refine onClientClose_triple h₀ fun hexists => ?_
  have hremove : Session.Triple (· = c₀.session m.sessionId)
      (Session.removeParticipant m.participantId : SessionEff Switches (Nat × ClientMessage) _)
      (fun _ => Session.Good) fun _ _ => False := by
    rintro s hs
    rw [Session.removeParticipant_run (hs ▸ hexists)]
    show (s.1.erase m.participantId).Good
    rw [hs]
    exact (h₀ m.sessionId).erase hleave
  refine (leads_onSession hremove).mono ?_ (fun _ _ h => all_of_others h.2 h.1) fun _ _ h => h.1.elim
  intro c hc
  rw [hc]
  exact ⟨rfl, others_of_all h₀⟩

/-! ## Joins -/

/-- A client that joins a session is sent an offer: it is admitted, its id is free, and somebody sends
streams. -/
structure Invited (env : Env) (c : Controller) (sessionId : Nat) (remote : IPv4Port) : Prop extends
    Admitted env c sessionId remote where
  newId : ¬ (c.session sessionId).participantExists (c.session sessionId).nextId = true
  streams : 0 < (c.session sessionId).countStreams

/-- A client joins: where it is sent an offer, somebody has made one. -/
def SafeJoin (env : Env) (c : Controller) (sessionId : Nat) (remote : IPv4Port) : Prop :=
  Invited env c sessionId remote → ¬ (c.session sessionId).roles.AllStable

theorem onNewParticipant_settles {remote : IPv4Port} (h₀ : AllGood c₀.view)
    (hsafe : SafeJoin env c₀ sessionId remote) :
    Eff.Triple (· = c₀) (onNewParticipant env i remote (some sessionId)) (fun _ c => AllGood c.view)
      fun e c => FailsSettled e c.view := by
  let s₀ := c₀.session sessionId
  let s₁ := s₀.joined (IPv4.str remote.ip) remote.port
  refine onNewParticipant_triple (J := fun id v => AllGood v ∧ v.session sessionId = s₁ ∧
      id = s₀.nextId ∧ ¬ s₀.participantExists s₀.nextId = true) (fun _ _ => failsSettled_of_allGood)
    (fun _ _ _ h => failsSettled_of_allGood h.1) h₀ (fun _ _ h _ => h.1) ?_ fun hadmitted id => ?_
  · refine (leads_onSession (G := Session.Good) (P := (· = s₀))
      (Q := fun id s => s = s₁ ∧ id = s₀.nextId ∧ ¬ s₀.participantExists s₀.nextId = true)
      (E := fun _ s => s.roles.Settled) (Eff.triple_intro fun s hs => ?_)).mono ?_ ?_
      fun e c h => failsSettled_of_others h.1 h.2
    · refine (Session.addParticipant_joins s).mono (fun _ h => h) ?_ ?_
      · rintro id s' ⟨rfl, hnew, rfl⟩
        rw [hs] at hnew ⊢
        exact ⟨rfl, rfl, hnew⟩
      · rintro - s' ⟨n, rfl⟩
        show s.1.roles.Settled
        rw [hs]
        exact (h₀ sessionId).settled
    · intro c hc
      rw [hc]
      exact ⟨rfl, others_of_all h₀⟩
    · rintro id c ⟨⟨hself, rfl, hnew⟩, hothers⟩
      exact ⟨all_of_others hothers (hself ▸ (h₀ sessionId).joined hnew), hself, rfl, hnew⟩
  · refine Eff.triple_intro ?_
    rintro c ⟨⟨hall, hself, rfl, hnew⟩, -, hstreams⟩
    rw [hself] at hstreams
    have hnone := Session.roles_eq_none_iff.mpr (Bool.eq_false_of_not_eq_true hnew)
    have hactive : ¬ s₁.roles.AllStable := by
      rw [Session.roles_joined]
      exact fun hstable => hsafe ⟨hadmitted, hnew, Session.countStreams_of_joined hstreams⟩
        (hstable.of_join hnone)
    have hgood : s₁.Good := (h₀ sessionId).joined hnew
    obtain ⟨⟨init, hoffering⟩, -⟩ := hgood.settled.resolve_left hactive
    have hne : s₀.nextId ≠ init := by
      rintro rfl
      have hstable := hoffering.gotOffer
      rw [Session.roles_joined, Function.update_self] at hstable
      exact nomatch hstable
    refine (leads_onSession (G := Session.Good) (P := (· = s₁)) (Q := fun _ => Session.Good)
      (E := fun _ s => s.roles.Settled) (Eff.triple_intro fun s hs => ?_)).mono ?_
      (fun _ _ h => all_of_others h.2 h.1) fun e c h => failsSettled_of_others h.1 h.2
    · have hexists : s.1.participantExists s₀.nextId = true :=
        hs ▸ Session.participantExists_joined.mpr (.inl rfl)
      obtain ⟨hconsistent, hoffering', hawaiting⟩ := @Session.getOffer_awaits _ _ _ s
        (hs ▸ hgood.consistent) (hs ▸ hoffering) hne hexists
      refine (Session.getOffer_sets hexists).mono (fun _ h => h) ?_ ?_
      · rintro - s' rfl
        exact ⟨hconsistent, .inr ⟨⟨init, hoffering'⟩, hawaiting⟩⟩
      · rintro - s' rfl
        exact .inr ⟨⟨init, hoffering'⟩, hawaiting⟩
    · rintro c' rfl
      exact ⟨hself, others_of_all hall⟩

/-! ## Events -/

/-- Whether an event leaves no transaction stuck. -/
def Safe (env : Env) (c : Controller) : Event → Prop
  | .clientHello client (some sessionId) => ∀ conn remote, c.Reaches client conn remote →
      ¬ (c.clients.metaData client).registered = true → SafeJoin env c sessionId remote
  | .clientClose client => ∀ ws, c.clients.accepted[client]? = some ws → ws.isOpen = true →
      (c.session ws.metaData.sessionId).roles.MayLeave ws.metaData.participantId
  | _ => True

theorem handle_settles (event : Event) (h₀ : AllGood c₀.view) (hsafe : Safe env c₀ event) :
    Eff.Triple (· = c₀) (handle env event) (fun _ c => AllGood c.view)
      fun e c => FailsSettled e c.view := by
  refine handle_triple event (fun _ _ => failsSettled_of_allGood) h₀
    ?_ (fun _ _ _ _ _ _ _ => onClientOffer_settles h₀) (fun _ _ _ _ _ _ _ => onClientAnswer_settles h₀) ?_
  · rintro client sessionId conn remote rfl hreaches hnew
    exact onNewParticipant_settles h₀ (hsafe conn remote hreaches hnew)
  · rintro client ws rfl hws hopen
    exact onClientClose_settles h₀ (hsafe ws hws hopen)

end Handlers

end Controller

/-! ## Runs -/

namespace Process

/-- No transaction is stuck, unless the process has ended by undefined behaviour. -/
def Settled (p : Process) : Prop :=
  (∃ e, p.fault = some e ∧ e.IsUndefined) ∨ ∀ k, (p.controller.session k).roles.Settled

theorem settled_of_meets {p : Process}
    (h : p.Meets Controller.AllGood Controller.FailsSettled) : p.Settled := by
  unfold Meets at h
  cases hfault : p.fault with
  | none =>
      rw [hfault] at h
      exact .inr fun k => (h k).settled
  | some e =>
      rw [hfault] at h
      exact h.imp_left fun he => ⟨e, hfault, he⟩

/-- **Transactions do not get stuck** in a run in which nobody leaves that is the only one to be waited
for, or waits for others, and nobody joins a session with streams between two transactions. -/
theorem always_settled (env : Env) (sfuConfig : SFUConfig) (events : List Event)
    (h : Along (fun p event => p.controller.Safe env event) (step env) (init sfuConfig) events) :
    Always Settled (step env) (init sfuConfig) events := by
  have hinit : Controller.AllGood (init sfuConfig).controller.view := by
    intro k
    show (({ sfuConfig } : Controller).session k).Good
    rw [Controller.session_new]
    exact Session.good_new
  exact (always_of_handle hinit (fun p event hsafe hgood => Controller.handle_settles event hgood hsafe)
    h).mono fun _ => settled_of_meets

/-- An environment in which every description reads as one without media, and no write fails. -/
def plainEnv : Env where
  parse _ := .ok {}
  writeError _ := none

/-- A switch is there, two clients join a session, and the first one makes an offer. -/
def offerEvents : List Event :=
  [.switchOpen ⟨1, 1⟩, .switchHello 0 (some 0), .clientOpen ⟨2, 1⟩, .clientHello 0 (some 1),
    .clientOpen ⟨3, 1⟩, .clientHello 1 (some 1),
    .clientOffer 0 "v=0\r\no=- 0 0 IN IP4 0.0.0.0\r\ns=-\r\nt=0 0"]

def plainConfig : SFUConfig := SFUConfig.of "1.2.3.4" 3202 "7Ad/" "UKZe" ⟨0, 0⟩

/-- The offer is answered, and the participant that has answered it leaves. -/
theorem always_settled_answered :
    Always Settled (step plainEnv) (init plainConfig) (offerEvents ++
      [.clientAnswer 1 "v=0\r\no=- 0 0 IN IP4 0.0.0.0\r\ns=-\r\nt=0 0", .clientClose 1]) := by
  refine always_settled plainEnv plainConfig _ ⟨trivial, trivial, trivial, ?_, trivial, ?_, trivial,
    trivial, ?_, trivial⟩
  · rintro conn remote - - hinvited
    exact absurd hinvited.streams (by decide)
  · rintro conn remote - - hinvited
    exact absurd hinvited.streams (by decide)
  · intro ws hws hopen
    obtain rfl : ws = ⟨⟨3, 1⟩, ⟨true, 1, 2⟩, true⟩ := Option.some.inj (hws.symm.trans rfl)
    exact ⟨by decide, fun hawait => absurd hawait (by decide)⟩

/-- The participant that has made the offer leaves, and the other one waits for ever. -/
theorem initiator_leaves : ¬ Always Settled (step plainEnv) (init plainConfig)
    (offerEvents ++ [.clientClose 0]) := by
  intro h
  rcases h.final with ⟨e, he, -⟩ | h
  · exact nomatch he
  · let final := Machine.final (step plainEnv) (init plainConfig) (offerEvents ++ [.clientClose 0])
    have hawait : (final.controller.session 1).roles 2 = some .awaitAnswer := by decide
    have hnobody : (final.controller.session 1).particpantsInState .gotOffer = [] := by decide
    obtain ⟨id, hoffering⟩ := (h 1).offering hawait
    exact Session.particpantsInState_eq_nil_iff.mp hnobody ⟨id, hoffering.gotOffer⟩

end Process

end Scallop
