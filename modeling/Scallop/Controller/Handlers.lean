import Scallop.Controller.Programs
import Scallop.Controller.Transactions
import Scallop.Lib.Machine

/-!
# What handlers keep

A condition `I` on the view of the controller that holds between events, and `E` after an exception.
For every handler: if the operations of a session that it runs keep them, it does.

* `completeTransaction_triple`, `onClientAnswer_triple`, `onClientOffer_triple`, `onClientClose_triple`,
  `onNewParticipant_triple` : the handlers of clients;
* `handle_triple` : all events; switches do not matter;
* `Process.always_of_handle` : runs.
-/

namespace Scallop

open Machine

namespace Controller

variable {env : Env} {I : View → Prop} {E : Fault → View → Prop} {c₀ : Controller}
variable {sessionId id i : Nat}

/-! ## Answers and offers -/

/-- Whether the participant that has made an offer is answered next. -/
abbrev View.Completes (v : View) (sessionId : Nat) : Prop :=
  (v.session sessionId).signalingActive = true ∧
    (v.session sessionId).particpantsInState .awaitAnswer = []

theorem completeTransaction_triple {A : View → Prop} (hfail : ∀ e v, I v → E e v)
    (hopen : ∀ v, A v → ¬ v.Completes sessionId → I v)
    (hquery : ∀ e v, A v → v.Completes sessionId →
      (v.session sessionId).participantInState .gotOffer = .error e → E e v)
    (hanswer : ∀ init, Leads (fun v => A v ∧ v.Completes sessionId ∧
        (v.session sessionId).participantInState .gotOffer = .ok init)
      (onSession sessionId (Session.getAnswer init)) (fun _ => I) E) :
    Leads A (completeTransaction env sessionId) (fun _ => I) E := by
  unfold completeTransaction
  refine Eff.triple_get_bind fun c₀ h₀ => ?_
  dsimp only
  split
  · rename_i hcond
    cases hinit : (c₀.session sessionId).participantInState .gotOffer with
    | error e =>
        rintro c rfl
        exact hquery e c.view h₀ hcond hinit
    | ok init =>
        rw [Eff.ofExcept_ok_bind]
        refine Eff.Triple.bind (R := fun _ c => I c.view) ((hanswer init).pre ?_) fun answer =>
          (clientConnection_keepsView.bind fun i => sendAnswer_keepsView).triple I hfail
        rintro c rfl
        exact ⟨h₀, hcond, hinit⟩
  · exact Eff.triple_pure fun c hc => hc ▸ hopen c₀.view h₀ ‹_›

theorem onClientAnswer_triple {m : ClientMeta} {sdp : String} {A : View → Prop}
    (hm : c₀.clients.metaData i = m) (hfail : ∀ e v, I v → E e v) (h₀ : I c₀.view)
    (hadd : ∀ answer, env.parse sdp = .ok answer →
      (c₀.session m.sessionId).participantExists m.participantId = true →
        Leads (· = c₀.view) (onSession m.sessionId
          (Session.addAnswer (some onNewStream) m.participantId answer)) (fun _ => A) E)
    (hcomplete : Leads A (completeTransaction env m.sessionId) (fun _ => I) E) :
    Eff.Triple (· = c₀) (onClientAnswer env i sdp) (fun _ c => I c.view) fun e c => E e c.view := by
  unfold onClientAnswer
  refine Eff.triple_get_bind ?_
  rintro c rfl
  dsimp only
  rw [hm]
  split
  · exact Eff.triple_pure fun c hc => hc ▸ h₀
  split
  · exact Eff.triple_pure fun c hc => hc ▸ h₀
  rename_i hexists
  refine Eff.Triple.bind (R := fun answer c' => c' = c ∧ env.parse sdp = .ok answer)
    (Eff.triple_ofExcept (fun _ _ hparse hc => ⟨hc, hparse⟩) fun e _ _ hc => hc ▸ hfail e _ h₀)
    fun answer => Eff.triple_intro ?_
  rintro c' ⟨rfl, hparse⟩
  exact Eff.Triple.bind ((hadd answer hparse (not_not.mp hexists)).pre fun c hc => hc ▸ rfl)
    fun _ => hcomplete

/-- `L ids` holds before the offers to `ids` are made. -/
theorem forwardOffers_triple {L : List Nat → View → Prop} (hdone : ∀ v, L [] v → I v)
    (hskip : ∀ ids v, L (id :: ids) v → L ids v)
    (hoffer : ∀ k ids, k ≠ id → Leads (L (k :: ids)) (onSession sessionId (Session.getOffer k))
      (fun _ v => L ids v ∧ ∀ e, E e v) E) :
    ∀ {ids : List Nat}, Leads (L ids) (forwardOffers env sessionId id ids) (fun _ => I) E
  | [] => Eff.triple_pure fun c h => hdone c.view h
  | k :: ids => by
      unfold forwardOffers
      split
      · rename_i heq
        exact (forwardOffers_triple hdone hskip hoffer).pre fun c h => hskip ids c.view (heq ▸ h)
      · rename_i hne
        refine Eff.Triple.bind (hoffer k ids hne) fun offer => ?_
        refine Eff.triple_get_bind fun c₀ h₀ => ?_
        refine Eff.Triple.pre (P := fun c => L ids c.view ∧ ∀ e, E e c.view) ?_ fun c hc => hc ▸ h₀
        refine Eff.Triple.bind (clientConnection_keepsView.triple
          (fun v => L ids v ∧ ∀ e, E e v) fun e v h => h.2 e) fun i => ?_
        refine Eff.Triple.bind (sendOffer_keepsView.triple
          (fun v => L ids v ∧ ∀ e, E e v) fun e v h => h.2 e) fun _ => ?_
        exact (forwardOffers_triple hdone hskip hoffer).pre fun c h => h.1

theorem onClientOffer_triple {m : ClientMeta} {sdp : String} {B : View → Prop}
    (hm : c₀.clients.metaData i = m) (hfail : ∀ e v, I v → E e v) (h₀ : I c₀.view)
    (hadd : ∀ offer, env.parse sdp = .ok offer →
      (c₀.session m.sessionId).participantExists m.participantId = true →
        Leads (· = c₀.view) (onSession m.sessionId
          (Session.addOffer (some onNewStream) m.participantId offer)) (fun _ => B) E)
    (hforward : ∀ ids, Leads (fun v => B v ∧ 1 < (v.session m.sessionId).countParticipants ∧
        (v.session m.sessionId).participants.keys = ids)
      (forwardOffers env m.sessionId m.participantId ids) (fun _ => I) E)
    (halone : Leads (fun v => B v ∧ ¬ 1 < (v.session m.sessionId).countParticipants)
      (onSession m.sessionId (Session.getAnswer m.participantId)) (fun _ => I) E) :
    Eff.Triple (· = c₀) (onClientOffer env i sdp) (fun _ c => I c.view) fun e c => E e c.view := by
  unfold onClientOffer
  refine Eff.triple_get_bind ?_
  rintro c rfl
  dsimp only
  rw [hm]
  split
  · exact Eff.triple_pure fun c hc => hc ▸ h₀
  split
  · exact Eff.triple_pure fun c hc => hc ▸ h₀
  rename_i hexists
  refine Eff.Triple.bind (R := fun offer c' => c' = c ∧ env.parse sdp = .ok offer)
    (Eff.triple_ofExcept (fun _ _ hparse hc => ⟨hc, hparse⟩) fun e _ _ hc => hc ▸ hfail e _ h₀)
    fun offer => Eff.triple_intro ?_
  rintro c' ⟨rfl, hparse⟩
  refine Eff.Triple.bind ((hadd offer hparse (not_not.mp hexists)).pre fun c hc => hc ▸ rfl)
    fun _ => Eff.triple_get_bind fun c₁ h₁ => ?_
  split
  · rename_i hcount
    refine (hforward _).pre ?_
    rintro c rfl
    exact ⟨h₁, hcount, rfl⟩
  · rename_i hcount
    refine Eff.Triple.bind (halone.pre ?_) fun answer => sendAnswer_keepsView.triple I hfail
    rintro c rfl
    exact ⟨h₁, hcount⟩

theorem onClientClose_triple {m : ClientMeta} (h₀ : I c₀.view)
    (hremove : (c₀.session m.sessionId).participantExists m.participantId = true →
      Leads (· = c₀.view) (onSession m.sessionId (Session.removeParticipant m.participantId))
        (fun _ => I) E) :
    Eff.Triple (fun c => c.view = c₀.view) (onClientClose m) (fun _ c => I c.view)
      fun e c => E e c.view := by
  unfold onClientClose
  refine Eff.triple_get_bind fun c hc => ?_
  have hsession : c.session m.sessionId = c₀.session m.sessionId :=
    congrArg (fun v => v.session m.sessionId) hc
  split
  · rename_i hcond
    rw [hsession] at hcond
    refine (hremove hcond.2).pre ?_
    rintro c' rfl
    exact hc
  · refine Eff.triple_pure ?_
    rintro c' rfl
    rw [hc]
    exact h₀

/-! ## Joins -/

/-- Whether a participant that has joined is sent an offer. -/
abbrev View.Calls (v : View) (sessionId : Nat) : Prop :=
  1 < (v.session sessionId).countParticipants ∧ 0 < (v.session sessionId).countStreams

/-- A new participant is told to the switch, which must be there. -/
theorem triple_announceParticipant {ip : String} (s₀ : Switches) :
    Eff.Triple (· = s₀) (do
        let sw ← Switches.connection allowedSwitchId
        let addr ← Eff.ofExcept (IPv4.ofString ip)
        Switches.write sw (.addParticipant sessionId id addr))
      (fun _ s => s.announced = s₀.announced ∧ (s₀.connectionById allowedSwitchId).isSome)
      fun _ s => s.announced = s₀.announced := by
  refine Eff.Triple.bind (R := fun _ s => s = s₀ ∧ (s₀.connectionById allowedSwitchId).isSome)
    ?_ fun sw => ?_
  · refine (Switches.triple_connection.and (Eff.Triple.of_keeps
      (Switches.connection_keepsAnnounced s₀.announced))).mono ?_ (fun _ _ h => h.1) fun _ _ h => h.2
    rintro s rfl
    exact ⟨rfl, rfl⟩
  · refine Eff.Triple.bind (R := fun _ s => s = s₀ ∧ (s₀.connectionById allowedSwitchId).isSome)
      (Eff.triple_ofExcept (fun _ _ _ h => h) fun _ _ _ h => by rw [h.1]) fun addr => ?_
    apply Eff.triple_modify
    rintro s ⟨rfl, hsome⟩
    exact ⟨Switches.announced_write.trans (List.append_nil _), hsome⟩

/-- A client that joins is sent an offer, if somebody sends streams: it is new, its registration goes
through, and it is not alone. -/
structure Admitted (env : Env) (c : Controller) (sessionId : Nat) (remote : IPv4Port) : Prop where
  newEndpoint : ¬ (c.session sessionId).participantExistsAt (IPv4.str remote.ip) remote.port = true
  greeted : env.writeError c.clientWrites = none
  switch : (c.switches.connectionById allowedSwitchId).isSome

theorem addParticipant_keeps_callback {τ ω : Type} {ip : String} {port : UInt16} {t : τ} :
    Eff.Keeps (fun s : Session × τ => s.2 = t) (Session.addParticipant ip port : SessionEff τ ω Nat) := by
  unfold Session.addParticipant
  refine Eff.keeps_get_bind fun s => (Eff.keeps_require _ _).bind fun _ => ?_
  refine Eff.Keeps.bind (Eff.keeps_modify fun _ h => h) fun _ => (Eff.keeps_require _ _).bind fun _ => ?_
  exact Eff.Keeps.bind (Eff.keeps_modify fun _ h => h) fun _ => Eff.keeps_pure _

theorem joinSession_triple {remote : IPv4Port} {J : Nat → View → Prop} (hfail : ∀ e v, I v → E e v)
    (hjoined : ∀ e id v, J id v → E e v) (h₀ : I c₀.view)
    (hquiet : ∀ id v, J id v → ¬ v.Calls sessionId → I v)
    (hadd : Leads (· = c₀.view)
      (onSession sessionId (Session.addParticipant (IPv4.str remote.ip) remote.port)) J E)
    (hoffer : Admitted env c₀ sessionId remote → ∀ id,
      Leads (fun v => J id v ∧ v.Calls sessionId)
        (onSession sessionId (Session.getOffer id)) (fun _ => I) E) :
    Eff.Triple (· = c₀) (joinSession env i sessionId remote) (fun _ c => I c.view)
      fun e c => E e c.view := by
  unfold joinSession
  refine Eff.triple_get_bind ?_
  rintro c rfl
  split
  · exact Eff.triple_pure fun c hc => hc ▸ h₀
  rename_i hendpoint
  refine Eff.Triple.bind (R := fun id c' => J id c'.view ∧ c'.clientWrites = c.clientWrites ∧
    c'.switches = c.switches) ?_ fun id => ?_
  · have hkeeps : Eff.Keeps (fun c' : Controller => c'.clientWrites = c.clientWrites ∧
        c'.switches = c.switches)
        (onSession sessionId (Session.addParticipant (IPv4.str remote.ip) remote.port)) :=
      fun c' hc' => ⟨hc'.1, addParticipant_keeps_callback (c'.session sessionId, c'.switches) hc'.2⟩
    refine (hadd.and (Eff.Triple.of_keeps hkeeps)).mono ?_ (fun _ _ h => h) fun _ _ h => h.1
    rintro c' rfl
    exact ⟨rfl, rfl, rfl⟩
  refine Eff.Triple.bind (R := fun _ c' => J id c'.view ∧ c'.clientWrites = c.clientWrites ∧
    c'.switches = c.switches) (Eff.triple_modify fun _ h => h) fun _ => ?_
  refine Eff.Triple.bind (R := fun _ c' => J id c'.view ∧ env.writeError c.clientWrites = none ∧
    c'.switches = c.switches) ?_ fun _ => ?_
  · refine Eff.triple_get_bind fun c₁ h₁ => ?_
    refine triple_write.mono (fun _ h => h) ?_ fun e c' hc' => hjoined e id _ (hc' ▸ h₁.1)
    rintro - c' ⟨hok, rfl⟩
    exact ⟨h₁.1, h₁.2.1 ▸ hok, h₁.2.2⟩
  refine Eff.Triple.bind (R := fun _ c' => J id c'.view ∧ Admitted env c sessionId remote) ?_
    fun _ => ?_
  · refine Eff.triple_intro fun c₁ h₁ => ?_
    refine Eff.triple_zoom (triple_announceParticipant c₁.switches) ?_ ?_ ?_
    · rintro c' rfl
      rfl
    · rintro c' - t rfl ⟨ht, hsome⟩
      refine ⟨?_, hendpoint, h₁.2.1, h₁.2.2 ▸ hsome⟩
      show J id ⟨c'.session, t.announced⟩
      rw [ht]
      exact h₁.1
    · rintro c' e t rfl ht
      refine hjoined e id _ ?_
      show J id ⟨c'.session, t.announced⟩
      rw [ht]
      exact h₁.1
  refine Eff.triple_get_bind fun c₁ h₁ => ?_
  split
  · rename_i hcount
    exact Eff.Triple.bind ((hoffer h₁.2 id).pre fun c' hc' => hc' ▸ ⟨h₁.1, hcount⟩)
      fun offer => sendOffer_keepsView.triple I hfail
  · exact Eff.triple_pure fun c' hc' => hc' ▸ hquiet id _ h₁.1 ‹_›

theorem onNewParticipant_triple {remote : IPv4Port} {J : Nat → View → Prop}
    (hfail : ∀ e v, I v → E e v) (hjoined : ∀ e id v, J id v → E e v) (h₀ : I c₀.view)
    (hquiet : ∀ id v, J id v → ¬ v.Calls sessionId → I v)
    (hadd : Leads (· = c₀.view)
      (onSession sessionId (Session.addParticipant (IPv4.str remote.ip) remote.port)) J E)
    (hoffer : Admitted env c₀ sessionId remote → ∀ id,
      Leads (fun v => J id v ∧ v.Calls sessionId)
        (onSession sessionId (Session.getOffer id)) (fun _ => I) E) :
    Eff.Triple (· = c₀) (onNewParticipant env i remote (some sessionId)) (fun _ c => I c.view)
      fun e c => E e c.view := by
  unfold onNewParticipant
  refine Eff.triple_get_bind ?_
  rintro c rfl
  split
  · exact joinSession_triple hfail hjoined h₀ hquiet hadd hoffer
  · rename_i hexists
    let added : Controller := { c with
      sessions := c.sessions.insert sessionId { id := sessionId, sfuConfig := c.sfuConfig } }
    have hsession : added.session = c.session := session_add hexists
    have hview : added.view = c.view := by
      unfold view
      rw [hsession]
    refine Eff.Triple.bind (R := fun _ c' => c' = added) (Eff.triple_modify ?_) fun _ => ?_
    · rintro c' rfl
      rfl
    · refine joinSession_triple hfail hjoined (hview ▸ h₀) hquiet (hview ▸ hadd) fun hadmitted => hoffer ?_
      exact ⟨hsession ▸ hadmitted.newEndpoint, hadmitted.greeted, hadmitted.switch⟩

/-! ## Events -/

/-- The connection that a message of a client comes over. -/
def Reaches (c : Controller) (client conn : Nat) (remote : IPv4Port) : Prop :=
  ∃ ws, c.clients.accepted[client]? = some ws ∧ ws.isOpen = true ∧ ws.remote = remote ∧
    c.clients.find? ws.remote = some conn

theorem onClientMessage_triple {client : Nat} {handler : Nat → IPv4Port → Program Unit}
    (h₀ : I c₀.view) (hhandler : ∀ conn remote, c₀.Reaches client conn remote →
      Eff.Triple (· = c₀) (handler conn remote) (fun _ c => I c.view) fun e c => E e c.view) :
    Eff.Triple (· = c₀) (onClientMessage client handler) (fun _ c => I c.view)
      fun e c => E e c.view := by
  unfold onClientMessage
  refine Eff.triple_get_bind ?_
  rintro c rfl
  have hnothing : Eff.Triple (· = c) (pure () : Program Unit) (fun _ c => I c.view)
      fun e c => E e c.view := Eff.triple_pure fun c' hc' => hc' ▸ h₀
  split
  · exact hnothing
  · rename_i ws hws
    split
    · exact hnothing
    · rename_i hopen
      split
      · exact hnothing
      · exact hhandler _ _ ⟨ws, hws, not_not.mp hopen, rfl, ‹_›⟩

theorem registered_triple {client : Nat} {handler : Program Unit} (h₀ : I c₀.view)
    (hhandler : (c₀.clients.metaData client).registered = true →
      Eff.Triple (· = c₀) handler (fun _ c => I c.view) fun e c => E e c.view) :
    Eff.Triple (· = c₀) (do
      let c ← Eff.get
      if (c.clients.metaData client).registered then handler else return ())
      (fun _ c => I c.view) fun e c => E e c.view := by
  refine Eff.triple_get_bind ?_
  rintro c rfl
  split
  · exact hhandler ‹_›
  · exact Eff.triple_pure fun c' hc' => hc' ▸ h₀

theorem onNewSwitch_keepsAnnounced {switchId : Nat} :
    Switches.KeepsAnnounced (onNewSwitch i switchId) := by
  intro l
  unfold onNewSwitch
  refine Eff.keeps_get_bind fun s => ?_
  split
  · exact Eff.keeps_pure _
  · exact (Switches.modify_keepsAnnounced (fun _ => rfl) l).bind fun _ =>
      Switches.write_keepsAnnounced rfl l

theorem handle_triple (event : Event) (hfail : ∀ e v, I v → E e v) (h₀ : I c₀.view)
    (hhello : ∀ client sessionId conn remote, event = .clientHello client (some sessionId) →
      c₀.Reaches client conn remote → ¬ (c₀.clients.metaData client).registered = true →
        Eff.Triple (· = c₀) (onNewParticipant env conn remote (some sessionId))
          (fun _ c => I c.view) fun e c => E e c.view)
    (hoffer : ∀ client sdp conn remote, event = .clientOffer client sdp →
      c₀.Reaches client conn remote → (c₀.clients.metaData client).registered = true →
        Eff.Triple (· = c₀) (onClientOffer env conn sdp) (fun _ c => I c.view) fun e c => E e c.view)
    (hanswer : ∀ client sdp conn remote, event = .clientAnswer client sdp →
      c₀.Reaches client conn remote → (c₀.clients.metaData client).registered = true →
        Eff.Triple (· = c₀) (onClientAnswer env conn sdp) (fun _ c => I c.view) fun e c => E e c.view)
    (hclose : ∀ client ws, event = .clientClose client → c₀.clients.accepted[client]? = some ws →
      ws.isOpen = true → Eff.Triple (fun c => c.view = c₀.view) (onClientClose ws.metaData)
        (fun _ c => I c.view) fun e c => E e c.view) :
    Eff.Triple (· = c₀) (handle env event) (fun _ c => I c.view) fun e c => E e c.view := by
  have hquiet : ∀ {m : Program Unit}, KeepsView m →
      Eff.Triple (· = c₀) m (fun _ c => I c.view) fun e c => E e c.view :=
    fun hm => (hm.triple I hfail).pre fun c hc => hc ▸ h₀
  cases event with
  | clientOpen remote => exact hquiet (modify_keepsView fun _ => rfl)
  | clientHello client sessionId =>
      refine onClientMessage_triple h₀ fun conn remote hreaches => ?_
      unfold clientHello
      refine Eff.triple_get_bind ?_
      rintro c rfl
      split
      · cases sessionId with
        | none => exact Eff.triple_throw fun c' hc' => hc' ▸ hfail _ _ h₀
        | some sessionId => exact hhello client sessionId conn remote rfl hreaches ‹_›
      · split
        · exact hquiet sendHello_keepsView
        · exact hquiet fun _ => Eff.keeps_pure _
  | clientOffer client sdp =>
      exact onClientMessage_triple h₀ fun conn remote hreaches =>
        registered_triple h₀ (hoffer client sdp conn remote rfl hreaches)
  | clientAnswer client sdp =>
      exact onClientMessage_triple h₀ fun conn remote hreaches =>
        registered_triple h₀ (hanswer client sdp conn remote rfl hreaches)
  | clientClose client =>
      refine Eff.triple_get_bind ?_
      rintro c rfl
      split
      · exact hquiet fun _ => Eff.keeps_pure _
      · rename_i ws hws
        split
        · exact hquiet fun _ => Eff.keeps_pure _
        · rename_i hopen
          refine Eff.Triple.bind (Eff.triple_modify ?_) fun _ =>
            hclose client ws rfl hws (not_not.mp hopen)
          rintro c' rfl
          rfl
  | switchOpen remote =>
      exact hquiet (onSwitches_keepsView (Switches.modify_keepsAnnounced fun _ => rfl))
  | switchHello switch switchId =>
      refine hquiet (onSwitches_keepsView fun l => Eff.keeps_get_bind fun s => ?_)
      split
      · split
        · split
          · exact onNewSwitch_keepsAnnounced l
          · exact Eff.keeps_pure _
        · exact Eff.keeps_pure _
      · exact Eff.keeps_pure _
  | switchClose switch =>
      refine hquiet (onSwitches_keepsView fun l => Eff.keeps_get_bind fun s => ?_)
      split
      · exact Eff.keeps_pure _
      · split
        · exact Eff.keeps_pure _
        · refine Eff.Keeps.bind ?_ fun _ => Switches.remove_keepsAnnounced l
          exact Switches.modify_keepsAnnounced (fun _ => rfl) l

end Controller

namespace Process

/-- `I` holds, or `E` if the process has ended. -/
def Meets (I : Controller.View → Prop) (E : Fault → Controller.View → Prop) (p : Process) : Prop :=
  match p.fault with
  | none => I p.controller.view
  | some e => E e p.controller.view

variable {I : Controller.View → Prop} {E : Fault → Controller.View → Prop}

theorem step_meets {env : Env} {p : Process} {event : Event} (h : p.Meets I E)
    (hhandle : I p.controller.view → Eff.Triple (· = p.controller) (Controller.handle env event)
      (fun _ c => I c.view) fun e c => E e c.view) : (p.step env event).1.Meets I E := by
  unfold step
  cases hfault : p.fault with
  | some e => exact h
  | none =>
      unfold Meets at h
      rw [hfault] at h
      have hrun := hhandle h p.controller rfl
      dsimp only
      split
      · rename_i hres
        rw [hres] at hrun
        exact hrun
      · rename_i e hres
        rw [hres] at hrun
        exact hrun

theorem always_of_handle {env : Env} {P : Process → Event → Prop} {sfuConfig : SFUConfig}
    {events : List Event} (hinit : I (init sfuConfig).controller.view)
    (hhandle : ∀ p event, P p event → I p.controller.view →
      Eff.Triple (· = p.controller) (Controller.handle env event) (fun _ c => I c.view)
        fun e c => E e c.view)
    (h : Along P (step env) (init sfuConfig) events) :
    Always (Meets I E) (step env) (init sfuConfig) events :=
  h.always (fun p event hp hP => step_meets hp (hhandle p event hP)) hinit

end Process

end Scallop
