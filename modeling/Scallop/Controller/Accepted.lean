import Scallop.Controller.Announced
import Scallop.Controller.Connected

/-!
# Announced streams that the switch accepts

* `AllAnnounced` : all streams of all sessions are announced, and the switch accepts what was announced;
  `*_allAnnounced` : the handlers of clients keep that;
* `Registrable` : an offer with new SSRCs, or an answer, for which the switch has ids left;
* `Process.StreamsAccepted` : an agent that gets the messages takes up all of them, and has their streams then;
  `streams_accepted` : runs of registrable events.
-/

namespace Scallop

open Machine

namespace Controller

/-- All streams of all sessions are announced, and the switch accepts what was announced. -/
structure AllAnnounced (v : View) : Prop where
  id : ∀ k, (v.session k).id = k
  announced : ∀ k, (v.session k).Announced v.announced
  acceptable : Rpc.Acceptable v.announced

section Handlers
variable {α : Type} {env : Env} {sessionId id i : Nat} {c₀ : Controller} {m : ClientMeta} {sdp : String}
variable {v₀ v : View}

/-- A session whose streams are announced, after messages that the switch accepts. -/
structure Told (sessionId : Nat) (log : List Rpc.AddStream) (s : Session × Switches) : Prop where
  id : s.1.id = sessionId
  announced : s.1.Announced s.2.announced
  grows : log ⊆ s.2.announced
  acceptable : Rpc.Acceptable s.2.announced

/-- An operation of a session leaves the other sessions alone. -/
theorem leads_onSession_told {prog : SessionEff Switches (Nat × ClientMessage) α} (h₀ : AllAnnounced v₀)
    (h : ∀ t : Switches, t.announced = v₀.announced → Eff.Triple (· = (v₀.session sessionId, t)) prog
      (fun _ s => Told sessionId v₀.announced s) fun _ _ => True) :
    Leads (· = v₀) (onSession sessionId prog) (fun _ => AllAnnounced) fun _ _ => True := by
  refine Eff.triple_intro ?_
  rintro c rfl
  refine Eff.triple_zoom (h c.switches rfl) ?_ ?_ fun _ _ _ _ _ => trivial
  · rintro c' rfl
    rfl
  · rintro c' - ⟨s, t⟩ rfl htold
    have hself : (c'.setSession sessionId (s, t)).session sessionId = s := session_setSession_self
    have hother : ∀ k, k ≠ sessionId →
        (c'.setSession sessionId (s, t)).session k = c'.session k := fun k => session_setSession_of_ne
    refine ⟨fun k => ?_, fun k => ?_, htold.acceptable⟩
    · show ((c'.setSession sessionId (s, t)).session k).id = k
      by_cases hk : k = sessionId
      · rw [hk, hself]
        exact htold.id
      · rw [hother k hk]
        exact h₀.id k
    · show ((c'.setSession sessionId (s, t)).session k).Announced t.announced
      by_cases hk : k = sessionId
      · rw [hk, hself]
        exact htold.announced
      · rw [hother k hk]
        exact (h₀.announced k).mono htold.grows

theorem leads_quiet {prog : SessionEff Switches (Nat × ClientMessage) α} (h₀ : AllAnnounced v₀)
    (h : ∀ t : Switches, Eff.Triple (· = (v₀.session sessionId, t)) prog
      (fun _ s => s.2 = t ∧ s.1.id = sessionId ∧ s.1.Announced v₀.announced) fun _ _ => True) :
    Leads (· = v₀) (onSession sessionId prog) (fun _ => AllAnnounced) fun _ _ => True := by
  refine leads_onSession_told h₀ fun t ht => (h t).mono (fun _ h => h) ?_ fun _ _ h => h
  rintro - s ⟨hs, hid, hannounced⟩
  have hlog : s.2.announced = v₀.announced := by rw [hs, ht]
  exact ⟨hid, hlog ▸ hannounced, hlog ▸ fun _ hm => hm, hlog ▸ h₀.acceptable⟩

theorem getOffer_allAnnounced : Leads AllAnnounced (onSession sessionId (Session.getOffer id))
    (fun _ => AllAnnounced) fun _ _ => True := by
  refine Eff.triple_intro fun c h₀ => (leads_quiet h₀ fun t => ?_).pre fun _ hc => hc ▸ rfl
  have hsession := h₀.announced sessionId
  by_cases hexists : (c.view.session sessionId).participantExists id = true
  · refine (@Session.getOffer_sets _ _ _ (c.view.session sessionId, t) hexists).mono (fun _ h => h) ?_
      fun _ _ _ => trivial
    rintro - s rfl
    exact ⟨rfl, h₀.id sessionId, hsession.quiet (Session.change_setState hexists)⟩
  · rintro s rfl
    rw [Session.getOffer_unknown hexists]
    trivial

theorem getAnswer_allAnnounced : Leads AllAnnounced (onSession sessionId (Session.getAnswer id))
    (fun _ => AllAnnounced) fun _ _ => True := by
  refine Eff.triple_intro fun c h₀ => (leads_quiet h₀ fun t => ?_).pre fun _ hc => hc ▸ rfl
  have hsession := h₀.announced sessionId
  by_cases hstate : (c.view.session sessionId).roles id = some .gotOffer
  · have hexists : (c.view.session sessionId).participantExists id = true := by
      rw [← Session.roles_isSome_iff, hstate]
      rfl
    refine (@Session.getAnswer_sets _ _ _ (c.view.session sessionId, t) hstate).mono (fun _ h => h) ?_
      fun _ _ _ => trivial
    rintro - s rfl
    exact ⟨rfl, h₀.id sessionId, hsession.quiet (Session.change_setState hexists)⟩
  · rintro s rfl
    obtain ⟨-, e, he⟩ := Session.getAnswer_refused (ω := Nat × ClientMessage)
      (s := (c.view.session sessionId, t)) hstate
    rw [he]
    trivial

/-! ## Handlers -/

theorem completeTransaction_allAnnounced : Leads AllAnnounced (completeTransaction env sessionId)
    (fun _ => AllAnnounced) fun _ _ => True :=
  completeTransaction_triple (fun _ _ _ => trivial) (fun _ h _ => h) (fun _ _ _ _ _ => trivial)
    fun _ => getAnswer_allAnnounced.pre fun _ h => h.1

theorem forwardOffers_allAnnounced {ids : List Nat} :
    Leads AllAnnounced (forwardOffers env sessionId id ids) (fun _ => AllAnnounced) fun _ _ => True :=
  forwardOffers_triple (L := fun _ => AllAnnounced) (fun _ h => h) (fun _ _ h => h)
    fun _ _ _ => getOffer_allAnnounced.mono (fun _ h => h) (fun _ _ h => ⟨h, fun _ => trivial⟩)
      fun _ _ h => h

theorem onNewParticipant_allAnnounced {remote : IPv4Port} (h₀ : AllAnnounced c₀.view) :
    Eff.Triple (· = c₀) (onNewParticipant env i remote (some sessionId)) (fun _ c => AllAnnounced c.view)
      fun _ _ => True := by
  refine onNewParticipant_triple (E := fun _ _ => True) (J := fun _ => AllAnnounced) (fun _ _ _ => trivial)
    (fun _ _ _ _ => trivial) h₀ (fun _ _ h _ => h) ?_ fun _ _ => getOffer_allAnnounced.pre fun _ h => h.1
  refine leads_quiet h₀ fun t => ?_
  refine (Session.addParticipant_joins (c₀.view.session sessionId, t)).mono (fun _ h => h) ?_
    fun _ _ _ => trivial
  rintro - s ⟨-, -, rfl⟩
  exact ⟨rfl, h₀.id sessionId, (h₀.announced sessionId).joined⟩

theorem onClientClose_allAnnounced (h₀ : AllAnnounced c₀.view) :
    Eff.Triple (fun c => c.view = c₀.view) (onClientClose m) (fun _ c => AllAnnounced c.view)
      fun _ _ => True := by
  refine onClientClose_triple (E := fun _ _ => True) h₀ fun hexists => leads_quiet h₀ fun t => ?_
  rintro s rfl
  rw [Session.removeParticipant_run hexists]
  exact ⟨rfl, h₀.id m.sessionId, (h₀.announced m.sessionId).erase _⟩

/-- The switch has ids left for the streams of an offer, and their SSRCs are new in the session. -/
def NewSenders (log : List Rpc.AddStream) (sessionId : Nat) (streams : List (SSRC × SSRC)) : Prop :=
  Rpc.Fresh (Rpc.taken sessionId log) streams ∧
    (Rpc.sent log).length + (streams.flatMap Rpc.streamSSRCs).length ≤ 2 ^ 32

/-- The switch has ids left for the streams of an answer. -/
def NewReceivers (log : List Rpc.AddStream) (streams : List (SSRC × SSRC)) : Prop :=
  (Rpc.received log).length + (streams.flatMap Rpc.streamSSRCs).length ≤ 2 ^ 32

theorem onClientOffer_allAnnounced (h₀ : AllAnnounced c₀.view)
    (hnew : let m := c₀.clients.metaData i
      let s := c₀.session m.sessionId
      s.participantExists m.participantId = true → ¬ s.signalingActive = true →
        ∀ offer, env.parse sdp = .ok offer →
          NewSenders c₀.switches.announced m.sessionId (s.offeredSSRCs m.participantId offer)) :
    Eff.Triple (· = c₀) (onClientOffer env i sdp) (fun _ c => AllAnnounced c.view) fun _ _ => True := by
  dsimp only at hnew
  refine onClientOffer_triple (E := fun _ _ => True) (B := AllAnnounced) rfl (fun _ _ _ => trivial) h₀
    (fun offer hparse hexists => ?_) (fun _ => forwardOffers_allAnnounced.pre fun _ h => h.1)
    (getAnswer_allAnnounced.pre fun _ h => h.1)
  refine leads_onSession_told h₀ fun t ht => ?_
  let m := c₀.clients.metaData i
  let s₀ : Session × Switches := (c₀.view.session m.sessionId, t)
  have hkeeps : Session.Makes onNewStream (fun s (t : Switches) => s.Announced t.announced)
      (fun _ => True) (Session.addOffer (some onNewStream) m.participantId offer) fun _ => True :=
    Session.addOffer_makes Session.announced_kept
  refine ((@Session.addOffer_writes m.participantId s₀ offer).and hkeeps).mono ?_ ?_ fun _ _ _ => trivial
  · rintro s rfl
    refine ⟨rfl, ?_, trivial⟩
    show (c₀.view.session m.sessionId).Announced t.announced
    rw [ht]
    exact h₀.announced m.sessionId
  rintro - s ⟨⟨hactive, hid, ms, hlog, hms, hssrcs⟩, hannounced, -⟩
  obtain ⟨hfresh, hroom⟩ := hnew hexists hactive offer hparse
  have hlog' : s.2.announced = c₀.view.announced ++ ms := by rw [hlog, ← ht]
  refine ⟨hid.trans (h₀.id m.sessionId), hannounced, ?_, ?_⟩
  · rw [hlog']
    exact List.subset_append_left _ _
  · rw [hlog']
    have hms' : ∀ msg ∈ ms, msg.direction = .sendonly ∧ msg.sessionId = m.sessionId :=
      fun msg hmsg => ⟨(hms msg hmsg).1, (hms msg hmsg).2.trans (h₀.id m.sessionId)⟩
    exact h₀.acceptable.senders hms' (hssrcs.symm ▸ hfresh) (hssrcs.symm ▸ hroom)

theorem onClientAnswer_allAnnounced (h₀ : AllAnnounced c₀.view)
    (hnew : let m := c₀.clients.metaData i
      let s := c₀.session m.sessionId
      s.participantExists m.participantId = true → ∀ init, s.participantInState .gotOffer = .ok init →
        ∀ answer, env.parse sdp = .ok answer →
          NewReceivers c₀.switches.announced (s.answeredSSRCs init m.participantId answer)) :
    Eff.Triple (· = c₀) (onClientAnswer env i sdp) (fun _ c => AllAnnounced c.view) fun _ _ => True := by
  dsimp only at hnew
  refine onClientAnswer_triple (E := fun _ _ => True) (A := AllAnnounced) rfl (fun _ _ _ => trivial) h₀
    (fun answer hparse hexists => ?_) completeTransaction_allAnnounced
  refine leads_onSession_told h₀ fun t ht => ?_
  let m := c₀.clients.metaData i
  let s₀ : Session × Switches := (c₀.view.session m.sessionId, t)
  have hsession := h₀.announced m.sessionId
  have hkeeps : Session.Makes onNewStream (fun s (t : Switches) => s.Announced t.announced)
      (fun s => Session.Consistent s ∧ s.participantExists m.participantId = true)
      (Session.addAnswer (some onNewStream) m.participantId answer) fun _ => True :=
    Session.addAnswer_makes Session.announced_kept
  refine ((@Session.addAnswer_writes m.participantId s₀ answer hsession.consistent hexists).and
    hkeeps).mono ?_ ?_ fun _ _ _ => trivial
  · rintro s rfl
    refine ⟨rfl, ?_, hsession.consistent, hexists⟩
    show (c₀.view.session m.sessionId).Announced t.announced
    rw [ht]
    exact hsession
  rintro - s ⟨⟨init, hquery, hinit, hid, ms, hlog, hms, hssrcs⟩, hannounced, -⟩
  have hroom := hnew hexists init hquery answer hparse
  have hlog' : s.2.announced = c₀.view.announced ++ ms := by rw [hlog, ← ht]
  refine ⟨hid.trans (h₀.id m.sessionId), hannounced, ?_, ?_⟩
  · rw [hlog']
    exact List.subset_append_left _ _
  · rw [hlog']
    refine h₀.acceptable.receivers (fun msg hmsg => ⟨(hms msg hmsg).1, fun ssrc hssrc => ?_⟩)
      (hssrcs.symm ▸ hroom)
    have hmem : msg.ssrcs ∈ s₀.1.answeredSSRCs init m.participantId answer :=
      hssrcs ▸ List.mem_map_of_mem hmsg
    obtain ⟨sent, hsent, hsend, hsentSSRCs⟩ :=
      Session.exists_sent_of_answeredSSRCs hsession.consistent hinit hmem
    have hlogged := hsession.messages init hinit sent (.inl hsent)
    have htaken : ssrc ∈ Rpc.streamSSRCs (sent.message s₀.1.id init).ssrcs →
        ssrc ∈ Rpc.taken (sent.message s₀.1.id init).sessionId c₀.view.announced :=
      Rpc.mem_taken_of_mem hlogged (by rw [Stream.message_direction, if_pos hsend])
    rw [Stream.message_ssrcs, Stream.message_sessionId, hsentSSRCs] at htaken
    rw [(hms msg hmsg).2]
    exact htaken hssrc

/-! ## Events -/

/-- Whether the switch can take up the streams of an event. -/
def Registrable (env : Env) (c : Controller) : Event → Prop
  | .clientOffer client sdp => ∀ conn remote, c.Reaches client conn remote →
      (c.clients.metaData client).registered = true →
        let m := c.clients.metaData conn
        let s := c.session m.sessionId
        s.participantExists m.participantId = true → ¬ s.signalingActive = true →
          ∀ offer, env.parse sdp = .ok offer →
            NewSenders c.switches.announced m.sessionId (s.offeredSSRCs m.participantId offer)
  | .clientAnswer client sdp => ∀ conn remote, c.Reaches client conn remote →
      (c.clients.metaData client).registered = true →
        let m := c.clients.metaData conn
        let s := c.session m.sessionId
        s.participantExists m.participantId = true → ∀ init, s.participantInState .gotOffer = .ok init →
          ∀ answer, env.parse sdp = .ok answer →
            NewReceivers c.switches.announced (s.answeredSSRCs init m.participantId answer)
  | _ => True

theorem handle_allAnnounced (event : Event) (h₀ : AllAnnounced c₀.view)
    (hregistrable : Registrable env c₀ event) :
    Eff.Triple (· = c₀) (handle env event) (fun _ c => AllAnnounced c.view) fun _ _ => True := by
  refine handle_triple (E := fun _ _ => True) event (fun _ _ _ => trivial) h₀ ?_ ?_ ?_
    fun _ _ _ _ _ => onClientClose_allAnnounced h₀
  · rintro client sessionId conn remote - - -
    exact onNewParticipant_allAnnounced h₀
  · rintro client sdp conn remote rfl hreaches hregistered
    exact onClientOffer_allAnnounced h₀ (hregistrable conn remote hreaches hregistered)
  · rintro client sdp conn remote rfl hreaches hregistered
    exact onClientAnswer_allAnnounced h₀ (hregistrable conn remote hreaches hregistered)

end Handlers

/-- The agent has the streams of the messages so far, and those of every participant are among them. -/
structure Agrees (c : Controller) (agent : SwitchAgentState) : Prop where
  senders : ∀ a, (∃ id, agent.sender id = some a) ↔ a ∈ Rpc.sent c.switches.announced
  receivers : ∀ k, (∃ id r, agent.receiver id = some r ∧ r.reception = k) ↔
    k ∈ Rpc.received c.switches.announced
  current : ∀ k id, (c.session k).participantExists id = true →
    ∀ stream, ((c.session k).participant id).Has stream → stream.message k id ∈ c.switches.announced

end Controller

/-! ## Runs -/

namespace Process

/-- Unless the process has ended: an agent that gets the messages so far takes up all of them, and has their
streams then. -/
def StreamsAccepted (p : Process) : Prop :=
  p.fault = none → ∀ (av1RtpExt : Nat) (xs : List (WalkOrder × Rpc.AddStream)),
    xs.map Prod.snd = p.controller.switches.announced →
      Along SwitchProcess.TakesUp SwitchProcess.addStreamStep (SwitchProcess.init av1RtpExt) xs ∧
        p.controller.Agrees
          (final SwitchProcess.addStreamStep (SwitchProcess.init av1RtpExt) xs).switch.agent

theorem streamsAccepted_of_meets {p : Process} (h : p.Meets Controller.AllAnnounced fun _ _ => True) :
    p.StreamsAccepted := by
  intro hfault av1RtpExt xs hxs
  unfold Meets at h
  rw [hfault] at h
  obtain ⟨halong, hstreams⟩ := SwitchProcess.takesUp_of_acceptable av1RtpExt h.acceptable hxs
  refine ⟨halong, fun a => hstreams.stores.exists_sender, fun k => hstreams.stores.exists_receiver, ?_⟩
  intro k id hexists stream hstream
  have hmessage := (h.announced k).messages id hexists stream hstream
  rw [h.id k] at hmessage
  exact hmessage

/-- **Accepted streams.** In a run of registrable events, an agent that gets the messages of the controller
takes up all of them. -/
theorem streams_accepted (env : Env) (sfuConfig : SFUConfig) (events : List Event)
    (h : Along (fun p event => p.controller.Registrable env event) (step env) (init sfuConfig) events) :
    Always StreamsAccepted (step env) (init sfuConfig) events := by
  have hsession : ∀ k, (init sfuConfig).controller.view.session k = { id := k, sfuConfig } :=
    fun k => Controller.session_new
  have hinit : Controller.AllAnnounced (init sfuConfig).controller.view := by
    refine ⟨fun k => ?_, fun k => ?_, Rpc.Acceptable.nil⟩
    · rw [hsession]
    · rw [hsession]
      exact Session.announced_new
  exact (always_of_handle (E := fun _ _ => True) hinit (fun _ event hregistrable h₀ =>
    Controller.handle_allAnnounced event h₀ hregistrable) h).mono fun _ => streamsAccepted_of_meets

/-- A switch is there, and two clients join a session. -/
def joinedEvents : List Event :=
  [.switchOpen ⟨1, 1⟩, .switchHello 0 (some 0), .clientOpen ⟨2, 1⟩, .clientHello 0 (some 1),
    .clientOpen ⟨3, 1⟩, .clientHello 1 (some 1)]

/-- The first client may offer a stream with SSRC `1`. -/
abbrev MayOffer (p : Process) : Prop :=
  p.controller.clients.accepted[0]?.map (fun ws => ws.remote) = some ⟨2, 1⟩ ∧
    p.controller.clients.find? ⟨2, 1⟩ = some 0 ∧ p.controller.clients.metaData 0 = ⟨true, 1, 1⟩ ∧
      p.controller.switches.announced = [] ∧
        (p.controller.session 1).offeredSSRCs 1 audioOffer.2 = [(1, 0)]

theorem joined_mayOffer : MayOffer (final (step audioEnv) (init plainConfig) joinedEvents) := by
  decide +kernel

abbrev MayAnswer (p : Process) : Prop :=
  p.controller.clients.accepted[1]?.map (fun ws => ws.remote) = some ⟨3, 1⟩ ∧
    p.controller.clients.find? ⟨3, 1⟩ = some 1 ∧ p.controller.clients.metaData 1 = ⟨true, 1, 2⟩ ∧
      (Rpc.received p.controller.switches.announced).length = 0 ∧
        (p.controller.session 1).participantInState .gotOffer = .ok 1 ∧
          (p.controller.session 1).answeredSSRCs 1 2 audioAnswer.2 = [(1, 0)]

theorem offered_mayAnswer : MayAnswer (final (step audioEnv) (init plainConfig) offeredEvents) := by
  decide +kernel

/-- An audio stream is offered, and the offer is answered. -/
theorem streams_accepted_audio : Always StreamsAccepted (step audioEnv) (init plainConfig)
    (joinedEvents ++ [.clientOffer 0 audioOffer.1, .clientAnswer 1 audioAnswer.1]) := by
  refine streams_accepted audioEnv plainConfig _ (along_append.mpr ⟨?_, ?_, ?_, trivial⟩)
  · exact ⟨trivial, trivial, trivial, trivial, trivial, trivial, trivial⟩
  · obtain ⟨haccepted, hfind, hmeta, hlog, hssrcs⟩ := joined_mayOffer
    generalize final (step audioEnv) (init plainConfig) joinedEvents = p at *
    rintro conn remote ⟨ws, hws, -, rfl, hconn⟩ -
    dsimp only
    rintro - - offer hread
    rw [hws] at haccepted
    rw [show ws.remote = ⟨2, 1⟩ from Option.some.inj haccepted, hfind] at hconn
    have hparse : audioEnv.parse audioOffer.1 = .ok audioOffer.2 := by decide +kernel
    rw [← Option.some.inj hconn, hmeta, ← Except.ok.inj (hparse.symm.trans hread), hlog, hssrcs]
    exact ⟨by decide, by decide⟩
  · have hstate : (step audioEnv (final (step audioEnv) (init plainConfig) joinedEvents)
        (.clientOffer 0 audioOffer.1)).1 = final (step audioEnv) (init plainConfig) offeredEvents := rfl
    rw [hstate]
    obtain ⟨haccepted, hfind, hmeta, hlog, hquery, hssrcs⟩ := offered_mayAnswer
    generalize final (step audioEnv) (init plainConfig) offeredEvents = p at *
    rintro conn remote ⟨ws, hws, -, rfl, hconn⟩ -
    dsimp only
    rintro - init hinit answer hread
    rw [hws] at haccepted
    rw [show ws.remote = ⟨3, 1⟩ from Option.some.inj haccepted, hfind] at hconn
    have hparse : audioEnv.parse audioAnswer.1 = .ok audioAnswer.2 := by decide +kernel
    rw [← Option.some.inj hconn, hmeta] at hinit ⊢
    rw [← Except.ok.inj (hquery.symm.trans hinit), ← Except.ok.inj (hparse.symm.trans hread), hssrcs]
    unfold Controller.NewReceivers
    rw [hlog]
    decide

/-- A client sends a stream, leaves, joins again and sends it again: its SSRC is still taken. -/
def rejoinEvents : List Event :=
  [.switchOpen ⟨1, 1⟩, .switchHello 0 (some 0), .clientOpen ⟨2, 1⟩, .clientHello 0 (some 1),
    .clientOffer 0 audioOffer.1, .clientClose 0, .clientOpen ⟨2, 2⟩, .clientHello 1 (some 1),
    .clientOffer 1 audioOffer.1]

theorem rejoined_sender_refused :
    ¬ Always StreamsAccepted (step audioEnv) (init plainConfig) rejoinEvents := by
  intro h
  have hend :
      let p := final (step audioEnv) (init plainConfig) rejoinEvents
      p.fault = none ∧ (final SwitchProcess.addStreamStep (SwitchProcess.init 1)
        (p.controller.switches.announced.map fun m => (default, m))).running = false := by decide +kernel
  have hlast := h.final
  generalize final (step audioEnv) (init plainConfig) rejoinEvents = p at *
  obtain ⟨hfault, hrunning⟩ := hend
  have hxs : (p.controller.switches.announced.map fun m => ((default : WalkOrder), m)).map Prod.snd =
      p.controller.switches.announced := by
    rw [List.map_map]
    exact List.map_id _
  obtain ⟨halong, -⟩ := hlast hfault 1 _ hxs
  have hstays := halong.final (I := fun p => p.running = true) (fun _ _ _ h => h.returns) rfl
  exact Bool.false_ne_true (hrunning.symm.trans hstays)

end Process

end Scallop
