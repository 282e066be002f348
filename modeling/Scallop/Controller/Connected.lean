import Scallop.Controller.Served
import Scallop.Controller.Settled

/-!
# A transaction connects everyone

When a participant is sent the answer to its offer, everybody else receives its streams.

* `AllReady` : what holds between events; `onClientOffer_allReady`, `onClientAnswer_allReady`,
  `onClientClose_allReady`, `onNewParticipant_allReady` : what the handlers keep;
* `completeTransaction_connects`, `onClientAnswer_connects` : the answer that is written;
* `Regular` : events that neither repeat an id nor leave a section out;
* `Process.answer_connects` : runs of such events; `section_left_out` : an answer without a section.
-/

namespace Scallop

open Machine

namespace Controller

abbrev AllReady (v : View) : Prop := ∀ k, (v.session k).Ready

section Handlers
variable {env : Env} {sessionId id i : Nat} {c₀ : Controller} {m : ClientMeta} {sdp : String}

theorem getAnswer_allReady : Leads AllReady (onSession sessionId (Session.getAnswer id))
    (fun _ => AllReady) fun _ _ => True :=
  (leads_onSession Session.getAnswer_ready).mono (fun _ h => ⟨h sessionId, others_of_all h⟩)
    (fun _ _ h => all_of_others h.2 h.1) fun _ _ _ => trivial

theorem completeTransaction_allReady : Leads AllReady (completeTransaction env sessionId)
    (fun _ => AllReady) fun _ _ => True :=
  completeTransaction_triple (fun _ _ _ => trivial) (fun _ h _ => h) (fun _ _ _ _ _ => trivial)
    fun _ => getAnswer_allReady.pre fun _ h => h.1

theorem addAnswer_allReady {answer : Sdp.SessionDescription} (h₀ : AllReady c₀.view)
    (hexists : (c₀.session sessionId).participantExists id = true)
    (hcovered : (c₀.session sessionId).Covered id answer) :
    Leads (· = c₀.view) (onSession sessionId (Session.addAnswer (some onNewStream) id answer))
      (fun _ => AllReady) fun _ _ => True := by
  refine (leads_onSession (Session.addAnswer_ready (h₀ sessionId) hexists hcovered)).mono ?_
    (fun _ _ h => all_of_others h.2 h.1) fun _ _ _ => trivial
  intro c hc
  rw [hc]
  exact ⟨rfl, others_of_all h₀⟩

/-- While offers are made to `ids`, the participants that are still to be asked. -/
structure Asking (id : Nat) (ids : List Nat) (s : Session) : Prop where
  matched : s.Matched
  offering : s.roles.Offering id
  served : s.Served ids

theorem Asking.skip {ids : List Nat} {s : Session} (h : Asking id (id :: ids) s) : Asking id ids s := by
  refine ⟨h.matched, h.offering, fun init hinit k hne hk => ?_⟩
  refine (h.served init hinit k hne hk).imp_left fun hmem => ?_
  exact (List.mem_cons.mp hmem).resolve_left fun heq => hne (heq.trans (h.offering.unique init hinit).symm)

theorem Asking.await {k : Nat} {ids : List Nat} {s : Session} (h : Asking id (k :: ids) s) (hne : k ≠ id)
    (hexists : s.participantExists k = true) : Asking id ids (s.setState k .awaitAnswer) := by
  refine ⟨h.matched.setState hexists, ?_, h.served.await hexists⟩
  rw [Session.roles_setState]
  exact (h.offering.await hne).1

theorem forwardOffers_allReady {ids : List Nat} : Leads
    (fun v => Asking id ids (v.session sessionId) ∧ Others Session.Ready sessionId v)
    (forwardOffers env sessionId id ids) (fun _ => AllReady) fun _ _ => True := by
  refine forwardOffers_triple (L := fun ids v => Asking id ids (v.session sessionId) ∧
    Others Session.Ready sessionId v) ?_ ?_ fun k ids hne => ?_
  · rintro v ⟨h, hothers⟩
    exact all_of_others hothers ⟨h.matched, h.served⟩
  · rintro ids v ⟨h, hothers⟩
    exact ⟨h.skip, hothers⟩
  · have hoffer : Session.Triple (Asking id (k :: ids))
        (Session.getOffer k : SessionEff Switches (Nat × ClientMessage) _) (fun _ => Asking id ids)
        fun _ _ => True := Session.getOffer_leads fun s h hexists => h.await hne hexists
    exact (leads_onSession hoffer).mono (fun _ h => h) (fun _ _ h => ⟨h, fun _ => trivial⟩)
      fun _ _ _ => trivial

theorem onClientOffer_allReady (h₀ : AllReady c₀.view) :
    Eff.Triple (· = c₀) (onClientOffer env i sdp) (fun _ c => AllReady c.view) fun _ _ => True := by
  let m := c₀.clients.metaData i
  refine onClientOffer_triple (m := m) (E := fun _ _ => True) rfl (fun _ _ _ => trivial) h₀
    (B := fun v => ((v.session m.sessionId).Matched ∧
      (v.session m.sessionId).roles.Offering m.participantId) ∧ Others Session.Ready m.sessionId v)
    (fun offer _ _ => ?_) (fun ids => ?_) (getAnswer_allReady.pre ?_)
  · refine (leads_onSession Session.addOffer_matched).mono ?_ (fun _ _ h => h) fun _ _ _ => trivial
    intro c hc
    rw [hc]
    exact ⟨(h₀ _).matched, others_of_all h₀⟩
  · refine forwardOffers_allReady.pre ?_
    rintro c ⟨⟨⟨hmatched, hoffering⟩, hothers⟩, -, rfl⟩
    exact ⟨⟨hmatched, hoffering, Session.served_keys⟩, hothers⟩
  · rintro c ⟨⟨⟨hmatched, -⟩, hothers⟩, hcount⟩
    exact all_of_others hothers ⟨hmatched, Session.served_of_quiet fun h => hcount h.1⟩

theorem onClientClose_allReady (h₀ : AllReady c₀.view) :
    Eff.Triple (fun c => c.view = c₀.view) (onClientClose m) (fun _ c => AllReady c.view)
      fun _ _ => True := by
  refine onClientClose_triple (E := fun _ _ => True) h₀ fun hexists => ?_
  have hremove : Session.Triple (· = c₀.session m.sessionId)
      (Session.removeParticipant m.participantId : SessionEff Switches (Nat × ClientMessage) _)
      (fun _ => Session.Ready) fun _ _ => True := by
    rintro s hs
    rw [Session.removeParticipant_run (hs ▸ hexists)]
    show (s.1.erase m.participantId).Ready
    rw [hs]
    exact (h₀ m.sessionId).erase _
  refine (leads_onSession hremove).mono ?_ (fun _ _ h => all_of_others h.2 h.1) fun _ _ _ => trivial
  intro c hc
  rw [hc]
  exact ⟨rfl, others_of_all h₀⟩

theorem onNewParticipant_allReady {remote : IPv4Port} (h₀ : AllReady c₀.view)
    (hfresh : (c₀.session sessionId).nextParticipantId + 1 < 2 ^ 32) :
    Eff.Triple (· = c₀) (onNewParticipant env i remote (some sessionId)) (fun _ c => AllReady c.view)
      fun _ _ => True := by
  let s₀ := c₀.session sessionId
  let s₁ := s₀.joined (IPv4.str remote.ip) remote.port
  obtain ⟨hmatched, hserved⟩ := @Session.Ready.joined _ (IPv4.str remote.ip) remote.port (h₀ sessionId) hfresh
  refine onNewParticipant_triple (J := fun id v => (v.session sessionId = s₁ ∧ id = s₀.nextId) ∧
      Others Session.Ready sessionId v) (E := fun _ _ => True) (fun _ _ _ => trivial)
    (fun _ _ _ _ => trivial) h₀ ?_ ?_ fun _ id => ?_
  · rintro id v ⟨⟨hself, -⟩, hothers⟩ hquiet
    refine all_of_others hothers ⟨hself ▸ hmatched, Session.served_of_quiet hquiet⟩
  · refine (leads_onSession (G := Session.Ready) (P := (· = s₀)) (Q := fun id s => s = s₁ ∧ id = s₀.nextId)
      (E := fun _ _ => True) (Eff.triple_intro fun s hs => ?_)).mono ?_ (fun _ _ h => h)
      fun _ _ _ => trivial
    · refine (Session.addParticipant_joins s).mono (fun _ h => h) ?_ fun _ _ _ => trivial
      rintro id s' ⟨rfl, -, rfl⟩
      rw [hs]
      exact ⟨rfl, rfl⟩
    · intro c hc
      rw [hc]
      exact ⟨rfl, others_of_all h₀⟩
  · have hoffer : Session.Triple (fun s => s = s₁ ∧ id = s₀.nextId)
        (Session.getOffer id : SessionEff Switches (Nat × ClientMessage) _) (fun _ => Session.Ready)
        fun _ _ => True := by
      refine Session.getOffer_leads ?_
      rintro s ⟨rfl, rfl⟩ hexists
      exact ⟨hmatched.setState hexists, hserved.await hexists⟩
    exact (leads_onSession hoffer).mono (fun _ h => h.1) (fun _ _ h => all_of_others h.2 h.1)
      fun _ _ _ => trivial

theorem onClientAnswer_allReady (h₀ : AllReady c₀.view)
    (hcovered : ∀ answer, env.parse sdp = .ok answer →
      (c₀.session (c₀.clients.metaData i).sessionId).Covered (c₀.clients.metaData i).participantId answer) :
    Eff.Triple (· = c₀) (onClientAnswer env i sdp) (fun _ c => AllReady c.view) fun _ _ => True :=
  onClientAnswer_triple (E := fun _ _ => True) rfl (fun _ _ _ => trivial) h₀
    (fun answer hparse hexists => addAnswer_allReady h₀ hexists (hcovered answer hparse))
    completeTransaction_allReady

end Handlers

/-! ## The answer to the initiator -/

section Effects
variable {env : Env} {sessionId id i : Nat} {c₀ : Controller} {sdp : String}

theorem onNewStream_silent {session : Session} {stream : Stream} :
    Eff.Only (fun _ => False) (onNewStream session id stream) := by
  unfold onNewStream
  split
  · exact Eff.only_pure ()
  · refine Eff.Only.bind (Eff.only_get_bind fun s => ?_) fun i => Eff.only_modify _
    split
    · exact Eff.only_pure _
    · exact Eff.only_throw _

/-- All that is written is an answer to the initiator. -/
theorem completeTransaction_effects {w : Nat × ClientMessage}
    (hw : w ∈ (completeTransaction env sessionId c₀).effects) : c₀.view.Completes sessionId ∧
      ∃ init, (c₀.session sessionId).participantInState .gotOffer = .ok init ∧
        ∃ i answer, w = (i, .answer answer init) := by
  unfold completeTransaction at hw
  rw [Eff.get_bind_run] at hw
  split at hw
  · rename_i hcompletes
    refine ⟨hcompletes, ?_⟩
    cases hquery : (c₀.session sessionId).participantInState .gotOffer with
    | error e =>
        rw [hquery] at hw
        exact absurd hw List.not_mem_nil
    | ok init =>
        rw [hquery, Eff.ofExcept_ok_bind] at hw
        refine ⟨init, rfl, ?_⟩
        have honly : Eff.Only (fun w => ∃ i answer, w = (i, ClientMessage.answer answer init)) (do
            let answer ← onSession sessionId (Session.getAnswer init)
            let i ← clientConnection sessionId init
            sendAnswer env i answer init : Program Unit) := by
          refine Eff.Only.bind (Eff.only_zoom Session.getAnswer_silent fun w h => h.elim) fun answer => ?_
          refine Eff.Only.bind (Eff.only_get_bind fun c => ?_) fun i => ?_
          · split
            · exact Eff.only_pure _
            · exact Eff.only_throw _
          · refine (Eff.only_ofExcept _).bind fun _ => Eff.only_get_bind fun c => ?_
            refine (Eff.only_modify _).bind fun _ => ?_
            split
            · exact Eff.only_emit ⟨i, answer, rfl⟩
            · exact Eff.only_throw _
        exact honly c₀ w hw
  · exact absurd hw List.not_mem_nil

/-- An answer that is written connects everybody to the initiator. -/
theorem completeTransaction_connects {init : Nat} {answer : Sdp.SessionDescription}
    (h₀ : AllReady c₀.view)
    (hw : (i, .answer answer init) ∈ (completeTransaction env sessionId c₀).effects) :
    (((completeTransaction env sessionId c₀).state).session sessionId).Connected init := by
  obtain ⟨hcompletes, init', hquery, i', answer', heq⟩ := completeTransaction_effects hw
  obtain ⟨-, -, rfl⟩ : i = i' ∧ answer = answer' ∧ init = init' := by
    simpa only [Prod.mk.injEq, ClientMessage.answer.injEq] using heq
  obtain ⟨k, hrole, hid, -⟩ := Session.participantInState_ok_iff.mp hquery
  have hexists : (c₀.session sessionId).participantExists k = true := by
    rw [← Session.roles_isSome_iff, hrole]
    rfl
  obtain rfl : k = init := ((h₀ sessionId).matched.consistent.ids k hexists).symm.trans hid
  have hconnected : (c₀.session sessionId).Connected k :=
    (h₀ sessionId).connected hrole (Session.particpantsInState_eq_nil_iff.mp hcompletes.2)
  have hkeeps : Leads (fun v => (v.session sessionId).Connected k) (completeTransaction env sessionId)
      (fun _ v => (v.session sessionId).Connected k) fun _ v => (v.session sessionId).Connected k := by
    refine completeTransaction_triple (fun _ _ h => h) (fun _ h _ => h) (fun _ _ h _ _ => h) fun init => ?_
    refine (leads_onSession (G := fun _ => True) (@Session.getAnswer_connected _ _ k init)).mono ?_
      (fun _ _ h => h.1) fun _ _ h => h.1
    exact fun c h => ⟨h.1, fun _ _ => trivial⟩
  exact hkeeps.ends hconnected

theorem onClientAnswer_connects {init : Nat} {answer : Sdp.SessionDescription} (h₀ : AllReady c₀.view)
    (hcovered : ∀ answer, env.parse sdp = .ok answer →
      (c₀.session (c₀.clients.metaData id).sessionId).Covered (c₀.clients.metaData id).participantId
        answer)
    (hw : (i, .answer answer init) ∈ (onClientAnswer env id sdp c₀).effects) :
    ((onClientAnswer env id sdp c₀).state.session (c₀.clients.metaData id).sessionId).Connected init := by
  unfold onClientAnswer at hw ⊢
  rw [Eff.get_bind_run] at hw ⊢
  split at hw
  · exact absurd hw List.not_mem_nil
  rename_i hsession
  rw [if_neg hsession]
  split at hw
  · exact absurd hw List.not_mem_nil
  rename_i hexists
  rw [if_neg hexists]
  cases hparse : env.parse sdp with
  | error e =>
      rw [hparse] at hw
      exact absurd hw List.not_mem_nil
  | ok received =>
      rw [hparse, Eff.ofExcept_ok_bind] at hw
      rw [Eff.ofExcept_ok_bind]
      rcases Eff.mem_effects_bind hw with hw | ⟨_, hok, hw⟩
      · exact (Eff.only_zoom (Session.addAnswer_silent fun _ _ _ => onNewStream_silent)
          (fun _ h => h) _ _ hw).elim
      · rw [Eff.state_bind_of_ok hok]
        have hready := addAnswer_allReady h₀ (not_not.mp hexists) (hcovered received hparse) c₀ rfl
        rw [hok] at hready
        exact completeTransaction_connects hready hw

end Effects

/-! ## Events -/

theorem onClientMessage_run {client conn : Nat} {remote : IPv4Port} {c : Controller}
    {handler : Nat → IPv4Port → Program Unit} (h : c.Reaches client conn remote) :
    onClientMessage client handler c = handler conn remote c := by
  obtain ⟨ws, hws, hopen, rfl, hconn⟩ := h
  unfold onClientMessage
  rw [Eff.get_bind_run, hws]
  dsimp only
  rw [if_neg (not_not.mpr hopen), hconn]

/-- An event that is neither a join once ids repeat, nor an answer that lacks a section. -/
def Regular (env : Env) (c : Controller) : Event → Prop
  | .clientHello client (some sessionId) => ¬ (c.clients.metaData client).registered = true →
      (c.session sessionId).nextParticipantId + 1 < 2 ^ 32
  | .clientAnswer client sdp => ∀ conn remote, c.Reaches client conn remote →
      ∀ answer, env.parse sdp = .ok answer →
        (c.session (c.clients.metaData conn).sessionId).Covered (c.clients.metaData conn).participantId
          answer
  | _ => True

theorem handle_allReady {env : Env} {c₀ : Controller} (event : Event) (h₀ : AllReady c₀.view)
    (hregular : Regular env c₀ event) :
    Eff.Triple (· = c₀) (handle env event) (fun _ c => AllReady c.view) fun _ _ => True := by
  refine handle_triple (E := fun _ _ => True) event (fun _ _ _ => trivial) h₀ ?_
    (fun _ _ _ _ _ _ _ => onClientOffer_allReady h₀) ?_ fun _ _ _ _ _ => onClientClose_allReady h₀
  · rintro client sessionId conn remote rfl - hnew
    exact onNewParticipant_allReady h₀ (hregular hnew)
  · rintro client sdp conn remote rfl hreaches -
    exact onClientAnswer_allReady h₀ (hregular conn remote hreaches)

end Controller

/-! ## Runs -/

namespace Process

/-- When an answer leads to one for the participant that has made the offer, everybody else is connected
to that participant. -/
def AnswerConnects (env : Env) (p : Process) (event : Event) : Prop :=
  ∀ client sdp conn remote i answer init, event = .clientAnswer client sdp →
    p.controller.Reaches client conn remote → (i, .answer answer init) ∈ (p.step env event).2 →
      ((p.step env event).1.controller.session
        (p.controller.clients.metaData conn).sessionId).Connected init

theorem step_run {env : Env} {p : Process} {event : Event} (hfault : p.fault = none) :
    (p.step env event).2 = (Controller.handle env event p.controller).effects ∧
      (p.step env event).1.controller = (Controller.handle env event p.controller).state := by
  unfold step
  rw [hfault]
  dsimp only
  split
  · exact ⟨rfl, rfl⟩
  · exact ⟨rfl, rfl⟩

theorem step_connects {env : Env} {p : Process} {event : Event}
    (h : p.Meets Controller.AllReady fun _ _ => True) (hregular : p.controller.Regular env event) :
    p.AnswerConnects env event := by
  rintro client sdp conn remote i answer init rfl hreaches hmem
  cases hfault : p.fault with
  | some e =>
      unfold step at hmem
      rw [hfault] at hmem
      exact absurd hmem List.not_mem_nil
  | none =>
      unfold Meets at h
      rw [hfault] at h
      obtain ⟨heffects, hstate⟩ := @step_run env p (.clientAnswer client sdp) hfault
      rw [heffects] at hmem
      rw [hstate]
      have hhandle : Controller.handle env (.clientAnswer client sdp) p.controller =
          (if (p.controller.clients.metaData client).registered then
            Controller.onClientAnswer env conn sdp else pure ()) p.controller := by
        unfold Controller.handle
        dsimp only
        rw [Controller.onClientMessage_run hreaches, Eff.get_bind_run]
      rw [hhandle] at hmem ⊢
      split at hmem
      · rw [if_pos ‹_›]
        exact Controller.onClientAnswer_connects h (hregular conn remote hreaches) hmem
      · exact absurd hmem List.not_mem_nil

/-- **Connected.** In a run in which ids do not repeat and answers are in full: when a participant is sent
the answer to its offer, everybody else has exactly one receive stream for each of its streams. -/
theorem answer_connects (env : Env) (sfuConfig : SFUConfig) (events : List Event)
    (h : Along (fun p event => p.controller.Regular env event) (step env) (init sfuConfig) events) :
    Along (AnswerConnects env) (step env) (init sfuConfig) events := by
  have hinit : Controller.AllReady (init sfuConfig).controller.view := by
    intro k
    show (({ sfuConfig } : Controller).session k).Ready
    rw [Controller.session_new]
    exact Session.ready_new
  have hready : Always (Meets Controller.AllReady fun _ _ => True) (step env) (init sfuConfig) events :=
    always_of_handle hinit (fun _ event hregular hready =>
      Controller.handle_allReady event hready hregular) h
  exact Along.imp (Q := Meets Controller.AllReady fun _ _ => True)
    (fun p event hp hregular => step_connects hp hregular) h hready

/-- An environment that knows how some texts read, and in which no write fails. -/
def envOfTexts (texts : List (String × Sdp.SessionDescription)) : Env where
  parse sdp :=
    match texts.lookup sdp with
    | some description => .ok description
    | none => .error (.invalidArgument "SessionDescription: invalid sdp: no v-line or version != 0")
  writeError _ := none

def audioOffer : String × Sdp.SessionDescription where
  fst := "v=0\r\no=- 0 0 IN IP4 0.0.0.0\r\ns=-\r\nt=0 0\r\nm=audio 9 UDP/TLS/RTP/SAVPF 111\r\n" ++
    "c=IN IP4 0.0.0.0\r\na=candidate:1 1 udp 1 2.0.0.2 5000 typ host\r\na=ice-ufrag:u\r\na=ice-pwd:p\r\n" ++
    "a=mid:0\r\na=sendonly\r\na=ssrc:1 cname:c"
  snd :=
    { mediaDescriptions :=
        [{ type := .audio, port := 9, protocols := "UDP/TLS/RTP/SAVPF"
           connectionData := some ⟨"IN", "IP4", "0.0.0.0"⟩
           iceCandidates := [⟨"1", 1, "udp", 1, "2.0.0.2", 5000, "host", ""⟩]
           iceUfrag := some "u", icePwd := some "p", mid := some "0", direction := some .sendonly
           ssrcDescription := some ⟨[⟨1, "c", ""⟩]⟩ }] }

def audioAnswer : String × Sdp.SessionDescription where
  fst := "v=0\r\no=- 0 0 IN IP4 0.0.0.0\r\ns=-\r\nt=0 0\r\nm=audio 9 UDP/TLS/RTP/SAVPF 111\r\n" ++
    "a=candidate:1 1 udp 1 3.0.0.2 5000 typ host\r\na=ice-ufrag:v\r\na=ice-pwd:q\r\na=mid:0\r\na=recvonly"
  snd :=
    { mediaDescriptions :=
        [{ type := .audio, port := 9, protocols := "UDP/TLS/RTP/SAVPF"
           iceCandidates := [⟨"1", 1, "udp", 1, "3.0.0.2", 5000, "host", ""⟩]
           iceUfrag := some "v", icePwd := some "q", mid := some "0", direction := some .recvonly }] }

def emptyAnswer : String × Sdp.SessionDescription :=
  ("v=0\r\no=- 0 0 IN IP4 0.0.0.0\r\ns=-\r\nt=0 0", {})

def audioEnv : Env := envOfTexts [audioOffer, audioAnswer, emptyAnswer]

/-- A switch is there, two clients join a session, and the first one offers a stream. -/
def offeredEvents : List Event :=
  [.switchOpen ⟨1, 1⟩, .switchHello 0 (some 0), .clientOpen ⟨2, 1⟩, .clientHello 0 (some 1),
    .clientOpen ⟨3, 1⟩, .clientHello 1 (some 1), .clientOffer 0 audioOffer.1]

/-- The second client is to answer the offer of a stream with mid `0`. -/
abbrev AwaitsAnswer (p : Process) : Prop :=
  p.controller.clients.accepted[1]?.map (fun ws => (ws.remote, ws.isOpen)) = some (⟨3, 1⟩, true) ∧
    p.controller.clients.find? ⟨3, 1⟩ = some 1 ∧ p.controller.clients.metaData 1 = ⟨true, 1, 2⟩ ∧
      (p.controller.session 1).participantInState .gotOffer = .ok 1 ∧
        ∀ sent ∈ ((p.controller.session 1).participant 1).outgoingStreams,
          sent.description.mid = some "0"

theorem offered_awaitsAnswer :
    AwaitsAnswer (final (step audioEnv) (init plainConfig) offeredEvents) := by decide +kernel

/-- The stream is received. -/
theorem answer_connects_audio : Along (AnswerConnects audioEnv) (step audioEnv) (init plainConfig)
    (offeredEvents ++ [.clientAnswer 1 audioAnswer.1]) := by
  refine answer_connects audioEnv plainConfig _ (along_append.mpr ⟨?_, ?_, trivial⟩)
  · exact ⟨trivial, trivial, trivial, fun _ => by decide, trivial, fun _ => by decide, trivial, trivial⟩
  · obtain ⟨haccepted, hfind, hmeta, hinitiator, hmids⟩ := offered_awaitsAnswer
    generalize final (step audioEnv) (init plainConfig) offeredEvents = p at *
    rintro conn remote ⟨ws, hws, -, rfl, hconn⟩ answer hread
    rw [hws] at haccepted
    obtain ⟨hremote, -⟩ := Prod.mk.inj (Option.some.inj haccepted)
    rw [hremote, hfind] at hconn
    have hparse : audioEnv.parse audioAnswer.1 = .ok audioAnswer.2 := by decide +kernel
    rw [← Option.some.inj hconn, hmeta, ← Except.ok.inj (hparse.symm.trans hread)]
    intro init hquery sent hmem mid hmid
    rw [← Except.ok.inj (hinitiator.symm.trans hquery)] at hmem
    rw [← Option.some.inj ((hmids sent hmem).symm.trans hmid)]
    have hsection : ∃ media ∈ audioAnswer.2.mediaDescriptions, media.mid = some "0" := by decide
    exact .inr hsection

/-- An answer without sections leaves the participant that gives it without the stream. -/
theorem section_left_out : ¬ Along (AnswerConnects audioEnv) (step audioEnv) (init plainConfig)
    (offeredEvents ++ [.clientAnswer 1 emptyAnswer.1]) := by
  intro h
  have hlast := (along_append.mp h).2.1
  obtain ⟨haccepted, hfind, hmeta, -, -⟩ := offered_awaitsAnswer
  have hend :
      let o := step audioEnv (final (step audioEnv) (init plainConfig) offeredEvents)
        (.clientAnswer 1 emptyAnswer.1)
      let s := o.1.controller.session 1
      o.2.map (fun w => match w.2 with
        | .answer _ id => some id
        | _ => none) = [some 1] ∧
          s.participantExists 2 = true ∧ (s.participant 1).outgoingStreams ≠ [] ∧
            ((s.participant 2).receiver 1).streams = [] := by decide +kernel
  generalize final (step audioEnv) (init plainConfig) offeredEvents = p at *
  obtain ⟨heffects, hexists, hsends, hstreams⟩ := hend
  obtain ⟨⟨i, m⟩, hm, hanswered⟩ := List.map_eq_singleton_iff.mp heffects
  obtain ⟨ws, hws, hremote⟩ := Option.map_eq_some_iff.mp haccepted
  obtain ⟨hremote, hopen⟩ := Prod.mk.inj hremote
  have hreaches : p.controller.Reaches 1 1 ⟨3, 1⟩ := ⟨ws, hws, hopen, hremote, hremote ▸ hfind⟩
  match m, hanswered with
  | .answer answer _, rfl =>
      have hconnected := hlast 1 _ 1 ⟨3, 1⟩ i answer 1 rfl hreaches (hm ▸ List.mem_singleton.mpr rfl)
      rw [hmeta] at hconnected
      obtain ⟨sent, hsent⟩ := List.exists_mem_of_ne_nil _ hsends
      obtain ⟨mid, -, stream, -, hfilter⟩ := hconnected 2 (by decide) hexists sent hsent
      rw [hstreams] at hfilter
      exact nomatch hfilter

end Process

end Scallop
