import Scallop.Controller.ClientConnections
import Scallop.Controller.Writes

/-!
# Sessions apart from each other

What the clients of other sessions say does not matter for a session.

* `Connections.only`, `Switches.only` : what a session sees of the connections, and of what was written to switches;
* `Separate` : events of clients at different endpoints, each of which says hello to one session;
* `Apart` : a controller, and one that hears the clients of one session only; `*_apart` : what every program of the
  controller does on both sides;
* `Process.session_alone` : runs.
-/

namespace Scallop

open Machine

/-! ## What a session sees -/

/-- The meta data of a client, if it is registered for the session. -/
def ClientMeta.only (sessionId : Nat) (m : ClientMeta) : ClientMeta := if m.sessionId = sessionId then m else {}

def WebSocketSession.only (sessionId : Nat) (ws : WebSocketSession ClientMeta) : WebSocketSession ClientMeta :=
  { ws with metaData := ws.metaData.only sessionId }

namespace Connections

variable {S i j : Nat} {cs : Connections ClientMeta} {m : ClientMeta}

/-- The endpoints of clients, in the order in which they came. -/
def remotes (cs : Connections ClientMeta) : List IPv4Port := cs.accepted.map (·.remote)

/-- The connections, without the registrations of other sessions. -/
def only (sessionId : Nat) (cs : Connections ClientMeta) : Connections ClientMeta :=
  { cs with accepted := cs.accepted.map (WebSocketSession.only sessionId) }

theorem accepted_only : (cs.only S).accepted[i]? =
    (cs.accepted[i]?).map (WebSocketSession.only S) := List.getElem?_map

theorem metaData_only : (cs.only S).metaData i = (cs.metaData i).only S := by
  unfold metaData
  rw [accepted_only]
  cases cs.accepted[i]? with
  | none => exact (ite_self _).symm
  | some ws => rfl

theorem accept_only {remote : IPv4Port} : (cs.accept remote).only S = (cs.only S).accept remote := by
  have hnew : WebSocketSession.only S { remote, metaData := default } = { remote, metaData := default } :=
    congrArg (fun m => ({ remote, metaData := m } : WebSocketSession ClientMeta)) (ite_self _)
  unfold accept only
  dsimp only
  rw [List.map_append, List.map_singleton, hnew, List.length_map]

theorem modify_only {f g : WebSocketSession ClientMeta → WebSocketSession ClientMeta}
    (h : ∀ ws, cs.accepted[i]? = some ws → (f ws).only S = g (ws.only S)) :
    ({ cs with accepted := cs.accepted.modify i f } : Connections ClientMeta).only S =
      { cs.only S with accepted := (cs.only S).accepted.modify i g } := by
  unfold only
  dsimp only
  congr 1
  apply List.ext_getElem?
  intro j
  rw [List.getElem?_map, List.getElem?_modify, List.getElem?_modify, List.getElem?_map]
  cases hws : cs.accepted[j]? with
  | none => rfl
  | some ws =>
      show some ((if i = j then f ws else ws).only S) = some (if i = j then g (ws.only S) else ws.only S)
      by_cases hj : i = j
      · subst hj
        rw [if_pos rfl, if_pos rfl, h ws hws]
      · rw [if_neg hj, if_neg hj]

theorem close_only : (cs.close i).only S = (cs.only S).close i := modify_only fun _ _ => rfl

theorem setMetaData_only (hm : m.sessionId = S) : (cs.setMetaData i m).only S = (cs.only S).setMetaData i m := by
  refine modify_only fun ws _ => ?_
  show ({ ws with metaData := m.only S } : WebSocketSession ClientMeta) = { ws with metaData := m }
  rw [ClientMeta.only, if_pos hm]

theorem setMetaData_only_of_ne (hm : m.sessionId ≠ S) (hi : (cs.metaData i).sessionId ≠ S) :
    (cs.setMetaData i m).only S = cs.only S := by
  refine (modify_only (g := id) fun ws hws => ?_).trans ?_
  · unfold metaData at hi
    rw [hws] at hi
    show ({ ws with metaData := m.only S } : WebSocketSession ClientMeta) = { ws with metaData := ws.metaData.only S }
    unfold ClientMeta.only
    rw [if_neg hm, if_neg hi]
  · rw [List.modify_id]

theorem findIf_only {id : Nat} (hS : S ≠ 0) :
    ((cs.only S).findIf fun m => m.sessionId = S ∧ m.participantId = id) =
      cs.findIf fun m => m.sessionId = S ∧ m.participantId = id := by
  unfold findIf
  show cs.connections.toList.find? _ = _
  refine congrArg (fun p => cs.connections.toList.find? p) (funext fun e => ?_)
  rw [metaData_only]
  unfold ClientMeta.only
  split
  · rfl
  · rename_i hne
    exact decide_eq_decide.mpr ⟨fun h => absurd h.1.symm hS, fun h => absurd h.1 hne⟩

end Connections

/-- The message is not about another session. -/
def SwitchMessage.concerns (sessionId : Nat) (m : SwitchMessage) : Bool := m.session?.all (· = sessionId)

/-- The switches, with what was written to them about a session only. -/
def Switches.only (sessionId : Nat) (s : Switches) : Switches :=
  { s with written := s.written.filter fun e => e.2.concerns sessionId }

/-! ## Events -/

def Event.opened : Event → Option IPv4Port
  | .clientOpen remote => some remote
  | _ => none

def Event.speaker : Event → Option Nat
  | .clientHello client _ => some client
  | .clientOffer client _ => some client
  | .clientAnswer client _ => some client
  | _ => none

/-- Clients at different endpoints, each of which says hello to one session; `0` is no session. -/
structure Separate (events : List Event) : Prop where
  endpoints : (events.filterMap Event.opened).Nodup
  one : ∀ client S T, .clientHello client (some S) ∈ events → .clientHello client (some T) ∈ events → S = T
  positive : ∀ client, .clientHello client (some 0) ∉ events

def isMember (events : List Event) (sessionId client : Nat) : Bool := .clientHello client (some sessionId) ∈ events

/-- An environment in which no write fails. -/
def Env.reliable (env : Env) : Env := { env with writeError := fun _ => none }

namespace Controller

variable {env : Env} {events : List Event} {S T id i : Nat} {cs : Connections ClientMeta}

/-- The connections of clients that said hello, each at an endpoint of its own. -/
structure Known (events : List Event) (cs : Connections ClientMeta) : Prop where
  tag : ∀ i, cs.metaData i = {} ∨
    (cs.metaData i).registered = true ∧ .clientHello i (some (cs.metaData i).sessionId) ∈ events
  current : ∀ (i : Nat) ws, cs.accepted[i]? = some ws → cs.find? ws.remote = some i
  entry : ∀ remote i, cs.find? remote = some i → ∃ ws, cs.accepted[i]? = some ws ∧ ws.remote = remote

theorem known_init : Known events {} where
  tag _ := .inl rfl
  current _ _ h := absurd h (by simp)
  entry _ _ h := absurd (Std.ExtTreeMap.getElem?_empty.symm.trans h) (by simp)

/-- A registered client is one of the session that it is registered for. -/
theorem Known.isMember_iff (h : Known events cs) (hsep : Separate events) (hT : T ≠ 0)
    (hi : (cs.metaData i).sessionId = T) : isMember events S i = true ↔ T = S := by
  have hhello : .clientHello i (some T) ∈ events := by
    rcases h.tag i with hnone | ⟨-, hhello⟩
    · rw [hnone] at hi
      exact absurd hi.symm hT
    · rwa [hi] at hhello
  unfold isMember
  rw [decide_eq_true_iff]
  refine ⟨hsep.one i T S hhello, ?_⟩
  rintro rfl
  exact hhello

/-- A controller, and one that has heard the clients of the session `S` only. -/
structure Apart (S : Nat) (cs : Connections ClientMeta) (c c' : Controller) : Prop where
  clients : c.clients = cs
  clients' : c'.clients = cs.only S
  sfuConfig : c'.sfuConfig = c.sfuConfig
  switches : c'.switches = c.switches.only S
  session : c'.session S = c.session S
  present : c'.sessionExists S = c.sessionExists S
  others : ∀ k, k ≠ S → ¬ c'.sessionExists k = true
  ids : ∀ k, (c.session k).id = k

/-- What clients of the session `T` make the controller do, next to the controller of the session `S`. -/
abbrev Local {α : Type} (events : List Event) (S T : Nat) (P : Controller → Controller → Prop) (m m' : Program α)
    (Q : α → Controller → Controller → Prop) : Prop :=
  Eff.Follows (T = S) (fun e => isMember events S e.1) P m m' Q

/-- The session `S` next to what clients of the session `T` do, both of which have an id. -/
structure Beside (events : List Event) (S T : Nat) (cs : Connections ClientMeta) : Prop where
  separate : Separate events
  known : Known events cs
  self : S ≠ 0
  other : T ≠ 0

section Programs

theorem Apart.metaData {c c' : Controller} (h : Apart S cs c c') (hi : (cs.metaData i).sessionId = S) :
    c'.clients.metaData i = c.clients.metaData i := by
  rw [h.clients', h.clients, Connections.metaData_only, ClientMeta.only, if_pos hi]

theorem write_apart {m : ClientMessage} (hb : Beside events S T cs) (hi : (cs.metaData i).sessionId = T) :
    Local events S T (Apart S cs) (write env i m) (write env.reliable i m) fun _ => Apart S cs := by
  have hsee := hb.known.isMember_iff hb.separate hb.other hi (S := S)
  unfold write
  refine Eff.follows_get_bind (fun c c' _ h => rfl) fun c c' h => ?_
  refine Eff.Follows.bind (Q := fun _ => Apart S cs) (Eff.follows_modify ?_ ?_) fun _ => ?_
  · rintro _ _ - ⟨rfl, rfl⟩
    exact ⟨h.clients, h.clients', h.sfuConfig, h.switches, h.session, h.present, h.others, h.ids⟩
  · rintro _ _ - ⟨rfl, rfl⟩
    exact ⟨h.clients, h.clients', h.sfuConfig, h.switches, h.session, h.present, h.others, h.ids⟩
  · split
    · exact Eff.follows_emit hsee fun _ _ h => h
    · exact Eff.follows_throw

theorem sendHello_apart (hb : Beside events S T cs) (hi : (cs.metaData i).sessionId = T) :
    Local events S T (Apart S cs) (sendHello env i) (sendHello env.reliable i) fun _ => Apart S cs := by
  refine Eff.follows_get_bind (fun c c' hTS h => ?_) fun c c' h => ?_
  · rw [h.metaData (hi.trans hTS)]
  · exact (write_apart hb hi).at h

theorem sendOffer_apart {offer : Sdp.SessionDescription} (hb : Beside events S T cs)
    (hi : (cs.metaData i).sessionId = T) : Local events S T (Apart S cs) (sendOffer env i offer id)
      (sendOffer env.reliable i offer id) fun _ => Apart S cs :=
  Eff.Follows.bind (Eff.follows_ofExcept fun _ _ _ _ h => h) fun _ => write_apart hb hi

theorem sendAnswer_apart {answer : Sdp.SessionDescription} (hb : Beside events S T cs)
    (hi : (cs.metaData i).sessionId = T) : Local events S T (Apart S cs) (sendAnswer env i answer id)
      (sendAnswer env.reliable i answer id) fun _ => Apart S cs :=
  Eff.Follows.bind (Eff.follows_ofExcept fun _ _ _ _ h => h) fun _ => write_apart hb hi

/-- The lookup of a participant finds a client of its session. -/
theorem clientConnection_apart (hb : Beside events S T cs) : Local events S T (Apart S cs)
    (clientConnection T id) (clientConnection T id)
    fun i c c' => Apart S cs c c' ∧ (cs.metaData i).sessionId = T := by
  refine Eff.follows_get_bind (fun c c' hTS h => ?_) fun c c' h => ?_
  · subst hTS
    rw [h.clients', h.clients, Connections.findIf_only hb.other]
  · split
    · rename_i hfind
      have hfound := of_decide_eq_true (List.find?_some hfind :)
      refine Eff.follows_pure ?_
      rintro _ _ ⟨rfl, rfl⟩
      exact ⟨h, h.clients ▸ hfound.1⟩
    · exact Eff.follows_throw

/-! ### Operations of sessions -/

theorem sessionExists_setSession {c : Controller} {s : Session × Switches} {k : Nat} :
    (c.setSession T s).sessionExists k = true ↔ k = T ∨ c.sessionExists k = true := by
  unfold sessionExists setSession
  rw [Std.ExtTreeMap.contains_insert, Bool.or_eq_true, beq_iff_eq, Nat.compare_eq_eq]
  exact or_congr_left eq_comm

theorem ids_setSession {c : Controller} {s : Session × Switches} (h : ∀ k, (c.session k).id = k) (hid : s.1.id = T)
    (k : Nat) : ((c.setSession T s).session k).id = k := by
  by_cases hk : k = T
  · rw [hk, session_setSession_self, hid]
  · rw [session_setSession_of_ne hk, h]

/-- What is written about a session is seen by that session only. -/
theorem filter_about {news : List (Nat × SwitchMessage)} (h : ∀ e ∈ news, e.2.session? = some T) :
    (news.filter fun e => e.2.concerns S) = if T = S then news else [] := by
  split
  · rename_i hTS
    refine List.filter_eq_self.mpr fun e he => ?_
    unfold SwitchMessage.concerns
    rw [h e he]
    exact decide_eq_true hTS
  · rename_i hTS
    refine List.filter_eq_nil_iff.mpr fun e he => ?_
    unfold SwitchMessage.concerns
    rw [h e he]
    exact fun hall => hTS (of_decide_eq_true hall)

/-- What a session writes, as another one sees it. -/
theorem switches_only {s u v : Switches} {news : List (Nat × SwitchMessage)} (hserver : v.server = u.server)
    (hlog : u.written = s.written ++ news)
    (hwritten : v.written = (s.only S).written ++ if T = S then news else [])
    (hnews : ∀ e ∈ news, e.2.session? = some T) : v = u.only S := by
  show v = ⟨u.server, u.written.filter _⟩
  rw [hlog, List.filter_append, filter_about hnews, ← hserver]
  show v = ⟨v.server, (s.only S).written ++ _⟩
  rw [← hwritten]

theorem Apart.setSession {c c' : Controller} {u v : Session × Switches} (h : Apart S cs c c') (hid : u.1.id = S)
    (hsession : v.1 = u.1) (hswitches : v.2 = u.2.only S) : Apart S cs (c.setSession S u) (c'.setSession S v) := by
  refine ⟨h.clients, h.clients', h.sfuConfig, hswitches, ?_, ?_, fun k hk => ?_, ids_setSession h.ids hid⟩
  · rw [session_setSession_self, session_setSession_self, hsession]
  · rw [Bool.eq_iff_iff, sessionExists_setSession, sessionExists_setSession, h.present]
  · rw [sessionExists_setSession]
    exact not_or.mpr ⟨hk, h.others k hk⟩

theorem Apart.setSession_of_ne {c c' : Controller} {u : Session × Switches} (h : Apart S cs c c') (hTS : T ≠ S)
    (hid : u.1.id = T) (hswitches : c'.switches = u.2.only S) : Apart S cs (c.setSession T u) c' := by
  refine ⟨h.clients, h.clients', h.sfuConfig, hswitches, ?_, ?_, h.others, ids_setSession h.ids hid⟩
  · rw [session_setSession_of_ne hTS.symm, h.session]
  · rw [Bool.eq_iff_iff, sessionExists_setSession, or_iff_right hTS.symm, h.present]

theorem onSession_apart {α : Type} {m : SessionEff Switches (Nat × ClientMessage) α} (hm : Session.Logs m) :
    Local events S T (Apart S cs) (onSession T m) (onSession T m) fun _ => Apart S cs := by
  refine Eff.follows_intro fun c c' h => ?_
  refine Eff.follows_zoom (hm.follows (s := (c.session T, c.switches)) (t := (c'.session T, c'.switches)) ?_) ?_ ?_ ?_
  · rintro rfl
    rw [h.session, h.switches]
    rfl
  · rintro _ _ ⟨rfl, rfl⟩
    exact ⟨rfl, rfl⟩
  · rintro _ _ a u v rfl ⟨rfl, rfl⟩ ⟨news, hkeep, hnews, hlog, hview, -⟩
    obtain ⟨hview, hlog'⟩ := hview rfl
    refine h.setSession ((Prod.mk.inj hkeep).1.trans (h.ids T)) (Prod.mk.inj hview).1 ?_
    refine switches_only (Prod.mk.inj hview).2 hlog ?_ fun e he => (hnews e he).trans (congrArg some (h.ids T))
    rw [if_pos rfl, ← h.switches]
    exact hlog'
  · rintro _ _ a u hTS ⟨rfl, rfl⟩ ⟨news, hkeep, hnews, hlog, -, -⟩
    refine h.setSession_of_ne hTS ((Prod.mk.inj hkeep).1.trans (h.ids T)) ?_
    refine switches_only ?_ hlog ?_ fun e he => (hnews e he).trans (congrArg some (h.ids T))
    · exact (congrArg Switches.server h.switches).trans (Prod.mk.inj hkeep).2.symm
    · rw [if_neg hTS, List.append_nil, ← h.switches]

/-! ### Offers and answers -/

theorem forwardOffers_apart {ids : List Nat} (hb : Beside events S T cs) : Local events S T (Apart S cs)
    (forwardOffers env T id ids) (forwardOffers env.reliable T id ids) fun _ => Apart S cs := by
  induction ids with
  | nil => exact Eff.follows_pure fun _ _ h => h
  | cons k ks ih =>
      unfold forwardOffers
      split
      · exact ih
      · refine (onSession_apart Session.getOffer_logs).bind fun offer => ?_
        refine Eff.follows_get_bind (fun c c' hTS h => ?_) fun c c' h => ?_
        · subst hTS
          rw [h.session]
        · rw [h.ids T]
          refine Eff.Follows.bind ((clientConnection_apart hb).at h) fun i => Eff.follows_intro fun d d' hd => ?_
          exact Eff.Follows.bind ((sendOffer_apart hb hd.2).at hd.1) fun _ => ih

/-- An answer of the controller to a participant. -/
theorem answer_apart (hb : Beside events S T cs) : Local events S T (Apart S cs)
    (do
      let answer ← onSession T (Session.getAnswer id)
      let i ← clientConnection T id
      sendAnswer env i answer id)
    (do
      let answer ← onSession T (Session.getAnswer id)
      let i ← clientConnection T id
      sendAnswer env.reliable i answer id)
    fun _ => Apart S cs := by
  refine (onSession_apart Session.getAnswer_logs).bind fun answer => ?_
  refine (clientConnection_apart hb).bind fun i => Eff.follows_intro fun d d' hd => ?_
  exact (sendAnswer_apart hb hd.2).at hd.1

theorem onClientOffer_apart {sdp : String} (hb : Beside events S T cs) (hi : (cs.metaData i).sessionId = T) :
    Local events S T (Apart S cs) (onClientOffer env i sdp) (onClientOffer env.reliable i sdp)
      fun _ => Apart S cs := by
  refine Eff.follows_get_bind (fun c c' hTS h => ?_) fun c c' h => Eff.Follows.at ?_ h
  · subst hTS
    dsimp only
    rw [h.metaData hi, h.clients, hi, h.present, h.session]
  dsimp only
  rw [h.clients, hi]
  split
  · exact Eff.follows_pure fun _ _ h => h
  split
  · exact Eff.follows_pure fun _ _ h => h
  refine Eff.Follows.bind (Eff.follows_ofExcept fun _ _ _ _ h => h) fun offer => ?_
  refine (onSession_apart Session.addOffer_logs).bind fun _ => ?_
  refine Eff.follows_get_bind (fun c c' hTS h => ?_) fun c c' h => Eff.Follows.at ?_ h
  · subst hTS
    rw [h.session]
  split
  · exact forwardOffers_apart hb
  · exact (onSession_apart Session.getAnswer_logs).bind fun answer => sendAnswer_apart hb hi

theorem completeTransaction_apart (hb : Beside events S T cs) : Local events S T (Apart S cs)
    (completeTransaction env T) (completeTransaction env.reliable T) fun _ => Apart S cs := by
  refine Eff.follows_get_bind (fun c c' hTS h => ?_) fun c c' h => Eff.Follows.at ?_ h
  · subst hTS
    dsimp only
    rw [h.session]
  dsimp only
  split
  · exact Eff.Follows.bind (Eff.follows_ofExcept fun _ _ _ _ h => h) fun init => answer_apart hb
  · exact Eff.follows_pure fun _ _ h => h

theorem onClientAnswer_apart {sdp : String} (hb : Beside events S T cs) (hi : (cs.metaData i).sessionId = T) :
    Local events S T (Apart S cs) (onClientAnswer env i sdp) (onClientAnswer env.reliable i sdp)
      fun _ => Apart S cs := by
  refine Eff.follows_get_bind (fun c c' hTS h => ?_) fun c c' h => Eff.Follows.at ?_ h
  · subst hTS
    dsimp only
    rw [h.metaData hi, h.clients, hi, h.present, h.session]
  dsimp only
  rw [h.clients, hi]
  split
  · exact Eff.follows_pure fun _ _ h => h
  split
  · exact Eff.follows_pure fun _ _ h => h
  refine Eff.Follows.bind (Eff.follows_ofExcept fun _ _ _ _ h => h) fun answer => ?_
  exact (onSession_apart Session.addAnswer_logs).bind fun _ => completeTransaction_apart hb

/-! ### Closing and joining -/

/-- What a client leaves; another session does not know whose participant it was. -/
theorem onClientClose_apart {m : ClientMeta} (hS : S ≠ 0) :
    Eff.Follows True (fun e => isMember events S e.1) (Apart S cs) (onClientClose m) (onClientClose (m.only S))
      fun _ => Apart S cs := by
  have hlocal : Local events S m.sessionId (Apart S cs) (onClientClose m) (onClientClose m) fun _ => Apart S cs := by
    refine Eff.follows_get_bind (fun c c' hTS h => ?_) fun c c' h => Eff.Follows.at ?_ h
    · rw [hTS, h.present, h.session]
    split
    · exact onSession_apart Session.removeParticipant_logs
    · exact Eff.follows_pure fun _ _ h => h
  by_cases hm : m.sessionId = S
  · rw [ClientMeta.only, if_pos hm]
    rwa [Local, eq_true hm] at hlocal
  · refine (hlocal.skip hm).congr fun c c' _ h => ?_
    rw [ClientMeta.only, if_neg hm]
    show (if _ then _ else _ : Program Unit) c' = _
    rw [if_neg fun hcond => h.others 0 hS.symm hcond.1]

/-- The clients that are known are at the given endpoints. -/
def AllApart (events : List Event) (S : Nat) (remotes : List IPv4Port) (c c' : Controller) : Prop :=
  ∃ cs, Apart S cs c c' ∧ Known events cs ∧ cs.remotes = remotes

theorem Apart.all {c c' : Controller} (h : Apart S cs c c') (hknown : Known events cs) :
    AllApart events S cs.remotes c c' := ⟨cs, h, hknown, rfl⟩

theorem accepted_setMetaData {m : ClientMeta} {j : Nat} : (cs.setMetaData i m).accepted[j]? =
    (cs.accepted[j]?).map fun ws => if i = j then { ws with metaData := m } else ws := List.getElem?_modify _ _ _ _

theorem remotes_setMetaData {m : ClientMeta} : (cs.setMetaData i m).remotes = cs.remotes := by
  unfold Connections.remotes
  apply List.ext_getElem?
  intro j
  rw [List.getElem?_map, accepted_setMetaData, List.getElem?_map]
  cases cs.accepted[j]? with
  | none => rfl
  | some ws =>
      refine congrArg some ?_
      split
      · rfl
      · rfl

theorem metaData_setMetaData {ws : WebSocketSession ClientMeta} {m : ClientMeta} (hws : cs.accepted[i]? = some ws)
    {j : Nat} : (cs.setMetaData i m).metaData j = if i = j then m else cs.metaData j := by
  unfold Connections.metaData
  rw [accepted_setMetaData]
  by_cases hj : i = j
  · subst hj
    rw [hws, Option.map_some, if_pos rfl, if_pos rfl]
  · rw [if_neg hj]
    cases cs.accepted[j]? with
    | none => rfl
    | some ws =>
        rw [Option.map_some, if_neg hj]

theorem Known.setMetaData {ws : WebSocketSession ClientMeta} {m : ClientMeta} (h : Known events cs)
    (hws : cs.accepted[i]? = some ws) (hm : m.registered = true)
    (hhello : .clientHello i (some m.sessionId) ∈ events) : Known events (cs.setMetaData i m) where
  tag j := by
    rw [metaData_setMetaData hws]
    split
    · rename_i hj
      exact .inr ⟨hm, hj ▸ hhello⟩
    · exact h.tag j
  current j ws hws := by
    rw [accepted_setMetaData] at hws
    obtain ⟨ws₀, hws₀, rfl⟩ := Option.map_eq_some_iff.mp hws
    split
    · exact h.current j ws₀ hws₀
    · exact h.current j ws₀ hws₀
  entry remote j hj := by
    obtain ⟨ws₀, hws₀, hremote⟩ := h.entry remote j hj
    refine ⟨_, accepted_setMetaData.trans (congrArg _ hws₀), ?_⟩
    split
    · exact hremote
    · exact hremote

theorem connection_apart {p : Prop} {see : Nat × ClientMessage → Bool} {switchId : Nat} :
    Eff.Follows p see (fun s t => t = s.only S) (Switches.connection switchId) (Switches.connection switchId)
      fun _ s t => t = s.only S := by
  refine Eff.follows_get_bind ?_ fun s t h => Eff.Follows.at (P := fun s t => t = s.only S) ?_ h
  · rintro s t - rfl
    rfl
  split
  · exact Eff.follows_pure fun _ _ h => h
  · exact Eff.follows_throw

theorem switchesWrite_apart {p : Prop} {see : Nat × ClientMessage → Bool} {m : SwitchMessage}
    (hm : m.concerns S = true ↔ p) :
    Eff.Follows p see (fun s t => t = s.only S) (Switches.write i m) (Switches.write i m)
      fun _ s t => t = s.only S := by
  refine Eff.follows_modify ?_ ?_
  · rintro s t hp rfl
    refine congrArg (Switches.mk s.server) (.trans ?_ (List.filter_append _ _).symm)
    rw [@List.filter_cons_of_pos _ (fun e => e.2.concerns S) (i, m) [] (hm.mpr hp)]
    rfl
  · rintro s t hp rfl
    refine congrArg (Switches.mk s.server) (.trans ?_ (List.filter_append _ _).symm)
    rw [@List.filter_cons_of_neg _ (fun e => e.2.concerns S) (i, m) [] fun h => hp (hm.mp h)]
    exact (List.append_nil _).symm

theorem onSwitches_apart {α : Type} {p : Prop} {see : Nat × ClientMessage → Bool} {m m' : Switches.Program α}
    (hm : Eff.Follows p see (fun s t => t = s.only S) m m' fun _ s t => t = s.only S) :
    Eff.Follows p see (Apart S cs) (onSwitches m) (onSwitches m') fun _ => Apart S cs :=
  Eff.follows_zoom hm (fun _ _ h => h.switches)
    (fun _ _ _ _ _ _ h hv => ⟨h.clients, h.clients', h.sfuConfig, hv, h.session, h.present, h.others, h.ids⟩)
    fun _ _ _ _ _ h hv => ⟨h.clients, h.clients', h.sfuConfig, hv, h.session, h.present, h.others, h.ids⟩

theorem announce_apart {ip : String} : Local events S T (Apart S cs)
    (onSwitches do
      let sw ← Switches.connection allowedSwitchId
      let addr ← Eff.ofExcept (IPv4.ofString ip)
      Switches.write sw (.addParticipant T id addr))
    (onSwitches do
      let sw ← Switches.connection allowedSwitchId
      let addr ← Eff.ofExcept (IPv4.ofString ip)
      Switches.write sw (.addParticipant T id addr))
    fun _ => Apart S cs := by
  refine onSwitches_apart (connection_apart.bind fun sw => ?_)
  refine Eff.Follows.bind (Eff.follows_ofExcept fun _ _ _ _ h => h) fun addr => ?_
  exact switchesWrite_apart decide_eq_true_iff

theorem joinSession_apart {ws : WebSocketSession ClientMeta} {remote : IPv4Port} (hb : Beside events S T cs)
    (hws : cs.accepted[i]? = some ws) (hnew : cs.metaData i = {}) (hhello : .clientHello i (some T) ∈ events) :
    Local events S T (Apart S cs) (joinSession env i T remote) (joinSession env.reliable i T remote)
      fun _ => AllApart events S cs.remotes := by
  refine Eff.follows_get_bind (fun c c' hTS h => ?_) fun c c' h => Eff.Follows.at ?_ h
  · subst hTS
    rw [h.session]
  split
  · exact Eff.follows_pure fun _ _ h => h.all hb.known
  refine (onSession_apart Session.addParticipant_logs).bind fun id => ?_
  have hknown := hb.known.setMetaData (m := ⟨true, T, id⟩) hws rfl hhello
  have hb' : Beside events S T (cs.setMetaData i ⟨true, T, id⟩) := ⟨hb.separate, hknown, hb.self, hb.other⟩
  have hi : ((cs.setMetaData i ⟨true, T, id⟩).metaData i).sessionId = T := by
    rw [metaData_setMetaData hws, if_pos rfl]
  refine Eff.Follows.bind (Q := fun _ => Apart S (cs.setMetaData i ⟨true, T, id⟩)) (Eff.follows_modify ?_ ?_)
    fun _ => ?_
  · rintro d d' rfl h
    refine ⟨?_, ?_, h.sfuConfig, h.switches, h.session, h.present, h.others, h.ids⟩
    · show d.clients.setMetaData i _ = _
      rw [h.clients]
    · rw [@Connections.setMetaData_only T i cs ⟨true, T, id⟩ rfl, ← h.clients']
  · intro d d' hTS h
    refine ⟨?_, ?_, h.sfuConfig, h.switches, h.session, h.present, h.others, h.ids⟩
    · show d.clients.setMetaData i _ = _
      rw [h.clients]
    · rw [Connections.setMetaData_only_of_ne hTS (by rw [hnew]; exact hb.self.symm), ← h.clients']
  refine (sendHello_apart hb' hi).bind fun _ => announce_apart.bind fun _ => ?_
  refine Eff.follows_get_bind (fun c c' hTS h => ?_) fun c c' h => Eff.Follows.at ?_ h
  · subst hTS
    rw [h.session]
  split
  · refine ((onSession_apart Session.getOffer_logs).bind fun offer => sendOffer_apart hb' hi).mono (fun _ _ h => h) ?_
    exact fun _ _ _ h => ⟨_, h, hknown, remotes_setMetaData⟩
  · exact Eff.follows_pure fun _ _ h => ⟨_, h, hknown, remotes_setMetaData⟩

theorem onNewParticipant_apart {ws : WebSocketSession ClientMeta} {remote : IPv4Port} (hb : Beside events S T cs)
    (hws : cs.accepted[i]? = some ws) (hnew : cs.metaData i = {}) (hhello : .clientHello i (some T) ∈ events) :
    Local events S T (Apart S cs) (onNewParticipant env i remote (some T))
      (onNewParticipant env.reliable i remote (some T)) fun _ => AllApart events S cs.remotes := by
  refine Eff.follows_get_bind (fun c c' hTS h => ?_) fun c c' h => Eff.Follows.at ?_ h
  · subst hTS
    rw [h.present]
  split
  · exact joinSession_apart hb hws hnew hhello
  · refine Eff.Follows.bind (Q := fun _ => Apart S cs) (Eff.follows_modify ?_ ?_) fun _ =>
      joinSession_apart hb hws hnew hhello
    · rintro d d' rfl h
      refine h.setSession (u := (_, _)) (v := (_, _)) rfl ?_ h.switches
      rw [h.sfuConfig]
    · exact fun d d' hTS h => h.setSession_of_ne (u := (_, _)) hTS rfl h.switches

end Programs

/-! ### Events -/

section Handlers
variable {see : Nat × ClientMessage → Bool} {client : Nat}

/-- A message of a client is heard from its own connection. -/
theorem onClientMessage_apart {p : Prop} {handler handler' : Nat → IPv4Port → Program Unit}
    (hcs : Known events cs) (hhandler : ∀ ws, cs.accepted[client]? = some ws →
      Eff.Follows p see (Apart S cs) (handler client ws.remote) (handler' client ws.remote)
        fun _ => AllApart events S cs.remotes) :
    Eff.Follows p see (Apart S cs) (onClientMessage client handler) (onClientMessage client handler')
      fun _ => AllApart events S cs.remotes := by
  have hquiet : Eff.Follows p see (Apart S cs) (pure () : Program Unit) (pure ())
      fun _ => AllApart events S cs.remotes := Eff.follows_pure fun _ _ h => h.all hcs
  refine Eff.follows_get_bind (fun c c' _ h => ?_) fun c c' h => Eff.Follows.at ?_ h
  · rw [h.clients', h.clients, Connections.accepted_only]
    cases cs.accepted[client]? <;> rfl
  rw [h.clients]
  split
  · exact hquiet
  · rename_i ws hws
    split
    · exact hquiet
    · rw [hcs.current client ws hws]
      exact hhandler ws hws

/-- What a client of the session is registered for is seen. -/
theorem Known.only_metaData (h : Known events cs) (hsep : Separate events) (hmember : isMember events S client = true) :
    (cs.metaData client).only S = cs.metaData client := by
  rcases h.tag client with hnone | ⟨-, hhello⟩
  · rw [hnone]
    exact ite_self _
  · exact if_pos (hsep.one client _ _ hhello (of_decide_eq_true hmember))

/-- What a registered client makes the controller do. -/
theorem registered_apart {m m' : Program Unit} (hsep : Separate events) (hcs : Known events cs) (hS : S ≠ 0)
    (hreg : (cs.metaData client).registered = true) (hm : ∀ T, Beside events S T cs →
      (cs.metaData client).sessionId = T → Local events S T (Apart S cs) m m' fun _ => Apart S cs) :
    Eff.Follows (isMember events S client = true) (fun e => isMember events S e.1) (Apart S cs) m m'
      fun _ => AllApart events S cs.remotes := by
  obtain ⟨-, hhello⟩ := (hcs.tag client).resolve_left fun hnone => by
    rw [hnone] at hreg
    exact absurd hreg Bool.false_ne_true
  have hT : (cs.metaData client).sessionId ≠ 0 := by
    intro hzero
    rw [hzero] at hhello
    exact hsep.positive client hhello
  rw [propext (hcs.isMember_iff hsep hT rfl)]
  exact (hm _ ⟨hsep, hcs, hS, hT⟩ rfl).mono (fun _ _ h => h) fun _ _ _ h => h.all hcs

theorem clientHello_apart {sessionId : Option Nat} {ws : WebSocketSession ClientMeta} (hsep : Separate events)
    (hcs : Known events cs) (hS : S ≠ 0) (hws : cs.accepted[client]? = some ws)
    (hhello : .clientHello client sessionId ∈ events) :
    Eff.Follows (isMember events S client = true) (fun e => isMember events S e.1) (Apart S cs)
      (clientHello env client client ws.remote sessionId) (clientHello env.reliable client client ws.remote sessionId)
      fun _ => AllApart events S cs.remotes := by
  refine Eff.follows_get_bind (fun c c' hmember h => ?_) fun c c' h => Eff.Follows.at ?_ h
  · rw [h.clients', h.clients, Connections.metaData_only, hcs.only_metaData hsep hmember]
  rw [h.clients]
  split
  · rename_i hnew
    cases sessionId with
    | none => exact Eff.follows_throw
    | some T =>
        have hT : T ≠ 0 := by
          rintro rfl
          exact hsep.positive client hhello
        have hmember : (isMember events S client = true) = (T = S) := propext <| decide_eq_true_iff.trans
          ⟨hsep.one client T S hhello, fun h => h ▸ hhello⟩
        rw [hmember]
        have hnone := (hcs.tag client).resolve_right fun h => hnew h.1
        exact onNewParticipant_apart ⟨hsep, hcs, hS, hT⟩ hws hnone hhello
  split
  · rename_i hreg _
    exact registered_apart hsep hcs hS (not_not.mp hreg) fun _ hb hi => sendHello_apart hb hi
  · exact Eff.follows_pure fun _ _ h => h.all hcs

theorem onRegistered_apart {m m' : Nat → Program Unit} (hsep : Separate events) (hcs : Known events cs) (hS : S ≠ 0)
    (hm : ∀ T, Beside events S T cs → (cs.metaData client).sessionId = T →
      Local events S T (Apart S cs) (m client) (m' client) fun _ => Apart S cs) :
    Eff.Follows (isMember events S client = true) (fun e => isMember events S e.1) (Apart S cs)
      (onClientMessage client fun conn _ => do
        let c ← Eff.get
        if (c.clients.metaData client).registered then m conn else return ())
      (onClientMessage client fun conn _ => do
        let c ← Eff.get
        if (c.clients.metaData client).registered then m' conn else return ())
      fun _ => AllApart events S cs.remotes := by
  refine onClientMessage_apart hcs fun ws _ => ?_
  refine Eff.follows_get_bind (fun c c' hmember h => ?_) fun c c' h => Eff.Follows.at ?_ h
  · rw [h.clients', h.clients, Connections.metaData_only, hcs.only_metaData hsep hmember]
  rw [h.clients]
  split
  · exact registered_apart hsep hcs hS ‹_› hm
  · exact Eff.follows_pure fun _ _ h => h.all hcs

/-! ### Events of the transport -/

theorem find?_accept {remote r : IPv4Port} (hnew : cs.find? remote = none) :
    (cs.accept remote).find? r = if remote = r then some cs.accepted.length else cs.find? r := by
  have hmem : remote ∉ cs.connections := by
    rw [Std.ExtTreeMap.mem_iff_isSome_getElem?]
    intro hsome
    exact absurd ((congrArg Option.isSome hnew).symm.trans hsome) Bool.false_ne_true
  show (cs.connections.insertIfNew remote cs.accepted.length)[r]? = _
  rw [Std.ExtTreeMap.getElem?_insertIfNew]
  exact if_congr ((and_iff_left hmem).trans Std.LawfulEqCmp.compare_eq_iff_eq) rfl rfl

theorem Known.accept {remote : IPv4Port} (h : Known events cs) (hnew : remote ∉ cs.remotes) :
    Known events (cs.accept remote) := by
  have hfree : cs.find? remote = none := by
    cases hfind : cs.find? remote with
    | none => rfl
    | some i =>
        obtain ⟨ws, hws, hremote⟩ := h.entry remote i hfind
        exact absurd (List.mem_map.mpr ⟨ws, List.mem_of_getElem? hws, hremote⟩) hnew
  refine ⟨fun j => ?_, fun j ws hws => ?_, fun r j hj => ?_⟩
  · have hmeta : (cs.accept remote).metaData j = cs.metaData j := by
      unfold Connections.metaData Connections.accept
      dsimp only
      rcases lt_or_ge j cs.accepted.length with hlt | hle
      · rw [List.getElem?_append_left hlt]
      · rw [List.getElem?_append_right hle, List.getElem?_eq_none hle]
        cases j - cs.accepted.length <;> rfl
    rw [hmeta]
    exact h.tag j
  · rw [find?_accept hfree]
    rcases getElem?_accept.mp hws with hold | ⟨rfl, rfl⟩
    · rw [if_neg, h.current j ws hold]
      rintro rfl
      exact hnew (List.mem_map.mpr ⟨ws, List.mem_of_getElem? hold, rfl⟩)
    · exact if_pos rfl
  · rw [find?_accept hfree] at hj
    split at hj
    · rename_i heq
      obtain rfl := Option.some.inj hj
      exact ⟨_, getElem?_accept.mpr (.inr ⟨rfl, rfl⟩), heq⟩
    · obtain ⟨ws, hws, hremote⟩ := h.entry r j hj
      exact ⟨ws, getElem?_accept.mpr (.inl hws), hremote⟩

theorem accepted_close {j : Nat} : (cs.close client).accepted[j]? =
    (cs.accepted[j]?).map fun ws => if client = j then { ws with isOpen := false } else ws :=
  List.getElem?_modify _ _ _ _

theorem remotes_close : (cs.close client).remotes = cs.remotes := by
  unfold Connections.remotes
  apply List.ext_getElem?
  intro j
  rw [List.getElem?_map, accepted_close, List.getElem?_map]
  cases cs.accepted[j]? with
  | none => rfl
  | some ws =>
      refine congrArg some ?_
      split
      · rfl
      · rfl

theorem Known.close (h : Known events cs) : Known events (cs.close client) where
  tag j := by
    have hmeta : (cs.close client).metaData j = cs.metaData j := by
      unfold Connections.metaData
      rw [accepted_close]
      cases cs.accepted[j]? with
      | none => rfl
      | some ws =>
          dsimp only [Option.map_some]
          split
          · rfl
          · rfl
    rw [hmeta]
    exact h.tag j
  current j ws hws := by
    rw [accepted_close] at hws
    obtain ⟨ws₀, hws₀, rfl⟩ := Option.map_eq_some_iff.mp hws
    split
    · exact h.current j ws₀ hws₀
    · exact h.current j ws₀ hws₀
  entry remote j hj := by
    obtain ⟨ws₀, hws₀, hremote⟩ := h.entry remote j hj
    refine ⟨_, accepted_close.trans (congrArg _ hws₀), ?_⟩
    split
    · exact hremote
    · exact hremote

theorem server_apart {g : Switches → Switches} (hg : ∀ s, g (s.only S) = (g s).only S := by exact fun _ => rfl) :
    Eff.Follows True see (fun s t => t = s.only S) (Eff.modify g : Switches.Program Unit) (Eff.modify g)
      fun _ s t => t = s.only S := by
  refine Eff.follows_modify ?_ fun _ _ hno => absurd trivial hno
  rintro s t - rfl
  exact hg s

theorem onNewSwitch_apart {switchId : Nat} : Eff.Follows True see (fun s t => t = s.only S)
    (onNewSwitch i switchId) (onNewSwitch i switchId) fun _ s t => t = s.only S := by
  refine Eff.follows_get_bind ?_ fun s t h => Eff.Follows.at (P := fun s t => t = s.only S) ?_ h
  · rintro s t - rfl
    rfl
  split
  · exact Eff.follows_pure fun _ _ h => h
  · exact Eff.Follows.bind server_apart fun _ => switchesWrite_apart (m := .hello) (iff_of_true rfl trivial)

theorem remove_apart {switchId : Nat} : Eff.Follows True see (fun s t => t = s.only S)
    (Switches.remove switchId) (Switches.remove switchId) fun _ s t => t = s.only S := by
  refine Eff.follows_get_bind ?_ fun s t h => Eff.Follows.at (P := fun s t => t = s.only S) ?_ h
  · rintro s t - rfl
    rfl
  split
  · exact server_apart
  · exact Eff.follows_throw

theorem clientClose_apart (hcs : Known events cs) (hS : S ≠ 0) :
    Eff.Follows True (fun e => isMember events S e.1) (Apart S cs) (handle env (.clientClose client))
      (handle env.reliable (.clientClose client)) fun _ => AllApart events S cs.remotes := by
  have hquiet : Eff.Follows True (fun e => isMember events S e.1) (Apart S cs) (pure () : Program Unit) (pure ())
      fun _ => AllApart events S cs.remotes := Eff.follows_pure fun _ _ h => h.all hcs
  refine Eff.follows_get fun c c' h => Eff.Follows.at ?_ h
  rw [h.clients', h.clients, Connections.accepted_only]
  cases cs.accepted[client]? with
  | none => exact hquiet
  | some ws =>
      show Eff.Follows _ _ _ (if ¬ ws.isOpen = true then _ else _) (if ¬ ws.isOpen = true then _ else _) _
      split
      · exact hquiet
      · refine Eff.Follows.bind (Q := fun _ => Apart S (cs.close client)) (Eff.follows_modify ?_ ?_) fun _ => ?_
        · rintro d d' - h
          refine ⟨?_, ?_, h.sfuConfig, h.switches, h.session, h.present, h.others, h.ids⟩
          · show d.clients.close client = _
            rw [h.clients]
          · show d'.clients.close client = _
            rw [h.clients', Connections.close_only]
        · exact fun _ _ hno => absurd trivial hno
        · refine (onClientClose_apart hS).mono (fun _ _ h => h) fun _ _ _ h => ?_
          rw [← @remotes_close _ client]
          exact h.all hcs.close

/-- An event, next to a controller to which it happens as well if no client of another session says it. -/
theorem handle_apart {event : Event} (hsep : Separate events) (hcs : Known events cs) (hS : S ≠ 0)
    (hmem : event ∈ events) (hnew : ∀ remote, event.opened = some remote → remote ∉ cs.remotes) :
    Eff.Follows (event.speaker.all (isMember events S) = true) (fun e => isMember events S e.1) (Apart S cs)
      (handle env event) (handle env.reliable event)
      fun _ => AllApart events S (cs.remotes ++ event.opened.toList) := by
  have hnobody : (none : Option Nat).all (isMember events S) = true ↔ True := iff_of_true rfl trivial
  have hsame : ∀ {p q : Prop} {m m' : Program Unit}, (q ↔ p) →
      Eff.Follows p (fun e => isMember events S e.1) (Apart S cs) m m' (fun _ => AllApart events S cs.remotes) →
        Eff.Follows q (fun e => isMember events S e.1) (Apart S cs) m m'
          fun _ => AllApart events S (cs.remotes ++ []) := by
    intro p q m m' hpq h
    rw [List.append_nil, propext hpq]
    exact h
  have hswitches : ∀ {m m' : Switches.Program Unit}, Eff.Follows True (fun e => isMember events S e.1)
      (fun s t => t = s.only S) m m' (fun _ s t => t = s.only S) → Eff.Follows True (fun e => isMember events S e.1)
        (Apart S cs) (onSwitches m) (onSwitches m') fun _ => AllApart events S cs.remotes :=
    fun hm => (onSwitches_apart hm).mono (fun _ _ h => h) fun _ _ _ h => h.all hcs
  cases event with
  | clientOpen remote =>
      refine Eff.follows_modify (fun c c' _ h => ?_) fun c c' hno _ => absurd rfl hno
      refine ⟨cs.accept remote, ⟨?_, ?_, h.sfuConfig, h.switches, h.session, h.present, h.others, h.ids⟩,
        hcs.accept (hnew remote rfl), List.map_append⟩
      · show c.clients.accept remote = _
        rw [h.clients]
      · show c'.clients.accept remote = _
        rw [h.clients', Connections.accept_only]
  | clientHello client sessionId =>
      refine hsame (p := isMember events S client = true) Iff.rfl ?_
      show Eff.Follows _ _ _ (onClientMessage client fun conn remote => clientHello env client conn remote sessionId)
        (onClientMessage client fun conn remote => clientHello env.reliable client conn remote sessionId) _
      exact onClientMessage_apart hcs fun ws hws => clientHello_apart hsep hcs hS hws hmem
  | clientOffer client sdp =>
      exact hsame Iff.rfl (onRegistered_apart (m := fun i => onClientOffer env i sdp) hsep hcs hS fun _ hb hi =>
        onClientOffer_apart hb hi)
  | clientAnswer client sdp =>
      exact hsame Iff.rfl (onRegistered_apart (m := fun i => onClientAnswer env i sdp) hsep hcs hS fun _ hb hi =>
        onClientAnswer_apart hb hi)
  | clientClose client => exact hsame hnobody (clientClose_apart hcs hS)
  | switchOpen remote => exact hsame hnobody (hswitches server_apart)
  | switchHello switch switchId =>
      refine hsame hnobody (hswitches ?_)
      refine Eff.follows_get_bind ?_ fun s t h => Eff.Follows.at (P := fun s t => t = s.only S) ?_ h
      · rintro s t - rfl
        rfl
      split
      · split
        · split
          · exact onNewSwitch_apart
          · exact Eff.follows_pure fun _ _ h => h
        · exact Eff.follows_pure fun _ _ h => h
      · exact Eff.follows_pure fun _ _ h => h
  | switchClose switch =>
      refine hsame hnobody (hswitches ?_)
      refine Eff.follows_get_bind ?_ fun s t h => Eff.Follows.at (P := fun s t => t = s.only S) ?_ h
      · rintro s t - rfl
        rfl
      split
      · exact Eff.follows_pure fun _ _ h => h
      · split
        · exact Eff.follows_pure fun _ _ h => h
        · exact Eff.Follows.bind server_apart fun _ => remove_apart

end Handlers

end Controller

/-! ## Runs -/

namespace Process

/-- What happens to a controller that hears the clients of one session only. -/
def ofSession (sessionId : Nat) (events : List Event) : List Event :=
  events.filter fun event => event.speaker.all (isMember events sessionId)

variable {env : Env} {events : List Event} {S : Nat}

theorem step_of_run {p : Process} {event : Event} {c : Controller} {es : List (Nat × ClientMessage)}
    (hfault : p.fault = none) (h : Controller.handle env event p.controller = ⟨c, es, .ok ()⟩) :
    p.step env event = ({ controller := c }, es) := by
  unfold step
  rw [hfault, h]

/-- Two processes that are apart, before the events `rest`. -/
structure BothApart (events : List Event) (S : Nat) (rest : List Event) (p p' : Process) : Prop where
  fault : p'.fault = none
  within : ∀ event ∈ rest, event ∈ events
  apart : ∃ remotes, Controller.AllApart events S remotes p.controller p'.controller ∧
    (remotes ++ rest.filterMap Event.opened).Nodup

theorem BothApart.step {p p' : Process} {event : Event} {rest : List Event} (hsep : Separate events) (hS : S ≠ 0)
    (h : BothApart events S (event :: rest) p p') (halive : (p.step env event).1.fault = none) :
    (event.speaker.all (isMember events S) = true →
      BothApart events S rest (p.step env event).1 (p'.step env.reliable event).1 ∧
        (p'.step env.reliable event).2 = (p.step env event).2.filter fun e => isMember events S e.1) ∧
      (event.speaker.all (isMember events S) = false → BothApart events S rest (p.step env event).1 p' ∧
        (p.step env event).2.filter (fun e => isMember events S e.1) = []) := by
  obtain ⟨remotes, ⟨cs, hcs, hknown, rfl⟩, hnodup⟩ := h.apart
  have hrest : ∀ e ∈ rest, e ∈ events := fun e he => h.within e (List.mem_cons_of_mem event he)
  have hnext : (cs.remotes ++ event.opened.toList ++ rest.filterMap Event.opened).Nodup := by
    rw [List.append_assoc]
    cases hopened : event.opened with
    | none => rwa [List.filterMap_cons_none hopened] at hnodup
    | some remote => rwa [List.filterMap_cons_some hopened] at hnodup
  have hnew : ∀ remote, event.opened = some remote → remote ∉ cs.remotes := by
    intro remote hopened hmem
    rw [hopened] at hnext
    have hdisjoint := (List.nodup_append.mp (List.nodup_append.mp hnext).1).2.2
    exact hdisjoint remote hmem remote (List.mem_singleton.mpr rfl) rfl
  have hfault := alive_of_step halive
  obtain ⟨hes, hstate⟩ := @step_run env p event hfault
  have hfollows : Eff.Follows _ _ _ (Controller.handle env event) (Controller.handle env.reliable event) _ :=
    Controller.handle_apart hsep hknown hS (h.within event List.mem_cons_self) hnew
  obtain ⟨hboth, hleft⟩ := hfollows p.controller p'.controller () hcs ((step_alive hfault).mp halive)
  refine ⟨fun hheard => ?_, fun hheard => ?_⟩
  · obtain ⟨c', hrun, hapart⟩ := hboth hheard
    rw [step_of_run h.fault hrun, hes]
    exact ⟨⟨rfl, hrest, _, hstate ▸ hapart, hnext⟩, rfl⟩
  · obtain ⟨hnothing, hapart⟩ := hleft (by rw [hheard]; exact Bool.false_ne_true)
    rw [hes]
    exact ⟨⟨h.fault, hrest, _, hstate ▸ hapart, hnext⟩, hnothing⟩

/-- **Sessions apart from each other.** Where clients are at different endpoints and each of them says hello to one
session, and nothing ends the process, a session ends up as it does in a run in which the clients of the other sessions
say nothing: its clients are sent the same messages in the same order, and the switches are told the same of it. -/
theorem session_alone (env : Env) (sfuConfig : SFUConfig) (events : List Event) (S : Nat) (hsep : Separate events)
    (hS : S ≠ 0) (hfault : (final (step env) (init sfuConfig) events).fault = none) :
    (final (step env.reliable) (init sfuConfig) (ofSession S events)).fault = none ∧
      (final (step env.reliable) (init sfuConfig) (ofSession S events)).controller.session S =
        (final (step env) (init sfuConfig) events).controller.session S ∧
      (final (step env.reliable) (init sfuConfig) (ofSession S events)).controller.switches.written =
        (final (step env) (init sfuConfig) events).controller.switches.written.filter (fun e => e.2.concerns S) ∧
      (outputs (step env.reliable) (init sfuConfig) (ofSession S events)).flatten =
        (outputs (step env) (init sfuConfig) events).flatten.filter fun e => isMember events S e.1 := by
  have hinit : BothApart events S events (init sfuConfig) (init sfuConfig) := by
    refine ⟨rfl, fun _ h => h, [], ⟨{}, ?_, Controller.known_init, rfl⟩, hsep.endpoints⟩
    refine ⟨rfl, rfl, rfl, rfl, rfl, rfl, fun k _ => ?_, fun k => ?_⟩
    · show ¬ (∅ : Std.ExtTreeMap Nat Session).contains k = true
      rw [Std.ExtTreeMap.contains_empty]
      exact Bool.false_ne_true
    · exact congrArg Session.id Controller.session_new
  obtain ⟨hfinal, houtputs⟩ := @filter_run _ _ _ _ (step env) (step env.reliable)
    (fun event => event.speaker.all (isMember events S)) (fun e => isMember events S e.1) (fun p => p.fault = none)
    (BothApart events S) (fun _ _ => alive_of_step) (fun _ _ _ _ h halive => (h.step hsep hS halive).1)
    (fun _ _ _ _ h halive => (h.step hsep hS halive).2) _ _ events hinit hfault
  obtain ⟨remotes, ⟨cs, hcs, -⟩, -⟩ := hfinal.apart
  exact ⟨hfinal.fault, hcs.session, congrArg Switches.written hcs.switches, houtputs⟩

/-- A switch is there, and two clients join different sessions; the first one offers a stream. -/
def twoSessions : List Event :=
  [.switchOpen ⟨1, 1⟩, .switchHello 0 (some 0), .clientOpen ⟨2, 1⟩, .clientOpen ⟨3, 1⟩, .clientHello 0 (some 1),
    .clientHello 1 (some 2), .clientOffer 0 audioOffer.1, .clientClose 1]

theorem separate_twoSessions : Separate twoSessions := by
  have hhello : ∀ client S, .clientHello client (some S) ∈ twoSessions ↔
      client = 0 ∧ S = 1 ∨ client = 1 ∧ S = 2 := by simp [twoSessions]
  refine ⟨by decide, fun client S T hS hT => ?_, fun client hzero => ?_⟩
  · rw [hhello] at hS hT
    omega
  · rw [hhello] at hzero
    omega

/-- The second session, whose client does not hear of the offer. -/
theorem session_alone_second :
    (final (step audioEnv.reliable) (init plainConfig) (ofSession 2 twoSessions)).controller.session 2 =
        (final (step audioEnv) (init plainConfig) twoSessions).controller.session 2 ∧
      (outputs (step audioEnv.reliable) (init plainConfig) (ofSession 2 twoSessions)).flatten =
        (outputs (step audioEnv) (init plainConfig) twoSessions).flatten.filter fun e =>
          isMember twoSessions 2 e.1 := by
  obtain ⟨-, hsession, -, hsent⟩ := session_alone audioEnv plainConfig twoSessions 2 separate_twoSessions (by decide)
    (by decide +kernel)
  exact ⟨hsession, hsent⟩

end Process

end Scallop
