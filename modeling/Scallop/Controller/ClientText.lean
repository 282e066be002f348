import Scallop.Controller.Numbered
import Scallop.Controller.Settled
import Scallop.Util.Strings
import Scallop.Wire

/-!
# Text messages of clients

* `parseClientMessage`, `clientEvent`, `onClientText` : what the interface makes of a text, with any JSON library;
* `Controller.Rejects` : the messages that are dropped;
* `Controller.Serves` : the exact condition on a message and the controller under which its handler returns;
  `handle_ends`;
* `Controller.Withstands`, `withstands_iff` : the handler returns, and a message that is dropped changes
  nothing.
-/

namespace Scallop

open Machine

/-! ## The interface -/

/-- `_parseClientMessage`; its exceptions are caught. -/
def parseClientMessage (lib : JsonLibrary) (buf : Buf) : Option Json := do
  let msg ← lib.parse buf
  if Rpc.isString "hello" (msg.field "type") ∨ Rpc.isString "offer" (msg.field "type") ∨
      Rpc.isString "answer" (msg.field "type") then some msg
  else none

/-- What `_onClientMessage` makes of a message, if it does not drop it. -/
def clientEvent (client : Nat) (registered : Bool) (msg : Json) : Except Rpc.WireError (Option Event) :=
  if registered then
    if Rpc.isString "hello" (msg.field "type") then
      (Rpc.Cl.Hello.ofJson msg).map fun m => some (.clientHello client m.sessionId)
    else if Rpc.isString "offer" (msg.field "type") then
      (Rpc.Cl.Offer.ofJson msg).map fun m => some (.clientOffer client m.sdp)
    else if Rpc.isString "answer" (msg.field "type") then
      (Rpc.Cl.Answer.ofJson msg).map fun m => some (.clientAnswer client m.sdp)
    else .ok none
  else if Rpc.isString "hello" (msg.field "type") then
    (Rpc.Cl.Hello.ofJson msg).map fun m => some (.clientHello client m.sessionId)
  else .ok none

namespace Controller

/-- `_onClientMessage`, for a session that is open; the text is copied for the log before it is parsed. -/
def onClientText (lib : JsonLibrary) (env : Env) (client : Nat) (buf : Buf) :
    Eff Controller (Nat × ClientMessage) Rpc.WireError Unit := do
  let c ← Eff.get
  match c.clients.accepted[client]? with
  | none => return ()
  | some ws =>
      if ¬ ws.isOpen then return ()
      else do
        let _ ← Eff.ofExcept ((Util.bufferString buf).mapError .fault)
        match parseClientMessage lib buf with
        | none => return ()
        | some msg => do
            let event ← Eff.ofExcept (clientEvent client ws.metaData.registered msg)
            match event with
            | none => return ()
            | some event => Eff.mapError .fault (handle env event)

/-! ## When a message is served -/

def HasConnection (c : Controller) (sessionId participantId : Nat) : Prop :=
  (c.clients.findIf fun m => m.sessionId = sessionId ∧ m.participantId = participantId).isSome

/-- A new participant can be added, greeted, and told to the switch, and if somebody sends streams, there is an
offer that can be passed on to it. -/
structure Admits (env : Env) (c : Controller) (sessionId : Nat) : Prop where
  free : ¬ (c.session sessionId).participantExists (c.session sessionId).nextId = true
  greeted : env.writeError c.clientWrites = none
  ready : c.switches.Ready
  offer : 0 < (c.session sessionId).countStreams → ∃ init,
    (c.session sessionId).participantInState .gotOffer = .ok init ∧ (c.session sessionId).PassesOn init ∧
      env.writeError (c.clientWrites + 1) = none

/-- A client that has registered is greeted again; another one must name a session, which it may be in. -/
def TakesHello (env : Env) (c : Controller) (client : Nat) (remote : IPv4Port) (sessionId : Option Nat) : Prop :=
  if (c.clients.metaData client).registered then sessionId.isSome → env.writeError c.clientWrites = none
  else ∃ k, sessionId = some k ∧
    (¬ (c.session k).participantExistsAt (IPv4.str remote.ip) remote.port = true → c.Admits env k)

/-- An offer is taken by the session, and with it everything that the participant sends can be passed on, to
everybody else in the session, or back if nobody else is there. -/
structure PassesOffer (env : Env) (c : Controller) (sessionId fromId : Nat) (offer : Sdp.SessionDescription) :
    Prop where
  taken : (c.session sessionId).TakesOffer c.switches fromId offer
  passesOn : (c.session sessionId).PassesOn fromId
  connectionData : ∀ media ∈ ((c.session sessionId).participant fromId).newSections offer.mediaDescriptions,
    media.connectionData.isSome
  connected : ∀ id, (c.session sessionId).participantExists id = true → id ≠ fromId →
    c.HasConnection (c.session sessionId).id id
  written : ∀ k < max 1 ((c.session sessionId).countParticipants - 1), env.writeError (c.clientWrites + k) = none

/-- An offer, of a participant with the meta data `m`. -/
def TakesOffer (env : Env) (c : Controller) (m : ClientMeta) (sdp : String) : Prop :=
  c.sessionExists m.sessionId = true → (c.session m.sessionId).participantExists m.participantId = true →
    ∃ offer, env.parse sdp = .ok offer ∧ c.PassesOffer env m.sessionId m.participantId offer

/-- An answer is taken by the session, and after the last one that is awaited the streams of the participant
that has made the offer can be answered. -/
structure PassesAnswer (env : Env) (c : Controller) (sessionId fromId init : Nat) (answer : Sdp.SessionDescription) :
    Prop where
  taken : (c.session sessionId).TakesAnswer c.switches init fromId answer
  completed : (∀ k, (c.session sessionId).roles k = some .awaitAnswer → k = fromId) →
    (c.session sessionId).PassesOn init ∧ c.HasConnection sessionId init ∧ env.writeError c.clientWrites = none

/-- An answer, of a participant with the meta data `m`. -/
def TakesAnswer (env : Env) (c : Controller) (m : ClientMeta) (sdp : String) : Prop :=
  c.sessionExists m.sessionId = true → (c.session m.sessionId).participantExists m.participantId = true →
    ∃ answer, env.parse sdp = .ok answer ∧ ∃ init,
      (c.session m.sessionId).participantInState .gotOffer = .ok init ∧
        c.PassesAnswer env m.sessionId m.participantId init answer

/-- What the controller needs to serve a client. -/
def Serves (env : Env) (c : Controller) : Event → Prop
  | .clientHello client sessionId =>
      ∀ conn remote, c.Reaches client conn remote → c.TakesHello env client remote sessionId
  | .clientOffer client sdp => (c.clients.metaData client).registered = true →
      ∀ conn remote, c.Reaches client conn remote → c.TakesOffer env (c.clients.metaData conn) sdp
  | .clientAnswer client sdp => (c.clients.metaData client).registered = true →
      ∀ conn remote, c.Reaches client conn remote → c.TakesAnswer env (c.clients.metaData conn) sdp
  | _ => True

/-- What the controller needs to serve a text. -/
def ServesText (lib : JsonLibrary) (env : Env) (c : Controller) (client : Nat) (buf : Buf) : Prop :=
  ∀ ws, c.clients.accepted[client]? = some ws → ws.isOpen = true → buf ≠ [] ∧
    ∀ msg, parseClientMessage lib buf = some msg →
      ∃ event, clientEvent client ws.metaData.registered msg = .ok event ∧ ∀ e ∈ event, c.Serves env e

/-! ## Messages that are dropped -/

/-- A client is in no session, or has not registered. -/
def IsStranger (c : Controller) (client conn : Nat) : Prop :=
  ¬ ((c.clients.metaData client).registered = true ∧ c.sessionExists (c.clients.metaData conn).sessionId = true ∧
    (c.session (c.clients.metaData conn).sessionId).participantExists
      (c.clients.metaData conn).participantId = true)

/-- What the controller drops: a second hello without a session, a hello from an endpoint that is in the session
already, and descriptions of strangers. -/
def Drops (c : Controller) : Event → Prop
  | .clientHello client sessionId => ∀ conn remote, c.Reaches client conn remote →
      if (c.clients.metaData client).registered then sessionId = none
      else ∀ k, sessionId = some k → c.sessionExists k = true ∧
        (c.session k).participantExistsAt (IPv4.str remote.ip) remote.port = true
  | .clientOffer client _ => ∀ conn remote, c.Reaches client conn remote → c.IsStranger client conn
  | .clientAnswer client _ => ∀ conn remote, c.Reaches client conn remote → c.IsStranger client conn
  | _ => False

/-- The text is no message, or one that its constructor does not accept, or one that is dropped. -/
def Rejects (lib : JsonLibrary) (c : Controller) (client : Nat) (buf : Buf) : Prop :=
  ∀ ws msg event, c.clients.accepted[client]? = some ws → ws.isOpen = true → parseClientMessage lib buf = some msg →
    clientEvent client ws.metaData.registered msg = .ok (some event) → c.Drops event

/-- The handler returns, and a message that is rejected changes nothing. -/
structure Withstands (lib : JsonLibrary) (env : Env) (c : Controller) (client : Nat) (buf : Buf) : Prop where
  returns : (onClientText lib env client buf c).result = .ok ()
  unchanged : c.Rejects lib client buf → (onClientText lib env client buf c).state = c

/-! ## Writes and lookups -/

section Programs
variable {env : Env} {c : Controller} {sessionId id fromId i : Nat}

def wrote (c : Controller) : Controller := { c with clientWrites := c.clientWrites + 1 }

theorem write_ends {m : ClientMessage} :
    Eff.EndsWhen (env.writeError c.clientWrites = none) (fun _ c' => c' = c.wrote) (write env i m) c := by
  unfold write
  apply Eff.endsWhen_get_bind
  apply Eff.endsWhen_modify_bind
  cases h : env.writeError c.clientWrites with
  | none =>
      have hrun : Eff.emit (i, m) c.wrote = ⟨c.wrote, [(i, m)], Except.ok (ε := Fault) ()⟩ := rfl
      exact Eff.endsWhen_of_ok hrun rfl rfl
  | some code => exact Eff.endsWhen_throw.of_false fun h => nomatch h

theorem sendHello_ends :
    Eff.EndsWhen (env.writeError c.clientWrites = none) (fun _ c' => c' = c.wrote) (sendHello env i) c := by
  unfold sendHello
  apply Eff.endsWhen_get_bind
  exact write_ends

theorem checked_write_ends {d : Sdp.SessionDescription} {m : ClientMessage} :
    Eff.EndsWhen (d.checkLines = .ok () ∧ env.writeError c.clientWrites = none) (fun _ c' => c' = c.wrote)
      (do
        Eff.ofExcept d.checkLines
        write env i m : Program Unit) c := by
  apply (Eff.endsWhen_ofExcept_bind fun _ _ => write_ends).congr _ fun _ _ _ h => h
  constructor
  · intro ⟨_, h⟩
    exact h
  · intro h
    exact ⟨(), h⟩

theorem clientConnection_ends :
    Eff.EndsWhen (c.HasConnection sessionId id) (fun _ c' => c' = c) (clientConnection sessionId id) c := by
  unfold clientConnection HasConnection
  apply Eff.endsWhen_get_bind
  cases h : c.clients.findIf fun m => m.sessionId = sessionId ∧ m.participantId = id with
  | some e =>
      obtain ⟨remote, i⟩ := e
      apply Eff.EndsWhen.of_true _ rfl
      exact Eff.endsWhen_pure rfl
  | none => exact Eff.endsWhen_throw.of_false Bool.false_ne_true

theorem onSession_ends {α : Type} {C : Prop} {Q : α → Session × Switches → Prop}
    {m : SessionEff Switches (Nat × ClientMessage) α} (h : Eff.EndsWhen C Q m (c.session sessionId, c.switches)) :
    Eff.EndsWhen C (fun a c' => ∃ s, Q a s ∧ c' = c.setSession sessionId s) (onSession sessionId m) c :=
  Eff.endsWhen_zoom h fun _ s _ hs => ⟨s, hs, rfl⟩

/-! ## Offers -/

/-- The offer of `fromId` can be passed on to other participants. -/
structure Forwards (env : Env) (c : Controller) (sessionId fromId : Nat) (others : List Nat) : Prop where
  passesOn : others ≠ [] → (c.session sessionId).PassesOn fromId
  connected : ∀ id ∈ others, c.HasConnection (c.session sessionId).id id
  written : ∀ k < others.length, env.writeError (c.clientWrites + k) = none

/-- The session, and the controller, after an offer has been passed on to one of them. -/
def forwarded (c : Controller) (sessionId id : Nat) : Controller :=
  (c.setSession sessionId ((c.session sessionId).setState id .awaitAnswer, c.switches)).wrote

theorem session_forwarded :
    (c.forwarded sessionId id).session sessionId = (c.session sessionId).setState id .awaitAnswer :=
  session_setSession_self

theorem forwards_cons {others : List Nat} : Forwards env c sessionId fromId (id :: others) ↔
    (c.session sessionId).PassesOn fromId ∧ c.HasConnection (c.session sessionId).id id ∧
      env.writeError c.clientWrites = none ∧ Forwards env (c.forwarded sessionId id) sessionId fromId others := by
  have hpasses : ((c.forwarded sessionId id).session sessionId).PassesOn fromId ↔
      (c.session sessionId).PassesOn fromId := by
    rw [session_forwarded]
    exact Session.PassesOn.congr rfl Session.outgoingStreams_setState
  have hid : ((c.forwarded sessionId id).session sessionId).id = (c.session sessionId).id := by
    rw [session_forwarded]
    rfl
  constructor
  · intro h
    refine ⟨h.passesOn (List.cons_ne_nil _ _), h.connected id List.mem_cons_self, h.written 0 (Nat.succ_pos _),
      fun _ => hpasses.mpr (h.passesOn (List.cons_ne_nil _ _)), fun j hj => ?_, fun k hk => ?_⟩
    · rw [hid]
      exact h.connected j (List.mem_cons_of_mem _ hj)
    · show env.writeError (c.clientWrites + 1 + k) = none
      rw [Nat.add_assoc, Nat.add_comm 1 k]
      exact h.written (k + 1) (Nat.succ_lt_succ hk)
  · intro ⟨hpass, hconnected, hwritten, h⟩
    refine ⟨fun _ => hpass, fun j hj => ?_, fun k hk => ?_⟩
    · rcases List.mem_cons.mp hj with rfl | hj
      · exact hconnected
      · rw [← hid]
        exact h.connected j hj
    · cases k with
      | zero => exact hwritten
      | succ k =>
          rw [Nat.add_comm k 1, ← Nat.add_assoc]
          exact h.written k (Nat.lt_of_succ_lt_succ hk)

theorem forwardOffers_ends {ids : List Nat} (hnumbered : (c.session sessionId).Numbered)
    (hoffering : (c.session sessionId).roles.Offering fromId)
    (hids : ∀ id ∈ ids, (c.session sessionId).participantExists id = true) :
    Eff.EndsWhen (Forwards env c sessionId fromId (ids.filter (· ≠ fromId))) (fun _ _ => True)
      (forwardOffers env sessionId fromId ids) c := by
  induction ids generalizing c with
  | nil =>
      apply (Eff.endsWhen_pure trivial).of_true
      exact ⟨fun h => absurd rfl h, fun _ h => absurd h List.not_mem_nil, fun _ h => absurd h (Nat.not_lt_zero _)⟩
  | cons id ids ih =>
      have hrest : ∀ j ∈ ids, (c.session sessionId).participantExists j = true := fun j hj =>
        hids j (List.mem_cons_of_mem _ hj)
      unfold forwardOffers
      by_cases heq : id = fromId
      · rw [if_pos heq, List.filter_cons_of_neg (by simp [heq])]
        exact ih hnumbered hoffering hrest
      · rw [if_neg heq, List.filter_cons_of_pos (by simp [heq])]
        have hexists := hids id List.mem_cons_self
        have hshape : (c.session sessionId).SameShape ((c.session sessionId).setState id .awaitAnswer) :=
          Session.sameShape_setState hexists
        have hoffering' : ((c.session sessionId).setState id .awaitAnswer).roles.Offering fromId := by
          rw [Session.roles_setState]
          exact (hoffering.await heq).1
        have hquery := Session.participantInState_of_roles (hshape.numbered hnumbered) hoffering'
        have hget := onSession_ends (Session.getOffer_ends (ω := Nat × ClientMessage)
          (s := (c.session sessionId, c.switches)) hnumbered hexists)
        refine (hget.bind (D := c.HasConnection (c.session sessionId).id id ∧
          ((c.session sessionId).MidsKnown fromId ∧ env.writeError c.clientWrites = none) ∧
            Forwards env (c.forwarded sessionId id) sessionId fromId (ids.filter (· ≠ fromId))) ?_).congr ?_
              fun _ _ _ h => h
        · rintro offer _ - ⟨_, ⟨rfl, hprints⟩, rfl⟩
          apply Eff.endsWhen_get_bind
          rw [session_setSession_self]
          refine Eff.EndsWhen.bind (R := fun _ c' => c' = c.setSession sessionId
            ((c.session sessionId).setState id .awaitAnswer, c.switches)) clientConnection_ends ?_
          rintro i _ - rfl
          refine Eff.EndsWhen.bind (R := fun _ c' => c' = c.forwarded sessionId id) ?_ ?_
          · apply checked_write_ends.congr
            · exact and_congr_left' (hprints fromId hquery)
            · exact fun _ _ _ h => h
          · rintro _ _ - rfl
            apply ih
            · rw [session_forwarded]
              exact hshape.numbered hnumbered
            · rw [session_forwarded]
              exact hoffering'
            · intro j hj
              rw [session_forwarded]
              exact (hshape.exists_iff j).mpr (hrest j hj)
        · rw [forwards_cons, Session.passesOn_iff]
          constructor
          · rintro ⟨⟨init, hinit, hknown⟩, hconnected, ⟨hmids, hwritten⟩, h⟩
            obtain rfl := Except.ok.inj (hquery.symm.trans hinit)
            exact ⟨⟨hknown, hmids⟩, hconnected, hwritten, h⟩
          · rintro ⟨⟨hknown, hmids⟩, hconnected, hwritten, h⟩
            exact ⟨⟨fromId, hquery, hknown⟩, hconnected, ⟨hmids, hwritten⟩, h⟩

theorem filter_keys {s : Session} (hexists : s.participantExists fromId = true) :
    (s.participants.keys.filter (· ≠ fromId)).length = s.countParticipants - 1 ∧
      ∀ id, id ∈ s.participants.keys.filter (· ≠ fromId) ↔ s.participantExists id = true ∧ id ≠ fromId := by
  have hmem (id : Nat) : id ∈ s.participants.keys ↔ s.participantExists id = true :=
    Std.ExtTreeMap.mem_keys.trans Std.ExtTreeMap.contains_iff_mem.symm
  have herase : s.participants.keys.filter (· ≠ fromId) = s.participants.keys.erase fromId := by
    rw [Std.ExtTreeMap.nodup_keys.erase_eq_filter]
    apply List.filter_congr
    intro id _
    by_cases h : id = fromId <;> simp [h]
  constructor
  · rw [herase, List.length_erase_of_mem ((hmem fromId).mpr hexists), Std.ExtTreeMap.length_keys]
    rfl
  · intro id
    rw [List.mem_filter, hmem]
    simp

theorem forwards_keys_iff (hexists : (c.session sessionId).participantExists fromId = true)
    (hcount : 1 < (c.session sessionId).countParticipants) :
    Forwards env c sessionId fromId ((c.session sessionId).participants.keys.filter (· ≠ fromId)) ↔
      (c.session sessionId).PassesOn fromId ∧
      (∀ id, (c.session sessionId).participantExists id = true → id ≠ fromId →
        c.HasConnection (c.session sessionId).id id) ∧
      ∀ k < max 1 ((c.session sessionId).countParticipants - 1), env.writeError (c.clientWrites + k) = none := by
  obtain ⟨hlength, hmem⟩ := filter_keys hexists
  have hmax : max 1 ((c.session sessionId).countParticipants - 1) = (c.session sessionId).countParticipants - 1 := by
    omega
  have hne : (c.session sessionId).participants.keys.filter (· ≠ fromId) ≠ [] := by
    intro hnil
    rw [hnil, List.length_nil] at hlength
    omega
  rw [hmax]
  constructor
  · intro h
    exact ⟨h.passesOn hne, fun id hid hother => h.connected id ((hmem id).mpr ⟨hid, hother⟩), hlength ▸ h.written⟩
  · intro ⟨hpasses, hconnected, hwritten⟩
    exact ⟨fun _ => hpasses, fun id hid => hconnected id ((hmem id).mp hid).1 ((hmem id).mp hid).2, hlength ▸ hwritten⟩

theorem onClientOffer_ends {sdp : String} (hnumbered : ∀ k, (c.session k).Numbered) :
    Eff.EndsWhen (c.TakesOffer env (c.clients.metaData i) sdp) (fun _ _ => True) (onClientOffer env i sdp) c := by
  unfold onClientOffer
  apply Eff.endsWhen_get_bind
  dsimp only
  generalize c.clients.metaData i = m
  split
  · rename_i hsession
    apply (Eff.endsWhen_pure trivial).of_true
    exact fun h => absurd h hsession
  split
  · rename_i hparticipant
    apply (Eff.endsWhen_pure trivial).of_true
    exact fun _ h => absurd h hparticipant
  rename_i hsession hparticipant
  have hexists := not_not.mp hparticipant
  refine (Eff.endsWhen_ofExcept_bind (D := c.PassesOffer env m.sessionId m.participantId) ?_).congr
    ⟨fun h _ _ => h, fun h => h (not_not.mp hsession) hexists⟩ fun _ _ _ h => h
  intro offer _
  let s := c.session m.sessionId
  refine ((onSession_ends (Session.addOffer_ends (s := (s, c.switches)) hexists)).bind
    (D := (s.PassesOn m.participantId ∧
        ∀ media ∈ (s.participant m.participantId).newSections offer.mediaDescriptions, media.connectionData.isSome) ∧
      (∀ id, s.participantExists id = true → id ≠ m.participantId → c.HasConnection s.id id) ∧
      ∀ k < max 1 (s.countParticipants - 1), env.writeError (c.clientWrites + k) = none) ?_).congr ?_ fun _ _ _ h => h
  · rintro _ _ - ⟨⟨s', t'⟩, hafter, rfl⟩
    let c₁ := c.setSession m.sessionId (s', t')
    have hs' : c₁.session m.sessionId = s' := session_setSession_self
    have hexists' : s'.participantExists m.participantId = true := (hafter.sameShape.exists_iff _).mpr hexists
    have hpasses := hafter.passesOn_iff
    apply Eff.endsWhen_get_bind
    show Eff.EndsWhen _ _ (if 1 < (c₁.session m.sessionId).countParticipants then
      forwardOffers env m.sessionId m.participantId (c₁.session m.sessionId).participants.keys else _) c₁
    rw [hs']
    by_cases hcount : 1 < s'.countParticipants
    · rw [if_pos hcount]
      have hforward := @forwardOffers_ends env c₁ m.sessionId m.participantId s'.participants.keys
        (by rw [hs']; exact hafter.sameShape.numbered (hnumbered _)) (by rw [hs']; exact hafter.offering)
        (by rw [hs']; exact fun id => Session.participantExists_of_mem_keys)
      have hkeys := @forwards_keys_iff env c₁ m.sessionId m.participantId (by rw [hs']; exact hexists')
        (by rw [hs']; exact hcount)
      rw [hs'] at hkeys
      apply hforward.congr _ fun _ _ _ h => h
      rw [hkeys, hpasses, hafter.sameShape.count, hafter.sameShape.id]
      simp only [hafter.sameShape.exists_iff]
      rfl
    · rw [if_neg hcount]
      have hanswer := onSession_ends (Session.getAnswer_ends (ω := Nat × ClientMessage)
        (s := (c₁.session m.sessionId, c₁.switches)) (by rw [hs']; exact hafter.offering.gotOffer))
      rw [hs'] at hanswer
      refine (hanswer.bind (D := s'.MidsKnown m.participantId ∧ env.writeError c.clientWrites = none) ?_).congr ?_
        fun _ _ _ h => h
      · rintro answer _ - ⟨_, ⟨rfl, hprints⟩, rfl⟩
        exact checked_write_ends.congr (and_congr_left' hprints) fun _ _ _ _ => trivial
      · have halone : ∀ id, s.participantExists id = true → ¬ id ≠ m.participantId := by
          intro id hid hne
          apply hcount
          rw [hafter.sameShape.count]
          exact Session.one_lt_countParticipants hid hexists hne
        have hmax : max 1 (s.countParticipants - 1) = 1 := by
          have hcount' : ¬ 1 < s.countParticipants := by
            rw [← hafter.sameShape.count]
            exact hcount
          omega
        rw [hmax]
        constructor
        · intro ⟨hknown, hmids, hwritten⟩
          refine ⟨hpasses.mp (Session.passesOn_iff.mpr ⟨hknown, hmids⟩), ?_, ?_⟩
          · intro id hid hne
            exact absurd hne (halone id hid)
          intro k hk
          obtain rfl := Nat.lt_one_iff.mp hk
          exact hwritten
        · intro ⟨hpass, _, hwritten⟩
          obtain ⟨hknown, hmids⟩ := Session.passesOn_iff.mp (hpasses.mpr hpass)
          exact ⟨hknown, hmids, hwritten 0 Nat.one_pos⟩
  · constructor
    · intro ⟨htaken, ⟨hpasses, hdata⟩, hconnected, hwritten⟩
      exact ⟨htaken, hpasses, hdata, hconnected, hwritten⟩
    · intro h
      exact ⟨h.taken, ⟨h.passesOn, h.connectionData⟩, h.connected, h.written⟩

/-! ## Answers -/

theorem completeTransaction_ends {init : Nat} (hoffering : (c.session sessionId).roles.Offering init)
    (hnumbered : (c.session sessionId).Numbered) :
    Eff.EndsWhen (¬ (c.session sessionId).roles.Awaiting → (c.session sessionId).PassesOn init ∧
      c.HasConnection sessionId init ∧ env.writeError c.clientWrites = none) (fun _ _ => True)
      (completeTransaction env sessionId) c := by
  unfold completeTransaction
  apply Eff.endsWhen_get_bind
  dsimp only
  split
  · rename_i hcomplete
    have hawaiting : ¬ (c.session sessionId).roles.Awaiting := Session.particpantsInState_eq_nil_iff.mp hcomplete.2
    have hanswer := onSession_ends (Session.getAnswer_ends (ω := Nat × ClientMessage)
      (s := (c.session sessionId, c.switches)) hoffering.gotOffer)
    rw [Session.participantInState_of_roles hnumbered hoffering, Eff.ofExcept_ok_bind]
    refine (hanswer.bind (D := c.HasConnection sessionId init ∧
      ((c.session sessionId).MidsKnown init ∧ env.writeError c.clientWrites = none)) ?_).congr ?_ fun _ _ _ h => h
    · rintro answer _ - ⟨_, ⟨rfl, hprints⟩, rfl⟩
      refine Eff.EndsWhen.bind (R := fun _ c' => c' = c.setSession sessionId
        ((c.session sessionId).setState init .stable, c.switches)) clientConnection_ends ?_
      rintro i _ - rfl
      exact checked_write_ends.congr (and_congr_left' hprints) fun _ _ _ _ => trivial
    · rw [Session.passesOn_iff]
      constructor
      · intro ⟨hknown, hconnected, hmids, hwritten⟩ _
        exact ⟨⟨hknown, hmids⟩, hconnected, hwritten⟩
      · intro h
        obtain ⟨⟨hknown, hmids⟩, hconnected, hwritten⟩ := h hawaiting
        exact ⟨hknown, hconnected, hmids, hwritten⟩
  · rename_i hopen
    apply (Eff.endsWhen_pure trivial).of_true
    intro hawaiting
    exact absurd ⟨Session.signalingActive_of_offering hoffering,
      Session.particpantsInState_eq_nil_iff.mpr hawaiting⟩ hopen

theorem awaiting_answered {r : Roles} : ¬ Roles.Awaiting (Function.update r id (some .stable)) ↔
    ∀ k, r k = some .awaitAnswer → k = id := by
  constructor
  · intro h k hk
    by_contra hne
    exact h ⟨k, by rw [Function.update_of_ne hne, hk]⟩
  · rintro h ⟨k, hk⟩
    by_cases hne : k = id
    · rw [hne, Function.update_self] at hk
      exact nomatch hk
    · rw [Function.update_of_ne hne] at hk
      exact hne (h k hk)

theorem onClientAnswer_ends {sdp : String} (hnumbered : ∀ k, (c.session k).Numbered) :
    Eff.EndsWhen (c.TakesAnswer env (c.clients.metaData i) sdp) (fun _ _ => True) (onClientAnswer env i sdp) c := by
  unfold onClientAnswer
  apply Eff.endsWhen_get_bind
  dsimp only
  generalize c.clients.metaData i = m
  split
  · rename_i hsession
    apply (Eff.endsWhen_pure trivial).of_true
    exact fun h => absurd h hsession
  split
  · rename_i hparticipant
    apply (Eff.endsWhen_pure trivial).of_true
    exact fun _ h => absurd h hparticipant
  rename_i hsession hparticipant
  have hexists := not_not.mp hparticipant
  let s := c.session m.sessionId
  refine (Eff.endsWhen_ofExcept_bind (D := fun answer => ∃ init, s.participantInState .gotOffer = .ok init ∧
    c.PassesAnswer env m.sessionId m.participantId init answer) ?_).congr
      ⟨fun h _ _ => h, fun h => h (not_not.mp hsession) hexists⟩ fun _ _ _ h => h
  intro answer _
  let completes (init : Nat) : Prop := (∀ k, s.roles k = some .awaitAnswer → k = m.participantId) →
    s.PassesOn init ∧ c.HasConnection m.sessionId init ∧ env.writeError c.clientWrites = none
  refine ((onSession_ends (Session.addAnswer_ends (s := (s, c.switches)) (hnumbered _) hexists)).bind
    (D := ∀ init, s.participantInState .gotOffer = .ok init → completes init) ?_).congr ?_ fun _ _ _ h => h
  · rintro _ _ ⟨init, hinit, htaken⟩ ⟨⟨s', t'⟩, hafter, rfl⟩
    let c₁ := c.setSession m.sessionId (s', t')
    have hs' : c₁.session m.sessionId = s' := session_setSession_self
    have hawaited : s.roles m.participantId = some .awaitAnswer := by
      rw [Session.roles_of_exists hexists, htaken.awaited]
    have hoffering : s'.roles.Offering init := by
      rw [hafter.roles]
      exact (Session.participantInState_gotOffer (hnumbered _) hinit).2.answer hawaited
    have hcomplete := @completeTransaction_ends env c₁ m.sessionId init (by rw [hs']; exact hoffering)
      (by rw [hs']; exact hafter.sameShape.numbered (hnumbered _))
    rw [hs', hafter.roles, awaiting_answered,
      Session.PassesOn.congr hafter.sameShape.sfuConfig (hafter.sent init)] at hcomplete
    apply hcomplete.congr _ fun _ _ _ h => h
    constructor
    · intro h init' hinit'
      obtain rfl := Except.ok.inj (hinit.symm.trans hinit')
      exact h
    · intro h
      exact h init hinit
  · constructor
    · intro ⟨⟨init, hinit, htaken⟩, h⟩
      exact ⟨init, hinit, htaken, h init hinit⟩
    · intro ⟨init, hinit, h⟩
      refine ⟨⟨init, hinit, h.taken⟩, fun init' hinit' => ?_⟩
      obtain rfl := Except.ok.inj (hinit.symm.trans hinit')
      exact h.completed

/-! ## Hellos -/

theorem announce_ends {sessionId id : Nat} {ip : UInt32} (t : Switches) :
    Eff.EndsWhen t.Ready (fun _ _ => True) (do
      let sw ← Switches.connection allowedSwitchId
      let addr ← Eff.ofExcept (IPv4.ofString (IPv4.str ip))
      Switches.write sw (.addParticipant sessionId id addr) : Switches.Program Unit) t := by
  refine ((Switches.connection_ends t).bind (D := True) ?_).congr (iff_of_eq (and_true _)) fun _ _ _ h => h
  intro sw t' _ _
  rw [IPv4.ofString_str, Eff.ofExcept_ok_bind]
  exact Eff.endsWhen_modify trivial

theorem onSwitches_ends {α : Type} {C : Prop} {Q : α → Switches → Prop} {m : Switches.Program α}
    (h : Eff.EndsWhen C Q m c.switches) :
    Eff.EndsWhen C (fun a c' => ∃ t, Q a t ∧ c' = { c with switches := t }) (onSwitches m) c :=
  Eff.endsWhen_zoom h fun _ t _ ht => ⟨t, ht, rfl⟩

/-- The offer to a new participant, which has been added to a session that was `s`. -/
theorem offer_joined_ends {s : Session} {ip : String} {port : UInt16} (hnumbered : s.Numbered)
    (hfree : ¬ s.participantExists s.nextId = true) (hjoined : c.session sessionId = s.joined ip port) :
    Eff.EndsWhen (0 < s.countStreams → ∃ init, s.participantInState .gotOffer = .ok init ∧ s.PassesOn init ∧
        env.writeError c.clientWrites = none) (fun _ _ => True)
      (do
        let c ← Eff.get
        if 1 < (c.session sessionId).countParticipants ∧ 0 < (c.session sessionId).countStreams then do
          let offer ← onSession sessionId (Session.getOffer s.nextId)
          sendOffer env i offer 0
        else return () : Program Unit) c := by
  apply Eff.endsWhen_get_bind
  rw [hjoined]
  split
  · rename_i hcalls
    have hexists : (c.session sessionId).participantExists s.nextId = true := by
      rw [hjoined]
      exact Session.participantExists_joined.mpr (.inl rfl)
    have hget := onSession_ends (Session.getOffer_ends (ω := Nat × ClientMessage)
      (s := (c.session sessionId, c.switches)) (by rw [hjoined]; exact hnumbered.joined) hexists)
    rw [hjoined] at hget
    have hsame (init : Nat) (hinit : s.participantInState .gotOffer = .ok init) :
        ((s.joined ip port).ConnectionsKnown init ↔ s.ConnectionsKnown init) ∧
          ((s.joined ip port).MidsKnown init ↔ s.MidsKnown init) := by
      have hne : init ≠ s.nextId := by
        rintro rfl
        exact hfree (Session.participantInState_gotOffer hnumbered hinit).1
      unfold Session.ConnectionsKnown Session.MidsKnown
      rw [Session.participant_joined_of_ne hne]
      exact ⟨Iff.rfl, Iff.rfl⟩
    refine (hget.bind (D := (∀ init, s.participantInState .gotOffer = .ok init → s.MidsKnown init) ∧
      env.writeError c.clientWrites = none) ?_).congr ?_ fun _ _ _ h => h
    · rintro offer _ ⟨init, hinit, -⟩ ⟨_, ⟨rfl, hprints⟩, rfl⟩
      have hquery := (Session.participantInState_joined hfree).mp hinit
      have hprint : (s.joined ip port).Prints init offer := hprints init hinit
      apply checked_write_ends.congr _ fun _ _ _ _ => trivial
      apply and_congr_left'
      rw [Session.Prints] at hprint
      rw [hprint, (hsame init hquery).2]
      constructor
      · intro h init' hinit'
        obtain rfl := Except.ok.inj (hquery.symm.trans hinit')
        exact h
      · intro h
        exact h init hquery
    · simp only [Session.participantInState_joined hfree, Session.passesOn_iff]
      constructor
      · intro ⟨⟨init, hinit, hknown⟩, hmids, hwritten⟩ _
        exact ⟨init, hinit, ⟨(hsame init hinit).1.mp hknown, hmids init hinit⟩, hwritten⟩
      · intro h
        obtain ⟨init, hinit, ⟨hknown, hmids⟩, hwritten⟩ := h ((Session.countStreams_joined hfree).mp hcalls.2)
        refine ⟨⟨init, hinit, (hsame init hinit).1.mpr hknown⟩, fun init' hinit' => ?_, hwritten⟩
        obtain rfl := Except.ok.inj (hinit.symm.trans hinit')
        exact hmids
  · rename_i hquiet
    apply (Eff.endsWhen_pure trivial).of_true
    intro hstreams
    exact absurd ⟨Session.countParticipants_joined hfree hstreams,
      (Session.countStreams_joined hfree).mpr hstreams⟩ hquiet

theorem joinSession_ends {remote : IPv4Port} (hnumbered : ∀ k, (c.session k).Numbered) :
    Eff.EndsWhen (¬ (c.session sessionId).participantExistsAt (IPv4.str remote.ip) remote.port = true →
      c.Admits env sessionId) (fun _ _ => True) (joinSession env i sessionId remote) c := by
  unfold joinSession
  dsimp only
  apply Eff.endsWhen_get_bind
  split
  · rename_i hexists
    apply (Eff.endsWhen_pure trivial).of_true
    exact fun h => absurd hexists h
  rename_i hnew
  let s := c.session sessionId
  let offers : Prop := 0 < s.countStreams → ∃ init, s.participantInState .gotOffer = .ok init ∧ s.PassesOn init ∧
    env.writeError (c.clientWrites + 1) = none
  refine ((onSession_ends (Session.addParticipant_ends (s, c.switches))).bind
    (D := env.writeError c.clientWrites = none ∧ c.switches.Ready ∧ offers) ?_).congr ?_ fun _ _ _ h => h
  · rintro id _ hfree ⟨⟨s', t'⟩, ⟨rfl, hs'⟩, rfl⟩
    obtain ⟨rfl, rfl⟩ := Prod.mk.inj hs'
    apply Eff.endsWhen_modify_bind
    refine Eff.EndsWhen.bind sendHello_ends ?_
    rintro _ _ - rfl
    refine Eff.EndsWhen.bind (onSwitches_ends (announce_ends c.switches)) ?_
    rintro _ _ - ⟨t, -, rfl⟩
    exact offer_joined_ends (hnumbered sessionId) hfree.2 session_setSession_self
  · constructor
    · intro ⟨⟨_, hfree⟩, hgreeted, hready, hoffer⟩ _
      exact ⟨hfree, hgreeted, hready, hoffer⟩
    · intro h
      have hadmits := h hnew
      exact ⟨⟨hnew, hadmits.free⟩, hadmits.greeted, hadmits.ready, hadmits.offer⟩

theorem onNewParticipant_ends {remote : IPv4Port} {sessionId : Option Nat} (hnumbered : ∀ k, (c.session k).Numbered) :
    Eff.EndsWhen (∃ k, sessionId = some k ∧
      (¬ (c.session k).participantExistsAt (IPv4.str remote.ip) remote.port = true → c.Admits env k))
      (fun _ _ => True) (onNewParticipant env i remote sessionId) c := by
  cases sessionId with
  | none => exact Eff.endsWhen_throw.of_false fun ⟨_, h, _⟩ => nomatch h
  | some k =>
      have hsome (P : Nat → Prop) : P k ↔ ∃ k', some k = some k' ∧ P k' := by
        constructor
        · intro h
          exact ⟨k, rfl, h⟩
        · rintro ⟨_, ⟨⟩, h⟩
          exact h
      unfold onNewParticipant
      apply Eff.endsWhen_get_bind
      split
      · apply (joinSession_ends hnumbered).congr _ fun _ _ _ h => h
        exact hsome fun k => ¬ (c.session k).participantExistsAt (IPv4.str remote.ip) remote.port = true →
          c.Admits env k
      · rename_i hexists
        let added : Controller := { c with sessions := c.sessions.insert k { id := k, sfuConfig := c.sfuConfig } }
        have hsession : added.session = c.session := session_add hexists
        apply Eff.endsWhen_modify_bind
        apply (joinSession_ends (c := added) (by rw [hsession]; exact hnumbered)).congr _ fun _ _ _ h => h
        refine Iff.trans ?_ (hsome _)
        rw [hsession]
        apply imp_congr_right
        intro _
        constructor
        · intro h
          exact ⟨hsession ▸ h.free, h.greeted, h.ready, hsession ▸ h.offer⟩
        · intro h
          exact ⟨hsession ▸ h.free, h.greeted, h.ready, hsession ▸ h.offer⟩

theorem clientHello_ends {client conn : Nat} {remote : IPv4Port} {sessionId : Option Nat}
    (hnumbered : ∀ k, (c.session k).Numbered) : Eff.EndsWhen (c.TakesHello env client remote sessionId)
      (fun _ _ => True) (clientHello env client conn remote sessionId) c := by
  unfold clientHello TakesHello
  apply Eff.endsWhen_get_bind
  by_cases hregistered : (c.clients.metaData client).registered = true
  · rw [if_pos hregistered, if_neg (not_not.mpr hregistered)]
    split
    · rename_i hsome
      exact sendHello_ends.congr ⟨fun h _ => h, fun h => h hsome⟩ fun _ _ _ _ => trivial
    · rename_i hnone
      exact (Eff.endsWhen_pure trivial).of_true fun h => absurd h hnone
  · rw [if_neg hregistered, if_pos hregistered]
    exact onNewParticipant_ends hnumbered

/-! ## Messages -/

theorem onClientMessage_ends {client : Nat} {handler : Nat → IPv4Port → Program Unit} {D : Nat → IPv4Port → Prop}
    (h : ∀ conn remote, Eff.EndsWhen (D conn remote) (fun _ _ => True) (handler conn remote) c) :
    Eff.EndsWhen (∀ conn remote, c.Reaches client conn remote → D conn remote) (fun _ _ => True)
      (onClientMessage client handler) c := by
  unfold onClientMessage
  apply Eff.endsWhen_get_bind
  cases hws : c.clients.accepted[client]? with
  | none =>
      apply (Eff.endsWhen_pure trivial).of_true
      rintro conn remote ⟨ws, hws', -⟩
      exact nomatch hws.symm.trans hws'
  | some ws =>
      by_cases hopen : ws.isOpen = true
      · cases hfind : c.clients.find? ws.remote with
        | none =>
            have hdone : Eff.EndsWhen True (fun _ _ => True) (pure () : Program Unit) c := Eff.endsWhen_pure trivial
            apply Eff.EndsWhen.of_run (hdone.of_true _)
            · simp [hopen, hfind]
            · rintro conn remote ⟨ws', hws', -, -, hfind'⟩
              obtain rfl := Option.some.inj (hws.symm.trans hws')
              exact nomatch hfind.symm.trans hfind'
        | some conn =>
            apply Eff.EndsWhen.of_run ((h conn ws.remote).congr _ fun _ _ _ h => h)
            · simp [hopen, hfind]
            · constructor
              · rintro hD conn' remote ⟨ws', hws', -, rfl, hfind'⟩
                obtain rfl := Option.some.inj (hws.symm.trans hws')
                obtain rfl := Option.some.inj (hfind.symm.trans hfind')
                exact hD
              · intro hall
                exact hall conn ws.remote ⟨ws, hws, hopen, rfl, hfind⟩
      · have hdone : Eff.EndsWhen True (fun _ _ => True) (pure () : Program Unit) c := Eff.endsWhen_pure trivial
        apply Eff.EndsWhen.of_run (hdone.of_true _)
        · simp [hopen]
        · rintro conn remote ⟨ws', hws', hopen', -⟩
          obtain rfl := Option.some.inj (hws.symm.trans hws')
          exact absurd hopen' hopen

theorem handle_ends {event : Event} (hclient : (∃ client sessionId, event = .clientHello client sessionId) ∨
      (∃ client sdp, event = .clientOffer client sdp) ∨ ∃ client sdp, event = .clientAnswer client sdp)
    (hnumbered : ∀ k, (c.session k).Numbered) :
    Eff.EndsWhen (c.Serves env event) (fun _ _ => True) (handle env event) c := by
  have hguard {client : Nat} {handler : Nat → Program Unit} {D : Nat → Prop}
      (h : ∀ conn, Eff.EndsWhen (D conn) (fun _ _ => True) (handler conn) c) :
      Eff.EndsWhen ((c.clients.metaData client).registered = true →
          ∀ conn remote, c.Reaches client conn remote → D conn) (fun _ _ => True)
        (onClientMessage client fun conn _ => do
          let c ← Eff.get
          if (c.clients.metaData client).registered then handler conn else return ()) c := by
    refine (onClientMessage_ends (D := fun conn _ => (c.clients.metaData client).registered = true → D conn)
      fun conn _ => ?_).congr ?_ fun _ _ _ h => h
    · apply Eff.endsWhen_get_bind
      split
      · rename_i hregistered
        exact (h conn).congr ⟨fun h _ => h, fun h => h hregistered⟩ fun _ _ _ h => h
      · rename_i hregistered
        exact (Eff.endsWhen_pure trivial).of_true fun h => absurd h hregistered
    · constructor
      · intro h hregistered conn remote hreaches
        exact h conn remote hreaches hregistered
      · intro h conn remote hreaches hregistered
        exact h hregistered conn remote hreaches
  obtain ⟨client, sessionId, rfl⟩ | ⟨client, sdp, rfl⟩ | ⟨client, sdp, rfl⟩ := hclient
  · exact onClientMessage_ends fun conn remote => clientHello_ends hnumbered
  · exact hguard fun conn => onClientOffer_ends hnumbered
  · exact hguard fun conn => onClientAnswer_ends hnumbered

/-- What a client sends is a hello, an offer or an answer. -/
theorem clientEvent_cases {client : Nat} {registered : Bool} {msg : Json} {event : Event}
    (h : clientEvent client registered msg = .ok (some event)) :
    (∃ client sessionId, event = .clientHello client sessionId) ∨
      (∃ client sdp, event = .clientOffer client sdp) ∨ ∃ client sdp, event = .clientAnswer client sdp := by
  have hmap {α : Type} {x : Except Rpc.WireError α} {g : α → Event}
      (hx : (x.map fun m => some (g m)) = .ok (some event)) : ∃ m, event = g m := by
    cases x with
    | error e => exact nomatch hx
    | ok m =>
        obtain rfl := Option.some.inj (Except.ok.inj hx)
        exact ⟨m, rfl⟩
  unfold clientEvent at h
  split at h
  · split at h
    · obtain ⟨m, rfl⟩ := hmap h
      exact .inl ⟨_, _, rfl⟩
    split at h
    · obtain ⟨m, rfl⟩ := hmap h
      exact .inr (.inl ⟨_, _, rfl⟩)
    split at h
    · obtain ⟨m, rfl⟩ := hmap h
      exact .inr (.inr ⟨_, _, rfl⟩)
    · exact nomatch h
  · split at h
    · obtain ⟨m, rfl⟩ := hmap h
      exact .inl ⟨_, _, rfl⟩
    · exact nomatch h

theorem bufferString_isOk_iff {buf : Buf} :
    (∃ text, (Util.bufferString buf).mapError Rpc.WireError.fault = .ok text) ↔ buf ≠ [] := by
  rw [← Util.bufferString_ok_iff]
  cases Util.bufferString buf with
  | ok text => exact iff_of_true ⟨text, rfl⟩ ⟨text, rfl⟩
  | error e => exact iff_of_false (by simp [Except.mapError]) (by simp)

theorem onClientText_ends {lib : JsonLibrary} {client : Nat} {buf : Buf} (hnumbered : ∀ k, (c.session k).Numbered) :
    Eff.EndsWhen (c.ServesText lib env client buf) (fun _ _ => True) (onClientText lib env client buf) c := by
  unfold onClientText
  apply Eff.endsWhen_get_bind
  have hdone : Eff.EndsWhen True (fun _ _ => True)
      (pure () : Eff Controller (Nat × ClientMessage) Rpc.WireError Unit) c := Eff.endsWhen_pure trivial
  cases hws : c.clients.accepted[client]? with
  | none =>
      apply hdone.of_true
      intro ws hws' _
      exact nomatch hws.symm.trans hws'
  | some ws =>
      dsimp only
      split
      · rename_i hclosed
        apply hdone.of_true
        intro ws' hws' hopen
        obtain rfl := Option.some.inj (hws.symm.trans hws')
        exact absurd hopen hclosed
      rename_i hopen
      let serves : Prop := ∀ msg, parseClientMessage lib buf = some msg →
        ∃ event, clientEvent client ws.metaData.registered msg = .ok event ∧ ∀ e ∈ event, c.Serves env e
      refine (Eff.endsWhen_ofExcept_bind (D := fun _ => serves) fun _ _ => ?_).congr ?_ fun _ _ _ h => h
      · cases hmsg : parseClientMessage lib buf with
        | none =>
            apply hdone.of_true
            intro msg hmsg'
            exact nomatch hmsg.symm.trans hmsg'
        | some msg =>
            refine (Eff.endsWhen_ofExcept_bind (D := fun event => ∀ e ∈ event, c.Serves env e) ?_).congr ?_
              fun _ _ _ h => h
            · intro event hevent
              cases event with
              | none => exact hdone.of_true fun e he => nomatch he
              | some event =>
                  apply (Eff.endsWhen_mapError (handle_ends (clientEvent_cases hevent) hnumbered)).congr _
                    fun _ _ _ h => h
                  constructor
                  · rintro h e ⟨⟩
                    exact h
                  · intro h
                    exact h event rfl
            · constructor
              · intro h msg' hmsg'
                obtain rfl := Option.some.inj (hmsg.symm.trans hmsg')
                exact h
              · intro h
                exact h msg hmsg
      · rw [exists_and_right, bufferString_isOk_iff]
        constructor
        · intro h ws' hws' _
          obtain rfl := Option.some.inj (hws.symm.trans hws')
          exact h
        · intro h
          exact h ws hws (not_not.mp hopen)

/-! ## Dropped messages -/

/-- From this state a program ends in it, however it ends. -/
def Unchanged {ε : Type} (c : Controller) (m : Eff Controller (Nat × ClientMessage) ε Unit) : Prop :=
  Eff.Triple (· = c) m (fun _ c' => c' = c) fun _ c' => c' = c

theorem unchanged_pure {ε : Type} : Unchanged (ε := ε) c (pure ()) :=
  Eff.triple_pure fun _ h => h

theorem onClientMessage_unchanged {client : Nat} {handler : Nat → IPv4Port → Program Unit}
    (h : ∀ conn remote, c.Reaches client conn remote → Unchanged c (handler conn remote)) :
    Unchanged c (onClientMessage client handler) := by
  unfold onClientMessage
  apply Eff.triple_get_bind
  rintro _ rfl
  split
  · exact unchanged_pure
  rename_i ws hws
  split
  · exact unchanged_pure
  rename_i hopen
  split
  · exact unchanged_pure
  rename_i conn hfind
  exact h conn ws.remote ⟨ws, hws, not_not.mp hopen, rfl, hfind⟩

theorem joinSession_unchanged {remote : IPv4Port}
    (hthere : (c.session sessionId).participantExistsAt (IPv4.str remote.ip) remote.port = true) :
    Unchanged c (joinSession env i sessionId remote) := by
  unfold joinSession
  apply Eff.triple_get_bind
  rintro _ rfl
  rw [if_pos hthere]
  exact unchanged_pure

theorem onNewParticipant_unchanged {remote : IPv4Port} {sessionId : Option Nat}
    (h : ∀ k, sessionId = some k → c.sessionExists k = true ∧
      (c.session k).participantExistsAt (IPv4.str remote.ip) remote.port = true) :
    Unchanged c (onNewParticipant env i remote sessionId) := by
  cases sessionId with
  | none => exact Eff.triple_throw fun _ h => h
  | some k =>
      obtain ⟨hexists, hthere⟩ := h k rfl
      unfold onNewParticipant
      apply Eff.triple_get_bind
      rintro _ rfl
      rw [if_pos hexists]
      exact joinSession_unchanged hthere

theorem onClientOffer_unchanged {sdp : String} (h : ¬ (c.sessionExists (c.clients.metaData i).sessionId = true ∧
    (c.session (c.clients.metaData i).sessionId).participantExists (c.clients.metaData i).participantId = true)) :
    Unchanged c (onClientOffer env i sdp) := by
  unfold onClientOffer
  apply Eff.triple_get_bind
  rintro _ rfl
  dsimp only
  split
  · exact unchanged_pure
  split
  · exact unchanged_pure
  rename_i hsession hparticipant
  exact absurd ⟨not_not.mp hsession, not_not.mp hparticipant⟩ h

theorem onClientAnswer_unchanged {sdp : String} (h : ¬ (c.sessionExists (c.clients.metaData i).sessionId = true ∧
    (c.session (c.clients.metaData i).sessionId).participantExists (c.clients.metaData i).participantId = true)) :
    Unchanged c (onClientAnswer env i sdp) := by
  unfold onClientAnswer
  apply Eff.triple_get_bind
  rintro _ rfl
  dsimp only
  split
  · exact unchanged_pure
  split
  · exact unchanged_pure
  rename_i hsession hparticipant
  exact absurd ⟨not_not.mp hsession, not_not.mp hparticipant⟩ h

/-- An event that is dropped changes nothing. -/
theorem handle_unchanged {event : Event} (h : c.Drops event) : Unchanged c (handle env event) := by
  cases event with
  | clientHello client sessionId =>
      apply onClientMessage_unchanged
      intro conn remote hreaches
      have hdrops := h conn remote hreaches
      unfold clientHello
      apply Eff.triple_get_bind
      rintro _ rfl
      split
      · rename_i hnew
        rw [if_neg hnew] at hdrops
        exact onNewParticipant_unchanged hdrops
      · rename_i hregistered
        rw [if_pos (not_not.mp hregistered)] at hdrops
        rw [hdrops]
        exact unchanged_pure
  | clientOffer client sdp =>
      apply onClientMessage_unchanged
      intro conn remote hreaches
      apply Eff.triple_get_bind
      rintro _ rfl
      split
      · rename_i hregistered
        exact onClientOffer_unchanged fun hmember => h conn remote hreaches ⟨hregistered, hmember⟩
      · exact unchanged_pure
  | clientAnswer client sdp =>
      apply onClientMessage_unchanged
      intro conn remote hreaches
      apply Eff.triple_get_bind
      rintro _ rfl
      split
      · rename_i hregistered
        exact onClientAnswer_unchanged fun hmember => h conn remote hreaches ⟨hregistered, hmember⟩
      · exact unchanged_pure
  | _ => exact h.elim

theorem onClientText_unchanged {lib : JsonLibrary} {client : Nat} {buf : Buf} (h : c.Rejects lib client buf) :
    Unchanged c (onClientText lib env client buf) := by
  unfold onClientText
  apply Eff.triple_get_bind
  rintro _ rfl
  split
  · exact unchanged_pure
  rename_i ws hws
  split
  · exact unchanged_pure
  rename_i hopen
  cases (Util.bufferString buf).mapError Rpc.WireError.fault with
  | error e =>
      rintro _ rfl
      rfl
  | ok text =>
      rw [Eff.ofExcept_ok_bind]
      split
      · exact unchanged_pure
      rename_i msg hmsg
      cases hevent : clientEvent client ws.metaData.registered msg with
      | error e =>
          rintro _ rfl
          rfl
      | ok event =>
          rw [Eff.ofExcept_ok_bind]
          cases event with
          | none => exact unchanged_pure
          | some event =>
              apply Eff.triple_mapError
              exact handle_unchanged (h ws msg event hws (not_not.mp hopen) hmsg hevent)

end Programs

end Controller

namespace Process

/-- In every state of the controller, with any JSON library: a text of a client is withstood just when it is not empty
and everything is there that its handler asks for. -/
theorem withstands_iff (lib : JsonLibrary) (env : Env) (sfuConfig : SFUConfig) (events : List Event) (client : Nat)
    (buf : Buf) :
    (final (step env) (init sfuConfig) events).controller.Withstands lib env client buf ↔
      (final (step env) (init sfuConfig) events).controller.ServesText lib env client buf := by
  have hends := @Controller.onClientText_ends env _ lib client buf (allNumbered env sfuConfig events)
  constructor
  · intro h
    exact hends.iff.mp ⟨(), h.returns⟩
  · intro h
    obtain ⟨_, hreturns⟩ := hends.iff.mpr h
    exact ⟨hreturns, fun hrejects => (Controller.onClientText_unchanged hrejects).ends rfl⟩

def newcomer : Process := final (step plainEnv) (init plainConfig) [.clientOpen ⟨2, 1⟩]

/-- A hello with a session id that is no number. -/
def wrongHello : Json := Rpc.envelope "hello" (some (Json.null.set "session_id" (.str "1")))

/-- The constructor of a hello is not inside of a `try` block, whatever library has read its text, and neither is the
copy of an empty text. -/
theorem not_withstands_wrongHello :
    (¬ ∃ (lib : JsonLibrary) (buf : Buf), lib.parse buf = some wrongHello ∧
      newcomer.controller.Withstands lib plainEnv 0 buf) ∧
    ¬ ∃ lib : JsonLibrary, newcomer.controller.Withstands lib plainEnv 0 [] := by
  have hnumbered := allNumbered plainEnv plainConfig [.clientOpen ⟨2, 1⟩]
  constructor
  · rintro ⟨lib, buf, hparse, h⟩
    have hmsg : parseClientMessage lib buf = some wrongHello := by
      unfold parseClientMessage
      rw [hparse]
      rfl
    have hserves := (Controller.onClientText_ends hnumbered).iff.mp ⟨(), h.returns⟩
    obtain ⟨event, hevent, -⟩ := (hserves _ rfl rfl).2 _ hmsg
    cases hevent
  · rintro ⟨lib, h⟩
    have hserves := (Controller.onClientText_ends hnumbered).iff.mp ⟨(), h.returns⟩
    exact (hserves _ rfl rfl).1 rfl

end Process

end Scallop
