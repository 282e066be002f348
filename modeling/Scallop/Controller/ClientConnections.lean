import Scallop.Controller.Connected

/-!
# Connections of clients

* `At` : the connections of clients, and the participants that are there;
* `KeepsAt` : a program that keeps both, unless it throws; `onClientOffer_at`, `onClientAnswer_at`,
  `joinSession_at` : the handlers;
* `Registry` : clients and participants belong together, as long as nobody leaves;
* `ClientsRight` : connections are current, and those of participants are found;
* `Process.clients_right_iff` : runs; `Process.reconnected_client` : an endpoint that is used again.
-/

namespace Scallop

open Machine

namespace Session

def Has (ids : Nat → Prop) (s : Session) : Prop :=
  Consistent s ∧ ∀ id, s.participantExists id = true ↔ ids id

/-- The program keeps the participants, unless it throws. -/
def KeepsParticipants {α : Type} (m : SessionEff Switches (Nat × ClientMessage) α) : Prop :=
  ∀ ids, Triple (Has ids) m (fun _ => Has ids) fun _ _ => True

section Participants
variable {s s' : Session} {ids : Nat → Prop} {id : Nat}

theorem Change.participantExists {n : Option Notification} (h : Change s n s') :
    s'.participantExists id = true ↔ s.participantExists id = true := by
  have hupdate : ∀ {k : Nat} {f : Participant → Participant}, s.participantExists k = true →
      ((s.update k f).participantExists id = true ↔ s.participantExists id = true) := by
    intro k f hk
    rw [participantExists_update]
    exact ⟨fun h => h.elim (fun heq => heq ▸ hk) fun h => h, .inr⟩
  cases h with
  | other hexists => exact hupdate hexists
  | send hexists _ _ _ hs' =>
      subst hs'
      exact hupdate hexists
  | receive hexists _ _ _ _ _ _ hs' =>
      subst hs'
      exact hupdate hexists

theorem has_keptBy : KeptBy onNewStream fun s (_ : Switches) => Has ids s where
  quiet h hchange := ⟨h.1.change hchange, fun id => hchange.participantExists.trans (h.2 id)⟩
  told h hchange _ := ⟨h.1.change hchange, fun id => hchange.participantExists.trans (h.2 id)⟩

theorem Makes.keepsParticipants {α : Type} {m : SessionEff Switches (Nat × ClientMessage) α}
    (h : ∀ ids, Makes onNewStream (fun s (_ : Switches) => Has ids s) (fun _ => True) m fun _ => True) :
    KeepsParticipants m :=
  fun ids => (h ids).mono (fun _ h => ⟨h, trivial⟩) (fun _ _ h => h.1) fun _ _ _ => trivial

theorem addOffer_keepsParticipants {offer : Sdp.SessionDescription} :
    KeepsParticipants (addOffer (some onNewStream) id offer) :=
  Makes.keepsParticipants fun _ => addOffer_makes has_keptBy

theorem getOffer_keepsParticipants : KeepsParticipants (getOffer id) :=
  Makes.keepsParticipants fun _ => getOffer_makes has_keptBy

theorem getAnswer_keepsParticipants : KeepsParticipants (getAnswer id) :=
  Makes.keepsParticipants fun _ => getAnswer_makes has_keptBy

/-- An answer is one of a participant that is there, or is refused. -/
theorem addAnswer_keepsParticipants {answer : Sdp.SessionDescription} :
    Triple (fun s => Has ids s ∧ ids id) (addAnswer (some onNewStream) id answer) (fun _ => Has ids)
      fun _ _ => True :=
  (addAnswer_makes has_keptBy).mono (fun _ h => ⟨h.1, h.1.1, (h.1.2 id).mpr h.2⟩) (fun _ _ h => h.1)
    fun _ _ _ => trivial

end Participants

end Session

namespace Controller

/-- The connections of clients, and the participants of sessions. -/
structure At (cs : Connections ClientMeta) (ids : Nat → Nat → Prop) (c : Controller) : Prop where
  clients : c.clients = cs
  has : ∀ k, (c.session k).Has (ids k)

/-- The program keeps both, unless it throws. -/
def KeepsAt {α : Type} (m : Program α) : Prop :=
  ∀ cs ids, Eff.Triple (At cs ids) m (fun _ => At cs ids) fun _ _ => True

section KeepsAt
variable {α β : Type} {env : Env} {sessionId id i : Nat} {cs : Connections ClientMeta}
variable {ids : Nat → Nat → Prop}

theorem KeepsAt.bind {m : Program α} {g : α → Program β} (hm : KeepsAt m) (hg : ∀ a, KeepsAt (g a)) :
    KeepsAt (m >>= g) :=
  fun cs ids => (hm cs ids).bind fun a => hg a cs ids

theorem pure_at (a : α) : KeepsAt (pure a : Program α) := fun _ _ => Eff.triple_pure fun _ h => h

theorem ofExcept_at (x : Except Fault α) : KeepsAt (Eff.ofExcept x : Program α) :=
  fun _ _ => Eff.triple_ofExcept (fun _ _ _ h => h) fun _ _ _ _ => trivial

theorem get_bind_at {g : Controller → Program α} (hg : ∀ c, KeepsAt (g c)) :
    KeepsAt (Eff.get >>= g) :=
  fun cs ids => Eff.triple_get_bind fun c hc => (hg c cs ids).pre fun _ heq => heq ▸ hc

theorem write_at {m : ClientMessage} : KeepsAt (write env i m) := by
  refine get_bind_at fun c => KeepsAt.bind (fun _ _ => Eff.triple_modify fun _ h => ⟨h.clients, h.has⟩)
    fun _ => ?_
  split
  · exact fun _ _ => Eff.triple_emit fun _ h => h
  · exact fun _ _ => Eff.triple_throw fun _ _ => trivial

theorem sendHello_at : KeepsAt (sendHello env i) := get_bind_at fun _ => write_at

theorem sendOffer_at {offer : Sdp.SessionDescription} : KeepsAt (sendOffer env i offer id) :=
  (ofExcept_at _).bind fun _ => write_at

theorem sendAnswer_at {answer : Sdp.SessionDescription} : KeepsAt (sendAnswer env i answer id) :=
  (ofExcept_at _).bind fun _ => write_at

theorem clientConnection_at : KeepsAt (clientConnection sessionId id) := by
  refine get_bind_at fun c => ?_
  split
  · exact pure_at _
  · exact fun _ _ => Eff.triple_throw fun _ _ => trivial

theorem onSwitches_at {m : Switches.Program α} : KeepsAt (onSwitches m) := by
  have hm : Eff.Triple (fun _ => True) m (fun _ _ => True) fun _ _ => True := by
    intro s _
    split <;> trivial
  exact fun _ _ => Eff.triple_zoom hm (fun _ _ => trivial) (fun _ _ _ h _ => ⟨h.clients, h.has⟩)
    fun _ _ _ _ _ => trivial

theorem onSession_triple {m : SessionEff Switches (Nat × ClientMessage) α} {P : Session → Prop}
    {Q : α → Session → Prop} (hm : Session.Triple P m Q fun _ _ => True) {R : α → Controller → Prop}
    (hP : ∀ c, At cs ids c → P (c.session sessionId))
    (hR : ∀ c a s, At cs ids c → Q a s.1 → R a (c.setSession sessionId s)) :
    Eff.Triple (At cs ids) (onSession sessionId m) R fun _ _ => True :=
  Eff.triple_zoom hm hP (fun c a s hc hs => hR c a s hc hs) fun _ _ _ _ _ => trivial

theorem at_setSession {c : Controller} {s : Session × Switches} (h : At cs ids c)
    (hs : s.1.Has (ids sessionId)) : At cs ids (c.setSession sessionId s) where
  clients := h.clients
  has k := by
    by_cases hk : k = sessionId
    · rw [hk, session_setSession_self]
      exact hs
    · rw [session_setSession_of_ne hk]
      exact h.has k

theorem onSession_at {m : SessionEff Switches (Nat × ClientMessage) α}
    (hm : Session.KeepsParticipants m) : KeepsAt (onSession sessionId m) :=
  fun _ ids => onSession_triple (hm (ids sessionId)) (fun _ hc => hc.has sessionId)
    fun _ _ _ hc hs => at_setSession hc hs

/-! ## Offers and answers -/

theorem forwardOffers_at {ks : List Nat} : KeepsAt (forwardOffers env sessionId id ks) := by
  induction ks with
  | nil => exact pure_at _
  | cons k ks ih =>
      unfold forwardOffers
      split
      · exact ih
      · refine (onSession_at Session.getOffer_keepsParticipants).bind fun offer => get_bind_at fun c => ?_
        exact clientConnection_at.bind fun i => sendOffer_at.bind fun _ => ih

theorem onClientOffer_at {sdp : String} : KeepsAt (onClientOffer env i sdp) := by
  refine get_bind_at fun c => ?_
  dsimp only
  split
  · exact pure_at _
  split
  · exact pure_at _
  refine (ofExcept_at _).bind fun offer =>
    (onSession_at Session.addOffer_keepsParticipants).bind fun _ => get_bind_at fun c => ?_
  split
  · exact forwardOffers_at
  · exact (onSession_at Session.getAnswer_keepsParticipants).bind fun answer => sendAnswer_at

theorem completeTransaction_at : KeepsAt (completeTransaction env sessionId) := by
  refine get_bind_at fun c => ?_
  dsimp only
  split
  · refine (ofExcept_at _).bind fun init =>
      (onSession_at Session.getAnswer_keepsParticipants).bind fun answer => ?_
    exact clientConnection_at.bind fun i => sendAnswer_at
  · exact pure_at _

theorem onClientAnswer_at {sdp : String} : KeepsAt (onClientAnswer env i sdp) := by
  intro cs ids
  refine Eff.triple_get_bind fun c hc => ?_
  dsimp only
  split
  · exact Eff.triple_pure fun _ heq => heq ▸ hc
  split
  · exact Eff.triple_pure fun _ heq => heq ▸ hc
  rename_i hexists
  have hid := ((hc.has _).2 _).mp (not_not.mp hexists)
  refine Eff.Triple.pre ?_ fun _ heq => heq ▸ hc
  refine (ofExcept_at _ cs ids).bind fun answer => Eff.Triple.bind ?_ fun _ => completeTransaction_at cs ids
  exact onSession_triple Session.addAnswer_keepsParticipants (fun c hc => ⟨hc.has _, hid⟩)
    fun c _ s hc hs => at_setSession hc hs

/-! ## Joins -/

def added (ids : Nat → Nat → Prop) (sessionId id : Nat) (k j : Nat) : Prop :=
  ids k j ∨ k = sessionId ∧ j = id

/-- Nothing has changed, or the session that the connection wraps is that of a new participant. -/
def Joins (cs : Connections ClientMeta) (ids : Nat → Nat → Prop) (i sessionId : Nat) (c : Controller) :
    Prop :=
  At cs ids c ∨ ∃ id, id ≠ 0 ∧ ¬ ids sessionId id ∧
    At (cs.setMetaData i ⟨true, sessionId, id⟩) (added ids sessionId id) c

theorem addParticipant_at {ip : String} {port : UInt16} {c₀ : Controller} (h₀ : At cs ids c₀)
    (hnext : (c₀.session sessionId).nextParticipantId + 1 < 2 ^ 32) :
    Eff.Triple (· = c₀) (onSession sessionId (Session.addParticipant ip port))
      (fun id c => id ≠ 0 ∧ ¬ ids sessionId id ∧ At cs (added ids sessionId id) c) fun _ _ => True := by
  have hone : (c₀.session sessionId).nextId ≠ 0 := by
    unfold Session.nextId
    rw [Nat.mod_eq_of_lt hnext]
    exact Nat.succ_ne_zero _
  have hjoins := @Session.addParticipant_joins ip port _ (Nat × ClientMessage)
    (c₀.session sessionId, c₀.switches)
  refine Eff.triple_zoom hjoins ?_ ?_ fun _ _ _ _ _ => trivial
  · rintro c rfl
    rfl
  · rintro c id s rfl ⟨rfl, hnew, rfl⟩
    refine ⟨hone, fun hid => hnew (((h₀.has sessionId).2 _).mpr hid), h₀.clients, fun k => ?_⟩
    by_cases hk : k = sessionId
    · rw [hk, session_setSession_self]
      refine ⟨(h₀.has sessionId).1.joined, fun j => ?_⟩
      rw [Session.participantExists_joined, (h₀.has sessionId).2, added, or_comm]
      exact or_congr_right ⟨fun h => ⟨rfl, h⟩, And.right⟩
    · rw [session_setSession_of_ne hk]
      refine ⟨(h₀.has k).1, fun j => ((h₀.has k).2 j).trans ⟨.inl, fun h => h.elim id fun h => ?_⟩⟩
      exact absurd h.1 hk

theorem joinSession_at {remote : IPv4Port} {c₀ : Controller} (h₀ : At cs ids c₀)
    (hnext : (c₀.session sessionId).nextParticipantId + 1 < 2 ^ 32) :
    Eff.Triple (· = c₀) (joinSession env i sessionId remote) (fun _ => Joins cs ids i sessionId)
      fun _ _ => True := by
  refine Eff.triple_get_bind ?_
  rintro c rfl
  split
  · exact Eff.triple_pure fun _ heq => heq ▸ .inl h₀
  refine Eff.Triple.bind (addParticipant_at h₀ hnext) fun id => ?_
  refine Eff.Triple.bind (R := fun _ c => id ≠ 0 ∧ ¬ ids sessionId id ∧
    At (cs.setMetaData i ⟨true, sessionId, id⟩) (added ids sessionId id) c) (Eff.triple_modify ?_)
    fun _ => Eff.triple_intro ?_
  · rintro c ⟨hid, hnew, hc⟩
    refine ⟨hid, hnew, ?_, hc.has⟩
    show c.clients.setMetaData i _ = _
    rw [hc.clients]
  rintro c ⟨hid, hnew, hc⟩
  have hrest : ∀ {m : Program Unit}, KeepsAt m →
      Eff.Triple (· = c) m (fun _ => Joins cs ids i sessionId) fun _ _ => True := fun hm =>
    (hm _ _).mono (fun _ heq => heq ▸ hc) (fun _ _ hc => .inr ⟨id, hid, hnew, hc⟩) fun _ _ h => h
  refine hrest (sendHello_at.bind fun _ => onSwitches_at.bind fun _ => get_bind_at fun c => ?_)
  split
  · exact (onSession_at Session.getOffer_keepsParticipants).bind fun offer => sendOffer_at
  · exact pure_at _

theorem onNewParticipant_at {remote : IPv4Port} {c₀ : Controller} (h₀ : At cs ids c₀)
    (hnext : (c₀.session sessionId).nextParticipantId + 1 < 2 ^ 32) :
    Eff.Triple (· = c₀) (onNewParticipant env i remote (some sessionId))
      (fun _ => Joins cs ids i sessionId) fun _ _ => True := by
  refine Eff.triple_get_bind ?_
  rintro c rfl
  split
  · exact joinSession_at h₀ hnext
  · rename_i hexists
    refine Eff.Triple.bind (R := fun _ c' => c' = { c with
      sessions := c.sessions.insert sessionId { id := sessionId, sfuConfig := c.sfuConfig } })
      (Eff.triple_modify ?_) fun _ => ?_
    · rintro c' rfl
      rfl
    have hsession := session_add hexists
    exact joinSession_at ⟨h₀.clients, fun k => hsession ▸ h₀.has k⟩ (hsession ▸ hnext)

end KeepsAt

/-! ## Clients and participants -/

/-- Every client is there, under its own endpoint; registered clients are the participants. -/
structure Registry (cs : Connections ClientMeta) (ids : Nat → Nat → Prop) : Prop where
  current : ∀ i ws, cs.accepted[i]? = some ws → ws.isOpen = true ∧ cs.find? ws.remote = some i
  entry : ∀ remote i, cs.find? remote = some i → ∃ ws, cs.accepted[i]? = some ws ∧ ws.remote = remote
  tag : ∀ (i : Nat) (ws : WebSocketSession ClientMeta), cs.accepted[i]? = some ws →
    ws.metaData.registered = false ∧ ws.metaData.participantId = 0 ∨
      ws.metaData.registered = true ∧ ws.metaData.participantId ≠ 0 ∧
        ids ws.metaData.sessionId ws.metaData.participantId
  participant : ∀ k id, ids k id → ∃ (i : Nat) (ws : WebSocketSession ClientMeta),
    cs.accepted[i]? = some ws ∧ ws.metaData = ⟨true, k, id⟩

section Registry
variable {cs : Connections ClientMeta} {ids : Nat → Nat → Prop} {i sessionId id : Nat}

theorem registry_init : Registry {} fun _ _ => False where
  current _ _ h := nomatch h
  entry _ _ h := nomatch Std.ExtTreeMap.getElem?_empty.symm.trans h
  tag _ _ h := nomatch h
  participant _ _ h := h.elim

theorem getElem?_accept {remote : IPv4Port} {ws : WebSocketSession ClientMeta} :
    (cs.accept remote).accepted[i]? = some ws ↔ cs.accepted[i]? = some ws ∨
      i = cs.accepted.length ∧ ws = { remote, metaData := default } := by
  unfold Connections.accept
  rw [List.getElem?_append]
  split
  · rename_i hlt
    exact ⟨.inl, fun h => h.elim id fun h => absurd h.1 hlt.ne⟩
  · rename_i hle
    rw [List.getElem?_singleton]
    constructor
    · intro h
      split at h
      · exact .inr ⟨by omega, (Option.some.inj h).symm⟩
      · exact nomatch h
    · rintro (h | ⟨rfl, rfl⟩)
      · exact absurd (List.getElem?_eq_some_iff.mp h).1 hle
      · rw [Nat.sub_self]
        rfl

/-- A client at an endpoint that no client is at. -/
theorem Registry.accept (h : Registry cs ids) {remote : IPv4Port}
    (hnew : ∀ ws ∈ cs.accepted, ws.remote = remote → ws.isOpen = false) :
    Registry (cs.accept remote) ids := by
  have hfree : cs.find? remote = none := by
    cases hfind : cs.find? remote with
    | none => rfl
    | some i =>
        obtain ⟨ws, hws, heq⟩ := h.entry remote i hfind
        exact nomatch (h.current i ws hws).1.symm.trans (hnew ws (List.mem_of_getElem? hws) heq)
  have hfind : ∀ r, (cs.accept remote).find? r =
      if remote = r then some cs.accepted.length else cs.find? r := by
    intro r
    have hmem : remote ∉ cs.connections := by
      rw [Std.ExtTreeMap.mem_iff_isSome_getElem?]
      exact fun hsome => nomatch (congrArg Option.isSome hfree).symm.trans hsome
    show (cs.connections.insertIfNew remote cs.accepted.length)[r]? = _
    rw [Std.ExtTreeMap.getElem?_insertIfNew]
    exact if_congr ((and_iff_left hmem).trans Std.LawfulEqCmp.compare_eq_iff_eq) rfl rfl
  have hold : ∀ (i : Nat) (ws : WebSocketSession ClientMeta), cs.accepted[i]? = some ws →
      remote ≠ ws.remote := by
    rintro i ws hws rfl
    exact nomatch hfree.symm.trans (h.current i ws hws).2
  refine ⟨fun i ws hws => ?_, fun r i hr => ?_, fun i ws hws => ?_, fun k id hid => ?_⟩
  · rw [hfind]
    rcases getElem?_accept.mp hws with hws | ⟨rfl, rfl⟩
    · rw [if_neg (hold i ws hws)]
      exact h.current i ws hws
    · exact ⟨rfl, if_pos rfl⟩
  · rw [hfind] at hr
    split at hr
    · rename_i heq
      obtain rfl := Option.some.inj hr
      exact ⟨_, getElem?_accept.mpr (.inr ⟨rfl, rfl⟩), heq⟩
    · obtain ⟨ws, hws, heq⟩ := h.entry r i hr
      exact ⟨ws, getElem?_accept.mpr (.inl hws), heq⟩
  · rcases getElem?_accept.mp hws with hws | ⟨rfl, rfl⟩
    · exact h.tag i ws hws
    · exact .inl ⟨rfl, rfl⟩
  · obtain ⟨i, ws, hws, htag⟩ := h.participant k id hid
    exact ⟨i, ws, getElem?_accept.mpr (.inl hws), htag⟩

/-- A client that is not registered becomes a new participant. -/
theorem Registry.join (h : Registry cs ids) {ws : WebSocketSession ClientMeta}
    (hws : cs.accepted[i]? = some ws) (hreg : ws.metaData.registered = false) (hid : id ≠ 0) :
    Registry (cs.setMetaData i ⟨true, sessionId, id⟩) (added ids sessionId id) := by
  have hget : ∀ j, (cs.setMetaData i ⟨true, sessionId, id⟩).accepted[j]? = cs.accepted[j]?.map fun ws =>
      if i = j then { ws with metaData := ⟨true, sessionId, id⟩ } else ws := by
    intro j
    exact List.getElem?_modify _ _ _ _
  refine ⟨fun j ws' hws' => ?_, fun r j hr => ?_, fun j ws' hws' => ?_, fun k j hj => ?_⟩
  · rw [hget, Option.map_eq_some_iff] at hws'
    obtain ⟨ws₀, hws₀, rfl⟩ := hws'
    have hcurrent := h.current j ws₀ hws₀
    split
    · exact hcurrent
    · exact hcurrent
  · obtain ⟨ws₀, hws₀, heq⟩ := h.entry r j hr
    refine ⟨_, (hget j).trans (congrArg _ hws₀), ?_⟩
    split
    · exact heq
    · exact heq
  · rw [hget, Option.map_eq_some_iff] at hws'
    obtain ⟨ws₀, hws₀, rfl⟩ := hws'
    split
    · exact .inr ⟨rfl, hid, .inr ⟨rfl, rfl⟩⟩
    · exact (h.tag j ws₀ hws₀).imp_right fun ht => ⟨ht.1, ht.2.1, .inl ht.2.2⟩
  · rcases hj with hj | ⟨rfl, rfl⟩
    · obtain ⟨i', ws₀, hws₀, htag⟩ := h.participant k j hj
      refine ⟨i', ws₀, (hget i').trans ?_, htag⟩
      rw [hws₀, Option.map_some, if_neg]
      rintro rfl
      obtain rfl := Option.some.inj (hws.symm.trans hws₀)
      rw [htag] at hreg
      exact nomatch hreg
    · refine ⟨i, _, (hget i).trans (congrArg _ hws), ?_⟩
      dsimp only
      rw [if_pos rfl]

end Registry

/-! ## What clients can rely on -/

/-- The connection of an endpoint is that of the client that is there, closed ones are gone, and a lookup
finds the client that is the participant, and nobody who was one. -/
structure ClientsRight (c : Controller) : Prop where
  current : ∀ i ws, c.clients.accepted[i]? = some ws → ws.isOpen = true →
    c.clients.find? ws.remote = some i
  gone : ∀ remote i, c.clients.find? remote = some i →
    ∃ ws, c.clients.accepted[i]? = some ws ∧ ws.isOpen = true
  found : ∀ k id, (c.session k).participantExists id = true →
    ∃ i ws, (clientConnection k id c).result = .ok i ∧ c.clients.accepted[i]? = some ws ∧
      ws.isOpen = true ∧ ws.metaData = ⟨true, k, id⟩
  participant : ∀ k id i, (clientConnection k id c).result = .ok i →
    (c.clients.metaData i).registered = true → (c.session k).participantExists id = true

/-- Clients and participants belong together. -/
def Registered (c : Controller) : Prop := ∃ ids, At c.clients ids c ∧ Registry c.clients ids

/-- What a lookup finds is in the map, with the ids that were asked for. -/
theorem clientConnection_ok {c : Controller} {k id i : Nat}
    (h : (clientConnection k id c).result = .ok i) : (∃ remote, c.clients.find? remote = some i) ∧
      (c.clients.metaData i).sessionId = k ∧ (c.clients.metaData i).participantId = id := by
  unfold clientConnection at h
  rw [Eff.get_bind_run] at h
  cases hfind : c.clients.findIf fun m => m.sessionId = k ∧ m.participantId = id with
  | none =>
      rw [hfind] at h
      exact nomatch h
  | some e =>
      rw [hfind] at h
      obtain rfl := Except.ok.inj h
      have hmem := List.mem_of_find?_eq_some hfind
      exact ⟨⟨e.1, Std.ExtTreeMap.mem_toList_iff_getElem?_eq_some.mp hmem⟩,
        of_decide_eq_true (List.find?_some hfind :)⟩

theorem clientConnection_isOk {c : Controller} {k id i : Nat} {remote : IPv4Port}
    (h : c.clients.find? remote = some i) (hk : (c.clients.metaData i).sessionId = k)
    (hid : (c.clients.metaData i).participantId = id) : ∃ j, (clientConnection k id c).result = .ok j := by
  unfold clientConnection
  rw [Eff.get_bind_run]
  cases hfind : c.clients.findIf fun m => m.sessionId = k ∧ m.participantId = id with
  | some e => exact ⟨_, rfl⟩
  | none =>
      have hmem : (remote, i) ∈ c.clients.connections.toList :=
        Std.ExtTreeMap.mem_toList_iff_getElem?_eq_some.mpr h
      exact absurd (decide_eq_true ⟨hk, hid⟩) (List.find?_eq_none.mp hfind _ hmem)

theorem metaData_of_some {cs : Connections ClientMeta} {i : Nat} {ws : WebSocketSession ClientMeta}
    (h : cs.accepted[i]? = some ws) : cs.metaData i = ws.metaData := by
  unfold Connections.metaData
  rw [h]

theorem Registered.right {c : Controller} (h : c.Registered) : c.ClientsRight := by
  obtain ⟨ids, hat, hreg⟩ := h
  refine ⟨fun i ws hws _ => (hreg.current i ws hws).2, fun remote i hi => ?_, fun k id hid => ?_,
    fun k id i hi hregistered => ?_⟩
  · obtain ⟨ws, hws, -⟩ := hreg.entry remote i hi
    exact ⟨ws, hws, (hreg.current i ws hws).1⟩
  · obtain ⟨i, ws, hws, htag⟩ := hreg.participant k id (((hat.has k).2 id).mp hid)
    have hmeta := (metaData_of_some hws).trans htag
    have hid0 : id ≠ 0 := by
      rcases hreg.tag i ws hws with ⟨hno, -⟩ | ⟨-, hne, -⟩
      · rw [htag] at hno
        exact nomatch hno
      · rw [htag] at hne
        exact hne
    obtain ⟨j, hj⟩ := clientConnection_isOk (hreg.current i ws hws).2 (congrArg _ hmeta) (congrArg _ hmeta)
    obtain ⟨⟨remote, hremote⟩, hk', hid'⟩ := clientConnection_ok hj
    obtain ⟨ws', hws', -⟩ := hreg.entry remote j hremote
    rw [metaData_of_some hws'] at hk' hid'
    refine ⟨j, ws', hj, hws', (hreg.current j ws' hws').1, ?_⟩
    rcases hreg.tag j ws' hws' with ⟨-, hzero⟩ | ⟨htrue, -, -⟩
    · exact absurd (hid'.symm.trans hzero) hid0
    · show (⟨ws'.metaData.registered, ws'.metaData.sessionId, ws'.metaData.participantId⟩ : ClientMeta) = _
      rw [htrue, hk', hid']
  · obtain ⟨⟨remote, hremote⟩, rfl, rfl⟩ := clientConnection_ok hi
    obtain ⟨ws, hws, -⟩ := hreg.entry remote i hremote
    rw [metaData_of_some hws] at hregistered ⊢
    rcases hreg.tag i ws hws with ⟨hno, -⟩ | ⟨-, -, hids⟩
    · exact nomatch hno.symm.trans hregistered
    · exact ((hat.has _).2 _).mpr hids

/-! ## Events -/

/-- An endpoint is opened when nobody is there, and ids of participants do not come again. -/
def Orderly (c : Controller) : Event → Prop
  | .clientOpen remote => ∀ ws ∈ c.clients.accepted, ws.remote = remote → ws.isOpen = false
  | .clientHello client (some sessionId) => ¬ (c.clients.metaData client).registered = true →
      (c.session sessionId).nextParticipantId + 1 < 2 ^ 32
  | _ => True

def Stays (c : Controller) : Event → Prop
  | .clientClose client => ∀ ws, c.clients.accepted[client]? = some ws → ws.isOpen = false
  | _ => True

section Events
variable {env : Env} {c₀ : Controller} {event : Event}

/-- What keeps connections and participants, unless it throws. -/
theorem KeepsAt.registered {m : Program Unit} (hm : KeepsAt m) (h₀ : c₀.Registered) :
    Eff.Triple (· = c₀) m (fun _ => Registered) fun _ _ => True := by
  obtain ⟨ids, hat, hreg⟩ := h₀
  exact (hm c₀.clients ids).mono (fun _ heq => heq ▸ hat)
    (fun _ c hc => ⟨ids, by rw [hc.clients]; exact hc, by rw [hc.clients]; exact hreg⟩) fun _ _ h => h

theorem onClientMessage_registered {client : Nat} {handler : Nat → IPv4Port → Program Unit}
    (h₀ : c₀.Registered) (hhandler : ∀ conn remote, c₀.Reaches client conn remote →
      Eff.Triple (· = c₀) (handler conn remote) (fun _ => Registered) fun _ _ => True) :
    Eff.Triple (· = c₀) (onClientMessage client handler) (fun _ => Registered) fun _ _ => True := by
  refine Eff.triple_get_bind ?_
  rintro c rfl
  split
  · exact (pure_at ()).registered h₀
  · rename_i ws hws
    split
    · exact (pure_at ()).registered h₀
    · rename_i hopen
      split
      · exact (pure_at ()).registered h₀
      · exact hhandler _ _ ⟨ws, hws, not_not.mp hopen, rfl, ‹_›⟩

/-- A client that says hello becomes a participant. -/
theorem onNewParticipant_registered {client conn sessionId : Nat} {remote : IPv4Port}
    (h₀ : c₀.Registered) (hreaches : c₀.Reaches client conn remote)
    (hnew : ¬ (c₀.clients.metaData client).registered = true)
    (hnext : (c₀.session sessionId).nextParticipantId + 1 < 2 ^ 32) :
    Eff.Triple (· = c₀) (onNewParticipant env conn remote (some sessionId)) (fun _ => Registered)
      fun _ _ => True := by
  obtain ⟨ids, hat, hreg⟩ := h₀
  obtain ⟨ws, hws, -, -, hconn⟩ := hreaches
  obtain rfl := Option.some.inj ((hreg.current client ws hws).2.symm.trans hconn)
  rw [metaData_of_some hws] at hnew
  refine (onNewParticipant_at hat hnext).mono (fun _ h => h) ?_ fun _ _ h => h
  rintro - c (hc | ⟨id, hid, -, hc⟩)
  · exact ⟨ids, by rw [hc.clients]; exact hc, by rw [hc.clients]; exact hreg⟩
  · refine ⟨added ids sessionId id, by rw [hc.clients]; exact hc, ?_⟩
    rw [hc.clients]
    exact hreg.join hws (Bool.eq_false_of_not_eq_true hnew) hid

theorem handle_registered (env : Env) (h₀ : c₀.Registered) (horderly : c₀.Orderly event) (hstays : c₀.Stays event) :
    Eff.Triple (· = c₀) (handle env event) (fun _ => Registered) fun _ _ => True := by
  cases event with
  | clientOpen remote =>
      apply Eff.triple_modify
      rintro c rfl
      obtain ⟨ids, hat, hreg⟩ := h₀
      exact ⟨ids, ⟨rfl, hat.has⟩, hreg.accept horderly⟩
  | clientHello client sessionId =>
      refine onClientMessage_registered h₀ fun conn remote hreaches => ?_
      refine Eff.triple_get_bind ?_
      rintro c rfl
      split
      · rename_i hnew
        cases sessionId with
        | none => exact Eff.triple_throw fun _ _ => trivial
        | some sessionId => exact onNewParticipant_registered h₀ hreaches hnew (horderly hnew)
      · split
        · exact sendHello_at.registered h₀
        · exact (pure_at ()).registered h₀
  | clientOffer client sdp =>
      refine onClientMessage_registered h₀ fun conn remote _ => KeepsAt.registered ?_ h₀
      refine get_bind_at fun c => ?_
      split
      · exact onClientOffer_at
      · exact pure_at _
  | clientAnswer client sdp =>
      refine onClientMessage_registered h₀ fun conn remote _ => KeepsAt.registered ?_ h₀
      refine get_bind_at fun c => ?_
      split
      · exact onClientAnswer_at
      · exact pure_at _
  | clientClose client =>
      refine Eff.triple_get_bind ?_
      rintro c rfl
      split
      · exact (pure_at ()).registered h₀
      · rename_i ws hws
        rw [if_pos (by rw [hstays ws hws]; exact Bool.false_ne_true)]
        exact (pure_at ()).registered h₀
  | switchOpen remote => exact onSwitches_at.registered h₀
  | switchHello switch switchId => exact onSwitches_at.registered h₀
  | switchClose switch => exact onSwitches_at.registered h₀

/-- A client that leaves is still in the map. -/
theorem handle_leaves (env : Env) (h₀ : c₀.Registered) (hleaves : ¬ c₀.Stays event) :
    (handle env event c₀).result = .ok () ∧ ¬ (handle env event c₀).state.ClientsRight := by
  cases event with
  | clientClose client =>
      obtain ⟨ids, hat, hreg⟩ := h₀
      obtain ⟨ws, hws⟩ := not_forall.mp hleaves
      obtain ⟨hws, hopen⟩ := Classical.not_imp.mp hws
      have hopen := Bool.eq_true_of_not_eq_false hopen
      obtain ⟨-, hfind⟩ := hreg.current client ws hws
      let closed : Controller := { c₀ with clients := c₀.clients.close client }
      have hclosed : closed.clients.accepted[client]? = some { ws with isOpen := false } := by
        show (c₀.clients.accepted.modify client _)[client]? = _
        rw [List.getElem?_modify_eq, hws]
        rfl
      have hstale : ∀ c : Controller, c.clients = closed.clients → ¬ c.ClientsRight := by
        intro c hc hright
        obtain ⟨ws', hws', hopen'⟩ := hright.gone ws.remote client (by rw [hc]; exact hfind)
        rw [hc, hclosed] at hws'
        obtain rfl := Option.some.inj hws'
        exact nomatch hopen'
      have hrun : handle env (.clientClose client) c₀ = onClientClose ws.metaData closed := by
        dsimp only [handle]
        rw [Eff.get_bind_run, hws]
        dsimp only
        rw [if_neg (not_not.mpr hopen), Eff.modify_bind_run]
      rw [hrun]
      unfold onClientClose
      rw [Eff.get_bind_run]
      split
      · rename_i hcond
        have hremove := Session.removeParticipant_run (ω := Nat × ClientMessage)
          (s := (closed.session ws.metaData.sessionId, closed.switches)) hcond.2
        unfold onSession Eff.zoom
        dsimp only
        rw [hremove]
        exact ⟨rfl, hstale _ rfl⟩
      · exact ⟨rfl, hstale _ rfl⟩
  | clientOpen => exact absurd trivial hleaves
  | clientHello => exact absurd trivial hleaves
  | clientOffer => exact absurd trivial hleaves
  | clientAnswer => exact absurd trivial hleaves
  | switchOpen => exact absurd trivial hleaves
  | switchHello => exact absurd trivial hleaves
  | switchClose => exact absurd trivial hleaves

end Events

end Controller

/-! ## Runs -/

namespace Process

/-- A condition on the controller, as long as the process is alive. -/
def WhileAlive (P : Controller → Prop) (p : Process) : Prop := p.fault = none → P p.controller

/-- The process lives on just when the handler returns. -/
theorem step_alive {env : Env} {p : Process} {event : Event} (hfault : p.fault = none) :
    (p.step env event).1.fault = none ↔ (Controller.handle env event p.controller).result = .ok () := by
  unfold step
  rw [hfault]
  dsimp only
  cases (Controller.handle env event p.controller).result with
  | ok u => exact ⟨fun _ => rfl, fun _ => rfl⟩
  | error e => exact ⟨fun h => (nomatch h), fun h => nomatch h⟩

theorem alive_of_step {env : Env} {p : Process} {event : Event} (h : (p.step env event).1.fault = none) :
    p.fault = none := by
  unfold step at h
  split at h
  · exact h
  · assumption

/-- **Connections of clients.** In a run in which endpoints are opened when nobody is there and ids do not
come again, connections are right all the time just when no client leaves. -/
theorem clients_right_iff (env : Env) (sfuConfig : SFUConfig) (events : List Event)
    (h : Along (fun p event => p.WhileAlive (·.Orderly event)) (step env) (init sfuConfig) events) :
    Always (WhileAlive Controller.ClientsRight) (step env) (init sfuConfig) events ↔
      Along (fun p event => p.WhileAlive (·.Stays event)) (step env) (init sfuConfig) events := by
  refine always_iff_along_of (I := WhileAlive Controller.Registered) (fun p hp halive => (hp halive).right)
    (fun p event hp horderly hstays halive => ?_) (fun p event hp _ hleaves hright => ?_) ?_ h
  · have hfault := alive_of_step halive
    have hrun := Controller.handle_registered env (hp hfault) (horderly hfault) (hstays hfault)
      p.controller rfl
    rw [(step_alive hfault).mp halive] at hrun
    rw [(step_run hfault).2]
    exact hrun
  · obtain ⟨hfault, hleaves⟩ := Classical.not_imp.mp hleaves
    obtain ⟨hok, hwrong⟩ := Controller.handle_leaves env (hp hfault) hleaves
    rw [← (step_run hfault).2] at hwrong
    exact hwrong (hright ((step_alive hfault).mpr hok))
  · refine fun _ => ⟨_, ⟨rfl, fun k => ?_⟩, Controller.registry_init⟩
    show (({ sfuConfig } : Controller).session k).Has _
    rw [Controller.session_new]
    exact ⟨Session.consistent_new, fun id => iff_false_intro Session.not_participantExists_new⟩

def joinEvents : List Event :=
  [.switchOpen ⟨9, 9⟩, .switchHello 0 (some 0), .clientOpen ⟨2, 1⟩, .clientHello 0 (some 1),
    .clientOpen ⟨2, 2⟩, .clientHello 1 (some 1)]

theorem clients_right_joined :
    Always (WhileAlive Controller.ClientsRight) (step plainEnv) (init plainConfig) joinEvents := by
  refine (clients_right_iff plainEnv plainConfig joinEvents ?_).mpr
    ⟨fun _ => trivial, fun _ => trivial, fun _ => trivial, fun _ => trivial, fun _ => trivial,
      fun _ => trivial, trivial⟩
  refine ⟨fun _ => trivial, fun _ => trivial, fun _ ws hws => absurd hws List.not_mem_nil, fun _ _ => ?_,
    fun _ ws hws heq => ?_, fun _ _ => ?_, trivial⟩
  · decide
  · obtain rfl : ws = ⟨⟨2, 1⟩, ⟨true, 1, 1⟩, true⟩ := List.mem_singleton.mp hws
    exact absurd heq (by decide)
  · decide

/-- A client joins a session and leaves, and another one connects from its endpoint. -/
def reconnectEvents : List Event :=
  [.switchOpen ⟨9, 9⟩, .switchHello 0 (some 0), .clientOpen ⟨2, 1⟩, .clientHello 0 (some 1),
    .clientClose 0, .clientOpen ⟨2, 1⟩]

/-- The connection of the endpoint is that of the client that has left, which is found as the
participant, although there is none. -/
abbrev Stale (p : Process) : Prop :=
  p.fault = none ∧ p.controller.clients.accepted[0]?.map (·.isOpen) = some false ∧
    p.controller.clients.accepted[1]?.map (fun ws => (ws.remote, ws.isOpen)) = some (⟨2, 1⟩, true) ∧
      p.controller.clients.find? ⟨2, 1⟩ = some 0 ∧
        (Controller.clientConnection 1 1 p.controller).result.toOption = some 0 ∧
          ¬ (p.controller.session 1).participantExists 1 = true

theorem reconnected_stale : Stale (final (step plainEnv) (init plainConfig) reconnectEvents) := by
  decide +kernel

/-- Connections are not right once an endpoint is used again. -/
theorem reconnected_not_right :
    ¬ Always (WhileAlive Controller.ClientsRight) (step plainEnv) (init plainConfig) reconnectEvents := by
  intro h
  have hfinal := h.final
  have hstale := reconnected_stale
  generalize final (step plainEnv) (init plainConfig) reconnectEvents = p at *
  obtain ⟨halive, -, hopen, hfind, -, -⟩ := hstale
  obtain ⟨ws, hws, htuple⟩ := Option.map_eq_some_iff.mp hopen
  obtain ⟨hremote, hisOpen⟩ := Prod.mk.inj htuple
  have hcurrent := (hfinal halive).current 1 ws hws hisOpen
  rw [hremote, hfind] at hcurrent
  exact nomatch hcurrent

end Process

end Scallop
