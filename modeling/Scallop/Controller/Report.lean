import Scallop.Controller.Handlers
import Scallop.Wire

/-!
# The report of the controller

The answers of the controller to operators, `_onAPIGetSessions` and `_onAPIGetSession` of `controller/controller.cc`.

* `Controller.sessionsJson`, `Controller.sessionJson` : the answers; the second one can throw;
* `Session.Sorted` : participants send send streams and receive receive streams; `sorted_kept`, and one lemma for
  joins and one for leaves : the operations keep that; `handle_allSorted` : so does every event;
* `Session.Reported` : what a report says of a session; `Sorted.reported` : without an exception, all of it.
-/

namespace Scallop

open Machine Rpc

/-- An exception in an answer to operators. -/
inductive ApiError where
  | wire (e : WireError)
  | badVariantAccess
deriving DecidableEq, Repr

/-! ## The answers -/

namespace StreamConfig

/-- `std::get<SendStreamConfig>`. -/
def getSend : StreamConfig → Except ApiError SendStreamConfig
  | .send c => .ok c
  | .receive _ => .error .badVariantAccess

/-- `std::get<ReceiveStreamConfig>`. -/
def getReceive : StreamConfig → Except ApiError ReceiveStreamConfig
  | .send _ => .error .badVariantAccess
  | .receive c => .ok c

end StreamConfig

def DataPlaneConfig.json (c : DataPlaneConfig) : Json :=
  ((((Json.obj []).set "ip" (.str (IPv4.str c.addr.ip))).set "port" (.int c.addr.port.toNat)).set
    "ssrc" (.int c.mainSSRC.toNat)).set "rtxSsrc" (.int c.rtxSSRC.toNat)

def ReceiveStreamConfig.json (c : ReceiveStreamConfig) : Json :=
  (c.toDataPlaneConfig.json.set "rtcpSsrc" (.int c.rtcpSSRC.toNat)).set "rtcpRtxSsrc" (.int c.rtcpRtxSSRC.toNat)

/-- What is said of a participant, which goes by its key. -/
structure ParticipantReport where
  id : Nat
  sendStreams : List SendStreamConfig
  receiveStreams : List ReceiveStreamConfig
deriving DecidableEq, Repr

def ParticipantReport.json (r : ParticipantReport) : Json :=
  (((Json.obj []).set "id" (.int r.id)).set
    "sendStreams" (.arr (r.sendStreams.map fun c => c.toDataPlaneConfig.json))).set
    "receiveStreams" (.arr (r.receiveStreams.map ReceiveStreamConfig.json))

def Participant.incomingStreams (p : Participant) : List Stream := p.receivers.toList.flatMap fun e => e.2.streams

def Participant.report (id : Nat) (p : Participant) : Except ApiError ParticipantReport := do
  let sendStreams ← p.outgoingStreams.mapM fun s => s.dataPlaneConfig.getSend
  let receiveStreams ← p.incomingStreams.mapM fun s => s.dataPlaneConfig.getReceive
  return { id, sendStreams, receiveStreams }

def Session.reports (s : Session) : Except ApiError (List ParticipantReport) :=
  s.participants.toList.mapM fun e => e.2.report e.1

def sessionAnswer (id : Nat) (reports : List ParticipantReport) : Json :=
  (Json.null.set "type" (.str "session")).set "data"
    ((Json.null.set "id" (.int id)).set "participants" (.arr (reports.map ParticipantReport.json)))

/-- The answer when there is no such session. -/
def unknownSession (id : Nat) : Json :=
  (Json.null.set "type" (.str "error")).set "data"
    (Json.null.set "msg" (.str ("session with id " ++ toString id ++ " does not exist.")))

namespace Controller

/-- `_onAPIGetSession`. -/
def sessionJson (c : Controller) (id : Nat) : Except ApiError Json :=
  if ¬ c.sessionExists id then .ok (unknownSession id)
  else do
    let reports ← (c.session id).reports
    return sessionAnswer (c.session id).id reports

/-- An element of the answer to `get-sessions`. -/
def sessionSummary (s : Session) : Json :=
  (((Json.obj []).set "id" (.int s.id)).set "participants" (.int s.countParticipants)).set
    "streams" (.int s.countStreams)

/-- `_onAPIGetSessions`. -/
def sessionsJson (c : Controller) : Json :=
  (Json.null.set "type" (.str "sessions")).set "data"
    (Json.null.set "sessions" (.arr (c.sessions.toList.map fun e => sessionSummary e.2)))

end Controller

/-! ## What participants receive -/

namespace Session

/-- A session under its id, whose participants send send streams and receive receive streams. -/
structure Sorted (s : Session) (key : Nat) : Prop where
  id : s.id = key
  consistent : Consistent s
  receives : ∀ k, s.participantExists k = true → ∀ sender, ∀ stream ∈ ((s.participant k).receiver sender).streams,
    stream.isSend = false

section Sorted
variable {s s' : Session} {key id : Nat} {f : Participant → Participant}

theorem sorted_new {sfuConfig : SFUConfig} : Sorted { id, sfuConfig } id where
  id := rfl
  consistent := consistent_new
  receives _ hk := absurd hk not_participantExists_new

theorem Sorted.update (h : s.Sorted key) (hexists : s.participantExists id = true)
    (hconsistent : Consistent (s.update id f))
    (hf : ∀ sender, ∀ stream ∈ ((f (s.participant id)).receiver sender).streams,
      stream ∈ ((s.participant id).receiver sender).streams ∨ stream.isSend = false) :
    (s.update id f).Sorted key where
  id := h.id
  consistent := hconsistent
  receives k hk sender stream hstream := by
    by_cases heq : k = id
    · subst heq
      rw [participant_update_self] at hstream
      exact (hf sender stream hstream).elim (h.receives k hexists sender stream) fun h => h
    · rw [participant_update_of_ne heq] at hstream
      exact h.receives k ((participantExists_update.mp hk).resolve_left heq) sender stream hstream

theorem Sorted.change {n : Option Notification} (h : s.Sorted key) (hchange : Change s n s') : s'.Sorted key := by
  have hconsistent := h.consistent.change hchange
  cases hchange with
  | other hexists hf =>
      refine h.update hexists hconsistent fun sender stream hstream => .inl ?_
      rwa [hf.received] at hstream
  | send hexists hsend hmid hnew hs' =>
      subst hs'
      exact h.update hexists hconsistent fun _ _ hstream => .inl hstream
  | @receive _ _ sender _ _ _ hexists hsender hsent hsentMid hreceives hmid hnew hs' hinitiator =>
      subst hs'
      refine h.update hexists hconsistent fun sender' stream hstream => ?_
      by_cases heq : sender' = sender
      · rw [heq, Participant.receiver_updateReceiver_self] at hstream
        rcases List.mem_append.mp hstream with hstream | hstream
        · exact .inl (heq ▸ hstream)
        · exact .inr (List.mem_singleton.mp hstream ▸ hreceives.receive)
      · rw [Participant.receiver_updateReceiver_of_ne heq] at hstream
        exact .inl hstream

theorem sorted_kept : KeptBy onNewStream fun s (_ : Switches) => s.Sorted key where
  quiet h hchange := h.change hchange
  told h hchange _ := h.change hchange

theorem Sorted.joined {ip : String} {port : UInt16} (h : s.Sorted key) : (s.joined ip port).Sorted key where
  id := h.id
  consistent := h.consistent.joined
  receives k hk sender stream hstream := by
    by_cases heq : k = s.nextId
    · rw [heq, participant_joined_self, Participant.receiver, Std.ExtTreeMap.getD_empty] at hstream
      exact absurd hstream List.not_mem_nil
    · rw [participant_joined_of_ne heq] at hstream
      exact h.receives k ((participantExists_joined.mp hk).resolve_left heq) sender stream hstream

theorem Sorted.erase (h : s.Sorted key) (id : Nat) : (s.erase id).Sorted key where
  id := h.id
  consistent := h.consistent.erase id
  receives k hk sender stream hstream := by
    obtain ⟨hne, hk⟩ := participantExists_erase.mp hk
    rw [participant_erase_of_ne hne] at hstream
    exact h.receives k hk sender stream hstream

theorem addParticipant_sorted {ip : String} {port : UInt16} :
    Triple (·.Sorted key) (addParticipant ip port : SessionEff Switches (Nat × ClientMessage) Nat)
      (fun _ => (·.Sorted key)) fun _ _ => True := by
  refine Eff.triple_intro fun s₀ h₀ => ?_
  refine (addParticipant_joins s₀).mono (fun _ h => h) (fun id s hs => ?_) fun _ _ _ => trivial
  rw [hs.2.2]
  exact h₀.joined

theorem removeParticipant_sorted :
    Triple (·.Sorted key) (removeParticipant id : SessionEff Switches (Nat × ClientMessage) Unit)
      (fun _ => (·.Sorted key)) fun _ _ => True := by
  refine Eff.triple_get_bind fun s₀ h₀ => ?_
  refine Eff.triple_require_bind (fun _ => Eff.triple_modify ?_) fun _ _ _ => trivial
  rintro s rfl
  exact h₀.erase id

end Sorted

end Session

/-! ## Handlers -/

namespace Controller

def AllSorted (v : View) : Prop := ∀ k, (v.session k).Sorted k

section Handlers
variable {α : Type} {env : Env} {sessionId id i : Nat} {c₀ : Controller} {m : ClientMeta} {sdp : String}

theorem leads_sorted {P : Session → Prop} {prog : SessionEff Switches (Nat × ClientMessage) α}
    (h : Session.Triple (fun s => s.Sorted sessionId ∧ P s) prog (fun _ s => s.Sorted sessionId) fun _ _ => True) :
    Leads (fun v => AllSorted v ∧ P (v.session sessionId)) (onSession sessionId prog) (fun _ => AllSorted)
      fun _ _ => True := by
  refine Eff.triple_zoom h (fun c hc => ⟨hc.1 sessionId, hc.2⟩) (fun c a s hc hs k => ?_) fun _ _ _ _ _ => trivial
  show ((c.setSession sessionId s).session k).Sorted k
  by_cases heq : k = sessionId
  · rw [heq, session_setSession_self]
    exact hs
  · rw [session_setSession_of_ne heq]
    exact hc.1 k

theorem leads_of_makes {P Q : Session → Prop} {prog : SessionEff Switches (Nat × ClientMessage) α}
    (h : Session.Makes onNewStream (fun s _ => s.Sorted sessionId) P prog Q) :
    Leads (fun v => AllSorted v ∧ P (v.session sessionId)) (onSession sessionId prog) (fun _ => AllSorted)
      fun _ _ => True :=
  leads_sorted (h.mono (fun _ h => h) (fun _ _ h => h.1) fun _ _ _ => trivial)

theorem getOffer_allSorted : Leads AllSorted (onSession sessionId (Session.getOffer id)) (fun _ => AllSorted)
    fun _ _ => True :=
  (leads_of_makes (Session.getOffer_makes Session.sorted_kept)).pre fun _ h => ⟨h, trivial⟩

theorem getAnswer_allSorted : Leads AllSorted (onSession sessionId (Session.getAnswer id)) (fun _ => AllSorted)
    fun _ _ => True :=
  (leads_of_makes (Session.getAnswer_makes Session.sorted_kept)).pre fun _ h => ⟨h, trivial⟩

theorem forwardOffers_allSorted {ids : List Nat} :
    Leads AllSorted (forwardOffers env sessionId id ids) (fun _ => AllSorted) fun _ _ => True :=
  forwardOffers_triple (L := fun _ => AllSorted) (fun _ h => h) (fun _ _ h => h)
    fun _ _ _ => getOffer_allSorted.mono (fun _ h => h) (fun _ _ h => ⟨h, fun _ => trivial⟩) fun _ _ h => h

theorem completeTransaction_allSorted : Leads AllSorted (completeTransaction env sessionId) (fun _ => AllSorted)
    fun _ _ => True :=
  completeTransaction_triple (fun _ _ _ => trivial) (fun _ h _ => h) (fun _ _ _ _ _ => trivial)
    fun _ => getAnswer_allSorted.pre fun _ h => h.1

theorem onNewParticipant_allSorted {remote : IPv4Port} (h₀ : AllSorted c₀.view) :
    Eff.Triple (· = c₀) (onNewParticipant env i remote (some sessionId)) (fun _ c => AllSorted c.view)
      fun _ _ => True := by
  refine onNewParticipant_triple (E := fun _ _ => True) (J := fun _ => AllSorted) (fun _ _ _ => trivial)
    (fun _ _ _ _ => trivial) h₀ (fun _ _ h _ => h) ?_ fun _ _ => getOffer_allSorted.pre fun _ h => h.1
  refine (leads_sorted (P := fun _ => True) (Session.addParticipant_sorted.pre fun _ h => h.1)).pre ?_
  intro c hc
  rw [hc]
  exact ⟨h₀, trivial⟩

theorem onClientClose_allSorted (h₀ : AllSorted c₀.view) :
    Eff.Triple (fun c => c.view = c₀.view) (onClientClose m) (fun _ c => AllSorted c.view) fun _ _ => True := by
  refine onClientClose_triple (E := fun _ _ => True) h₀ fun _ => ?_
  refine (leads_sorted (P := fun _ => True) (Session.removeParticipant_sorted.pre fun _ h => h.1)).pre ?_
  intro c hc
  rw [hc]
  exact ⟨h₀, trivial⟩

theorem onClientOffer_allSorted (h₀ : AllSorted c₀.view) :
    Eff.Triple (· = c₀) (onClientOffer env i sdp) (fun _ c => AllSorted c.view) fun _ _ => True := by
  refine onClientOffer_triple (E := fun _ _ => True) (B := AllSorted) rfl (fun _ _ _ => trivial) h₀
    (fun offer _ _ => ?_) (fun ids => ?_) (getAnswer_allSorted.pre fun _ h => h.1)
  · refine (leads_of_makes (Session.addOffer_makes Session.sorted_kept)).pre ?_
    intro c hc
    rw [hc]
    exact ⟨h₀, trivial⟩
  · exact forwardOffers_allSorted.pre fun _ h => h.1

theorem onClientAnswer_allSorted (h₀ : AllSorted c₀.view) :
    Eff.Triple (· = c₀) (onClientAnswer env i sdp) (fun _ c => AllSorted c.view) fun _ _ => True := by
  refine onClientAnswer_triple (E := fun _ _ => True) (A := AllSorted) rfl (fun _ _ _ => trivial) h₀
    (fun answer _ hexists => ?_) completeTransaction_allSorted
  refine (leads_of_makes (Session.addAnswer_makes Session.sorted_kept)).pre ?_
  intro c hc
  rw [hc]
  exact ⟨h₀, (h₀ _).consistent, hexists⟩

/-- Every event keeps the sessions sorted, unless it ends the process. -/
theorem handle_allSorted (event : Event) (h₀ : AllSorted c₀.view) :
    Eff.Triple (· = c₀) (handle env event) (fun _ c => AllSorted c.view) fun _ _ => True :=
  handle_triple (E := fun _ _ => True) event (fun _ _ _ => trivial) h₀
    (fun _ _ _ _ _ _ _ => onNewParticipant_allSorted h₀) (fun _ _ _ _ _ _ _ => onClientOffer_allSorted h₀)
    (fun _ _ _ _ _ _ _ => onClientAnswer_allSorted h₀) fun _ _ _ _ _ => onClientClose_allSorted h₀

end Handlers

theorem allSorted_init {sfuConfig : SFUConfig} : AllSorted ({ sfuConfig } : Controller).view := by
  intro k
  have hsession : ({ sfuConfig } : Controller).view.session k = { id := k, sfuConfig } := session_new
  rw [hsession]
  exact Session.sorted_new

end Controller

/-- While the controller runs, its sessions are sorted. -/
theorem Process.allSorted (env : Env) (sfuConfig : SFUConfig) (events : List Event)
    (hfault : (final (step env) (init sfuConfig) events).fault = none) :
    Controller.AllSorted (final (step env) (init sfuConfig) events).controller.view := by
  have hmeets : (final (step env) (init sfuConfig) events).Meets Controller.AllSorted fun _ _ => True :=
    (always_of_handle (P := fun _ _ => True) Controller.allSorted_init
      (fun p event _ h => Controller.handle_allSorted event h)
      (Along.of_forall (fun _ _ => trivial) (init sfuConfig) events)).final
  unfold Meets at hmeets
  rwa [hfault] at hmeets

/-! ## Reports -/

structure ParticipantReport.Of (r : ParticipantReport) (id : Nat) (p : Participant) : Prop where
  id : r.id = id
  sendStreams : p.outgoingStreams.map Stream.dataPlaneConfig = r.sendStreams.map .send
  receiveStreams : p.incomingStreams.map Stream.dataPlaneConfig = r.receiveStreams.map .receive

/-- What reports say of a session: every participant, with all of its streams. -/
def Session.Reported (s : Session) (reports : List ParticipantReport) : Prop :=
  List.Forall₂ (fun e r => ParticipantReport.Of r e.1 e.2) s.participants.toList reports

theorem Participant.mem_incomingStreams {p : Participant} {stream : Stream} :
    stream ∈ p.incomingStreams ↔ ∃ sender, stream ∈ (p.receiver sender).streams := by
  unfold incomingStreams
  rw [List.mem_flatMap]
  constructor
  · rintro ⟨e, he, hstream⟩
    refine ⟨e.1, ?_⟩
    rw [receiver, Std.ExtTreeMap.getD_eq_getD_getElem?, Std.ExtTreeMap.mem_toList_iff_getElem?_eq_some.mp he]
    exact hstream
  · rintro ⟨sender, hstream⟩
    rw [receiver, Std.ExtTreeMap.getD_eq_getD_getElem?] at hstream
    cases ht : p.receivers[sender]? with
    | none =>
        rw [ht] at hstream
        exact absurd hstream List.not_mem_nil
    | some t =>
        rw [ht] at hstream
        exact ⟨(sender, t), Std.ExtTreeMap.mem_toList_iff_getElem?_eq_some.mpr ht, hstream⟩

section Reports
variable {config : StreamConfig} {streams : List Stream}

theorem eq_of_getSend {c : SendStreamConfig} (h : config.getSend = .ok c) : config = .send c := by
  cases config with
  | send c' => rw [Except.ok.inj h]
  | receive c' => cases h

theorem eq_of_getReceive {c : ReceiveStreamConfig} (h : config.getReceive = .ok c) : config = .receive c := by
  cases config with
  | send c' => cases h
  | receive c' => rw [Except.ok.inj h]

theorem getSend_isOk {stream : Stream} (h : stream.isSend = true) : ∃ c, stream.dataPlaneConfig.getSend = .ok c := by
  unfold Stream.isSend at h
  cases hconfig : stream.dataPlaneConfig with
  | send c => exact ⟨c, rfl⟩
  | receive c =>
      rw [hconfig] at h
      exact absurd h Bool.false_ne_true

theorem getReceive_isOk {stream : Stream} (h : stream.isSend = false) :
    ∃ c, stream.dataPlaneConfig.getReceive = .ok c := by
  unfold Stream.isSend at h
  cases hconfig : stream.dataPlaneConfig with
  | receive c => exact ⟨c, rfl⟩
  | send c =>
      rw [hconfig] at h
      exact absurd h.symm Bool.false_ne_true

/-- Configurations that are all of the kind that is asked for. -/
theorem map_eq_of_configs {κ : Type} {get : StreamConfig → Except ApiError κ} {make : κ → StreamConfig} {cs : List κ}
    (hget : ∀ config c, get config = .ok c → config = make c)
    (h : (streams.mapM fun s => get s.dataPlaneConfig) = .ok cs) :
    streams.map Stream.dataPlaneConfig = cs.map make := by
  have hall : List.Forall₂ (fun s c => s.dataPlaneConfig = make c) streams cs :=
    (Except.of_mapM_ok h).imp fun s c => hget (Stream.dataPlaneConfig s) c
  rw [← List.forall₂_eq_eq_eq, List.forall₂_map_left_iff, List.forall₂_map_right_iff]
  exact hall

theorem Participant.report_of {id : Nat} {p : Participant} {r : ParticipantReport} (h : p.report id = .ok r) :
    r.Of id p := by
  obtain ⟨sends, hsends, h⟩ := Except.of_bind_ok h
  obtain ⟨receives, hreceives, h⟩ := Except.of_bind_ok h
  obtain rfl := Except.ok.inj h
  exact ⟨rfl, map_eq_of_configs (fun _ _ => eq_of_getSend) hsends,
    map_eq_of_configs (fun _ _ => eq_of_getReceive) hreceives⟩

theorem Session.reported_of {s : Session} {reports : List ParticipantReport} (h : s.reports = .ok reports) :
    s.Reported reports :=
  (Except.of_mapM_ok h).imp fun _ _ => Participant.report_of

/-- A report of a participant is that of its key. -/
theorem Session.Reported.of_mem {s : Session} {reports : List ParticipantReport} {r : ParticipantReport}
    (h : s.Reported reports) (hr : r ∈ reports) : s.participantExists r.id = true ∧ r.Of r.id (s.participant r.id) := by
  obtain ⟨i, hi, rfl⟩ := List.mem_iff_getElem.mp hr
  have hlt : i < s.participants.toList.length := h.length_eq.symm ▸ hi
  have hof := List.Forall₂.get h hlt hi
  have hp : s.participants[s.participants.toList[i].1]? = some s.participants.toList[i].2 :=
    Std.ExtTreeMap.mem_toList_iff_getElem?_eq_some.mp (List.getElem_mem hlt)
  have hid : reports[i].id = s.participants.toList[i].1 := hof.id
  rw [hid, participant_of_some hp]
  refine ⟨?_, hof⟩
  rw [participantExists_iff, hp]
  rfl

/-- **Reports.** A sorted session is reported without an exception, with all of its streams. -/
theorem Session.Sorted.reported {s : Session} {key : Nat} (h : s.Sorted key) :
    ∃ reports, s.reports = .ok reports ∧ s.Reported reports := by
  have hone : ∀ e ∈ s.participants.toList, ∃ r, e.2.report e.1 = .ok r := by
    rintro ⟨k, p⟩ he
    have hp : s.participants[k]? = some p := Std.ExtTreeMap.mem_toList_iff_getElem?_eq_some.mp he
    have hexists : s.participantExists k = true := by
      rw [participantExists_iff, hp]
      rfl
    obtain rfl := participant_of_some hp
    obtain ⟨sends, hsends⟩ := Except.exists_mapM_ok fun stream hstream =>
      getSend_isOk (h.consistent.sends k hexists stream hstream)
    obtain ⟨receives, hreceives⟩ := Except.exists_mapM_ok fun stream hstream => by
      obtain ⟨sender, hstream⟩ := Participant.mem_incomingStreams.mp hstream
      exact getReceive_isOk (h.receives k hexists sender stream hstream)
    refine ⟨⟨k, sends, receives⟩, ?_⟩
    unfold Participant.report
    dsimp only
    rw [hsends, Except.bind_ok, hreceives]
    rfl
  obtain ⟨reports, hreports⟩ := Except.exists_mapM_ok hone
  exact ⟨reports, hreports, reported_of hreports⟩

end Reports

end Scallop
