import Scallop.Controller.Report
import Scallop.SwitchAgent.Api

/-!
# The operators' side of the controller

`ControllerAPI` of `lib/controller_api.cc`, with the texts that come in, over the handlers of
`controller/controller.cc` and any JSON library.

* `ControllerAPI.parseMessage`, `onMessage` : what a text makes the controller do;
* `ControllerProcess.step` : the controller among events and texts; a text can end it, and so can a connection that
  fails;
* `Ends`, `ends_iff` : the texts that do, and what they look like;
* `ControllerProcess.texts_only_read` : texts change nothing, and a session that exists is reported.
-/

namespace Scallop

open Machine Rpc

inductive ControllerRequest where
  | getSessions
  | getSession (id : Nat)
deriving DecidableEq, Repr

/-- What the controller does: messages to clients, and texts to operators. -/
inductive ControllerOutput where
  | client (i : Nat) (m : ClientMessage)
  | write (text : Buf)

def ControllerOutput.toClient : ControllerOutput → Option (Nat × ClientMessage)
  | .client i m => some (i, m)
  | .write _ => none

/-- A program of the controller, with its operators. -/
abbrev ControllerEff := Eff Controller ControllerOutput ApiError

namespace ControllerAPI

/-! ## Texts -/

def isRequest (type : Option Json) : Bool := isString "get-session" type || isString "get-sessions" type

def parseMessage (lib : JsonLibrary) (buf : Buf) : Option Json :=
  (lib.parse buf).filter fun msg => isRequest (msg.field "type")

/-- The argument of `onGetSession`. -/
def sessionId (msg : Json) : Except WireError Nat := SwitchAPI.element "data" msg >>= SwitchAPI.argument "id"

def onMessage (lib : JsonLibrary) (buf : Buf) : ControllerEff Unit :=
  match parseMessage lib buf with
  | none => return ()
  | some msg =>
      if isString "get-sessions" (msg.field "type") then do
        let c ← Eff.get
        Eff.emit (.write (lib.dump c.sessionsJson))
      else if isString "get-session" (msg.field "type") then do
        let id ← Eff.ofExcept ((sessionId msg).mapError ApiError.wire)
        let c ← Eff.get
        let response ← Eff.ofExcept (c.sessionJson id)
        Eff.emit (.write (lib.dump response))
      else return ()

end ControllerAPI

/-! ## The controller -/

/-- Something that happens to the controller; `apiError` is an exception of an operator's connection. -/
inductive ControllerEvent where
  | event (e : Event)
  | api (buf : Buf)
  | apiError (what : String)

namespace ControllerEvent

def handle (lib : JsonLibrary) (env : Env) : ControllerEvent → ControllerEff Unit
  | event e => Eff.mapError (fun err => .wire (.fault err))
      (Eff.zoom id (fun c _ => c) (fun w => .client w.1 w.2) (Controller.handle env e))
  | api buf => ControllerAPI.onMessage lib buf
  | apiError what => Eff.throw (.wire (.fault (.runtimeError what)))

end ControllerEvent

structure ControllerProcess where
  controller : Controller
  error : Option ApiError := none

namespace ControllerProcess

/-- One event; `Controller::operator()` returns after an exception. -/
def step (lib : JsonLibrary) (env : Env) (p : ControllerProcess) (x : ControllerEvent) :
    ControllerProcess × List ControllerOutput :=
  match p.error with
  | some _ => (p, [])
  | none =>
      let out := x.handle lib env p.controller
      match out.result with
      | .ok () => ({ controller := out.state }, out.effects)
      | .error e => ({ controller := out.state, error := some e }, out.effects)

/-- A controller without texts, as one with texts. -/
def ofProcess (p : Process) : ControllerProcess where
  controller := p.controller
  error := p.fault.map fun e => .wire (.fault e)

def init (sfuConfig : SFUConfig) : ControllerProcess := ofProcess (Process.init sfuConfig)

end ControllerProcess

/-! ## What a text asks for -/

namespace ControllerAPI

/-- The request in a text, or why there is none. -/
def request (lib : JsonLibrary) (buf : Buf) : Option (Except WireError ControllerRequest) :=
  (parseMessage lib buf).map fun msg =>
    if isString "get-sessions" (msg.field "type") then .ok .getSessions
    else (sessionId msg).map .getSession

/-- A text that ends the controller: it asks for a session whose id is no number. -/
def Ends (lib : JsonLibrary) (buf : Buf) : Prop := ∃ msg, lib.parse buf = some msg ∧
  msg.field "type" = some (.str "get-session") ∧
  ¬ ∃ data y, msg.field "data" = some data ∧ data.field "id" = some y ∧ SwitchAPI.IsNumeric y

section Texts
variable {lib : JsonLibrary} {buf : Buf} {msg : Json} {c : Controller}

theorem parseMessage_eq_some : parseMessage lib buf = some msg ↔
    lib.parse buf = some msg ∧ isRequest (msg.field "type") = true := Option.filter_eq_some_iff

/-- The type of a message that asks for something other than all sessions. -/
theorem type_of_isRequest (h : isRequest (msg.field "type") = true)
    (hother : ¬ isString "get-sessions" (msg.field "type") = true) : msg.field "type" = some (.str "get-session") := by
  unfold isRequest at h
  rw [Bool.eq_false_iff.mpr hother, Bool.or_false] at h
  exact SwitchAPI.isString_iff.mp h

/-- A session is asked for by the number in the data. -/
theorem sessionId_isOk_iff {x : Json} (htype : msg.field "type" = some x) : (∃ id, sessionId msg = .ok id) ↔
    ∃ data y, msg.field "data" = some data ∧ data.field "id" = some y ∧ SwitchAPI.IsNumeric y := by
  have helement : sessionId msg = SwitchAPI.argument "id" ((msg.field "data").getD .null) := by
    cases msg with
    | obj ms => rfl
    | _ => cases htype
  rw [helement, SwitchAPI.argument_isOk_iff]
  cases msg.field "data" with
  | none =>
      constructor
      · rintro ⟨y, hy, -⟩
        cases hy
      · rintro ⟨data, y, hdata, -⟩
        cases hdata
  | some data =>
      constructor
      · rintro ⟨y, hy⟩
        exact ⟨data, y, rfl, hy⟩
      · rintro ⟨data', y, hdata, hy⟩
        rw [← Option.some.inj hdata] at hy
        exact ⟨y, hy⟩

/-- An exception is raised for these texts, before a handler is called. -/
theorem ends_iff : Ends lib buf ↔ ∃ e, request lib buf = some (.error e) := by
  constructor
  · rintro ⟨msg, hparse, htype, hno⟩
    have hmsg : parseMessage lib buf = some msg := by
      refine parseMessage_eq_some.mpr ⟨hparse, ?_⟩
      rw [htype]
      decide
    unfold request
    rw [hmsg, Option.map_some, htype, if_neg (by decide)]
    rw [← sessionId_isOk_iff htype] at hno
    cases hid : sessionId msg with
    | ok id => exact absurd ⟨id, hid⟩ hno
    | error e => exact ⟨e, rfl⟩
  · rintro ⟨e, he⟩
    obtain ⟨msg, hmsg, hr⟩ := Option.map_eq_some_iff.mp he
    obtain ⟨hparse, hrequest⟩ := parseMessage_eq_some.mp hmsg
    split at hr
    · cases hr
    · rename_i hother
      have htype := type_of_isRequest hrequest hother
      refine ⟨msg, hparse, htype, ?_⟩
      rw [← sessionId_isOk_iff htype]
      rintro ⟨id, hid⟩
      rw [hid] at hr
      cases hr

/-! ## What a text does -/

def answer (c : Controller) : ControllerRequest → Except ApiError Json
  | .getSessions => .ok c.sessionsJson
  | .getSession id => c.sessionJson id

theorem onMessage_of_none (h : request lib buf = none) : onMessage lib buf c = ⟨c, [], .ok ()⟩ := by
  unfold onMessage
  rw [Option.map_eq_none_iff.mp h]
  rfl

theorem onMessage_of_error {e : WireError} (h : request lib buf = some (.error e)) :
    onMessage lib buf c = ⟨c, [], .error (.wire e)⟩ := by
  obtain ⟨msg, hmsg, hr⟩ := Option.map_eq_some_iff.mp h
  unfold onMessage
  rw [hmsg]
  dsimp only
  split at hr
  · cases hr
  · rename_i hother
    rw [if_neg hother, if_pos (SwitchAPI.isString_iff.mpr
      (type_of_isRequest (parseMessage_eq_some.mp hmsg).2 hother))]
    cases hid : sessionId msg with
    | ok id =>
        rw [hid] at hr
        cases hr
    | error e' =>
        rw [hid] at hr
        cases hr
        rfl

theorem onMessage_of_ok {r : ControllerRequest} {j : Json} (h : request lib buf = some (.ok r))
    (hanswer : answer c r = .ok j) : onMessage lib buf c = ⟨c, [.write (lib.dump j)], .ok ()⟩ := by
  obtain ⟨msg, hmsg, hr⟩ := Option.map_eq_some_iff.mp h
  unfold onMessage
  rw [hmsg]
  dsimp only
  split at hr
  · rename_i hall
    cases hr
    cases hanswer
    rw [if_pos hall]
    rfl
  · rename_i hother
    rw [if_neg hother, if_pos (SwitchAPI.isString_iff.mpr
      (type_of_isRequest (parseMessage_eq_some.mp hmsg).2 hother))]
    cases hid : sessionId msg with
    | error e =>
        rw [hid] at hr
        cases hr
    | ok id =>
        rw [hid] at hr
        cases hr
        have hjson : c.sessionJson id = .ok j := hanswer
        show (Eff.get >>= fun c : Controller => Eff.ofExcept (c.sessionJson id) >>= fun response : Json =>
          Eff.emit (ControllerOutput.write (lib.dump response))) c = _
        rw [Eff.get_bind_run, hjson, Eff.ofExcept_ok_bind]
        rfl

theorem answer_of_exists {id : Nat} (hsorted : Controller.AllSorted c.view) (hexists : c.sessionExists id = true) :
    ∃ reports, (c.session id).Reported reports ∧
      answer c (.getSession id) = .ok (sessionAnswer id reports) := by
  obtain ⟨reports, hreports, hreported⟩ := (hsorted id).reported
  refine ⟨reports, hreported, ?_⟩
  show (if ¬ c.sessionExists id = true then _ else _) = _
  have hreports : (c.session id).reports = .ok reports := hreports
  have hid : (c.session id).id = id := (hsorted id).id
  rw [if_neg (not_not.mpr hexists), hreports, hid]
  rfl

theorem answer_isOk (hsorted : Controller.AllSorted c.view) (r : ControllerRequest) : ∃ j, answer c r = .ok j := by
  cases r with
  | getSessions => exact ⟨_, rfl⟩
  | getSession id =>
      by_cases hexists : c.sessionExists id = true
      · obtain ⟨reports, -, hanswer⟩ := answer_of_exists hsorted hexists
        exact ⟨_, hanswer⟩
      · exact ⟨_, if_pos hexists⟩

/-- A text that does not end the controller changes nothing, and no client is told anything. -/
theorem onMessage_reads (hsorted : Controller.AllSorted c.view) (h : ¬ Ends lib buf) :
    ∃ texts : List Buf, onMessage lib buf c = ⟨c, texts.map ControllerOutput.write, .ok ()⟩ := by
  cases hrequest : request lib buf with
  | none => exact ⟨[], onMessage_of_none hrequest⟩
  | some r =>
      cases r with
      | error e => exact absurd (ends_iff.mpr ⟨e, hrequest⟩) h
      | ok r =>
          obtain ⟨j, hj⟩ := answer_isOk hsorted r
          exact ⟨[lib.dump j], onMessage_of_ok hrequest hj⟩

end Texts

end ControllerAPI

namespace ControllerEvent

def events : ControllerEvent → List Event
  | event e => [e]
  | _ => []

/-- An event that ends the controller before a handler is called. -/
def Ends (lib : JsonLibrary) : ControllerEvent → Prop
  | event _ => False
  | api buf => ControllerAPI.Ends lib buf
  | apiError _ => True

end ControllerEvent

/-! ## Runs -/

namespace ControllerProcess

section Step
variable {lib : JsonLibrary} {env : Env} {p : ControllerProcess} {q : Process} {x : ControllerEvent} {buf : Buf}

theorem step_of_error {e : ApiError} (h : p.error = some e) : step lib env p x = (p, []) := by
  unfold step
  rw [h]

theorem step_event (e : Event) : step lib env (ofProcess q) (.event e) =
    (ofProcess (q.step env e).1, (q.step env e).2.map fun w => .client w.1 w.2) := by
  unfold step Process.step ofProcess
  cases hfault : q.fault with
  | some err =>
      dsimp only [Option.map_some]
      rw [hfault]
      rfl
  | none =>
      dsimp only [Option.map_none, ControllerEvent.handle, Eff.mapError, Eff.zoom, id_eq]
      cases (Controller.handle env e q.controller).result with
      | ok a => rfl
      | error err => rfl

theorem step_text (hsorted : q.Meets Controller.AllSorted fun _ _ => True) (h : ¬ ControllerAPI.Ends lib buf) :
    (step lib env (ofProcess q) (.api buf)).1 = ofProcess q ∧
      (step lib env (ofProcess q) (.api buf)).2.filterMap ControllerOutput.toClient = [] := by
  cases hfault : q.fault with
  | some err =>
      have herror : (ofProcess q).error = some (.wire (.fault err)) := by
        unfold ofProcess
        rw [hfault]
        rfl
      rw [step_of_error herror]
      exact ⟨rfl, rfl⟩
  | none =>
      unfold Process.Meets at hsorted
      rw [hfault] at hsorted
      obtain ⟨texts, hrun⟩ := ControllerAPI.onMessage_reads hsorted h
      unfold step ofProcess
      rw [hfault]
      dsimp only [Option.map_none, ControllerEvent.handle]
      rw [hrun]
      refine ⟨rfl, ?_⟩
      rw [List.filterMap_map]
      exact List.filterMap_eq_nil_iff.mpr fun _ _ => rfl

theorem step_of_ends (h : x.Ends lib) : (step lib env p x).1.error ≠ none := by
  cases x with
  | event e => exact h.elim
  | apiError what =>
      cases herror : p.error with
      | some e =>
          rw [step_of_error herror, herror]
          exact Option.some_ne_none e
      | none =>
          unfold step
          rw [herror]
          exact Option.some_ne_none _
  | api buf =>
      cases herror : p.error with
      | some e =>
          rw [step_of_error herror, herror]
          exact Option.some_ne_none e
      | none =>
          obtain ⟨e, he⟩ := ControllerAPI.ends_iff.mp h
          unfold step
          rw [herror]
          dsimp only [ControllerEvent.handle]
          rw [ControllerAPI.onMessage_of_error he]
          exact Option.some_ne_none _

end Step

section Runs
variable {lib : JsonLibrary} {env : Env} {xs : List ControllerEvent}

theorem refines_process (h : ∀ x ∈ xs, ¬ x.Ends lib) {q : Process} (hq : q.Meets Controller.AllSorted fun _ _ => True) :
    final (step lib env) (ofProcess q) xs = ofProcess (final (Process.step env) q (xs.flatMap ControllerEvent.events)) ∧
      (outputs (step lib env) (ofProcess q) xs).flatten.filterMap ControllerOutput.toClient =
        (outputs (Process.step env) q (xs.flatMap ControllerEvent.events)).flatten := by
  induction xs generalizing q with
  | nil => exact ⟨rfl, rfl⟩
  | cons x xs ih =>
      have hrest : ∀ y ∈ xs, ¬ y.Ends lib := fun y hy => h y (List.mem_cons_of_mem _ hy)
      rw [final_cons, outputs_cons, List.flatten_cons, List.filterMap_append, List.flatMap_cons]
      cases x with
      | event e =>
          obtain ⟨hfinal, houtputs⟩ := ih hrest (Process.step_meets hq (Controller.handle_allSorted e))
          rw [step_event, hfinal, houtputs, List.filterMap_map]
          refine ⟨rfl, ?_⟩
          show _ = (outputs (Process.step env) q (e :: xs.flatMap ControllerEvent.events)).flatten
          rw [outputs_cons, List.flatten_cons]
          exact congrArg (· ++ _) List.filterMap_some
      | apiError what => exact absurd trivial (h _ List.mem_cons_self)
      | api buf =>
          obtain ⟨hstate, htold⟩ := @step_text lib env q buf hq (h _ List.mem_cons_self)
          rw [hstate, htold]
          exact ih hrest hq

theorem final_of_error {p : ControllerProcess} (h : p.error ≠ none) : final (step lib env) p xs = p := by
  obtain ⟨e, he⟩ := Option.ne_none_iff_exists'.mp h
  induction xs with
  | nil => rfl
  | cons x xs ih =>
      rw [final_cons, step_of_error he]
      exact ih

theorem none_ends {p : ControllerProcess} (hrun : (final (step lib env) p xs).error = none) :
    ∀ x ∈ xs, ¬ x.Ends lib := by
  intro x hx hends
  obtain ⟨before, after, rfl⟩ := List.append_of_mem hx
  have hstopped := @step_of_ends lib env (final (step lib env) p before) x hends
  rw [final_append, final_cons, final_of_error hstopped] at hrun
  exact hstopped hrun

/-- **Texts of operators.** With any JSON library: a run of the controller in which no text and no connection of an
operator ends it is the run without the texts, in the same state and with the same messages to clients. The controller
is still running just when none of them has ended it and no event has, and then a session that exists is reported, with
all participants and all of their streams. -/
theorem texts_only_read (lib : JsonLibrary) (env : Env) (sfuConfig : SFUConfig) (xs : List ControllerEvent) :
    let p := final (step lib env) (init sfuConfig) xs
    let events := xs.flatMap ControllerEvent.events
    let q := final (Process.step env) (Process.init sfuConfig) events
    ((∀ x ∈ xs, ¬ x.Ends lib) → p = ofProcess q ∧
      (outputs (step lib env) (init sfuConfig) xs).flatten.filterMap ControllerOutput.toClient =
        (outputs (Process.step env) (Process.init sfuConfig) events).flatten) ∧
    (p.error = none ↔ (∀ x ∈ xs, ¬ x.Ends lib) ∧ q.fault = none) ∧
    (p.error = none → ∀ buf id, ControllerAPI.request lib buf = some (.ok (.getSession id)) →
      p.controller.sessionExists id = true → ∃ reports, (p.controller.session id).Reported reports ∧
        ControllerAPI.onMessage lib buf p.controller =
          ⟨p.controller, [.write (lib.dump (sessionAnswer id reports))], .ok ()⟩) := by
  intro p events q
  have hsame : (∀ x ∈ xs, ¬ x.Ends lib) → p = ofProcess q ∧ _ :=
    fun h => refines_process h (q := Process.init sfuConfig) Controller.allSorted_init
  have hfault : ∀ q : Process, (ofProcess q).error = none ↔ q.fault = none := fun q => Option.map_eq_none_iff
  refine ⟨hsame, ⟨fun hrun => ?_, ?_⟩, fun hrun buf id hrequest hexists => ?_⟩
  · have hnone := none_ends hrun
    rw [(hsame hnone).1, hfault] at hrun
    exact ⟨hnone, hrun⟩
  · rintro ⟨hnone, hrun⟩
    rw [(hsame hnone).1, hfault]
    exact hrun
  · have hp := (hsame (none_ends hrun)).1
    rw [hp, hfault] at hrun
    have hsorted := Process.allSorted env sfuConfig events hrun
    rw [hp] at hexists ⊢
    obtain ⟨reports, hreported, hanswer⟩ := ControllerAPI.answer_of_exists hsorted hexists
    exact ⟨reports, hreported, ControllerAPI.onMessage_of_ok hrequest hanswer⟩

end Runs

end ControllerProcess

end Scallop
