import Scallop.SwitchAgent.Report
import Scallop.Util.Strings

/-!
# The operators' side of a switch

`SwitchAPI` of `lib/switch_api.cc`, with the texts that come in, over the handlers of `lib/switch_agent.h` and any JSON
library.

* `SwitchAPI.parseMessage`, `setDecodeTargetArgs`, `onMessage` : what a text makes the agent do;
* `AgentProcess.step` : the agent among messages, datagrams and texts; a text can end it, and so can a connection that
  fails;
* `Ends`, `ends_iff` : the texts that do, and what they look like;
* `AgentEvent.events` : the event of a text; `AgentProcess.run_refines` : a run with texts is the run with their
  events, up to the first text or connection that ends the agent.
-/

namespace Scallop

open Machine Rpc

structure DecodeTargetRequest where
  sessionId : Nat
  ssrc : SSRC
  participantId : Nat
  decodeTarget : Nat
deriving DecidableEq, Repr

/-- What the agent does: what its handlers do, and texts to operators. -/
inductive AgentOutput where
  | send (toAddr : IPv4Port) (buf : Buf)
  | process (handler : RtcpHandler) (sender : IPv4Port) (packet : Buf)
  | write (text : Buf)
deriving DecidableEq, Repr

namespace SwitchAPI

/-! ## Texts -/

def isRequest (type : Option Json) : Bool := isString "get-streams" type || isString "set-decode-target" type

/-- What `_parseMessage` reads. -/
def readMessage (lib : JsonLibrary) (buf : Buf) : Option Json :=
  (lib.parse buf).filter fun msg => isRequest (msg.field "type")

/-- `_parseMessage`. In its `catch` block the text is copied for the log. -/
def parseMessage (lib : JsonLibrary) (buf : Buf) : Except Fault (Option Json) :=
  match readMessage lib buf with
  | some msg => .ok (some msg)
  | none => (Util.bufferString buf).map fun _ => none

/-- `basic_json::operator[]`: of `null` it makes an object; a member that is missing is `null`. -/
def element (key : String) : Json → Except WireError Json
  | .null => .ok .null
  | .obj ms => .ok ((Json.find key ms).getD .null)
  | x => .error (.typeError
      ("[json.exception.type_error.305] cannot use operator[] with a string argument with " ++ typeName x))

/-- An argument of `onSetDecodeTarget`. -/
def argument (key : String) (args : Json) : Except WireError Nat := element key args >>= getUnsigned

/-- The arguments of `onSetDecodeTarget`. In which order they are converted is left to the compiler; the exception
here is that of the first. -/
def setDecodeTargetArgs (args : Json) : Except WireError DecodeTargetRequest := do
  let sessionId ← argument "session-id" args
  let ssrc ← argument "ssrc" args
  let participantId ← argument "participant-id" args
  let decodeTarget ← argument "decode-target" args
  return { sessionId, ssrc := UInt32.ofNat ssrc, participantId, decodeTarget }

/-- The answer of `_onAPISetDecodeTarget`. -/
def setDecodeTargetJson (ok : Bool) : Json := Json.null.set "type" (.str (if ok then "ok" else "error"))

end SwitchAPI

/-- What the agent makes of what a handler does. -/
def AgentOutput.ofEffect (lib : JsonLibrary) : SwitchEffect → AgentOutput
  | .send toAddr buf => .send toAddr buf
  | .process handler sender packet => .process handler sender packet
  | .response ok => .write (lib.dump (SwitchAPI.setDecodeTargetJson ok))

abbrev AgentEff := Eff Switch AgentOutput WireError

def AgentEff.ofSwitch {α : Type} (lib : JsonLibrary) (m : SwitchEff α) : AgentEff α :=
  Eff.mapError WireError.fault (Eff.zoom id (fun sw _ => sw) (AgentOutput.ofEffect lib) m)

def SwitchAPI.onMessage (lib : JsonLibrary) (o : WalkOrder) (buf : Buf) : AgentEff Unit := do
  match ← Eff.ofExcept ((parseMessage lib buf).mapError .fault) with
  | none => return ()
  | some msg =>
      if isString "get-streams" (msg.field "type") then do
        let sw ← Eff.get
        Eff.emit (.write (lib.dump (SwitchAgentState.streamsJson o sw.agent)))
      else if isString "set-decode-target" (msg.field "type") then do
        let r ← Eff.ofExcept (element "args" msg >>= setDecodeTargetArgs)
        AgentEff.ofSwitch lib (Switch.onAPISetDecodeTarget o r.sessionId r.ssrc r.participantId r.decodeTarget)
      else return ()

/-! ## The agent -/

/-- Something that happens to the agent; `apiError` is an exception of an operator's connection. -/
inductive AgentEvent where
  | addStream (m : Rpc.AddStream)
  | packet (lost : Bool) (sender : IPv4Port) (buf : Buf)
  | api (buf : Buf)
  | apiError (what : String)
deriving DecidableEq, Repr

namespace AgentEvent

def handle (lib : JsonLibrary) (o : WalkOrder) : AgentEvent → AgentEff Unit
  | addStream m => AgentEff.ofSwitch lib (Switch.handle o (.addStream m))
  | packet lost sender buf => AgentEff.ofSwitch lib (Switch.handle o (.packet lost sender buf))
  | api buf => SwitchAPI.onMessage lib o buf
  | apiError what => Eff.throw (.fault (.runtimeError what))

end AgentEvent

namespace AgentProcess

/-- One event; `SwitchAgent::operator()` returns after an exception. -/
def step (lib : JsonLibrary) (p : SwitchProcess) (x : WalkOrder × AgentEvent) : SwitchProcess × List AgentOutput :=
  if p.running = true then
    let out := x.2.handle lib x.1 p.switch
    ({ switch := out.state, running := out.result.isOk }, out.effects)
  else (p, [])

end AgentProcess

/-! ## What a text asks for -/

namespace SwitchAPI

/-- The request for a decode target in a text, or why there is none. -/
def request (lib : JsonLibrary) (buf : Buf) : Option (Except WireError DecodeTargetRequest) :=
  match parseMessage lib buf with
  | .error e => some (.error (.fault e))
  | .ok msg => (msg.filter fun msg => isString "set-decode-target" (msg.field "type")).map fun msg =>
      element "args" msg >>= setDecodeTargetArgs

def events (lib : JsonLibrary) (buf : Buf) : List Switch.Event :=
  match request lib buf with
  | some (.ok r) => [.setDecodeTarget r.sessionId r.ssrc r.participantId r.decodeTarget]
  | _ => []

/-- A value that an arithmetic type is converted from. -/
def IsNumeric : Json → Prop
  | .int _ | .dec _ _ | .bool _ => True
  | _ => False

def argumentKeys : List String := ["session-id", "ssrc", "participant-id", "decode-target"]

/-- A request for a decode target one of whose arguments is no number. -/
def Malformed (msg : Json) : Prop := msg.field "type" = some (.str "set-decode-target") ∧
  ∃ key ∈ argumentKeys, ¬ ∃ args y, msg.field "args" = some args ∧ args.field key = some y ∧ IsNumeric y

/-- A text that ends the agent: such a request, or an empty text that is not read as a request. -/
def Ends (lib : JsonLibrary) (buf : Buf) : Prop :=
  (∃ msg, lib.parse buf = some msg ∧ Malformed msg) ∨ buf = [] ∧ readMessage lib buf = none

section Texts
variable {lib : JsonLibrary} {buf : Buf} {msg x : Json} {key : String}

theorem isString_iff {s : String} {x : Option Json} : isString s x = true ↔ x = some (.str s) := by
  constructor
  · intro h
    cases x with
    | none => exact absurd h Bool.false_ne_true
    | some y =>
        cases y with
        | str t => rw [of_decide_eq_true h]
        | _ => exact absurd h Bool.false_ne_true
  · rintro rfl
    exact decide_eq_true rfl

theorem getUnsigned_isOk_iff : (∃ n, getUnsigned x = .ok n) ↔ IsNumeric x := by
  have herror : ∀ e : WireError, (∃ n : Nat, Except.map (fun n : Int => (n % 2 ^ 32).toNat) (.error e) = .ok n) ↔
      False := by
    intro e
    constructor
    · rintro ⟨n, hn⟩
      cases hn
    · exact False.elim
  unfold getUnsigned
  cases x with
  | int n => exact ⟨fun _ => trivial, fun _ => ⟨_, rfl⟩⟩
  | dec m e => exact ⟨fun _ => trivial, fun _ => ⟨_, rfl⟩⟩
  | bool b => exact ⟨fun _ => trivial, fun _ => ⟨_, rfl⟩⟩
  | null => exact herror _
  | str s => exact herror _
  | arr xs => exact herror _
  | obj ms => exact herror _

theorem argument_isOk_iff : (∃ n, argument key x = .ok n) ↔ ∃ y, x.field key = some y ∧ IsNumeric y := by
  unfold argument
  cases x with
  | obj ms =>
      show (∃ n, getUnsigned ((Json.find key ms).getD .null) = .ok n) ↔ ∃ y, Json.find key ms = some y ∧ _
      rw [getUnsigned_isOk_iff]
      cases Json.find key ms with
      | none =>
          constructor
          · exact False.elim
          · rintro ⟨y, hy, -⟩
            cases hy
      | some y =>
          constructor
          · exact fun h => ⟨y, rfl, h⟩
          · rintro ⟨y', hy', h⟩
            rwa [Option.some.inj hy']
  | null =>
      show (∃ n, getUnsigned .null = .ok n) ↔ _
      rw [getUnsigned_isOk_iff]
      constructor
      · exact False.elim
      · rintro ⟨y, hy, -⟩
        cases hy
  | bool _ | int _ | dec _ _ | str _ | arr _ =>
      constructor
      · rintro ⟨n, hn⟩
        cases hn
      · rintro ⟨y, hy, -⟩
        cases hy

theorem setDecodeTargetArgs_isOk_iff : (∃ r, setDecodeTargetArgs x = .ok r) ↔
    ∀ key ∈ argumentKeys, ∃ y, x.field key = some y ∧ IsNumeric y := by
  have hargs : (∃ r, setDecodeTargetArgs x = .ok r) ↔ ∀ key ∈ argumentKeys, ∃ n, argument key x = .ok n := by
    constructor
    · rintro ⟨r, hr⟩
      obtain ⟨a, ha, hr⟩ := Except.of_bind_ok hr
      obtain ⟨b, hb, hr⟩ := Except.of_bind_ok hr
      obtain ⟨c, hc, hr⟩ := Except.of_bind_ok hr
      obtain ⟨d, hd, -⟩ := Except.of_bind_ok hr
      intro key hkey
      simp only [argumentKeys, List.mem_cons, List.not_mem_nil, or_false] at hkey
      rcases hkey with rfl | rfl | rfl | rfl
      · exact ⟨a, ha⟩
      · exact ⟨b, hb⟩
      · exact ⟨c, hc⟩
      · exact ⟨d, hd⟩
    · intro h
      obtain ⟨a, ha⟩ := h "session-id" (by decide)
      obtain ⟨b, hb⟩ := h "ssrc" (by decide)
      obtain ⟨c, hc⟩ := h "participant-id" (by decide)
      obtain ⟨d, hd⟩ := h "decode-target" (by decide)
      refine ⟨⟨a, UInt32.ofNat b, c, d⟩, ?_⟩
      unfold setDecodeTargetArgs
      rw [ha, Except.bind_ok, hb, Except.bind_ok, hc, Except.bind_ok, hd, Except.bind_ok]
      rfl
  rw [hargs]
  exact forall₂_congr fun key _ => argument_isOk_iff

theorem readMessage_eq_some : readMessage lib buf = some msg ↔
    lib.parse buf = some msg ∧ isRequest (msg.field "type") = true := Option.filter_eq_some_iff

theorem parseMessage_of_read (h : readMessage lib buf = some msg) : parseMessage lib buf = .ok (some msg) := by
  unfold parseMessage
  rw [h]

/-- A message is read, a text is ignored, or an empty one is copied. -/
theorem parseMessage_cases (lib : JsonLibrary) (buf : Buf) :
    (∃ msg, readMessage lib buf = some msg ∧ parseMessage lib buf = .ok (some msg)) ∨
      (readMessage lib buf = none ∧ buf ≠ [] ∧ parseMessage lib buf = .ok none) ∨
      (readMessage lib buf = none ∧ buf = [] ∧ parseMessage lib buf = .error .outOfBounds) := by
  cases hread : readMessage lib buf with
  | some msg => exact .inl ⟨msg, rfl, parseMessage_of_read hread⟩
  | none =>
      right
      unfold parseMessage
      rw [hread]
      dsimp only
      by_cases hbuf : buf = []
      · subst hbuf
        exact .inr ⟨rfl, rfl, rfl⟩
      · obtain ⟨s, hs⟩ := Util.bufferString_ok_iff.mpr hbuf
        rw [hs]
        exact .inl ⟨rfl, hbuf, rfl⟩

theorem request_of_type (hparse : lib.parse buf = some msg)
    (htype : msg.field "type" = some (.str "set-decode-target")) :
    request lib buf = some (setDecodeTargetArgs ((msg.field "args").getD .null)) := by
  have hstring : isString "set-decode-target" (msg.field "type") = true := isString_iff.mpr htype
  have hread : readMessage lib buf = some msg := by
    refine readMessage_eq_some.mpr ⟨hparse, ?_⟩
    unfold isRequest
    rw [hstring, Bool.or_true]
  unfold request
  rw [parseMessage_of_read hread]
  dsimp only
  rw [Option.filter_some, if_pos hstring]
  cases msg with
  | obj ms => rfl
  | _ => cases htype

theorem message_of_request {r : DecodeTargetRequest} (h : request lib buf = some (.ok r)) :
    ∃ msg, parseMessage lib buf = .ok (some msg) ∧ isString "set-decode-target" (msg.field "type") = true ∧
      (element "args" msg >>= setDecodeTargetArgs) = .ok r := by
  unfold request at h
  split at h
  · cases h
  · rename_i msg hmsg
    obtain ⟨m, hm, hr⟩ := Option.map_eq_some_iff.mp h
    obtain ⟨rfl, hstring⟩ := Option.filter_eq_some_iff.mp hm
    exact ⟨m, hmsg, hstring, hr⟩

theorem malformed_iff (htype : msg.field "type" = some (.str "set-decode-target")) : Malformed msg ↔
    ∃ e, setDecodeTargetArgs ((msg.field "args").getD .null) = .error e := by
  have hnot : (∃ e, setDecodeTargetArgs ((msg.field "args").getD .null) = .error e) ↔
      ¬ ∃ r, setDecodeTargetArgs ((msg.field "args").getD .null) = .ok r := by
    cases setDecodeTargetArgs ((msg.field "args").getD .null) with
    | ok r => simp
    | error e => simp
  unfold Malformed
  rw [hnot, setDecodeTargetArgs_isOk_iff, not_forall₂, and_iff_right htype]
  refine exists_congr fun key => ⟨?_, ?_⟩
  · rintro ⟨hkey, hno⟩
    refine ⟨hkey, ?_⟩
    rintro ⟨y, hy, hnum⟩
    cases hargs : msg.field "args" with
    | none =>
        rw [hargs] at hy
        cases hy
    | some args =>
        rw [hargs] at hy
        exact hno ⟨args, y, hargs, hy, hnum⟩
  · rintro ⟨hkey, hno⟩
    refine ⟨hkey, ?_⟩
    rintro ⟨args, y, hargs, hy⟩
    rw [hargs] at hno
    exact hno ⟨y, hy⟩

/-- An exception is raised for these texts, or worse. -/
theorem ends_iff : Ends lib buf ↔ ∃ e, request lib buf = some (.error e) := by
  constructor
  · rintro (⟨msg, hparse, hmalformed⟩ | ⟨hbuf, hread⟩)
    · obtain ⟨e, he⟩ := (malformed_iff hmalformed.1).mp hmalformed
      exact ⟨e, (request_of_type hparse hmalformed.1).trans (congrArg some he)⟩
    · refine ⟨.fault .outOfBounds, ?_⟩
      unfold request parseMessage
      rw [hread, hbuf]
      rfl
  · rintro ⟨e, he⟩
    obtain ⟨msg, hread, -⟩ | ⟨hread, -, hparse⟩ | ⟨hread, hbuf, -⟩ := parseMessage_cases lib buf
    · have hparse := (readMessage_eq_some.mp hread).1
      by_cases htype : msg.field "type" = some (.str "set-decode-target")
      · rw [request_of_type hparse htype] at he
        exact .inl ⟨msg, hparse, (malformed_iff htype).mpr ⟨e, Option.some.inj he⟩⟩
      · unfold request at he
        rw [parseMessage_of_read hread] at he
        dsimp only at he
        rw [Option.filter_some, if_neg (fun hstring => htype (isString_iff.mp hstring))] at he
        cases he
    · unfold request at he
      rw [hparse] at he
      cases he
    · exact .inr ⟨hbuf, hread⟩

end Texts

/-! ## What a text does -/

section Message
variable {lib : JsonLibrary} {o : WalkOrder} {buf : Buf} {sw : Switch}

theorem not_getStreams {x : Option Json} (h : isString "set-decode-target" x = true) :
    ¬ isString "get-streams" x = true := by
  rw [isString_iff.mp h]
  decide

theorem onMessage_of_error {e : WireError} (h : request lib buf = some (.error e)) :
    onMessage lib o buf sw = ⟨sw, [], .error e⟩ := by
  unfold request at h
  unfold onMessage
  split at h
  · rename_i fault hparse
    cases h
    rw [hparse]
    rfl
  · rename_i msg hparse
    obtain ⟨m, hm, hr⟩ := Option.map_eq_some_iff.mp h
    obtain ⟨rfl, hstring⟩ := Option.filter_eq_some_iff.mp hm
    rw [hparse, Except.mapError, Eff.ofExcept_ok_bind]
    dsimp only
    rw [if_neg (not_getStreams hstring), if_pos hstring, hr]
    rfl

theorem onMessage_of_ok {r : DecodeTargetRequest} (h : request lib buf = some (.ok r)) :
    onMessage lib o buf sw = AgentEff.ofSwitch lib
      (Switch.onAPISetDecodeTarget o r.sessionId r.ssrc r.participantId r.decodeTarget) sw := by
  obtain ⟨msg, hparse, hstring, hr⟩ := message_of_request h
  unfold onMessage
  rw [hparse, Except.mapError, Eff.ofExcept_ok_bind]
  dsimp only
  rw [if_neg (not_getStreams hstring), if_pos hstring, hr]
  rfl

/-- A text without such a request is answered with a report, if it asks for one, and ignored otherwise. -/
theorem onMessage_of_none (h : request lib buf = none) :
    onMessage lib o buf sw = ⟨sw, if readMessage lib buf = none then []
      else [.write (lib.dump (SwitchAgentState.streamsJson o sw.agent))], .ok ()⟩ := by
  unfold onMessage
  obtain ⟨msg, hread, hparse⟩ | ⟨hread, -, hparse⟩ | ⟨hread, -, hparse⟩ := parseMessage_cases lib buf
  · have hother : isString "set-decode-target" (msg.field "type") = false := by
      unfold request at h
      rw [hparse] at h
      dsimp only at h
      rw [Option.filter_some] at h
      by_contra hyes
      rw [if_pos (Bool.not_eq_false _ ▸ hyes)] at h
      exact absurd h (Option.some_ne_none _)
    have hrequest := (readMessage_eq_some.mp hread).2
    unfold isRequest at hrequest
    rw [hother, Bool.or_false] at hrequest
    rw [hparse, hread, Except.mapError, Eff.ofExcept_ok_bind]
    dsimp only
    rw [hrequest, if_pos rfl, if_neg (Option.some_ne_none _)]
    rfl
  · rw [hparse, hread]
    rfl
  · unfold request at h
    rw [hparse] at h
    cases h

theorem events_of_none (h : request lib buf = none) : events lib buf = [] := by
  unfold events
  rw [h]

theorem events_of_ok {r : DecodeTargetRequest} (h : request lib buf = some (.ok r)) :
    events lib buf = [.setDecodeTarget r.sessionId r.ssrc r.participantId r.decodeTarget] := by
  unfold events
  rw [h]

end Message

end SwitchAPI

namespace AgentEvent

def events (lib : JsonLibrary) : AgentEvent → List Switch.Event
  | addStream m => [.addStream m]
  | packet lost sender buf => [.packet lost sender buf]
  | api buf => SwitchAPI.events lib buf
  | apiError _ => []

/-- An event that ends the agent before a handler of the switch is called. -/
def Ends (lib : JsonLibrary) : AgentEvent → Prop
  | api buf => SwitchAPI.Ends lib buf
  | apiError _ => True
  | _ => False

end AgentEvent

/-- The datagrams and the handlers of RTCP packets among what the switch does. -/
def SwitchEffect.deed : SwitchEffect → List AgentOutput
  | .response _ => []
  | .send toAddr buf => [.send toAddr buf]
  | .process handler sender packet => [.process handler sender packet]

def AgentOutput.deed : AgentOutput → List AgentOutput
  | .write _ => []
  | e => [e]

theorem AgentOutput.deed_ofEffect (lib : JsonLibrary) (es : List SwitchEffect) :
    (es.map (AgentOutput.ofEffect lib)).flatMap AgentOutput.deed = es.flatMap SwitchEffect.deed := by
  rw [List.flatMap_map]
  refine List.flatMap_congr fun e _ => ?_
  cases e <;> rfl

namespace AgentProcess

section Step
variable {lib : JsonLibrary} {p : SwitchProcess} {o : WalkOrder} {ev : AgentEvent}

theorem step_of_running (h : p.running = true) : step lib p (o, ev) =
    ({ switch := (ev.handle lib o p.switch).state, running := (ev.handle lib o p.switch).result.isOk },
      (ev.handle lib o p.switch).effects) := by
  unfold step
  rw [if_pos h]

theorem step_of_not_running (h : ¬ p.running = true) : step lib p (o, ev) = (p, []) := if_neg h

theorem step_ofSwitch {e : Switch.Event} (h : p.running = true)
    (hev : ev.handle lib o p.switch = AgentEff.ofSwitch lib (Switch.handle o e) p.switch) :
    (step lib p (o, ev)).1 = (SwitchProcess.step p (o, e)).1 ∧
      (step lib p (o, ev)).2 = (SwitchProcess.step p (o, e)).2.map (AgentOutput.ofEffect lib) := by
  have hok : ∀ r : Except Fault Unit, (r.mapError WireError.fault).isOk = r.isOk := by
    intro r
    cases r <;> rfl
  rw [step_of_running h, SwitchProcess.step_of_running h, hev]
  refine ⟨?_, rfl⟩
  show SwitchProcess.mk _ _ = SwitchProcess.mk _ _
  rw [← hok]
  rfl

theorem step_of_ends (h : ev.Ends lib) : (step lib p (o, ev)).1.running = false := by
  cases ev with
  | api buf =>
      by_cases hp : p.running = true
      · obtain ⟨e, he⟩ := SwitchAPI.ends_iff.mp h
        rw [step_of_running hp]
        show (SwitchAPI.onMessage lib o buf p.switch).result.isOk = false
        rw [SwitchAPI.onMessage_of_error he]
        rfl
      · rw [step_of_not_running hp]
        exact Bool.eq_false_iff.mpr hp
  | apiError what =>
      by_cases hp : p.running = true
      · rw [step_of_running hp]
        rfl
      · rw [step_of_not_running hp]
        exact Bool.eq_false_iff.mpr hp
  | addStream m => exact h.elim
  | packet lost sender buf => exact h.elim

theorem switch_step_of_not_running {es : List Switch.Event} (h : ¬ p.running = true) :
    final SwitchProcess.step p (es.map (o, ·)) = p ∧
      (outputs SwitchProcess.step p (es.map (o, ·))).flatten = [] := by
  induction es with
  | nil => exact ⟨rfl, rfl⟩
  | cons e es ih =>
      rw [List.map_cons, final_cons, outputs_cons, SwitchProcess.step_of_not_running h]
      exact ih

/-- A step of the agent is some steps of the switch. -/
theorem step_refines (h : ¬ ev.Ends lib) :
    (step lib p (o, ev)).1 = final SwitchProcess.step p ((ev.events lib).map (o, ·)) ∧
      (step lib p (o, ev)).2.flatMap AgentOutput.deed =
        (outputs SwitchProcess.step p ((ev.events lib).map (o, ·))).flatten.flatMap SwitchEffect.deed := by
  by_cases hp : p.running = true
  · have hone : ∀ e : Switch.Event, ev.events lib = [e] →
        ev.handle lib o p.switch = AgentEff.ofSwitch lib (Switch.handle o e) p.switch →
        (step lib p (o, ev)).1 = final SwitchProcess.step p ((ev.events lib).map (o, ·)) ∧
          (step lib p (o, ev)).2.flatMap AgentOutput.deed =
            (outputs SwitchProcess.step p ((ev.events lib).map (o, ·))).flatten.flatMap SwitchEffect.deed := by
      intro e hevents hev
      obtain ⟨hstate, houtputs⟩ := step_ofSwitch hp hev
      rw [hevents, hstate, houtputs, AgentOutput.deed_ofEffect lib]
      refine ⟨rfl, ?_⟩
      rw [List.map_singleton, outputs_cons, outputs_nil, List.flatten_singleton]
    cases ev with
    | addStream m => exact hone _ rfl rfl
    | packet lost sender buf => exact hone _ rfl rfl
    | apiError what => exact absurd trivial h
    | api buf =>
        cases hrequest : SwitchAPI.request lib buf with
        | none =>
            have hevents : (AgentEvent.api buf).events lib = [] := SwitchAPI.events_of_none hrequest
            have hhandle := @SwitchAPI.onMessage_of_none lib o buf p.switch hrequest
            have hp' : p = ⟨p.switch, true⟩ := by rw [← hp]
            rw [hevents, step_of_running hp]
            show SwitchProcess.mk (SwitchAPI.onMessage lib o buf p.switch).state
                (SwitchAPI.onMessage lib o buf p.switch).result.isOk = p ∧
              (SwitchAPI.onMessage lib o buf p.switch).effects.flatMap AgentOutput.deed = []
            rw [hhandle]
            refine ⟨hp'.symm, ?_⟩
            dsimp only
            split <;> rfl
        | some r =>
            cases r with
            | error e => exact absurd (SwitchAPI.ends_iff.mpr ⟨e, hrequest⟩) h
            | ok r =>
                exact hone (.setDecodeTarget r.sessionId r.ssrc r.participantId r.decodeTarget)
                  (SwitchAPI.events_of_ok hrequest) (SwitchAPI.onMessage_of_ok hrequest)
  · rw [step_of_not_running hp, (switch_step_of_not_running hp).1, (switch_step_of_not_running hp).2]
    exact ⟨rfl, rfl⟩

end Step

/-! ## Runs -/

section Runs
variable {lib : JsonLibrary} {p : SwitchProcess} {xs : List (WalkOrder × AgentEvent)}

def switchEvents (lib : JsonLibrary) (xs : List (WalkOrder × AgentEvent)) : List (WalkOrder × Switch.Event) :=
  xs.flatMap fun x => (x.2.events lib).map (x.1, ·)

theorem refines_switch (h : ∀ x ∈ xs, ¬ x.2.Ends lib) (p : SwitchProcess) :
    final (step lib) p xs = final SwitchProcess.step p (switchEvents lib xs) ∧
      (outputs (step lib) p xs).flatten.flatMap AgentOutput.deed =
        (outputs SwitchProcess.step p (switchEvents lib xs)).flatten.flatMap SwitchEffect.deed := by
  refine refines (fun x hx q => ?_) p
  obtain ⟨o, ev⟩ := x
  exact step_refines (h _ hx)

theorem final_of_not_running (h : ¬ p.running = true) (xs : List (WalkOrder × AgentEvent)) :
    final (step lib) p xs = p := by
  induction xs with
  | nil => rfl
  | cons x xs ih =>
      obtain ⟨o, ev⟩ := x
      rw [final_cons, step_of_not_running h]
      exact ih

theorem not_running_of_ends (h : ∃ x ∈ xs, x.2.Ends lib) : (final (step lib) p xs).running = false := by
  obtain ⟨x, hx, hends⟩ := h
  obtain ⟨before, after, rfl⟩ := List.append_of_mem hx
  have hstopped : (step lib (final (step lib) p before) x).1.running = false := step_of_ends hends
  rw [final_append, final_cons, final_of_not_running (Bool.eq_false_iff.mp hstopped)]
  exact hstopped

theorem none_ends (hrun : (final (step lib) p xs).running = true) : ∀ x ∈ xs, ¬ x.2.Ends lib := by
  intro x hx hends
  rw [not_running_of_ends ⟨x, hx, hends⟩] at hrun
  exact Bool.false_ne_true hrun

end Runs

end AgentProcess

end Scallop
