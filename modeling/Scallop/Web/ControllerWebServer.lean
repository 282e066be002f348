import Scallop.Lib.Json
import Scallop.Web.HttpServer

/-!
# The web front end of the controller

`p4sfu::ControllerWebServer` of `lib/controller_web_server.cc`: the page of the client, and the files of
`client/dist`. The template engine and the JSON library are parameters.

* `readFile`, `stoul`, `escapeJSONForHTML` : what the page is made with;
* `configuration`, `serveSFUApp` : the page; `serveSFUApp_ok_iff` : when no exception is raised;
* `Safe`, `servesSafely_iff` : a request raises no exception and returns no file from elsewhere just when its
  parameters can be read and its path, with `.` and `..` taken out, stays in the directory.
-/

namespace Scallop

open FileSystem HTTPServer

namespace ControllerWebServer

/-- `inja`: a template is parsed and rendered with texts for its names; `none` for an exception. -/
structure Inja where
  Template : Type
  parse : String → Option Template
  render : Template → List (String × String) → Option String

/-- What the server runs in; `dump` : the text of a value; `writes` : the client takes what is written. -/
structure Environment where
  fs : FileSystem
  cwd : Location
  inja : Inja
  dump : Json → List Char := Json.dump
  writes : Bool := true

/-- `util::readFile`. A directory can be opened, but not read. -/
def readFile (fs : FileSystem) (cwd : Location) (fileName : String) : Except Fault String :=
  match fs.resolve cwd fileName.toList with
  | .ok l =>
      match fs.node l with
      | some (.file contents) => .ok contents
      | _ => .error (.runtimeError "basic_filebuf::underflow error reading the file: Is a directory")
  | .error _ => .error (.runtimeError ("util::readFile: failed to open " ++ fileName))

/-- `std::stoul`; a negative number is taken modulo 2 ^ 64. -/
def stoul (s : String) : Except Fault Nat :=
  match Util.scan s.toList with
  | some (neg, n) =>
      if n < 2 ^ 64 then .ok (if neg then (2 ^ 64 - n) % 2 ^ 64 else n) else .error (.logicError "stoul")
  | none => .error (.invalidArgument "stoul")

def escapeChar : Char → List Char
  | '&' => "&amp;".toList
  | '<' => "&lt;".toList
  | '>' => "&gt;".toList
  | '"' => "&quot;".toList
  | '\'' => "&#39;".toList
  | c => [c]

def escapeJSONForHTML (json : List Char) : List Char := json.flatMap escapeChar

def configureSession (params : UnorderedMap String String) (config : Json) : Except Fault Json :=
  match params.lookup "s" with
  | some s => (stoul s).map fun (n : Nat) => config.set "sessionId" (.int n)
  | none => .ok config

def configureController (params : UnorderedMap String String) (config : Json) : Except Fault Json :=
  match params.lookup "c" with
  | some c => (Util.parseIPPort c).map fun (host, port) =>
      config.set "controller" (.obj [("host", .str host), ("port", .int port.toNat)])
  | none => .ok config

/-- The configuration that the parameters ask for. -/
def configuration (params : UnorderedMap String String) : Except Fault Json := do
  let config ← configureSession params (.obj [("sessionId", .int 1)])
  configureController params config

def injaResult {α : Type} (what : String) : Option α → Except Fault α
  | some x => .ok x
  | none => .error (.runtimeError what)

def serveSFUApp (env : Environment) (target : Target) : Except Fault Response := do
  let source ← readFile env.fs env.cwd "client/views/client.html.inja"
  let tpl ← injaResult "parser_error" (env.inja.parse source)
  let config ← configuration target.params
  let senderTpl ← readFile env.fs env.cwd "client/views/sender-template.mustache"
  let receiverPanelTpl ← readFile env.fs env.cwd "client/views/receiver-panel-tpl.mustache"
  let receiverInfoTpl ← readFile env.fs env.cwd "client/views/receiver-info-tpl.mustache"
  let body ← injaResult "render_error" (env.inja.render tpl [
    ("config", .ofList (escapeJSONForHTML (env.dump config))),
    ("sender-tpl", senderTpl),
    ("receiver-panel-tpl", receiverPanelTpl),
    ("receiver-info-tpl", receiverInfoTpl)])
  if env.writes then return .page body else .error (.runtimeError "write")

/-- `p4sfu::ControllerWebServer::ControllerWebServer`. -/
def server (env : Environment) : HTTPServer where
  docRoot := some "client/dist"
  routes := [("/", serveSFUApp env)]

def handle (env : Environment) (requestTarget : String) : Except Fault Response :=
  handleRequest (server env) env.fs env.cwd true requestTarget

/-! ## The page -/

/-- A number that fits, and an endpoint, where there are such parameters. -/
def ReadsParams (params : UnorderedMap String String) : Prop :=
  (∀ s, params.lookup "s" = some s → ∃ neg n, Util.scan s.toList = some (neg, n) ∧ n < 2 ^ 64) ∧
    ∀ c, params.lookup "c" = some c → ∃ ip n, Util.IsIPPort c ip n

/-- The views can be read, and the page rendered from them with this configuration. -/
def Renders (env : Environment) (config : Json) : Prop :=
  ∃ source tpl senderTpl receiverPanelTpl receiverInfoTpl body,
    readFile env.fs env.cwd "client/views/client.html.inja" = .ok source ∧ env.inja.parse source = some tpl ∧
    readFile env.fs env.cwd "client/views/sender-template.mustache" = .ok senderTpl ∧
    readFile env.fs env.cwd "client/views/receiver-panel-tpl.mustache" = .ok receiverPanelTpl ∧
    readFile env.fs env.cwd "client/views/receiver-info-tpl.mustache" = .ok receiverInfoTpl ∧
    env.inja.render tpl [("config", .ofList (escapeJSONForHTML (env.dump config))), ("sender-tpl", senderTpl),
      ("receiver-panel-tpl", receiverPanelTpl), ("receiver-info-tpl", receiverInfoTpl)] = some body

section Page
variable {env : Environment} {target : Target} {params : UnorderedMap String String} {config : Json}

theorem stoul_ok_iff {s : String} :
    (∃ n, stoul s = .ok n) ↔ ∃ neg n, Util.scan s.toList = some (neg, n) ∧ n < 2 ^ 64 := by
  unfold stoul
  cases h : Util.scan s.toList with
  | none => simp
  | some r =>
      obtain ⟨neg, n⟩ := r
      dsimp only
      split
      next hlt => exact ⟨fun _ => ⟨neg, n, rfl, hlt⟩, fun _ => ⟨_, rfl⟩⟩
      next hlt =>
        constructor
        · intro ⟨_, herror⟩
          cases herror
        · intro ⟨neg', n', heq, hlt'⟩
          obtain ⟨rfl, rfl⟩ := Prod.mk.inj (Option.some.inj heq)
          exact absurd hlt' hlt

theorem parseIPPort_ok_iff {c : String} : (∃ r, Util.parseIPPort c = .ok r) ↔ ∃ ip n, Util.IsIPPort c ip n := by
  constructor
  · intro ⟨r, h⟩
    obtain ⟨ip, n, hform, -⟩ := Util.parseIPPort_ok h
    exact ⟨ip, n, hform⟩
  · intro ⟨ip, n, hform⟩
    exact ⟨_, Util.parseIPPort_of hform⟩

theorem map_isOk_iff {ε α β : Type} {x : Except ε α} {f : α → β} : (∃ b, x.map f = .ok b) ↔ ∃ a, x = .ok a := by
  cases x with
  | ok a => simp [Except.map]
  | error e => simp [Except.map]

theorem configureSession_ok_iff : (∃ config', configureSession params config = .ok config') ↔
    ∀ s, params.lookup "s" = some s → ∃ neg n, Util.scan s.toList = some (neg, n) ∧ n < 2 ^ 64 := by
  unfold configureSession
  cases params.lookup "s" with
  | none => simp
  | some s =>
      dsimp only
      rw [map_isOk_iff, stoul_ok_iff]
      simp

theorem configureController_ok_iff : (∃ config', configureController params config = .ok config') ↔
    ∀ c, params.lookup "c" = some c → ∃ ip n, Util.IsIPPort c ip n := by
  unfold configureController
  cases params.lookup "c" with
  | none => simp
  | some c =>
      dsimp only
      rw [map_isOk_iff, parseIPPort_ok_iff]
      simp

theorem configuration_ok_iff : (∃ config, configuration params = .ok config) ↔ ReadsParams params := by
  unfold configuration ReadsParams
  constructor
  · intro ⟨config', h⟩
    obtain ⟨config, hsession, hcontroller⟩ := Except.bind_ok_iff.mp h
    exact ⟨configureSession_ok_iff.mp ⟨config, hsession⟩, configureController_ok_iff.mp ⟨config', hcontroller⟩⟩
  · intro ⟨hs, hc⟩
    obtain ⟨config, hsession⟩ := configureSession_ok_iff.mpr hs
    obtain ⟨config', hcontroller⟩ := configureController_ok_iff.mpr hc
    exact ⟨config', Except.bind_ok_iff.mpr ⟨config, hsession, hcontroller⟩⟩

theorem injaResult_ok {α : Type} {what : String} {x : Option α} {a : α} : injaResult what x = .ok a ↔ x = some a := by
  cases x with
  | none => simp [injaResult]
  | some x => simp [injaResult]

/-- When the page is served without an exception. -/
theorem serveSFUApp_ok_iff : (∃ r, serveSFUApp env target = .ok r) ↔
    ReadsParams target.params ∧ (∀ config, configuration target.params = .ok config → Renders env config) ∧
      env.writes = true := by
  constructor
  · intro ⟨r, h⟩
    unfold serveSFUApp at h
    obtain ⟨source, hsource, h⟩ := Except.bind_ok_iff.mp h
    obtain ⟨tpl, htpl, h⟩ := Except.bind_ok_iff.mp h
    obtain ⟨config, hconfig, h⟩ := Except.bind_ok_iff.mp h
    obtain ⟨senderTpl, hsender, h⟩ := Except.bind_ok_iff.mp h
    obtain ⟨receiverPanelTpl, hpanel, h⟩ := Except.bind_ok_iff.mp h
    obtain ⟨receiverInfoTpl, hinfo, h⟩ := Except.bind_ok_iff.mp h
    obtain ⟨body, hbody, h⟩ := Except.bind_ok_iff.mp h
    refine ⟨configuration_ok_iff.mp ⟨config, hconfig⟩, fun config' hconfig' => ?_, ?_⟩
    · obtain rfl := Except.ok.inj (hconfig.symm.trans hconfig')
      exact ⟨source, tpl, senderTpl, receiverPanelTpl, receiverInfoTpl, body, hsource, injaResult_ok.mp htpl,
        hsender, hpanel, hinfo, injaResult_ok.mp hbody⟩
    · split at h
      next hwrites => exact hwrites
      next => cases h
  · intro ⟨hparams, hrenders, hwrites⟩
    obtain ⟨config, hconfig⟩ := configuration_ok_iff.mpr hparams
    obtain ⟨source, tpl, senderTpl, receiverPanelTpl, receiverInfoTpl, body, hsource, htpl, hsender, hpanel, hinfo,
      hbody⟩ := hrenders config hconfig
    refine ⟨.page body, ?_⟩
    unfold serveSFUApp
    rw [hsource, Except.bind_ok, injaResult_ok.mpr htpl, Except.bind_ok, hconfig, Except.bind_ok, hsender,
      Except.bind_ok, hpanel, Except.bind_ok, hinfo, Except.bind_ok, injaResult_ok.mpr hbody, Except.bind_ok,
      if_pos hwrites]
    rfl

theorem serveSFUApp_ne_file {l : Location} {c contentType : String} :
    serveSFUApp env target ≠ .ok (.file l c contentType) := by
  intro h
  unfold serveSFUApp at h
  obtain ⟨_, -, h⟩ := Except.bind_ok_iff.mp h
  obtain ⟨_, -, h⟩ := Except.bind_ok_iff.mp h
  obtain ⟨_, -, h⟩ := Except.bind_ok_iff.mp h
  obtain ⟨_, -, h⟩ := Except.bind_ok_iff.mp h
  obtain ⟨_, -, h⟩ := Except.bind_ok_iff.mp h
  obtain ⟨_, -, h⟩ := Except.bind_ok_iff.mp h
  obtain ⟨_, -, h⟩ := Except.bind_ok_iff.mp h
  split at h
  next => cases h
  next => cases h

end Page

/-! ## Requests -/

def servedDirectory (env : Environment) : Location := env.cwd ++ ["client".toList, "dist".toList]

/-- No exception is raised, and no file from elsewhere is returned. -/
def Safe (env : Environment) (requestTarget : String) : Prop :=
  (∃ r, handle env requestTarget = .ok r) ∧ ∀ l contents contentType,
    handle env requestTarget = .ok (.file l contents contentType) → servedDirectory env <+: l

def filePath (target : Target) : List Char := ("client/dist" ++ target.path).toList

/-- The path, with `.` and `..` taken out, stays in the directory. -/
def StaysInside (env : Environment) (target : Target) : Prop :=
  servedDirectory env <+: normalize env.cwd ((cPath (filePath target)).splitOn '/')

def Servable (env : Environment) (target : Target) : Prop :=
  if target.path = "/" then
    ReadsParams target.params ∧ (∀ config, configuration target.params = .ok config → Renders env config) ∧
      env.writes = true
  else
    Statable env.fs env.cwd (filePath target) ∧
      (StaysInside env target ∨ ∀ l, ¬ Names env.fs env.cwd (filePath target) l)

section Requests
variable {env : Environment} {target : Target} {requestTarget : String} {l : Location}

theorem handle_empty : handle env "" = .ok (.status 400) := by
  unfold handle handleRequest
  rw [if_pos rfl]

theorem handle_page (hne : requestTarget ≠ "") (h : (Target.parseURL requestTarget).path = "/") :
    handle env requestTarget = serveSFUApp env (Target.parseURL requestTarget) := by
  unfold handle handleRequest
  rw [if_neg hne]
  simp [h, server]

theorem handle_file (hne : requestTarget ≠ "") (h : (Target.parseURL requestTarget).path ≠ "/") :
    handle env requestTarget = serve env.fs env.cwd (filePath (Target.parseURL requestTarget))
      (getMimeType (Target.parseURL requestTarget).fileExtension) := by
  unfold handle handleRequest
  have hlookup : (server env).routes.lookup (Target.parseURL requestTarget).path = none := by
    have hbeq := beq_eq_false_iff_ne.mpr h
    simp [server, List.lookup_cons, hbeq]
  rw [if_neg hne]
  dsimp only
  rw [hlookup]
  rfl

/-- A file that is named stands in the directory just when the path stays in it. -/
theorem inside_iff (h : Names env.fs env.cwd (filePath target) l) :
    servedDirectory env <+: l ↔ StaysInside env target := by
  have hcons : filePath target = "client/dist".toList ++ target.path.toList := String.toList_append
  have hne : filePath target ≠ [] := by
    rw [hcons]
    exact List.append_ne_nil_of_left_ne_nil (by decide) _
  have hrel : (filePath target).head? ≠ some '/' := by
    rw [hcons, List.head?_append_of_ne_nil _ (by decide)]
    decide
  unfold StaysInside
  rcases h.location hne hrel with hl | hl
  · rw [hl]
  · rw [hl, List.prefix_concat_iff]
    refine or_iff_right fun heq => ?_
    unfold servedDirectory at heq
    rw [show env.cwd ++ ["client".toList, "dist".toList] = env.cwd ++ ["client".toList] ++ ["dist".toList] by simp]
      at heq
    obtain ⟨-, hlast⟩ := List.append_inj' heq rfl
    exact absurd hlast (by decide)

/-- A request is safe just when what it asks for can be served. -/
theorem servesSafely_iff (env : Environment) (requestTarget : String) :
    Safe env requestTarget ↔ requestTarget = "" ∨ Servable env (Target.parseURL requestTarget) := by
  unfold Safe Servable
  by_cases hne : requestTarget = ""
  · subst hne
    rw [handle_empty]
    simp
  · rw [or_iff_right hne]
    split
    next hpath =>
      rw [handle_page hne hpath, serveSFUApp_ok_iff]
      exact and_iff_left fun _ _ _ hfile => absurd hfile serveSFUApp_ne_file
    next hpath =>
      rw [handle_file hne hpath, serve_ok_iff]
      refine and_congr_right fun _ => ?_
      constructor
      · intro h
        by_cases hnames : ∃ l, Names env.fs env.cwd (filePath (Target.parseURL requestTarget)) l
        · obtain ⟨l, hl⟩ := hnames
          obtain ⟨contents, hfile⟩ := serve_file_iff.mpr hl
          exact .inl ((inside_iff hl).mp (h l contents _ hfile))
        · exact .inr (not_exists.mp hnames)
      · intro h l contents contentType hfile
        have hl := names_of_serve hfile
        rcases h with hinside | hnone
        · exact (inside_iff hl).mpr hinside
        · exact absurd hl (hnone l)

/-- The controller in `/srv`, with its views, and a file that it does not serve. -/
def smallSystem : Environment where
  fs := { node := fun l =>
    let names := l.map String.ofList
    if names ∈ [[], ["etc"], ["srv"], ["srv", "client"], ["srv", "client", "dist"], ["srv", "client", "views"]] then
      some .directory
    else if names = ["etc", "passwd"] then some (.file "root:x:0:0")
    else if names.dropLast = ["srv", "client", "views"] then some (.file "")
    else none }
  cwd := ["srv".toList]
  inja := { Template := Unit, parse := fun _ => some (), render := fun _ _ => some "" }

/-- A session id that is no number ends the controller, and a path leaves the directory. -/
theorem not_safe : ¬ Safe smallSystem "/?s=abc" ∧ ¬ Safe smallSystem "/../../../etc/passwd" := by
  constructor
  · intro h
    have hok := h.1
    rw [handle_page (by decide) (by decide), serveSFUApp_ok_iff] at hok
    obtain ⟨neg, n, hscan, -⟩ := hok.1.1 "abc" (by decide)
    exact absurd hscan (by simp [Util.scan, leadingNat, isSpace])
  · intro h
    have hnames : Names smallSystem.fs smallSystem.cwd (filePath (Target.parseURL "/../../../etc/passwd"))
        ["etc".toList, "passwd".toList] := ⟨_, rfl, .inl (by decide)⟩
    obtain ⟨contents, hfile⟩ := serve_file_iff.mpr hnames
    have hinside := h.2 _ contents _ ((handle_file (by decide) (by decide)).trans hfile)
    exact absurd hinside (by decide)

end Requests

end ControllerWebServer

end Scallop
