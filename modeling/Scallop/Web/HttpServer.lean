import Scallop.DataPlane.Rtp
import Scallop.Lib.Except
import Scallop.Lib.FileSystem
import Scallop.Lib.UnorderedMap
import Scallop.Util.AddressText

/-!
# The web server

`HTTPServer` of `lib/net/http_server.h`: how a request target is read, and what is returned for it.

* `decodeURL`, `Target.parseURL` : the path, the file extension and the parameters of a target;
* `handleRequest` : the status, the file or the page that is returned; `HTTPServer.Response`;
* `serve_ok_iff` : when no exception is raised; `serve_file_iff` : where a file stands that is returned.
-/

namespace Scallop

open FileSystem

namespace HTTPServer

/-! ## Targets -/

def hexValue (c : Char) : Option Nat :=
  if c.isDigit then some (c.toNat - 48)
  else if 97 ≤ c.toNat ∧ c.toNat ≤ 102 then some (c.toNat - 87)
  else if 65 ≤ c.toNat ∧ c.toNat ≤ 70 then some (c.toNat - 55)
  else none

/-- The number at the beginning of a text, of base 16; zero if there is none. -/
def leadingHex : Nat → List Char → Nat
  | n, [] => n
  | n, c :: cs =>
      match hexValue c with
      | some d => leadingHex (16 * n + d) cs
      | none => n

/-- `std::strtoul` to base 16, for a text too short for a prefix `0x` to make a difference. -/
def strtoul16 (cs : List Char) : Nat :=
  match cs.dropWhile isSpace with
  | '-' :: ds => (2 ^ 64 - leadingHex 0 ds) % 2 ^ 64
  | '+' :: ds => leadingHex 0 ds
  | ds => leadingHex 0 ds

/-- The character with the number that is written. -/
def decodeChar (cs : List Char) : Char := .ofNat (strtoul16 cs % 256)

def decodeURL : List Char → List Char
  | [] => []
  | '%' :: a :: b :: cs => decodeChar [a, b] :: decodeURL cs
  | ['%', a] => [decodeChar [a]]
  | ['%'] => [decodeChar []]
  | '+' :: cs => ' ' :: decodeURL cs
  | c :: cs => c :: decodeURL cs

structure Target where
  path : String
  fileExtension : String := ""
  params : UnorderedMap String String := ∅

/-- What stands before the first character `c`, and what stands after it. -/
def cutAt (c : Char) (s : List Char) : List Char × Option (List Char) :=
  (s.takeWhile (· ≠ c), if c ∈ s then some (s.dropWhile (· ≠ c)).tail else none)

/-- `std::getline` with a delimiter, for as long as there is something to read. -/
def getlines (delim : Char) (s : List Char) : List (List Char) :=
  let parts := s.splitOn delim
  if parts.getLast? = some [] then parts.dropLast else parts

/-- A parameter, which has no value without `=`. -/
def addParam (params : UnorderedMap String String) (pair : List Char) : UnorderedMap String String :=
  match cutAt '=' pair with
  | (key, some value) => params.insert (.ofList (decodeURL key)) (.ofList (decodeURL value))
  | (key, none) => params.insert (.ofList (decodeURL key)) ""

/-- What stands after the last `.`, if that is after the last `/`; nothing without a `/`, as the
position of a character that is missing is the greatest one. -/
def extension (path : List Char) : List Char :=
  let name := (path.reverse.takeWhile (· ≠ '/')).reverse
  if '/' ∈ path ∧ '.' ∈ name then (name.reverse.takeWhile (· ≠ '.')).reverse else []

def Target.parseURL (url : String) : Target :=
  let (path, query) := cutAt '?' url.toList
  { path := .ofList path
    fileExtension := .ofList (extension path)
    params := (getlines '&' (query.getD [])).foldl addParam ∅ }

/-! ## Responses -/

inductive Response where
  | status (code : Nat)
  | file (location : Location) (contents contentType : String)
  | page (body : String)
deriving Repr

def DEFAULT_MIME_TYPE : String := "application/octet-stream"

/-- `HTTPServer::_configureMimeTypes`. -/
def mimeTypes : List (String × String) := [
  ("css", "text/css"),
  ("gif", "image/gif"),
  ("html", "text/html"),
  ("ico", "image/vnd.microsoft.icon"),
  ("jpeg", "image/jpeg"),
  ("jpg", "image/jpeg"),
  ("js", "application/javascript"),
  ("json", "application/json"),
  ("map", "application/json"),
  ("png", "image/png"),
  ("svg", "image/svg+xml"),
  ("txt", "text/plain")]

def getMimeType (extension : String) : String := (mimeTypes.lookup extension).getD DEFAULT_MIME_TYPE

/-- `std::filesystem::exists`: that there is no such entry is no error. -/
def fsExists (fs : FileSystem) (cwd : Location) (path : List Char) : Except Fault Bool :=
  match fs.resolve cwd path with
  | .ok _ => .ok true
  | .error .noEntry => .ok false
  | .error .notDirectory => .ok false
  | .error .nameTooLong => .error (.runtimeError "filesystem error: status: File name too long")

def isDirectory (fs : FileSystem) (cwd : Location) (path : List Char) : Except Fault Bool :=
  match fs.resolve cwd path with
  | .ok l => .ok (fs.node l = some .directory)
  | .error .noEntry => .ok false
  | .error .notDirectory => .ok false
  | .error .nameTooLong => .error (.runtimeError "filesystem error: status: File name too long")

/-- The file is opened and written to the stream. A directory can be opened, but not read. -/
def writeFile (fs : FileSystem) (cwd : Location) (path : List Char) (contentType : String) : Response :=
  match fs.resolve cwd path with
  | .ok l =>
      match fs.node l with
      | some (.file contents) => .file l contents contentType
      | _ => .status 500
  | .error _ => .status 500

end HTTPServer

open HTTPServer

/-- `HTTPServer`: the served directory and the routes. -/
structure HTTPServer where
  docRoot : Option String := none
  routes : List (String × (Target → Except Fault Response)) := []

namespace HTTPServer

def indexName : Name := "index.html".toList

/-- A file or a directory of the served ones. -/
def serve (fs : FileSystem) (cwd : Location) (filePath : List Char) (contentType : String) :
    Except Fault Response := do
  if ← fsExists fs cwd filePath then
    if ← isDirectory fs cwd filePath then
      if ← fsExists fs cwd (filePath ++ '/' :: indexName) then
        return writeFile fs cwd (filePath ++ '/' :: indexName) contentType
      else return .status 404
    else return writeFile fs cwd filePath contentType
  else return .status 404

def handleRequest (server : HTTPServer) (fs : FileSystem) (cwd : Location) (get : Bool) (requestTarget : String) :
    Except Fault Response :=
  if requestTarget = "" then .ok (.status 400)
  else if !get then .ok (.status 405)
  else
    let target := Target.parseURL requestTarget
    match server.routes.lookup target.path with
    | some handler => handler target
    | none =>
        match server.docRoot with
        | some docRoot => serve fs cwd (docRoot ++ target.path).toList (getMimeType target.fileExtension)
        | none => .ok (.status 404)

/-! ## Files -/

/-- The system can tell whether there is such a path, and for a directory whether it has a page. -/
def Statable (fs : FileSystem) (cwd : Location) (path : List Char) : Prop :=
  fs.resolve cwd path ≠ .error .nameTooLong ∧
    ∀ l, fs.resolve cwd path = .ok l → fs.node l = some .directory →
      fs.resolve cwd (path ++ '/' :: indexName) ≠ .error .nameTooLong

/-- The file of a path, or the page of a directory. -/
def Names (fs : FileSystem) (cwd : Location) (path : List Char) (l : Location) : Prop :=
  ∃ c, fs.node l = some (.file c) ∧ (fs.resolve cwd path = .ok l ∨
    ∃ d, fs.resolve cwd path = .ok d ∧ fs.node d = some .directory ∧
      fs.resolve cwd (path ++ '/' :: indexName) = .ok l)

section Files
variable {fs : FileSystem} {cwd l : Location} {path : List Char} {contentType : String}

theorem fsExists_of_ok (h : fs.resolve cwd path = .ok l) : fsExists fs cwd path = .ok true := by
  unfold fsExists
  rw [h]

theorem fsExists_of_error {e : PathError} (h : fs.resolve cwd path = .error e) (he : e ≠ .nameTooLong) :
    fsExists fs cwd path = .ok false := by
  unfold fsExists
  rw [h]
  cases e with
  | noEntry => rfl
  | notDirectory => rfl
  | nameTooLong => exact absurd rfl he

theorem fsExists_of_tooLong (h : fs.resolve cwd path = .error .nameTooLong) : ∃ e, fsExists fs cwd path = .error e := by
  unfold fsExists
  rw [h]
  exact ⟨_, rfl⟩

theorem isDirectory_of_ok (h : fs.resolve cwd path = .ok l) :
    isDirectory fs cwd path = .ok (fs.node l = some .directory) := by
  unfold isDirectory
  rw [h]

theorem serve_of_error {e : PathError} (h : fs.resolve cwd path = .error e) (he : e ≠ .nameTooLong) :
    serve fs cwd path contentType = .ok (.status 404) := by
  unfold serve
  rw [fsExists_of_error h he, Except.bind_ok]
  rfl

theorem serve_of_tooLong (contentType : String) (h : fs.resolve cwd path = .error .nameTooLong) :
    ∃ e, serve fs cwd path contentType = .error e := by
  obtain ⟨e, he⟩ := fsExists_of_tooLong h
  unfold serve
  rw [he]
  exact ⟨e, rfl⟩

theorem serve_of_other (h : fs.resolve cwd path = .ok l) (hl : fs.node l ≠ some .directory) :
    serve fs cwd path contentType = .ok (writeFile fs cwd path contentType) := by
  unfold serve
  rw [fsExists_of_ok h, Except.bind_ok, isDirectory_of_ok h, decide_eq_false hl]
  rfl

theorem serve_of_directory (h : fs.resolve cwd path = .ok l) (hl : fs.node l = some .directory) :
    serve fs cwd path contentType = (fsExists fs cwd (path ++ '/' :: indexName)).map fun there =>
      if there then writeFile fs cwd (path ++ '/' :: indexName) contentType else .status 404 := by
  unfold serve
  rw [fsExists_of_ok h, Except.bind_ok, isDirectory_of_ok h, decide_eq_true hl]
  cases fsExists fs cwd (path ++ '/' :: indexName) with
  | ok there => cases there <;> rfl
  | error e => rfl

theorem serve_ok_iff : (∃ r, serve fs cwd path contentType = .ok r) ↔ Statable fs cwd path := by
  unfold Statable
  cases h : fs.resolve cwd path with
  | error e =>
      by_cases he : e = .nameTooLong
      · subst he
        obtain ⟨e, herror⟩ := serve_of_tooLong contentType h
        simp [herror]
      · simp [serve_of_error h he, he]
  | ok l =>
      by_cases hl : fs.node l = some .directory
      · rw [serve_of_directory h hl]
        cases hindex : fs.resolve cwd (path ++ '/' :: indexName) with
        | ok l' =>
            simp [fsExists_of_ok hindex, Except.map]
        | error e =>
            by_cases he : e = .nameTooLong
            · subst he
              obtain ⟨e, herror⟩ := fsExists_of_tooLong hindex
              simp [herror, hl, Except.map]
            · simp [fsExists_of_error hindex he, he, Except.map]
      · simp [serve_of_other h hl, hl]

theorem writeFile_file_iff {c contentType' : String} : writeFile fs cwd path contentType = .file l c contentType' ↔
    fs.resolve cwd path = .ok l ∧ fs.node l = some (.file c) ∧ contentType' = contentType := by
  unfold writeFile
  constructor
  · intro h
    split at h
    next l' hl' =>
      split at h
      next contents hcontents =>
        obtain ⟨rfl, rfl, rfl⟩ := Response.file.inj h
        exact ⟨hl', hcontents, rfl⟩
      next => cases h
    next => cases h
  · intro ⟨hl, hc, htype⟩
    rw [hl, htype]
    dsimp only
    rw [hc]

theorem names_of_serve {c contentType' : String} (h : serve fs cwd path contentType = .ok (.file l c contentType')) :
    Names fs cwd path l := by
  cases hpath : fs.resolve cwd path with
  | error e =>
      by_cases he : e = .nameTooLong
      · subst he
        obtain ⟨e, herror⟩ := serve_of_tooLong contentType hpath
        rw [herror] at h
        cases h
      · rw [serve_of_error hpath he] at h
        cases h
  | ok d =>
      by_cases hd : fs.node d = some .directory
      · rw [serve_of_directory hpath hd] at h
        obtain ⟨there, -, hfile⟩ := Except.map_ok_iff.mp h
        split at hfile
        next =>
          obtain ⟨hl, hc, -⟩ := writeFile_file_iff.mp hfile
          exact ⟨c, hc, .inr ⟨d, hpath, hd, hl⟩⟩
        next => cases hfile
      · rw [serve_of_other hpath hd] at h
        obtain ⟨hl, hc, -⟩ := writeFile_file_iff.mp (Except.ok.inj h)
        exact ⟨c, hc, .inl hl⟩

theorem serve_file_iff : (∃ c, serve fs cwd path contentType = .ok (.file l c contentType)) ↔ Names fs cwd path l := by
  constructor
  · intro ⟨c, h⟩
    exact names_of_serve h
  · intro ⟨c, hc, h⟩
    refine ⟨c, ?_⟩
    rcases h with hl | ⟨d, hd, hdir, hl⟩
    · rw [serve_of_other hl (by simp [hc])]
      exact congrArg Except.ok (writeFile_file_iff.mpr ⟨hl, hc, rfl⟩)
    · rw [serve_of_directory hd hdir, fsExists_of_ok hl]
      exact congrArg Except.ok (writeFile_file_iff.mpr ⟨hl, hc, rfl⟩)

/-- A file that is named stands where the path leads to, or directly in it. -/
theorem Names.location (h : Names fs cwd path l) (hne : path ≠ []) (hrel : path.head? ≠ some '/') :
    l = normalize cwd ((cPath path).splitOn '/') ∨ l = normalize cwd ((cPath path).splitOn '/') ++ [indexName] := by
  obtain ⟨c, hc, hl | ⟨d, hd, hdir, hl⟩⟩ := h
  · exact .inl (resolve_ok hl hrel)
  · have hrel' : (path ++ '/' :: indexName).head? ≠ some '/' := by
      rwa [List.head?_append_of_ne_nil _ hne]
    have hindex := resolve_ok hl hrel'
    by_cases hnul : '\x00' ∈ path
    · rw [cPath_append_of_mem hnul] at hindex
      exact .inl hindex
    · right
      rw [cPath_of_notMem hnul, hindex, cPath_of_notMem]
      · exact normalize_entry (by decide) (by decide)
      · simp only [List.mem_append, not_or]
        exact ⟨hnul, by decide⟩

end Files

end HTTPServer

end Scallop
