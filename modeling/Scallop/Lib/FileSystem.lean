import Mathlib.Data.List.TakeWhile

/-!
# File systems

Directories and files, without links, and how paths are resolved in them. A location is the names on the
way from the root.

* `FileSystem`, `resolve` : the location of a path, or why it has none;
* `normalize` : `.` and `..` taken out of the names of a path; `resolve_ok` : where a path resolves, that
  is its location.
-/

namespace FileSystem

abbrev Name := List Char

abbrev Location := List Name

inductive Node where
  | file (contents : String)
  | directory
deriving DecidableEq, Repr

inductive PathError where
  | noEntry
  | notDirectory
  | nameTooLong
deriving DecidableEq, Repr

end FileSystem

open FileSystem

/-- What stands where, and how long names and paths may be. -/
structure FileSystem where
  node : Location → Option Node
  nameMax : Nat := 255
  pathMax : Nat := 4096

namespace FileSystem

/-- The names of a path from a location on. -/
def walk (fs : FileSystem) : Location → List Name → Except PathError Location
  | l, [] => .ok l
  | l, name :: names =>
      if fs.node l ≠ some .directory then .error .notDirectory
      else if name = [] ∨ name = ['.'] then fs.walk l names
      else if name = ['.', '.'] then fs.walk l.dropLast names
      else if fs.nameMax < name.length then .error .nameTooLong
      else if fs.node (l ++ [name]) = none then .error .noEntry
      else fs.walk (l ++ [name]) names

/-- A path as it is passed to the system: up to the first NUL. -/
def cPath (path : List Char) : List Char := path.takeWhile (· ≠ '\x00')

def resolve (fs : FileSystem) (cwd : Location) (path : List Char) : Except PathError Location :=
  let path := cPath path
  if path = [] then .error .noEntry
  else if fs.pathMax ≤ path.length then .error .nameTooLong
  else fs.walk (if path.head? = some '/' then [] else cwd) (path.splitOn '/')

theorem cPath_of_notMem {path : List Char} (h : '\x00' ∉ path) : cPath path = path := by
  refine List.takeWhile_eq_self_iff.mpr fun c hc => decide_eq_true ?_
  rintro rfl
  exact h hc

theorem cPath_append_of_mem {path rest : List Char} (h : '\x00' ∈ path) : cPath (path ++ rest) = cPath path := by
  unfold cPath
  rw [List.takeWhile_append]
  apply if_neg
  intro hlength
  have hall := List.takeWhile_eq_self_iff.mp ((List.takeWhile_prefix _).eq_of_length hlength)
  exact of_decide_eq_true (hall _ h) rfl

/-! ## Normal forms -/

/-- Names without `.` and `..`; the root is its own parent. -/
def normalize : Location → List Name → Location
  | l, [] => l
  | l, name :: names =>
      if name = [] ∨ name = ['.'] then normalize l names
      else if name = ['.', '.'] then normalize l.dropLast names
      else normalize (l ++ [name]) names

variable {fs : FileSystem} {l l' cwd : Location} {names : List Name} {path : List Char}

theorem walk_ok (h : fs.walk l names = .ok l') : l' = normalize l names := by
  induction names generalizing l with
  | nil =>
      cases h
      rfl
  | cons name names ih =>
      rw [walk] at h
      rw [normalize]
      split at h
      next => cases h
      next =>
        split at h
        next hskip =>
          rw [if_pos hskip]
          exact ih h
        next hskip =>
          rw [if_neg hskip]
          split at h
          next hup =>
            rw [if_pos hup]
            exact ih h
          next hup =>
            rw [if_neg hup]
            split at h
            next => cases h
            next =>
              split at h
              next => cases h
              next => exact ih h

/-- Where a relative path resolves, it is to its normal form. -/
theorem resolve_ok (h : fs.resolve cwd path = .ok l) (hrel : path.head? ≠ some '/') :
    l = normalize cwd ((cPath path).splitOn '/') := by
  have hhead : (cPath path).head? ≠ some '/' := by
    intro hslash
    obtain ⟨rest, hrest⟩ := List.head?_eq_some_iff.mp hslash
    obtain ⟨tail, htail⟩ : cPath path <+: path := List.takeWhile_prefix _
    rw [hrest] at htail
    exact hrel (by rw [← htail]; rfl)
  unfold resolve at h
  dsimp only at h
  split at h
  next => cases h
  next =>
    split at h
    next => cases h
    next => exact walk_ok h

theorem normalize_append (l : Location) (names names' : List Name) :
    normalize l (names ++ names') = normalize (normalize l names) names' := by
  induction names generalizing l with
  | nil => rfl
  | cons name names ih =>
      rw [List.cons_append, normalize, normalize]
      split_ifs
      · exact ih _
      · exact ih _
      · exact ih _

/-- A name in the directory that a path leads to. -/
theorem normalize_entry {name : Name} (hslash : '/' ∉ name) (hname : name ≠ [] ∧ name ≠ ['.'] ∧ name ≠ ['.', '.']) :
    normalize l ((path ++ '/' :: name).splitOn '/') = normalize l (path.splitOn '/') ++ [name] := by
  obtain ⟨hne, hdot, hup⟩ := hname
  rw [List.splitOn_append_cons_self, List.splitOn_eq_singleton hslash, normalize_append]
  simp [normalize, hne, hdot, hup]

end FileSystem
