import Mathlib.Data.List.Basic
import Mathlib.Data.List.TakeWhile

/-!
# JSON texts

* `Json` : values; `Json.dump` : the text of a value, without blanks;
* `Json.parse` : the value of a text, with `value`, `elements`, `members` for its parts, `string` for
  what stands between quotes and `number` for a numeral;
* `field`, `set` : the members of an object, ordered by their names.
-/

/-- JSON values; `dec m e` is `m * 10 ^ e`, written with a fraction or an exponent. -/
inductive Json where
  | null
  | bool (b : Bool)
  | int (n : Int)
  | dec (m e : Int)
  | str (s : String)
  | arr (xs : List Json)
  | obj (ms : List (String × Json))
deriving Repr

namespace Json

instance : Inhabited Json := ⟨null⟩

/-! ## Members -/

/-- The value of a member; of two members with one name, the later one counts. -/
def find (k : String) : List (String × Json) → Option Json
  | [] => none
  | (l, x) :: ms => (find k ms).or (if k = l then some x else none)

/-- A member is put where its name belongs. -/
def place (k : String) (x : Json) : List (String × Json) → List (String × Json)
  | [] => [(k, x)]
  | (l, y) :: ms => if k < l then (k, x) :: (l, y) :: ms else (l, y) :: place k x ms

/-- A member, in place of the one that has its name. -/
def insert (k : String) (x : Json) (ms : List (String × Json)) : List (String × Json) :=
  place k x (ms.filter fun m => m.1 ≠ k)

/-- The member of an object; no other value has any. -/
def field (k : String) : Json → Option Json
  | obj ms => find k ms
  | _ => none

/-- Assignment to a member; `null` becomes an object. -/
def set (v : Json) (k : String) (x : Json) : Json :=
  match v with
  | obj ms => obj (insert k x ms)
  | null => obj [(k, x)]
  | v => v

def holdsMembers : Json → Bool
  | null => true
  | obj _ => true
  | _ => false

@[simp] theorem holdsMembers_null : null.holdsMembers = true := rfl

@[simp] theorem holdsMembers_set (v : Json) (k : String) (x : Json) :
    (v.set k x).holdsMembers = v.holdsMembers := by
  cases v <;> rfl

theorem find_eq_none {k : String} {ms : List (String × Json)} (h : ∀ m ∈ ms, m.1 ≠ k) :
    find k ms = none := by
  induction ms with
  | nil => rfl
  | cons m ms ih =>
      rw [find, ih fun m hm => h m (List.mem_cons_of_mem _ hm),
        if_neg (Ne.symm (h m List.mem_cons_self)), Option.or_none]

theorem find_place {k l : String} {ms : List (String × Json)} (h : ∀ m ∈ ms, m.1 ≠ k) (x : Json) :
    find l (place k x ms) = if l = k then some x else find l ms := by
  induction ms with
  | nil => rfl
  | cons m ms ih =>
      have hm := h m List.mem_cons_self
      have hms : ∀ m ∈ ms, m.1 ≠ k := fun m hm => h m (List.mem_cons_of_mem _ hm)
      by_cases hl : l = k
      · subst hl
        rw [place]
        split
        next => rw [find, find_eq_none h, if_pos rfl, Option.none_or]
        next => rw [find, ih hms, if_pos rfl, if_pos rfl, Option.some_or]
      · rw [place]
        split
        next => rw [find, if_neg hl, Option.or_none]
        next => rw [find, find, ih hms, if_neg hl]

theorem find_filter {k l : String} (hl : l ≠ k) (ms : List (String × Json)) :
    find l (ms.filter fun m => m.1 ≠ k) = find l ms := by
  induction ms with
  | nil => rfl
  | cons m ms ih =>
      by_cases hm : m.1 = k
      · have hne : ¬ l = m.1 := fun h => hl (h.trans hm)
        rw [List.filter_cons_of_neg (by simpa using hm), ih, find, if_neg hne, Option.or_none]
      · rw [List.filter_cons_of_pos (by simpa using hm), find, ih, find]

@[simp] theorem field_set (v : Json) (k l : String) (x : Json) :
    (v.set k x).field l = if v.holdsMembers = true ∧ l = k then some x else v.field l := by
  cases v with
  | null => exact if_congr (by simp) rfl rfl
  | obj ms =>
      show find l (place k x _) = _
      rw [find_place fun m hm => of_decide_eq_true (List.mem_filter.mp hm).2]
      by_cases hl : l = k
      · rw [if_pos hl, if_pos ⟨rfl, hl⟩]
      · rw [if_neg hl, if_neg (hl ·.2), find_filter hl]
        rfl
  | _ => rfl

@[simp] theorem field_null (k : String) : null.field k = none := rfl

/-! ## Printing -/

def escape (c : Char) : List Char :=
  if c = '"' then ['\\', '"']
  else if c = '\\' then ['\\', '\\']
  else if c = '\n' then ['\\', 'n']
  else if c = '\r' then ['\\', 'r']
  else if c = '\t' then ['\\', 't']
  else if c.toNat = 8 then ['\\', 'b']
  else if c.toNat = 12 then ['\\', 'f']
  else if c.toNat < 32 then
    ['\\', 'u', '0', '0', Nat.digitChar (c.toNat / 16), Nat.digitChar (c.toNat % 16)]
  else [c]

def dumpString (s : String) : List Char := '"' :: (s.toList.flatMap escape ++ ['"'])

def dumpInt : Int → List Char
  | .ofNat n => Nat.toDigits 10 n
  | .negSucc n => '-' :: Nat.toDigits 10 (n + 1)

mutual

def dump : Json → List Char
  | null => ['n', 'u', 'l', 'l']
  | bool true => ['t', 'r', 'u', 'e']
  | bool false => ['f', 'a', 'l', 's', 'e']
  | int n => dumpInt n
  | dec m e => dumpInt m ++ 'e' :: dumpInt e
  | str s => dumpString s
  | arr [] => ['[', ']']
  | arr (x :: xs) => '[' :: (dump x ++ dumpElements xs)
  | obj [] => ['{', '}']
  | obj ((k, x) :: ms) => '{' :: (dumpString k ++ ':' :: (dump x ++ dumpMembers ms))

/-- The elements after the first, and the end of the array. -/
def dumpElements : List Json → List Char
  | [] => [']']
  | x :: xs => ',' :: (dump x ++ dumpElements xs)

/-- The members after the first, and the end of the object. -/
def dumpMembers : List (String × Json) → List Char
  | [] => ['}']
  | (k, x) :: ms => ',' :: (dumpString k ++ ':' :: (dump x ++ dumpMembers ms))

end

/-! ## Parsing -/

def isBlank (c : Char) : Bool := c = ' ' ∨ c = '\t' ∨ c = '\n' ∨ c = '\r'

def skipBlanks (cs : List Char) : List Char := cs.dropWhile isBlank

def next (cs : List Char) : Option (Char × List Char) :=
  match skipBlanks cs with
  | [] => none
  | c :: cs => some (c, cs)

def hexDigit (c : Char) : Option Nat :=
  if '0' ≤ c ∧ c ≤ '9' then some (c.toNat - '0'.toNat)
  else if 'a' ≤ c ∧ c ≤ 'f' then some (c.toNat - 'a'.toNat + 10)
  else if 'A' ≤ c ∧ c ≤ 'F' then some (c.toNat - 'A'.toNat + 10)
  else none

/-- What a backslash and one character stand for. -/
def unescape (c : Char) : Option Nat :=
  if c = '"' then some 34 else if c = '\\' then some 92 else if c = '/' then some 47
  else if c = 'b' then some 8 else if c = 'f' then some 12 else if c = 'n' then some 10
  else if c = 'r' then some 13 else if c = 't' then some 9 else none

def codeUnit (a b c d : Char) : Option Nat := do
  let a ← hexDigit a
  let b ← hexDigit b
  let c ← hexDigit c
  let d ← hexDigit d
  return ((a * 16 + b) * 16 + c) * 16 + d

/-- What stands before the closing quote, as code units, and what follows it. -/
def string : List Char → Option (List Nat × List Char)
  | [] => none
  | '"' :: cs => some ([], cs)
  | '\\' :: 'u' :: a :: b :: c :: d :: cs =>
      (codeUnit a b c d).bind fun u => (string cs).map fun p => (u :: p.1, p.2)
  | '\\' :: c :: cs =>
      (unescape c).bind fun u => (string cs).map fun p => (u :: p.1, p.2)
  | c :: cs => if 32 ≤ c.toNat then (string cs).map fun p => (c.toNat :: p.1, p.2) else none

/-- A code unit by itself; half of a pair has no character of its own. -/
def ofUnit (u : Nat) : Char := if 0xD800 ≤ u ∧ u < 0xE000 then '\uFFFD' else Char.ofNat u

/-- The characters of code units: a high surrogate and a low one are one character. -/
def ofUnits : List Nat → List Char
  | [] => []
  | [u] => [ofUnit u]
  | u :: v :: us =>
      if (0xD800 ≤ u ∧ u < 0xDC00) ∧ (0xDC00 ≤ v ∧ v < 0xE000) then
        Char.ofNat (0x10000 + (u - 0xD800) * 0x400 + (v - 0xDC00)) :: ofUnits us
      else ofUnit u :: ofUnits (v :: us)

def isNumeral (c : Char) : Bool := c.isDigit ∨ c = '-' ∨ c = '+' ∨ c = '.' ∨ c = 'e' ∨ c = 'E'

def digits (cs : List Char) : Option (List Char × List Char) :=
  let ds := cs.takeWhile Char.isDigit
  if ds = [] then none else some (ds, cs.dropWhile Char.isDigit)

def exponentDigits (cs : List Char) : Option Int :=
  (digits cs).bind fun d => if d.2 = [] then some (Nat.ofDigitChars 10 d.1 0) else none

def exponent : List Char → Option Int
  | '-' :: cs => (exponentDigits cs).map fun e => -e
  | '+' :: cs => exponentDigits cs
  | cs => exponentDigits cs

/-- What may follow `m * 10 ^ e`: an exponent. -/
def scaled (m e : Int) : List Char → Option Json
  | [] => some (dec m e)
  | c :: cs => if c = 'e' ∨ c = 'E' then (exponent cs).map fun k => dec m (e + k) else none

/-- What may follow the first digits: a fraction, an exponent. -/
def fraction (sign : Int) (ds : List Char) : List Char → Option Json
  | [] => some (int (sign * Nat.ofDigitChars 10 ds 0))
  | '.' :: cs => (digits cs).bind fun d =>
      scaled (sign * Nat.ofDigitChars 10 (ds ++ d.1) 0) (-d.1.length) d.2
  | cs => scaled (sign * Nat.ofDigitChars 10 ds 0) 0 cs

/-- A numeral after its sign; it has no leading zero. -/
def unsigned (sign : Int) (cs : List Char) : Option Json :=
  (digits cs).bind fun d =>
    if d.1.head? = some '0' ∧ d.1.length ≠ 1 then none else fraction sign d.1 d.2

def numeral : List Char → Option Json
  | '-' :: cs => unsigned (-1) cs
  | cs => unsigned 1 cs

/-- The numeral at the beginning of a text, up to the first character that none has. -/
def number (cs : List Char) : Option (Json × List Char) :=
  (numeral (cs.takeWhile isNumeral)).map fun x => (x, cs.dropWhile isNumeral)

mutual

/-- The value at the beginning of a text, and what follows it. -/
def value : Nat → List Char → Option (Json × List Char)
  | 0, _ => none
  | _ + 1, [] => none
  | n + 1, c :: cs =>
      if c = '{' then
        (next cs).bind fun d =>
          if d.1 = '}' then some (obj [], d.2) else (members n cs).map fun p => (obj p.1, p.2)
      else if c = '[' then
        (next cs).bind fun d =>
          if d.1 = ']' then some (arr [], d.2) else (elements n cs).map fun p => (arr p.1, p.2)
      else if c = '"' then (string cs).map fun p => (str (String.ofList (ofUnits p.1)), p.2)
      else if c = 't' then (cs.dropPrefix? ['r', 'u', 'e']).map fun cs => (bool true, cs)
      else if c = 'f' then (cs.dropPrefix? ['a', 'l', 's', 'e']).map fun cs => (bool false, cs)
      else if c = 'n' then (cs.dropPrefix? ['u', 'l', 'l']).map fun cs => (null, cs)
      else number (c :: cs)

def elements : Nat → List Char → Option (List Json × List Char)
  | 0, _ => none
  | n + 1, cs =>
      (value n (skipBlanks cs)).bind fun x =>
        (next x.2).bind fun d =>
          if d.1 = ',' then (elements n d.2).map fun p => (x.1 :: p.1, p.2)
          else if d.1 = ']' then some ([x.1], d.2)
          else none

def members : Nat → List Char → Option (List (String × Json) × List Char)
  | 0, _ => none
  | n + 1, cs =>
      (next cs).bind fun q =>
        if q.1 = '"' then
          (string q.2).bind fun k =>
            (next k.2).bind fun d =>
              if d.1 = ':' then
                (value n (skipBlanks d.2)).bind fun x =>
                  (next x.2).bind fun d =>
                    let m := (String.ofList (ofUnits k.1), x.1)
                    if d.1 = ',' then (members n d.2).map fun p => (m :: p.1, p.2)
                    else if d.1 = '}' then some ([m], d.2)
                    else none
              else none
        else none

end

def parse (cs : List Char) : Option Json :=
  match value (cs.length + 1) (skipBlanks cs) with
  | some (x, rest) => if skipBlanks rest = [] then some x else none
  | none => none

end Json
