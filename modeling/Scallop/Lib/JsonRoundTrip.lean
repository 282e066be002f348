import Scallop.Lib.Json

/-!
# JSON texts read back

* `string_dumpString`, `number_dumpInt`, `number_dumpDec` : strings and numerals;
* `value_dump` : a value is read where its text stands;
* `parse_dump` : the text of a value is read as the value.
-/

namespace Json

variable {rest : List Char}

/-! ## Strings -/

theorem hexDigit_digitChar : ∀ k < 16, hexDigit (Nat.digitChar k) = some k := by decide

theorem codeUnit_digitChar {n : Nat} (h : n < 32) :
    codeUnit '0' '0' (Nat.digitChar (n / 16)) (Nat.digitChar (n % 16)) = some n := by
  have hz : hexDigit '0' = some 0 := by decide
  unfold codeUnit
  rw [hz, hexDigit_digitChar _ (by omega), hexDigit_digitChar _ (by omega)]
  show some (((0 * 16 + 0) * 16 + n / 16) * 16 + n % 16) = some n
  rw [Option.some.injEq]
  omega

theorem string_escape (c : Char) {us : List Nat} {cs : List Char}
    (h : string rest = some (us, cs)) : string (escape c ++ rest) = some (c.toNat :: us, cs) := by
  have hshort {d : Char} (hd : unescape d = some c.toNat) :
      string ('\\' :: d :: rest) = some (c.toNat :: us, cs) := by
    have hne : d ≠ 'u' := by
      rintro rfl
      cases hd
    rw [string.eq_4 _ _ fun _ _ _ _ _ hd' => absurd hd' hne, hd, Option.bind_some, h]
    rfl
  unfold escape
  split
  next hc => subst hc; exact hshort rfl
  split
  next hc => subst hc; exact hshort rfl
  split
  next hc => subst hc; exact hshort rfl
  split
  next hc => subst hc; exact hshort rfl
  split
  next hc => subst hc; exact hshort rfl
  split
  next hc => exact hshort (by rw [hc]; rfl)
  split
  next hc => exact hshort (by rw [hc]; rfl)
  split
  next hc =>
    simp only [List.cons_append, List.nil_append]
    rw [string.eq_3, codeUnit_digitChar hc, Option.bind_some, h]
    rfl
  next hq hb _ _ _ _ _ hc =>
    simp only [List.cons_append, List.nil_append]
    rw [string.eq_5 _ _ hq (fun _ _ _ _ _ hc' => absurd hc' hb) fun _ _ hc' => absurd hc' hb,
      if_pos (Nat.le_of_not_lt hc), h]
    rfl

theorem string_dumpString (cs rest : List Char) :
    string (cs.flatMap escape ++ '"' :: rest) = some (cs.map Char.toNat, rest) := by
  induction cs with
  | nil => rfl
  | cons c cs ih =>
      rw [List.flatMap_cons, List.append_assoc]
      exact string_escape c ih

theorem not_surrogate (c : Char) : ¬ (0xD800 ≤ c.toNat ∧ c.toNat < 0xE000) := by
  have hvalid : c.toNat < 0xD800 ∨ (0xDFFF < c.toNat ∧ c.toNat < 0x110000) := c.valid
  omega

theorem ofUnit_toNat (c : Char) : ofUnit c.toNat = c := by
  unfold ofUnit
  rw [if_neg (not_surrogate c), Char.ofNat_toNat]

theorem ofUnits_map_toNat (cs : List Char) : ofUnits (cs.map Char.toNat) = cs := by
  induction cs with
  | nil => rfl
  | cons c cs ih =>
      cases cs with
      | nil => exact congrArg (· :: []) (ofUnit_toNat c)
      | cons d ds =>
          have hc := not_surrogate c
          rw [List.map_cons, List.map_cons, ofUnits, if_neg (by omega), ofUnit_toNat]
          rw [List.map_cons] at ih
          rw [ih]

/-! ## Numerals -/

/-- A text that does not begin with a character of a numeral. -/
def Ends (cs : List Char) : Prop := ∀ c ∈ cs.head?, isNumeral c = false

theorem isNumeral_of_isDigit {c : Char} (h : c.isDigit = true) : isNumeral c = true := by
  simp [isNumeral, h]

theorem isDigit_toDigits {n : Nat} {c : Char} (h : c ∈ Nat.toDigits 10 n) : c.isDigit = true :=
  Nat.isDigit_of_mem_toDigits (by decide) (by decide) h

theorem head_toDigits {n : Nat} (hn : n ≠ 0) : (Nat.toDigits 10 n).head? ≠ some '0' := by
  induction n using Nat.strongRecOn with
  | _ n ih =>
      by_cases h : n < 10
      · rw [Nat.toDigits_of_lt_base h]
        simpa using hn
      · rw [Nat.toDigits_of_base_le (by decide) (Nat.le_of_not_lt h), List.head?_append,
          List.head?_eq_some_head Nat.toDigits_ne_nil, Option.some_or,
          ← List.head?_eq_some_head Nat.toDigits_ne_nil]
        exact ih (n / 10) (by omega) (by omega)

theorem dropWhile_of_head {p : Char → Bool} {cs : List Char} (h : ∀ c ∈ cs.head?, p c = false) :
    cs.dropWhile p = cs ∧ cs.takeWhile p = [] := by
  cases cs with
  | nil => exact ⟨rfl, rfl⟩
  | cons c cs =>
      have hc : ¬ p c = true := by rw [h c rfl]; decide
      exact ⟨List.dropWhile_cons_of_neg hc, List.takeWhile_cons_of_neg hc⟩

theorem digits_toDigits (n : Nat) {cs : List Char} (h : ∀ c ∈ cs.head?, c.isDigit = false) :
    digits (Nat.toDigits 10 n ++ cs) = some (Nat.toDigits 10 n, cs) := by
  obtain ⟨hdrop, htake⟩ := dropWhile_of_head h
  unfold digits
  rw [List.takeWhile_append_of_pos fun c => isDigit_toDigits,
    List.dropWhile_append_of_pos fun c => isDigit_toDigits, hdrop, htake, List.append_nil]
  exact if_neg Nat.toDigits_ne_nil

theorem no_leading_zero (n : Nat) :
    ¬ ((Nat.toDigits 10 n).head? = some '0' ∧ (Nat.toDigits 10 n).length ≠ 1) := by
  rintro ⟨hz, hlen⟩
  by_cases hn : n = 0
  · subst hn
    exact hlen rfl
  · exact head_toDigits hn hz

theorem unsigned_toDigits (sign : Int) (n : Nat) {cs : List Char}
    (h : ∀ c ∈ cs.head?, c.isDigit = false) :
    unsigned sign (Nat.toDigits 10 n ++ cs) = fraction sign (Nat.toDigits 10 n) cs := by
  unfold unsigned
  rw [digits_toDigits n h]
  exact if_neg (no_leading_zero n)

theorem ne_of_isDigit {c d : Char} (hc : c.isDigit = true) (hd : d.isDigit = false) : c ≠ d := by
  rintro rfl
  rw [hc] at hd
  cases hd

theorem toDigits_eq_cons (n : Nat) :
    ∃ c cs, Nat.toDigits 10 n = c :: cs ∧ c.isDigit = true := by
  cases h : Nat.toDigits 10 n with
  | nil => exact absurd h Nat.toDigits_ne_nil
  | cons c cs => exact ⟨c, cs, rfl, isDigit_toDigits (h ▸ List.mem_cons_self)⟩

theorem numeral_toDigits (n : Nat) {cs : List Char} :
    numeral (Nat.toDigits 10 n ++ cs) = unsigned 1 (Nat.toDigits 10 n ++ cs) := by
  obtain ⟨c, ds, hn, hc⟩ := toDigits_eq_cons n
  rw [hn, List.cons_append]
  exact numeral.eq_2 _ fun _ h => ne_of_isDigit hc (by decide) (List.cons.inj h).1

/-- The sign of a number and the digits after it. -/
theorem numeral_dumpInt (n : Int) {cs : List Char} (h : ∀ c ∈ cs.head?, c.isDigit = false) :
    ∃ sign ds, numeral (dumpInt n ++ cs) = fraction sign ds cs ∧
      sign * (Nat.ofDigitChars 10 ds 0 : Nat) = n := by
  cases n with
  | ofNat n =>
      refine ⟨1, Nat.toDigits 10 n, ?_, ?_⟩
      · rw [dumpInt, numeral_toDigits, unsigned_toDigits 1 n h]
      · rw [Nat.ofDigitChars_ten_toDigits, Int.one_mul]
        rfl
  | negSucc n =>
      refine ⟨-1, Nat.toDigits 10 (n + 1), ?_, ?_⟩
      · exact unsigned_toDigits (-1) (n + 1) h
      · rw [Nat.ofDigitChars_ten_toDigits]
        omega

theorem exponentDigits_toDigits (n : Nat) : exponentDigits (Nat.toDigits 10 n) = some (n : Int) := by
  have hd := @digits_toDigits n [] nofun
  rw [List.append_nil] at hd
  unfold exponentDigits
  rw [hd, Option.bind_some, if_pos rfl, Nat.ofDigitChars_ten_toDigits]

theorem exponent_dumpInt (n : Int) : exponent (dumpInt n) = some n := by
  cases n with
  | ofNat n =>
      obtain ⟨c, ds, hn, hc⟩ := toDigits_eq_cons n
      rw [dumpInt, hn, exponent.eq_3 _ (fun _ h => ne_of_isDigit hc (by decide) (List.cons.inj h).1)
        fun _ h => ne_of_isDigit hc (by decide) (List.cons.inj h).1, ← hn, exponentDigits_toDigits]
      rfl
  | negSucc n =>
      show (exponentDigits (Nat.toDigits 10 (n + 1))).map (fun e => -e) = _
      rw [exponentDigits_toDigits]
      rfl

theorem isNumeral_dumpInt {n : Int} {c : Char} (h : c ∈ dumpInt n) : isNumeral c = true := by
  cases n with
  | ofNat n => exact isNumeral_of_isDigit (isDigit_toDigits h)
  | negSucc n =>
      rcases List.mem_cons.mp h with rfl | h
      · rfl
      · exact isNumeral_of_isDigit (isDigit_toDigits h)

theorem number_append_of_ends {x : Json} {cs : List Char} (h : numeral cs = some x)
    (hcs : ∀ c ∈ cs, isNumeral c = true) (hends : Ends rest) : number (cs ++ rest) = some (x, rest) := by
  obtain ⟨hdrop, htake⟩ := dropWhile_of_head hends
  unfold number
  rw [List.takeWhile_append_of_pos hcs, List.dropWhile_append_of_pos hcs, hdrop, htake,
    List.append_nil, h]
  rfl

theorem number_dumpInt (n : Int) (hends : Ends rest) :
    number (dumpInt n ++ rest) = some (int n, rest) := by
  obtain ⟨sign, ds, hnum, hn⟩ := @numeral_dumpInt n [] nofun
  rw [List.append_nil] at hnum
  refine number_append_of_ends (hnum.trans ?_) (fun c => isNumeral_dumpInt) hends
  rw [fraction, hn]

theorem number_dumpDec (m e : Int) (hends : Ends rest) :
    number (dumpInt m ++ 'e' :: dumpInt e ++ rest) = some (dec m e, rest) := by
  have he : ∀ c ∈ ('e' :: dumpInt e).head?, c.isDigit = false := by
    rintro c hc
    obtain rfl := Option.some.inj hc
    decide
  obtain ⟨sign, ds, hnum, hm⟩ := numeral_dumpInt m he
  refine number_append_of_ends (hnum.trans ?_) (fun c hc => ?_) hends
  · rw [fraction.eq_3 _ _ ('e' :: dumpInt e) nofun
      fun _ h => absurd (List.cons.inj h).1 (by decide), hm, scaled,
      if_pos (.inl rfl), exponent_dumpInt, Option.map_some, Int.zero_add]
  · rcases List.mem_append.mp hc with hc | hc
    · exact isNumeral_dumpInt hc
    · rcases List.mem_cons.mp hc with rfl | hc
      · rfl
      · exact isNumeral_dumpInt hc

/-! ## Values -/

theorem dump_eq_cons (x : Json) :
    ∃ c cs, dump x = c :: cs ∧ isBlank c = false ∧ c ≠ '}' ∧ c ≠ ']' := by
  have hint (n : Int) : ∃ c cs, dumpInt n = c :: cs ∧ isBlank c = false ∧ c ≠ '}' ∧ c ≠ ']' := by
    cases n with
    | ofNat n =>
        obtain ⟨c, cs, hn, hc⟩ := toDigits_eq_cons n
        refine ⟨c, cs, hn, ?_, ne_of_isDigit hc (by decide), ne_of_isDigit hc (by decide)⟩
        have hblank : ∀ d, isBlank d = true → d.isDigit = false := by
          intro d hd
          rcases of_decide_eq_true hd with rfl | rfl | rfl | rfl <;> decide
        cases hb : isBlank c with
        | false => rfl
        | true => exact absurd hc (by rw [hblank c hb]; decide)
    | negSucc n => exact ⟨'-', _, rfl, by decide, by decide, by decide⟩
  cases x with
  | null => exact ⟨'n', _, rfl, by decide, by decide, by decide⟩
  | bool b => cases b <;> exact ⟨_, _, rfl, by decide, by decide, by decide⟩
  | int n => exact hint n
  | dec m e =>
      obtain ⟨c, cs, hm, hc⟩ := hint m
      exact ⟨c, cs ++ 'e' :: dumpInt e, by rw [dump, hm]; rfl, hc⟩
  | str s => exact ⟨'"', _, rfl, by decide, by decide, by decide⟩
  | arr xs => cases xs <;> exact ⟨'[', _, rfl, by decide, by decide, by decide⟩
  | obj ms => cases ms <;> exact ⟨'{', _, rfl, by decide, by decide, by decide⟩

theorem skipBlanks_cons {c : Char} (h : isBlank c = false) (cs : List Char) :
    skipBlanks (c :: cs) = c :: cs :=
  List.dropWhile_cons_of_neg (by rw [h]; decide)

theorem next_cons {c : Char} (h : isBlank c = false) (cs : List Char) :
    next (c :: cs) = some (c, cs) := by
  unfold next
  rw [skipBlanks_cons h]

theorem skipBlanks_dump (x : Json) (rest : List Char) :
    skipBlanks (dump x ++ rest) = dump x ++ rest := by
  obtain ⟨c, cs, hx, hc, -⟩ := dump_eq_cons x
  rw [hx, List.cons_append, skipBlanks_cons hc]

theorem value_number {n : Nat} {c : Char} (hc : c.isDigit = true ∨ c = '-') (cs : List Char) :
    value (n + 1) (c :: cs) = number (c :: cs) := by
  have hne {d : Char} (hd : d.isDigit = false) (hd' : d ≠ '-') : c ≠ d :=
    hc.elim (fun hc => ne_of_isDigit hc hd) fun hc => hc ▸ hd'.symm
  simp only [value]
  rw [if_neg (hne (by decide) (by decide)), if_neg (hne (by decide) (by decide)),
    if_neg (hne (by decide) (by decide)), if_neg (hne (by decide) (by decide)),
    if_neg (hne (by decide) (by decide)), if_neg (hne (by decide) (by decide))]

theorem value_dumpInt {n : Nat} (k : Int) (cs : List Char) :
    value (n + 1) (dumpInt k ++ cs) = number (dumpInt k ++ cs) := by
  cases k with
  | ofNat k =>
      obtain ⟨c, ds, hk, hc⟩ := toDigits_eq_cons k
      rw [dumpInt, hk]
      exact value_number (.inl hc) _
  | negSucc k => exact value_number (.inr rfl) _

theorem ends_cons {c : Char} (h : isNumeral c = false) (cs : List Char) : Ends (c :: cs) := by
  intro d hd
  obtain rfl := Option.some.inj hd
  exact h

theorem ends_dumpElements (xs : List Json) (rest : List Char) : Ends (dumpElements xs ++ rest) := by
  cases xs <;> exact ends_cons (by decide) _

theorem ends_dumpMembers (ms : List (String × Json)) (rest : List Char) :
    Ends (dumpMembers ms ++ rest) := by
  cases ms with
  | nil => exact ends_cons (by decide) _
  | cons m ms => exact ends_cons (by decide) _

theorem length_dump_pos (x : Json) : 0 < (dump x).length := by
  obtain ⟨c, cs, hx, -⟩ := dump_eq_cons x
  rw [hx]
  exact Nat.succ_pos _

theorem length_dumpElements_pos (xs : List Json) : 0 < (dumpElements xs).length := by
  cases xs <;> exact Nat.succ_pos _

theorem getLast_dumpMembers (ms : List (String × Json)) : (dumpMembers ms).getLast? = some '}' := by
  induction ms with
  | nil => rfl
  | cons m ms ih =>
      rw [dumpMembers, List.getLast?_cons, List.getLast?_append, List.getLast?_cons, List.getLast?_append, ih]
      rfl

theorem getLast_dump_obj (ms : List (String × Json)) : (obj ms).dump.getLast? = some '}' := by
  cases ms with
  | nil => rfl
  | cons m ms =>
      rw [dump, List.getLast?_cons, List.getLast?_append, List.getLast?_cons, List.getLast?_append,
        getLast_dumpMembers]
      rfl

theorem elements_nil {n : Nat} {cs rest : List Char} {x : Json}
    (h : value n (skipBlanks cs) = some (x, ']' :: rest)) :
    elements (n + 1) cs = some ([x], rest) := by
  rw [elements, h, Option.bind_some, next_cons (by decide)]
  rfl

theorem elements_cons {n : Nat} {cs cs' rest : List Char} {x : Json} {xs : List Json}
    (h : value n (skipBlanks cs) = some (x, ',' :: cs')) (hxs : elements n cs' = some (xs, rest)) :
    elements (n + 1) cs = some (x :: xs, rest) := by
  rw [elements, h, Option.bind_some, next_cons (by decide), Option.bind_some, if_pos rfl, hxs]
  rfl

theorem read_dumpString (s : String) (rest : List Char) :
    string ((s.toList.flatMap escape ++ ['"']) ++ rest) = some (s.toList.map Char.toNat, rest) := by
  rw [List.append_assoc]
  exact string_dumpString _ rest

theorem ofUnits_toList (s : String) : String.ofList (ofUnits (s.toList.map Char.toNat)) = s := by
  rw [ofUnits_map_toNat, String.ofList_toList]

theorem members_nil {n : Nat} {cs rest : List Char} {k : String} {x : Json}
    (h : value n (skipBlanks cs) = some (x, '}' :: rest)) :
    members (n + 1) (dumpString k ++ ':' :: cs) = some ([(k, x)], rest) := by
  rw [members, dumpString, List.cons_append, next_cons (by decide), Option.bind_some, if_pos rfl,
    read_dumpString, Option.bind_some, next_cons (by decide), Option.bind_some, if_pos rfl, h,
    Option.bind_some, next_cons (by decide), Option.bind_some, ofUnits_toList]
  rfl

theorem members_cons {n : Nat} {cs cs' rest : List Char} {k : String} {x : Json}
    {ms : List (String × Json)} (h : value n (skipBlanks cs) = some (x, ',' :: cs'))
    (hms : members n cs' = some (ms, rest)) :
    members (n + 1) (dumpString k ++ ':' :: cs) = some ((k, x) :: ms, rest) := by
  rw [members, dumpString, List.cons_append, next_cons (by decide), Option.bind_some, if_pos rfl,
    read_dumpString, Option.bind_some, next_cons (by decide), Option.bind_some, if_pos rfl, h,
    Option.bind_some, next_cons (by decide), Option.bind_some, ofUnits_toList]
  dsimp only
  rw [if_pos rfl, hms]
  rfl

theorem value_arr {n : Nat} {cs rest : List Char} {x : Json} {xs : List Json}
    (h : elements n (dump x ++ cs) = some (xs, rest)) :
    value (n + 1) ('[' :: (dump x ++ cs)) = some (arr xs, rest) := by
  obtain ⟨c, ds, hx, hblank, -, hne⟩ := dump_eq_cons x
  rw [value, if_neg (by decide), if_pos rfl]
  rw [hx, List.cons_append] at h ⊢
  rw [next_cons hblank, Option.bind_some, if_neg hne, h]
  rfl

theorem value_obj {n : Nat} {cs rest : List Char} {k : String} {ms : List (String × Json)}
    (h : members n (dumpString k ++ cs) = some (ms, rest)) :
    value (n + 1) ('{' :: (dumpString k ++ cs)) = some (obj ms, rest) := by
  rw [value, if_pos rfl]
  rw [dumpString, List.cons_append] at h ⊢
  rw [next_cons (by decide), Option.bind_some]
  dsimp only
  rw [if_neg (by decide), h]
  rfl

mutual

theorem value_dump : ∀ (x : Json) {n : Nat} {rest : List Char}, (dump x).length ≤ n → Ends rest →
    value n (dump x ++ rest) = some (x, rest)
  | _, 0, _, hn, _ => absurd hn (Nat.not_le_of_lt (length_dump_pos _))
  | null, n + 1, rest, _, _ => by
      show (List.dropPrefix? (['u', 'l', 'l'] ++ rest) ['u', 'l', 'l']).map _ = _
      rw [List.dropPrefix?_append_of_beq _ rfl]
      rfl
  | bool true, n + 1, rest, _, _ => by
      show (List.dropPrefix? (['r', 'u', 'e'] ++ rest) ['r', 'u', 'e']).map _ = _
      rw [List.dropPrefix?_append_of_beq _ rfl]
      rfl
  | bool false, n + 1, rest, _, _ => by
      show (List.dropPrefix? (['a', 'l', 's', 'e'] ++ rest) ['a', 'l', 's', 'e']).map _ = _
      rw [List.dropPrefix?_append_of_beq _ rfl]
      rfl
  | int k, n + 1, rest, _, hends => by
      rw [dump, value_dumpInt, number_dumpInt k hends]
  | dec m e, n + 1, rest, _, hends => by
      have hdec := number_dumpDec m e hends
      rw [List.append_assoc] at hdec
      rw [dump, List.append_assoc, value_dumpInt, hdec]
  | str s, n + 1, rest, _, _ => by
      rw [dump, dumpString, List.cons_append, value, if_neg (by decide), if_neg (by decide),
        if_pos rfl, read_dumpString, Option.map_some, ofUnits_toList]
  | arr [], n + 1, rest, _, _ => rfl
  | arr (x :: xs), n + 1, rest, hn, _ => by
      rw [dump, List.length_cons, List.length_append] at hn
      have hx := length_dump_pos x
      have hxs := length_dumpElements_pos xs
      obtain ⟨m, rfl⟩ : ∃ m, n = m + 1 := ⟨n - 1, by omega⟩
      rw [dump, List.cons_append, List.append_assoc]
      apply value_arr
      apply elements_dump xs _ (by omega)
      rw [skipBlanks_dump]
      exact value_dump x (by omega) (ends_dumpElements xs rest)
  | obj [], n + 1, rest, _, _ => rfl
  | obj ((k, x) :: ms), n + 1, rest, hn, _ => by
      rw [dump, List.length_cons, List.length_append, List.length_cons, List.length_append] at hn
      have hx := length_dump_pos x
      obtain ⟨m, rfl⟩ : ∃ m, n = m + 1 := ⟨n - 1, by omega⟩
      rw [dump, List.cons_append, List.append_assoc]
      apply value_obj
      rw [List.cons_append, List.append_assoc]
      apply members_dump ms _ (by omega)
      rw [skipBlanks_dump]
      exact value_dump x (by omega) (ends_dumpMembers ms rest)

/-- Once its first element is read, the rest of an array is. -/
theorem elements_dump : ∀ (xs : List Json) {n : Nat} {cs rest : List Char} {x : Json},
    value n (skipBlanks cs) = some (x, dumpElements xs ++ rest) → (dumpElements xs).length ≤ n →
    elements (n + 1) cs = some (x :: xs, rest)
  | [], n, cs, rest, x, h, _ => elements_nil h
  | y :: ys, n, cs, rest, x, h, hn => by
      rw [dumpElements, List.length_cons, List.length_append] at hn
      obtain ⟨m, rfl⟩ : ∃ m, n = m + 1 := ⟨n - 1, by omega⟩
      rw [dumpElements, List.cons_append, List.append_assoc] at h
      apply elements_cons h
      apply elements_dump ys _ (by omega)
      rw [skipBlanks_dump]
      exact value_dump y (by omega) (ends_dumpElements ys rest)

/-- Once its first member is read, the rest of an object is. -/
theorem members_dump : ∀ (ms : List (String × Json)) {n : Nat} {cs rest : List Char} {k : String}
    {x : Json}, value n (skipBlanks cs) = some (x, dumpMembers ms ++ rest) →
    (dumpMembers ms).length ≤ n →
    members (n + 1) (dumpString k ++ ':' :: cs) = some ((k, x) :: ms, rest)
  | [], n, cs, rest, k, x, h, _ => members_nil h
  | (l, y) :: ms, n, cs, rest, k, x, h, hn => by
      rw [dumpMembers, List.length_cons, List.length_append, List.length_cons,
        List.length_append] at hn
      obtain ⟨m, rfl⟩ : ∃ m, n = m + 1 := ⟨n - 1, by omega⟩
      rw [dumpMembers, List.cons_append, List.append_assoc, List.cons_append,
        List.append_assoc] at h
      apply members_cons h
      apply members_dump ms _ (by omega)
      rw [skipBlanks_dump]
      exact value_dump y (by omega) (ends_dumpMembers ms rest)

end

/-- The text of a value is read as the value. -/
theorem parse_dump (x : Json) : parse (dump x) = some x := by
  have hv := @value_dump x ((dump x).length + 1) [] (Nat.le_succ _) nofun
  have hskip := skipBlanks_dump x []
  rw [List.append_nil] at hv hskip
  unfold parse
  rw [hskip, hv]
  rfl

end Json
