import Scallop.Lib.Json

/-!
# Where a JSON text ends

* `value_append` : what was read before the end of a text is read the same when more follows;
* `value_mono` : and it does not matter how deep the reader may go;
* `parse_proper` : no proper beginning of an object's text that ends with its brace is a JSON text.
-/

namespace Json

variable {n m : Nat} {cs rest : List Char}

/-! ## Characters -/

theorem dropWhile_append_right {p : Char → Bool} (h : cs.dropWhile p ≠ []) (s : List Char) :
    (cs ++ s).dropWhile p = cs.dropWhile p ++ s := by
  rw [List.dropWhile_append, if_neg (by rwa [List.isEmpty_iff])]

theorem takeWhile_append_right {p : Char → Bool} (h : cs.dropWhile p ≠ []) (s : List Char) :
    (cs ++ s).takeWhile p = cs.takeWhile p := by
  rw [List.takeWhile_append, if_neg]
  intro hlen
  have hsplit := congrArg List.length (List.takeWhile_append_dropWhile (p := p) (l := cs))
  rw [List.length_append, hlen] at hsplit
  exact h (List.length_eq_zero_iff.mp (by omega))

theorem next_append {c : Char} (h : next cs = some (c, rest)) (s : List Char) :
    next (cs ++ s) = some (c, rest ++ s) := by
  unfold next at h ⊢
  cases hb : skipBlanks cs with
  | nil => rw [hb] at h; cases h
  | cons d ds =>
      rw [hb] at h
      obtain ⟨rfl, rfl⟩ := Prod.mk.inj (Option.some.inj h)
      unfold skipBlanks at hb ⊢
      rw [dropWhile_append_right (by rw [hb]; exact List.cons_ne_nil _ _), hb]
      rfl

theorem next_nonempty {d : Char × List Char} (h : next cs = some d) : cs ≠ [] := by
  rintro rfl
  cases h

theorem skipBlanks_append (h : skipBlanks cs ≠ []) (s : List Char) :
    skipBlanks (cs ++ s) = skipBlanks cs ++ s := dropWhile_append_right h s

theorem dropPrefix_append {w : List Char} (h : cs.dropPrefix? w = some rest) (s : List Char) :
    (cs ++ s).dropPrefix? w = some (rest ++ s) := by
  obtain ⟨w', rfl, hw⟩ := List.dropPrefix?_eq_some_iff.mp h
  rw [List.append_assoc]
  exact List.dropPrefix?_append_of_beq _ hw

theorem map_push_eq_some {u : Nat} {us : List Nat} {o : Option (List Nat × List Char)} :
    (o.map fun p => (u :: p.1, p.2)) = some (us, rest) ↔ ∃ vs, us = u :: vs ∧ o = some (vs, rest) := by
  rw [Option.map_eq_some_iff]
  constructor
  · rintro ⟨⟨vs, r⟩, ho, hp⟩
    obtain ⟨rfl, rfl⟩ := Prod.mk.inj hp
    exact ⟨vs, rfl, ho⟩
  · rintro ⟨vs, rfl, ho⟩
    exact ⟨(vs, rest), ho, rfl⟩

theorem string_append {us : List Nat} (h : string cs = some (us, rest)) (s : List Char) :
    string (cs ++ s) = some (us, rest ++ s) := by
  fun_induction string cs generalizing us with
  | case1 => cases h
  | case2 cs =>
      obtain ⟨rfl, rfl⟩ := Prod.mk.inj (Option.some.inj h)
      rfl
  | case3 a b c d cs ih =>
      obtain ⟨u, hu, hp⟩ := Option.bind_eq_some_iff.mp h
      obtain ⟨vs, rfl, hs⟩ := map_push_eq_some.mp hp
      show (codeUnit a b c d).bind (fun u => (string (cs ++ s)).map fun p => (u :: p.1, p.2)) = _
      rw [hu, Option.bind_some, ih hs]
      rfl
  | case4 c cs hne ih =>
      obtain ⟨u, hu, hp⟩ := Option.bind_eq_some_iff.mp h
      obtain ⟨vs, rfl, hs⟩ := map_push_eq_some.mp hp
      have hc : c ≠ 'u' := by
        rintro rfl
        cases hu
      simp only [List.cons_append]
      rw [string.eq_4 _ _ fun _ _ _ _ _ hc' => absurd hc' hc, hu, Option.bind_some, ih hs]
      rfl
  | case5 c cs hq hu hb hc ih =>
      obtain ⟨vs, rfl, hs⟩ := map_push_eq_some.mp h
      have hb' : c ≠ '\\' := by
        rintro rfl
        cases cs with
        | nil => cases hs
        | cons d ds => exact hb _ _ rfl rfl
      simp only [List.cons_append]
      rw [string.eq_5 _ _ hq (fun _ _ _ _ _ hc' => absurd hc' hb') fun _ _ hc' => absurd hc' hb',
        if_pos hc, ih hs]
      rfl
  | case6 c cs hq hu hb hc => cases h

theorem number_append {x : Json} (h : number cs = some (x, rest)) (hne : rest ≠ [])
    (s : List Char) : number (cs ++ s) = some (x, rest ++ s) := by
  obtain ⟨y, hy, hp⟩ := Option.map_eq_some_iff.mp h
  obtain ⟨rfl, rfl⟩ := Prod.mk.inj hp
  unfold number
  rw [takeWhile_append_right hne, dropWhile_append_right hne, hy]
  rfl

/-! ## Values -/

/-- What the reader finds in a text it finds in a longer one, unless it was stopped by the end. -/
structure Reads (n : Nat) : Prop where
  value : ∀ {cs x rest}, value n cs = some (x, rest) → rest ≠ [] ∨ cs.head? = some '{' →
    ∀ s, value n (cs ++ s) = some (x, rest ++ s)
  elements : ∀ {cs xs rest}, elements n cs = some (xs, rest) →
    ∀ s, elements n (cs ++ s) = some (xs, rest ++ s)
  members : ∀ {cs ms rest}, members n cs = some (ms, rest) →
    ∀ s, members n (cs ++ s) = some (ms, rest ++ s)

theorem reads_zero : Reads 0 := ⟨nofun, nofun, nofun⟩

theorem Reads.value_succ (hn : Reads n) {x : Json} (h : Json.value (n + 1) cs = some (x, rest))
    (hend : rest ≠ [] ∨ cs.head? = some '{') (s : List Char) :
    Json.value (n + 1) (cs ++ s) = some (x, rest ++ s) := by
  cases cs with
  | nil => cases h
  | cons c cs =>
      rw [List.cons_append]
      simp only [Json.value] at h ⊢
      split at h
      next hc =>
        obtain ⟨⟨d, ds⟩, hd, h⟩ := Option.bind_eq_some_iff.mp h
        rw [if_pos hc, next_append hd, Option.bind_some]
        split at h
        next hclose =>
          obtain ⟨rfl, rfl⟩ := Prod.mk.inj (Option.some.inj h)
          exact if_pos hclose
        next hopen =>
          obtain ⟨⟨ms, r⟩, hm, hp⟩ := Option.map_eq_some_iff.mp h
          obtain ⟨rfl, rfl⟩ := Prod.mk.inj hp
          rw [if_neg hopen, hn.members hm]
          rfl
      next hobj =>
      rw [if_neg hobj]
      split at h
      next hc =>
        obtain ⟨⟨d, ds⟩, hd, h⟩ := Option.bind_eq_some_iff.mp h
        rw [if_pos hc, next_append hd, Option.bind_some]
        split at h
        next hclose =>
          obtain ⟨rfl, rfl⟩ := Prod.mk.inj (Option.some.inj h)
          exact if_pos hclose
        next hopen =>
          obtain ⟨⟨xs, r⟩, hx, hp⟩ := Option.map_eq_some_iff.mp h
          obtain ⟨rfl, rfl⟩ := Prod.mk.inj hp
          rw [if_neg hopen, hn.elements hx]
          rfl
      next harr =>
      rw [if_neg harr]
      split at h
      next hc =>
        obtain ⟨⟨us, r⟩, hs, hp⟩ := Option.map_eq_some_iff.mp h
        obtain ⟨rfl, rfl⟩ := Prod.mk.inj hp
        rw [if_pos hc, string_append hs]
        rfl
      next hstr =>
      rw [if_neg hstr]
      split at h
      next hc =>
        obtain ⟨r, hr, hp⟩ := Option.map_eq_some_iff.mp h
        obtain ⟨rfl, rfl⟩ := Prod.mk.inj hp
        rw [if_pos hc, dropPrefix_append hr]
        rfl
      next ht =>
      rw [if_neg ht]
      split at h
      next hc =>
        obtain ⟨r, hr, hp⟩ := Option.map_eq_some_iff.mp h
        obtain ⟨rfl, rfl⟩ := Prod.mk.inj hp
        rw [if_pos hc, dropPrefix_append hr]
        rfl
      next hf =>
      rw [if_neg hf]
      split at h
      next hc =>
        obtain ⟨r, hr, hp⟩ := Option.map_eq_some_iff.mp h
        obtain ⟨rfl, rfl⟩ := Prod.mk.inj hp
        rw [if_pos hc, dropPrefix_append hr]
        rfl
      next hnull =>
      rw [if_neg hnull]
      exact number_append h (hend.resolve_right fun ho => hobj (Option.some.inj ho)) s

theorem Reads.value_skipBlanks (hn : Reads n) {x : Json}
    (h : Json.value n (skipBlanks cs) = some (x, rest)) (hne : rest ≠ []) (s : List Char) :
    Json.value n (skipBlanks (cs ++ s)) = some (x, rest ++ s) := by
  have hcs : skipBlanks cs ≠ [] := by
    intro hnil
    rw [hnil] at h
    cases n with
    | zero => cases h
    | succ n => cases h
  rw [skipBlanks_append hcs]
  exact hn.value h (.inl hne) s

theorem Reads.elements_succ (hn : Reads n) {xs : List Json}
    (h : Json.elements (n + 1) cs = some (xs, rest)) (s : List Char) :
    Json.elements (n + 1) (cs ++ s) = some (xs, rest ++ s) := by
  simp only [Json.elements] at h ⊢
  obtain ⟨⟨x, r⟩, hx, h⟩ := Option.bind_eq_some_iff.mp h
  obtain ⟨⟨d, ds⟩, hd, h⟩ := Option.bind_eq_some_iff.mp h
  rw [hn.value_skipBlanks hx (next_nonempty hd), Option.bind_some, next_append hd, Option.bind_some]
  split at h
  next hc =>
    obtain ⟨⟨ys, r'⟩, hy, hp⟩ := Option.map_eq_some_iff.mp h
    obtain ⟨rfl, rfl⟩ := Prod.mk.inj hp
    rw [if_pos hc, hn.elements hy]
    rfl
  next hc =>
    rw [if_neg hc]
    split at h
    next hend =>
      obtain ⟨rfl, rfl⟩ := Prod.mk.inj (Option.some.inj h)
      exact if_pos hend
    next => cases h

theorem Reads.members_succ (hn : Reads n) {ms : List (String × Json)}
    (h : Json.members (n + 1) cs = some (ms, rest)) (s : List Char) :
    Json.members (n + 1) (cs ++ s) = some (ms, rest ++ s) := by
  simp only [Json.members] at h ⊢
  obtain ⟨⟨q, qs⟩, hq, h⟩ := Option.bind_eq_some_iff.mp h
  rw [next_append hq, Option.bind_some]
  split at h
  next hquote =>
    obtain ⟨⟨us, ks⟩, hk, h⟩ := Option.bind_eq_some_iff.mp h
    obtain ⟨⟨d, ds⟩, hd, h⟩ := Option.bind_eq_some_iff.mp h
    rw [if_pos hquote, string_append hk, Option.bind_some, next_append hd, Option.bind_some]
    split at h
    next hcolon =>
      obtain ⟨⟨x, r⟩, hx, h⟩ := Option.bind_eq_some_iff.mp h
      obtain ⟨⟨e, es⟩, he, h⟩ := Option.bind_eq_some_iff.mp h
      rw [if_pos hcolon, hn.value_skipBlanks hx (next_nonempty he), Option.bind_some,
        next_append he, Option.bind_some]
      dsimp only at h ⊢
      split at h
      next hc =>
        obtain ⟨⟨ys, r'⟩, hy, hp⟩ := Option.map_eq_some_iff.mp h
        obtain ⟨rfl, rfl⟩ := Prod.mk.inj hp
        rw [if_pos hc, hn.members hy]
        rfl
      next hc =>
        rw [if_neg hc]
        split at h
        next hend =>
          obtain ⟨rfl, rfl⟩ := Prod.mk.inj (Option.some.inj h)
          exact if_pos hend
        next => cases h
    next => cases h
  next => cases h

theorem reads (n : Nat) : Reads n := by
  induction n with
  | zero => exact reads_zero
  | succ n ih => exact ⟨ih.value_succ, ih.elements_succ, ih.members_succ⟩

/-! ## Depth -/

/-- What the reader finds it finds when it may go deeper. -/
structure Deepens (n : Nat) : Prop where
  value : ∀ {cs p}, value n cs = some p → value (n + 1) cs = some p
  elements : ∀ {cs p}, elements n cs = some p → elements (n + 1) cs = some p
  members : ∀ {cs p}, members n cs = some p → members (n + 1) cs = some p

theorem Deepens.value_succ (hn : Deepens n) {p : Json × List Char}
    (h : Json.value (n + 1) cs = some p) : Json.value (n + 1 + 1) cs = some p := by
  cases cs with
  | nil => cases h
  | cons c cs =>
      rw [Json.value] at h ⊢
      split at h
      next hc =>
        obtain ⟨d, hd, h⟩ := Option.bind_eq_some_iff.mp h
        rw [if_pos hc, hd, Option.bind_some]
        split at h
        next hclose => rwa [if_pos hclose]
        next hopen =>
          obtain ⟨q, hm, hp⟩ := Option.map_eq_some_iff.mp h
          rw [if_neg hopen, hn.members hm, ← hp]
          rfl
      next hobj =>
      rw [if_neg hobj]
      split at h
      next hc =>
        obtain ⟨d, hd, h⟩ := Option.bind_eq_some_iff.mp h
        rw [if_pos hc, hd, Option.bind_some]
        split at h
        next hclose => rwa [if_pos hclose]
        next hopen =>
          obtain ⟨q, hm, hp⟩ := Option.map_eq_some_iff.mp h
          rw [if_neg hopen, hn.elements hm, ← hp]
          rfl
      next harr => rwa [if_neg harr]

theorem Deepens.elements_succ (hn : Deepens n) {p : List Json × List Char}
    (h : Json.elements (n + 1) cs = some p) : Json.elements (n + 1 + 1) cs = some p := by
  rw [Json.elements] at h ⊢
  obtain ⟨x, hx, h⟩ := Option.bind_eq_some_iff.mp h
  obtain ⟨d, hd, h⟩ := Option.bind_eq_some_iff.mp h
  rw [hn.value hx, Option.bind_some, hd, Option.bind_some]
  split at h
  next hc =>
    obtain ⟨q, hq, hp⟩ := Option.map_eq_some_iff.mp h
    rw [if_pos hc, hn.elements hq, ← hp]
    rfl
  next hc => rwa [if_neg hc]

theorem Deepens.members_succ (hn : Deepens n) {p : List (String × Json) × List Char}
    (h : Json.members (n + 1) cs = some p) : Json.members (n + 1 + 1) cs = some p := by
  rw [Json.members] at h ⊢
  obtain ⟨q, hq, h⟩ := Option.bind_eq_some_iff.mp h
  rw [hq, Option.bind_some]
  split at h
  next hquote =>
    obtain ⟨k, hk, h⟩ := Option.bind_eq_some_iff.mp h
    obtain ⟨d, hd, h⟩ := Option.bind_eq_some_iff.mp h
    rw [if_pos hquote, hk, Option.bind_some, hd, Option.bind_some]
    split at h
    next hcolon =>
      obtain ⟨x, hx, h⟩ := Option.bind_eq_some_iff.mp h
      obtain ⟨e, he, h⟩ := Option.bind_eq_some_iff.mp h
      rw [if_pos hcolon, hn.value hx, Option.bind_some, he, Option.bind_some]
      dsimp only at h ⊢
      split at h
      next hc =>
        obtain ⟨r, hr, hp⟩ := Option.map_eq_some_iff.mp h
        rw [if_pos hc, hn.members hr, ← hp]
        rfl
      next hc => rwa [if_neg hc]
    next => cases h
  next => cases h

theorem deepens (n : Nat) : Deepens n := by
  induction n with
  | zero => exact ⟨nofun, nofun, nofun⟩
  | succ n ih => exact ⟨ih.value_succ, ih.elements_succ, ih.members_succ⟩

theorem value_mono {p : Json × List Char} (hnm : n ≤ m) (h : value n cs = some p) :
    value m cs = some p := by
  induction hnm with
  | refl => exact h
  | step _ ih => exact (deepens _).value ih

/-! ## Texts -/

theorem parse_eq_some {x : Json} : parse cs = some x ↔
    ∃ rest, value (cs.length + 1) (skipBlanks cs) = some (x, rest) ∧ skipBlanks rest = [] := by
  unfold parse
  constructor
  · intro h
    split at h
    next y rest hv =>
      split at h
      next hb =>
        obtain rfl := Option.some.inj h
        exact ⟨rest, hv, hb⟩
      next => cases h
    next => cases h
  · rintro ⟨rest, hv, hb⟩
    rw [hv]
    exact if_pos hb

/-- What begins with a digit or a sign is a number. -/
theorem numeral_ne_obj {ms : List (String × Json)} : numeral cs ≠ some (.obj ms) := by
  have hscaled : ∀ m e ds, scaled m e ds ≠ some (.obj ms) := by
    intro m e ds
    unfold scaled
    split
    · simp
    · split <;> simp
  have hunsigned : ∀ sign ds, unsigned sign ds ≠ some (.obj ms) := by
    intro sign ds h
    obtain ⟨d, -, h⟩ := Option.bind_eq_some_iff.mp h
    split at h
    · cases h
    · unfold fraction at h
      split at h
      · cases h
      · obtain ⟨e, -, h⟩ := Option.bind_eq_some_iff.mp h
        exact hscaled _ _ _ h
      · exact hscaled _ _ _ h
  unfold numeral
  split
  · exact hunsigned _ _
  · exact hunsigned _ _

theorem head_of_value_obj {ms : List (String × Json)} (h : value n cs = some (.obj ms, rest)) :
    cs.head? = some '{' := by
  cases n with
  | zero => cases h
  | succ n =>
      cases cs with
      | nil => cases h
      | cons c cs =>
          rw [value] at h
          split at h
          · rename_i hc
            exact congrArg some hc
          split at h
          · obtain ⟨d, -, h⟩ := Option.bind_eq_some_iff.mp h
            split at h
            · cases h
            · obtain ⟨p, -, hp⟩ := Option.map_eq_some_iff.mp h
              cases hp
          split at h
          · obtain ⟨p, -, hp⟩ := Option.map_eq_some_iff.mp h
            cases hp
          split at h
          · obtain ⟨p, -, hp⟩ := Option.map_eq_some_iff.mp h
            cases hp
          split at h
          · obtain ⟨p, -, hp⟩ := Option.map_eq_some_iff.mp h
            cases hp
          split at h
          · obtain ⟨p, -, hp⟩ := Option.map_eq_some_iff.mp h
            cases hp
          obtain ⟨x, hx, hp⟩ := Option.map_eq_some_iff.mp h
          obtain ⟨rfl, -⟩ := Prod.mk.inj hp
          exact absurd hx numeral_ne_obj

/-- No proper beginning of an object's text that ends with its brace is a JSON text. -/
theorem parse_proper {ms : List (String × Json)} {p s : List Char} (h : parse (p ++ s) = some (.obj ms))
    (hend : (p ++ s).getLast? = some '}') (hs : s ≠ []) : parse p = none := by
  cases hparse : parse p with
  | none => rfl
  | some y =>
      obtain ⟨r, hv, -⟩ := parse_eq_some.mp hparse
      obtain ⟨rest, hvalue, hrest⟩ := parse_eq_some.mp h
      have hskip : skipBlanks p ≠ [] := by
        intro hnil
        rw [hnil] at hv
        cases hv
      rw [skipBlanks_append hskip] at hvalue
      have hhead := head_of_value_obj hvalue
      rw [List.head?_append_of_ne_nil _ hskip] at hhead
      have hlen : p.length + 1 ≤ (p ++ s).length + 1 := by
        rw [List.length_append]
        omega
      have hlong := value_mono hlen ((reads _).value hv (.inr hhead) s)
      rw [hvalue] at hlong
      have heq := (Prod.mk.inj (Option.some.inj hlong)).2
      rw [heq] at hrest
      have hblank : ∀ c ∈ r ++ s, isBlank c = true := List.dropWhile_eq_nil_iff.mp hrest
      rw [List.getLast?_append_of_ne_nil _ hs] at hend
      have hbrace := hblank '}' (List.mem_append_right _ (List.mem_of_getLast? hend))
      exact absurd hbrace (by decide)

end Json
