import Scallop.Lib.Split
import Scallop.Sdp.Text

/-!
# Splitting, joining and copying texts

`util::splitString`, `util::joinStrings` and `util::bufferString` of `lib/util.h`. A text is a list of characters, or of
bytes.

* `splitLoop`, `joinLoop` : the loops; an empty delimiter keeps the first one running for ever;
* `Splits`, `splitLoop_eq` : the first one ends, in the parts of a scan from left to right;
* `Sdp.splitLines`, `Sdp.joinStrings` are their uses in descriptions;
* `bufferString_ok_iff` : the copy of an empty buffer reads outside of it.
-/

namespace Scallop

namespace Util

/-- `std::string::find(delim, pos)`. -/
def find (str delim : List Char) (pos : Nat) : Option Nat := (Split.find? delim (str.drop pos)).map (pos + ·)

/-- The loop of `util::splitString`, for as many rounds as there is fuel. -/
def splitLoop (str delim : List Char) : Nat → Nat → List (List Char) → Option (List (List Char))
  | 0, _, _ => none
  | fuel + 1, last, parts =>
      match find str delim last with
      | some next => splitLoop str delim fuel (next + delim.length) (parts ++ [(str.drop last).take (next - last)])
      | none => some (parts ++ [str.drop last])

/-- `util::splitString`; `none` if it has not ended in time. -/
def splitString (fuel : Nat) (str delim : List Char) : Option (List (List Char)) := splitLoop str delim fuel 0 []

/-- The loop of `util::joinStrings`: a delimiter follows all but the last. -/
def joinLoop (elements : List (List Char)) (join : List Char) : Nat → List Char → List Char
  | 0, ss => ss
  | n + 1, ss =>
      let i := elements.length - (n + 1)
      joinLoop elements join n
        (ss ++ elements.getD i [] ++ if i < elements.length - 1 then join else [])

def joinStrings (elements : List (List Char)) (join : List Char) : List Char :=
  joinLoop elements join elements.length []

/-- `util::bufferString`, of the whole buffer. Its length becomes an `unsigned`, and the last byte is looked at first,
also where there is none. -/
def bufferString (buf : Buf) : Except Fault Buf := do
  let len := buf.length % 2 ^ 32
  let last ← buf.readByte ((len + (2 ^ 32 - 1)) % 2 ^ 32)
  return buf.take ((len + if last = 10 then 2 ^ 32 - 1 else 0) % 2 ^ 32)

/-! ## The loops -/

section Loops
variable {str delim rest : List Char} {parts before : List (List Char)} {fuel last : Nat}

theorem splitLoop_eq (h : Split.Splits delim (str.drop last) parts) (hlast : last ≤ str.length)
    (hd : delim ≠ []) (hfuel : str.length - last < fuel) :
    splitLoop str delim fuel last before = some (before ++ parts) := by
  generalize hrest : str.drop last = rest at h
  induction h generalizing fuel last before with
  | @last rest h =>
      obtain ⟨fuel, rfl⟩ := Nat.exists_eq_succ_of_ne_zero (Nat.ne_zero_of_lt hfuel)
      have hfind : find str delim last = none := by
        unfold find
        rw [hrest, Split.find?_eq_none_iff.mpr h]
        rfl
      rw [splitLoop, hfind, hrest]
  | @cut p rest parts h hsplits ih =>
      obtain ⟨fuel, rfl⟩ := Nat.exists_eq_succ_of_ne_zero (Nat.ne_zero_of_lt hfuel)
      have hpos := List.length_pos_of_ne_nil hd
      have hlength : str.length - last = p.length + delim.length + rest.length := by
        rw [← List.length_drop, hrest, List.length_append, List.length_append]
      have hfind : find str delim last = some (last + p.length) := by
        unfold find
        rw [hrest, Split.find?_eq_some_iff.mpr]
        · rfl
        · refine ⟨?_, ?_, h⟩
          · simp only [List.length_append]
            omega
          · rw [List.append_assoc, List.drop_left]
            exact List.prefix_append _ _
      have htake : (str.drop last).take (last + p.length - last) = p := by
        rw [hrest, Nat.add_sub_cancel_left, List.append_assoc, List.take_left]
      have hdrop : str.drop (last + p.length + delim.length) = rest := by
        rw [Nat.add_assoc, ← List.drop_drop, hrest, List.drop_left' List.length_append]
      rw [splitLoop, hfind]
      dsimp only
      rw [htake, ih (by omega) (by omega) hdrop, List.append_assoc]
      rfl

theorem exists_splits (hd : delim ≠ []) (str : List Char) : ∃ parts, Split.Splits delim str parts := by
  induction hn : str.length using Nat.strong_induction_on generalizing str with
  | _ n ih =>
      cases hfind : Split.find? delim str with
      | none => exact ⟨[str], .last (Split.find?_eq_none_iff.mp hfind)⟩
      | some k =>
          obtain ⟨hk, ⟨rest, hrest⟩, hfirst⟩ := Split.find?_eq_some_iff.mp hfind
          have hstr : str = str.take k ++ delim ++ rest := by
            rw [List.append_assoc, hrest, List.take_append_drop]
          have hpos := List.length_pos_of_ne_nil hd
          have hlength := congrArg List.length hstr
          simp only [List.length_append, List.length_take] at hlength
          obtain ⟨parts, hparts⟩ := ih rest.length (by omega) rest rfl
          refine ⟨str.take k :: parts, ?_⟩
          have hcut := Split.Splits.cut (p := str.take k) ?_ hparts
          · rw [← hstr] at hcut
            exact hcut
          · intro j hj
            rw [← hstr]
            apply hfirst
            rw [List.length_take] at hj
            omega

theorem joinLoop_eq {n : Nat} {ss : List Char} {elements : List (List Char)} (hn : n ≤ elements.length) :
    joinLoop elements delim n ss = ss ++ Split.join delim (elements.drop (elements.length - n)) := by
  induction n generalizing ss with
  | zero => simp [joinLoop, Split.join]
  | succ n ih =>
      have hlt : elements.length - (n + 1) < elements.length := by omega
      have hdrop := List.drop_eq_getElem_cons hlt
      rw [show elements.length - (n + 1) + 1 = elements.length - n by omega] at hdrop
      rw [joinLoop, ih (by omega), hdrop, List.getD_eq_getElem?_getD, List.getElem?_eq_getElem hlt, Option.getD_some]
      by_cases hlast : n = 0
      · subst hlast
        rw [if_neg (by omega)]
        simp [Split.join]
      · have hne : elements.drop (elements.length - n) ≠ [] := by
          rw [Ne, List.drop_eq_nil_iff]
          omega
        rw [if_pos (by omega), Split.join_cons hne]
        simp only [List.append_assoc]

theorem joinStrings_eq (elements : List (List Char)) : joinStrings elements delim = Split.join delim elements := by
  unfold joinStrings
  rw [joinLoop_eq (Nat.le_refl _), Nat.sub_self]
  rfl

theorem splitString_eq (h : Split.Splits delim str parts) (hd : delim ≠ []) (hfuel : str.length < fuel) :
    splitString fuel str delim = some parts :=
  splitLoop_eq h (Nat.zero_le _) hd hfuel

end Loops

/-! ## Splitting and joining -/

/-- A text is split, with enough fuel into the same parts, which hold no delimiter and are joined to the text; and
parts that are joined, with delimiters at the joints only, are split again. -/
theorem split_join_inverse (d : List Char) (hd : d ≠ []) :
    (∀ s, ∃ parts, (∀ fuel, s.length < fuel → splitString fuel s d = some parts) ∧ joinStrings parts d = s ∧
      ∀ p ∈ parts, ¬ d <:+: p) ∧
    ∀ parts, parts ≠ [] → Split.OnlyAtJoints d parts → ∀ fuel, (joinStrings parts d).length < fuel →
      splitString fuel (joinStrings parts d) d = some parts := by
  constructor
  · intro s
    obtain ⟨parts, hparts⟩ := exists_splits hd s
    refine ⟨parts, fun fuel hfuel => splitString_eq hparts hd hfuel, ?_, fun p hp => hparts.not_inside hd hp⟩
    rw [joinStrings_eq, hparts.join]
  · intro parts hne hjoints fuel hfuel
    rw [joinStrings_eq] at hfuel ⊢
    exact splitString_eq (Split.splits_join hd hne hjoints) hd hfuel

theorem split_join_inverse_crlf :
    (∀ s, ∃ parts, (∀ fuel, s.length < fuel → splitString fuel s ['\r', '\n'] = some parts) ∧
      joinStrings parts ['\r', '\n'] = s ∧ ∀ p ∈ parts, ¬ ['\r', '\n'] <:+: p) ∧
    ∀ parts, parts ≠ [] → Split.OnlyAtJoints ['\r', '\n'] parts →
      ∀ fuel, (joinStrings parts ['\r', '\n']).length < fuel →
        splitString fuel (joinStrings parts ['\r', '\n']) ['\r', '\n'] = some parts :=
  split_join_inverse ['\r', '\n'] (List.cons_ne_nil _ _)

/-! ## Descriptions -/

theorem splits_splitLines (cs : List Char) : Split.Splits ['\r', '\n'] cs (Sdp.splitLines cs) := by
  induction cs using Sdp.splitLines.induct with
  | case1 =>
      apply Split.Splits.last
      intro k h
      rw [List.drop_nil, List.prefix_nil] at h
      exact nomatch h
  | case2 cs ih =>
      have hcut := Split.Splits.cut (p := []) (fun _ hk => absurd hk (Nat.not_lt_zero _)) ih
      exact hcut
  | case3 c cs hne l ls hls ih =>
      rw [Sdp.splitLines, hls]
      · rw [hls] at ih
        exact ih.cons fun hpre => by
          obtain ⟨rest, hrest⟩ := hpre
          obtain ⟨rfl, rfl⟩ := List.cons.inj hrest
          exact hne rest rfl rfl
      · exact hne
  | case4 c cs hne hls ih => exact absurd hls ih.ne_nil

/-- The lines of a description are its parts between the line ends. -/
theorem splitString_splitLines {fuel : Nat} {cs : List Char} (hfuel : cs.length < fuel) :
    splitString fuel cs ['\r', '\n'] = some (Sdp.splitLines cs) :=
  splitString_eq (splits_splitLines cs) (List.cons_ne_nil _ _) hfuel

theorem toList_joinStrings (ss : List String) :
    (Sdp.joinStrings ss).toList = joinStrings (ss.map String.toList) [' '] := by
  rw [joinStrings_eq]
  induction ss using Sdp.joinStrings.induct with
  | case1 => rfl
  | case2 s => rfl
  | case3 s ss hne ih =>
      rw [Sdp.joinStrings, String.toList_append, String.toList_append, ih, List.map_cons, Split.join_cons]
      · rfl
      · simpa using hne
      · exact hne

/-! ## Buffers -/

theorem bufferString_ok_iff {buf : Buf} : (∃ s, bufferString buf = .ok s) ↔ buf ≠ [] := by
  constructor
  · rintro ⟨s, hs⟩ rfl
    cases hs
  · intro hne
    have hpos := List.length_pos_of_ne_nil hne
    have hlt : (buf.length % 2 ^ 32 + (2 ^ 32 - 1)) % 2 ^ 32 < buf.length := by omega
    unfold bufferString Buf.readByte
    dsimp only
    rw [List.getElem?_eq_getElem hlt, Except.bind_ok]
    exact ⟨_, rfl⟩

end Util

end Scallop
