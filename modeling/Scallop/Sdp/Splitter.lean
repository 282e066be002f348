import Scallop.Sdp.Sections

/-!
# The loop that cuts a description into sections

The loop of `SDP::SessionDescription::SessionDescription`, for any notion of a media line.

* `splitLoop` : what it does with the lines, one after the other; `splitLoop_eq` : that is what `sectionsBy` says;
* `IsSection` : the lines from a media line up to the next one;
* `splitSections_partition` : no line is lost, and none is used twice;
* `SessionReading.readLines_split` : a description is read in this way.
-/

namespace Scallop

namespace Sdp

variable {α : Type} {isMLine : α → Bool}

/-- What is done with lines: one is read for the session, or some are given to `MediaDescription`. -/
inductive Use (α : Type) where
  | session (line : α)
  | media (lines : List α)

/-- The loop. `currentMediaSection` is -1 outside of the sections. -/
def splitLoop (isMLine : α → Bool) : List α → Int → Nat → List α → List (Use α)
  | [], _, _, _ => []
  | line :: lines, currentMediaSection, mediaSectionCount, mediaSectionLines =>
      let currentMediaSection := if isMLine line then (mediaSectionCount : Int) else currentMediaSection
      if 0 ≤ currentMediaSection then
        let mediaSectionLines := mediaSectionLines ++ [line]
        -- this is the last line, or the next one begins a section
        if lines.head?.all isMLine then
          .media mediaSectionLines :: splitLoop isMLine lines (-1) (mediaSectionCount + 1) []
        else splitLoop isMLine lines currentMediaSection mediaSectionCount mediaSectionLines
      else .session line :: splitLoop isMLine lines currentMediaSection mediaSectionCount mediaSectionLines

def splitSections (isMLine : α → Bool) (lines : List α) : List (Use α) := splitLoop isMLine lines (-1) 0 []

def sessionLines (uses : List (Use α)) : List α := uses.filterMap fun
  | .session line => some line
  | .media _ => none

/-- The lines that are given to `MediaDescription`. -/
def mediaLines (uses : List (Use α)) : List (List α) := uses.filterMap fun
  | .session _ => none
  | .media lines => some lines

/-- The `k`-th section, counted from 0: its first line is the `k`-th media line, and it goes up to the next one, or to
the end. -/
def IsSection (isMLine : α → Bool) (lines : List α) (k : Nat) (media : List α) : Prop :=
  ∃ before after, lines = before ++ media ++ after ∧ before.countP isMLine = k ∧
    (∃ first rest, media = first :: rest ∧ isMLine first = true ∧ ∀ line ∈ rest, isMLine line = false) ∧
    ∀ line ∈ after.head?, isMLine line = true

/-! ## The loop -/

/-- Outside of a section the loop goes on to the sections; inside of one, it completes it first. -/
theorem splitLoop_eq (lines : List α) (count : Nat) :
    (splitLoop isMLine lines (-1) count [] =
      (sectionsBy isMLine lines).1.map .session ++ (sectionsBy isMLine lines).2.map .media) ∧
    ∀ current read, 0 ≤ current → lines ≠ [] → lines.head?.all isMLine = false →
      splitLoop isMLine lines current count read =
        .media (read ++ (sectionsBy isMLine lines).1) :: (sectionsBy isMLine lines).2.map .media := by
  induction lines generalizing count with
  | nil => exact ⟨rfl, fun _ _ _ hne => absurd rfl hne⟩
  | cons line lines ih =>
      have hclose (current : Int) (read : List α) (hcurrent : 0 ≤ current) :
          (if lines.head?.all isMLine then .media (read ++ [line]) :: splitLoop isMLine lines (-1) (count + 1) []
            else splitLoop isMLine lines current count (read ++ [line])) =
            .media (read ++ line :: (sectionsBy isMLine lines).1) :: (sectionsBy isMLine lines).2.map .media := by
        by_cases hhead : lines.head?.all isMLine = true
        · rw [if_pos hhead, (ih _).1, sectionsBy_of_head hhead]
          rfl
        · have hne : lines ≠ [] := by
            rintro rfl
            exact hhead rfl
          rw [if_neg hhead, (ih _).2 _ _ hcurrent hne (eq_false_of_ne_true hhead), List.append_assoc,
            List.singleton_append]
      by_cases hline : isMLine line = true
      · rw [sectionsBy_of_begins hline]
        constructor
        · rw [splitLoop]
          dsimp only
          rw [if_pos hline, if_pos (Int.natCast_nonneg _), hclose _ _ (Int.natCast_nonneg _)]
          rfl
        · intro _ _ _ _ hhead
          exact nomatch hline.symm.trans hhead
      · rw [sectionsBy_of_not_begins hline]
        constructor
        · rw [splitLoop]
          dsimp only
          rw [if_neg hline, if_neg (by decide), (ih _).1]
          rfl
        · intro current read hcurrent _ _
          rw [splitLoop]
          dsimp only
          rw [if_neg hline, if_pos hcurrent, hclose _ _ hcurrent]

theorem sessionLines_splitSections (lines : List α) :
    sessionLines (splitSections isMLine lines) = (sectionsBy isMLine lines).1 := by
  unfold splitSections sessionLines
  rw [(splitLoop_eq lines 0).1, List.filterMap_append, List.filterMap_map, List.filterMap_map]
  simp

theorem mediaLines_splitSections (lines : List α) :
    mediaLines (splitSections isMLine lines) = (sectionsBy isMLine lines).2 := by
  unfold splitSections mediaLines
  rw [(splitLoop_eq lines 0).1, List.filterMap_append, List.filterMap_map, List.filterMap_map]
  simp

/-! ## Sections -/

theorem countP_session (lines : List α) : (sectionsBy isMLine lines).1.countP isMLine = 0 := by
  rw [List.countP_eq_zero]
  intro line hline
  exact not_begins_of_mem_fst hline

theorem countP_section {media : List α} {lines : List α} (h : media ∈ (sectionsBy isMLine lines).2) :
    media.countP isMLine = 1 := by
  obtain ⟨first, rest, rfl, hfirst, hrest⟩ := exists_of_mem_sectionsBy h
  rw [List.countP_cons_of_pos hfirst, List.countP_eq_zero.mpr hrest]

/-- Some of the sections hold as many media lines as they are. -/
theorem countP_sections {secs : List (List α)} {lines : List α} (h : ∀ s ∈ secs, s ∈ (sectionsBy isMLine lines).2) :
    secs.flatten.countP isMLine = secs.length := by
  induction secs with
  | nil => rfl
  | cons s secs ih =>
      obtain ⟨hs, hrest⟩ := List.forall_mem_cons.mp h
      rw [List.flatten_cons, List.countP_append, countP_section hs, ih hrest, List.length_cons, Nat.add_comm]

theorem isSection_of_getElem? {lines media : List α} {k : Nat}
    (h : (sectionsBy isMLine lines).2[k]? = some media) : IsSection isMLine lines k media := by
  obtain ⟨hk, rfl⟩ := List.getElem?_eq_some_iff.mp h
  let secs := (sectionsBy isMLine lines).2
  have hsecs : secs = secs.take k ++ secs[k] :: secs.drop (k + 1) := by
    rw [← List.drop_eq_getElem_cons hk, List.take_append_drop]
  obtain ⟨first, rest, hsection, hfirst, hrest⟩ := exists_of_mem_sectionsBy (List.getElem_mem hk)
  refine ⟨(sectionsBy isMLine lines).1 ++ (secs.take k).flatten, (secs.drop (k + 1)).flatten, ?_, ?_, ?_, ?_⟩
  · conv_lhs => rw [← flatten_sectionsBy isMLine lines]
    show _ ++ secs.flatten = _
    rw [congrArg List.flatten hsecs, List.flatten_append, List.flatten_cons]
    simp only [List.append_assoc]
    rfl
  · rw [List.countP_append, countP_session, countP_sections fun s hs => List.mem_of_mem_take hs, List.length_take,
      Nat.zero_add, Nat.min_eq_left (Nat.le_of_lt hk)]
  · exact ⟨first, rest, hsection, hfirst, fun line hline => eq_false_of_ne_true (hrest line hline)⟩
  · intro line hline
    cases hdrop : secs.drop (k + 1) with
    | nil =>
        rw [hdrop] at hline
        exact nomatch hline
    | cons next secs' =>
        have hnext : next ∈ secs := List.mem_of_mem_drop (hdrop ▸ List.mem_cons_self)
        obtain ⟨first', rest', rfl, hfirst', -⟩ := exists_of_mem_sectionsBy hnext
        rw [hdrop] at hline
        obtain rfl := Option.some.inj hline
        exact hfirst'

/-! ## Partition -/

/-- The lines of the session and those of the sections, in order, are all there are; there is a section for every media
line, and it goes up to the next one. -/
theorem splitSections_partition (isMLine : α → Bool) (lines : List α) :
    sessionLines (splitSections isMLine lines) ++ (mediaLines (splitSections isMLine lines)).flatten = lines ∧
    (mediaLines (splitSections isMLine lines)).length = lines.countP isMLine ∧
    ∀ k media, (mediaLines (splitSections isMLine lines))[k]? = some media →
      IsSection isMLine lines k media := by
  rw [sessionLines_splitSections, mediaLines_splitSections]
  refine ⟨flatten_sectionsBy isMLine lines, ?_, fun k media => isSection_of_getElem?⟩
  rw [← countP_sections fun s hs => hs]
  conv_rhs => rw [← flatten_sectionsBy isMLine lines]
  rw [List.countP_append, countP_session, Nat.zero_add]

/-- A description is read line by line up to its first section, and then section by section. -/
theorem SessionReading.readLines_split (lines : List String) :
    readLines lines {} = do
      let r ← (sessionLines (splitSections isMediaLine lines)).foldlM readLine {}
      let medias ← (mediaLines (splitSections isMediaLine lines)).mapM MediaDescription.ofLines
      return r.pushSections medias := by
  rw [sessionLines_splitSections, mediaLines_splitSections]
  exact (readLines_sections lines {}).1 rfl

end Sdp

end Scallop
