import Scallop.Sdp.Transport

/-!
# Sections that are parsed for themselves

* `sectionsBy_*` : how a list is cut into sections;
* `beginsSection`, `ownSections` : the audio and video sections of a text, each up to the next `m=` line;
* `ofLines_otherLines` : the lines of a section that no pattern takes;
* `Recognized` : once there is a section, every `m=` line is recognized;
* `isolated_iff` : just then every section is read of its own lines.
-/

namespace Scallop

namespace Sdp

open Regex

/-! ## Cutting -/

section Cutting
variable {α : Type} {begins begins' : α → Bool} {as : List α}

theorem flatten_sectionsBy (begins : α → Bool) (as : List α) :
    (sectionsBy begins as).1 ++ (sectionsBy begins as).2.flatten = as := by
  induction as with
  | nil => rfl
  | cons a as ih =>
      by_cases ha : begins a = true
      · rw [sectionsBy_of_begins ha, List.nil_append, List.flatten_cons, List.cons_append, ih]
      · rw [sectionsBy_of_not_begins ha, List.cons_append, ih]

/-- The sections are all there is from the first element on that begins one. -/
theorem dropWhile_eq_flatten (begins : α → Bool) (as : List α) :
    as.dropWhile (fun a => !begins a) = (sectionsBy begins as).2.flatten := by
  induction as with
  | nil => rfl
  | cons a as ih =>
      by_cases ha : begins a = true
      · rw [List.dropWhile_cons_of_neg (by simp [ha]), sectionsBy_of_begins ha, List.flatten_cons, List.cons_append,
          flatten_sectionsBy]
      · rw [List.dropWhile_cons_of_pos (by simp [ha]), sectionsBy_of_not_begins ha, ih]

theorem sectionsBy_congr (h : ∀ a ∈ as, begins a = begins' a) : sectionsBy begins as = sectionsBy begins' as := by
  induction as with
  | nil => rfl
  | cons a as ih =>
      unfold sectionsBy
      rw [ih fun a' ha' => h a' (List.mem_cons_of_mem _ ha'), h a List.mem_cons_self]

theorem not_begins_of_mem_fst {a : α} (ha : a ∈ (sectionsBy begins as).1) : ¬ begins a = true := by
  induction as with
  | nil => exact absurd ha List.not_mem_nil
  | cons b as ih =>
      by_cases hb : begins b = true
      · rw [sectionsBy_of_begins hb] at ha
        exact absurd ha List.not_mem_nil
      · rw [sectionsBy_of_not_begins hb] at ha
        rcases List.mem_cons.mp ha with rfl | ha
        · exact hb
        · exact ih ha

/-- A section is one element that begins it, and others that begin none. -/
theorem exists_of_mem_sectionsBy {s : List α} (hs : s ∈ (sectionsBy begins as).2) :
    ∃ a rest, s = a :: rest ∧ begins a = true ∧ ∀ b ∈ rest, ¬ begins b = true := by
  induction as with
  | nil => exact absurd hs List.not_mem_nil
  | cons a as ih =>
      by_cases ha : begins a = true
      · rw [sectionsBy_of_begins ha] at hs
        rcases List.mem_cons.mp hs with rfl | hs
        · exact ⟨a, _, rfl, ha, fun b hb => not_begins_of_mem_fst hb⟩
        · exact ih hs
      · rw [sectionsBy_of_not_begins ha] at hs
        exact ih hs

theorem length_sectionsBy (begins : α → Bool) (as : List α) : (sectionsBy begins as).2.length = as.countP begins := by
  induction as with
  | nil => rfl
  | cons a as ih =>
      by_cases ha : begins a = true
      · rw [sectionsBy_of_begins ha, List.countP_cons_of_pos ha, List.length_cons, ih]
      · rw [sectionsBy_of_not_begins ha, List.countP_cons_of_neg ha, ih]

theorem sectionsBy_append (h : ∀ a ∈ as, ¬ begins a = true) (rest : List α) :
    sectionsBy begins (as ++ rest) = (as ++ (sectionsBy begins rest).1, (sectionsBy begins rest).2) := by
  induction as with
  | nil => rfl
  | cons a as ih =>
      obtain ⟨ha, has⟩ := List.forall_mem_cons.mp h
      rw [List.cons_append, sectionsBy_of_not_begins ha, ih has]
      rfl

/-- Sections that are put together are cut again. -/
theorem sectionsBy_append_flatten (h : ∀ a ∈ as, ¬ begins a = true) {secs : List (List α)}
    (hsecs : ∀ s ∈ secs, ∃ a rest, s = a :: rest ∧ begins a = true ∧ ∀ b ∈ rest, ¬ begins b = true) :
    sectionsBy begins (as ++ secs.flatten) = (as, secs) := by
  have hflatten : sectionsBy begins secs.flatten = ([], secs) := by
    induction secs with
    | nil => rfl
    | cons s secs ih =>
        obtain ⟨⟨a, rest, rfl, ha, hrest⟩, htail⟩ := List.forall_mem_cons.mp hsecs
        rw [List.flatten_cons, List.cons_append, sectionsBy_of_begins ha, sectionsBy_append hrest, ih htail,
          List.append_nil]
  rw [sectionsBy_append h, hflatten, List.append_nil]

/-- Whether a section begins in one way among others. -/
def headIs (begins : α → Bool) (s : List α) : Bool := s.head?.any begins

theorem filter_headIs_sectionsBy (begins : α → Bool) (as : List α) :
    (sectionsBy begins as).2.filter (headIs begins) = (sectionsBy begins as).2 := by
  apply List.filter_eq_self.mpr
  intro s hs
  obtain ⟨a, rest, rfl, ha, -⟩ := exists_of_mem_sectionsBy hs
  exact ha

/-- Where from the first element that begins a section on no other kind of section begins, the sections are the
same. -/
theorem sectionsBy_of_dropWhile (himp : ∀ a, begins a = true → begins' a = true)
    (h : ∀ a ∈ as.dropWhile (fun a => !begins a), begins' a = true → begins a = true) :
    (sectionsBy begins' as).2.filter (headIs begins) = (sectionsBy begins as).2 := by
  induction as with
  | nil => rfl
  | cons a as ih =>
      by_cases ha : begins a = true
      · rw [List.dropWhile_cons_of_neg (by simp [ha])] at h
        have hsame : sectionsBy begins' (a :: as) = sectionsBy begins (a :: as) :=
          sectionsBy_congr fun b hb => Bool.eq_iff_iff.mpr ⟨h b hb, himp b⟩
        rw [hsame, filter_headIs_sectionsBy]
      · rw [List.dropWhile_cons_of_pos (by simp [ha])] at h
        rw [sectionsBy_of_not_begins ha]
        by_cases ha' : begins' a = true
        · rw [sectionsBy_of_begins ha', List.filter_cons_of_neg (by simp [headIs, ha]), ih h]
        · rw [sectionsBy_of_not_begins ha', ih h]

end Cutting

/-! ## Sections of a text -/

/-- An `m=` line, of any kind. -/
def beginsSection (line : String) : Bool := "m=".toList.isPrefixOf line.toList

/-- The lines of every audio or video section, up to the next `m=` line. -/
def ownSections (lines : List String) : List (List String) :=
  (sectionsBy beginsSection lines).2.filter (headIs isMediaLine)

/-- From the first `m=` line on that is recognized, all are. -/
def Recognized (lines : List String) : Prop :=
  ∀ line ∈ lines.dropWhile (fun line => !isMediaLine line), beginsSection line = true → isMediaLine line = true

instance (lines : List String) : Decidable (Recognized lines) := inferInstanceAs (Decidable (∀ _ ∈ _, _ → _))

theorem beginsSection_of_isMediaLine {line : String} (h : isMediaLine line = true) : beginsSection line = true := by
  obtain ⟨m, hm⟩ := Option.isSome_iff_exists.mp h
  obtain ⟨p, hp, hprefix⟩ := exists_head hm
  apply List.isPrefixOf_iff_prefix.mpr
  have hheads : ∀ p ∈ M_LINE_REGEX.heads, "m=".toList <+: p := by decide
  exact (hheads p hp).trans hprefix

theorem sections_of_recognized {lines : List String} (h : Recognized lines) : ownSections lines = (sections lines).2 :=
  sectionsBy_of_dropWhile (fun _ => beginsSection_of_isMediaLine) h

/-! ## The lines that no pattern takes -/

namespace MediaReading

variable {r r' : MediaReading} {line : String}

theorem flush_otherLines (h : r.flush = .ok r') : r'.media.otherLines = r.media.otherLines := by
  unfold flush at h
  split at h
  · obtain ⟨format, -, h⟩ := Except.of_bind_ok h
    obtain rfl := Except.ok.inj h
    rfl
  · obtain rfl := Except.ok.inj h
    rfl

theorem readLine_otherLines_of_some {b : MediaBranch × Captures} (hfirst : firstMatch mediaBranches line = some b)
    (h : r.readLine line = .ok r') : r'.media.otherLines = r.media.otherLines := by
  cases readLine_step h with
  | other hnone =>
      rw [firstMatch_eq_none_iff.mpr hnone] at hfirst
      cases hfirst
  | rtpmap _ _ hflush =>
      have hothers := flush_otherLines hflush
      exact hothers
  | _ => rfl

def isOther (line : String) : Bool := (firstMatch mediaBranches line).isNone

theorem readLine_otherLines (h : r.readLine line = .ok r') :
    r'.media.otherLines = r.media.otherLines ++ [line].filter isOther := by
  cases hfirst : firstMatch mediaBranches line with
  | some b =>
      have hother : ¬ isOther line = true := by simp [isOther, hfirst]
      rw [List.filter_cons_of_neg hother, List.filter_nil, List.append_nil, readLine_otherLines_of_some hfirst h]
  | none =>
      have hother : isOther line = true := by simp [isOther, hfirst]
      unfold readLine at h
      rw [hfirst] at h
      obtain rfl := Except.ok.inj h
      rw [List.filter_cons_of_pos hother, List.filter_nil]

theorem foldlM_otherLines {lines : List String} (h : lines.foldlM readLine r = .ok r') :
    r'.media.otherLines = r.media.otherLines ++ lines.filter isOther := by
  induction lines generalizing r with
  | nil =>
      obtain rfl := Except.ok.inj h
      rw [List.filter_nil, List.append_nil]
  | cons line lines ih =>
      rw [List.foldlM_cons] at h
      obtain ⟨r₁, hr₁, h⟩ := Except.of_bind_ok h
      have hcons : [line].filter isOther ++ lines.filter isOther = (line :: lines).filter isOther :=
        (List.filter_append ..).symm
      rw [ih h, readLine_otherLines hr₁, List.append_assoc, hcons]

end MediaReading

theorem MediaDescription.ofLines_otherLines {lines : List String} {m : MediaDescription} (h : ofLines lines = .ok m) :
    m.otherLines = lines.filter MediaReading.isOther := by
  unfold ofLines at h
  obtain ⟨r, hr, h⟩ := Except.of_bind_ok h
  unfold MediaReading.finish at h
  obtain ⟨r', hr', h⟩ := Except.of_bind_ok h
  obtain ⟨candidates, -, h⟩ := Except.of_bind_ok h
  obtain ⟨ssrcs, -, h⟩ := Except.of_bind_ok h
  obtain rfl := Except.ok.inj h
  show r'.media.otherLines = _
  rw [MediaReading.flush_otherLines hr', MediaReading.foldlM_otherLines hr]
  rfl

/-- An `m=` line that is not recognized is such a line. -/
theorem isOther_of_beginsSection {line : String} (h : beginsSection line = true) (hmedia : ¬ isMediaLine line = true) :
    MediaReading.isOther line = true := by
  have hprefix : "m=".toList <+: line.toList := List.isPrefixOf_iff_prefix.mp h
  have hnone : M_LINE_REGEX.fullMatch line = none := by
    unfold isMediaLine at hmedia
    simpa using hmedia
  have hclash : (mediaBranches.tail.all fun b => b.1.clashes "m=") = true := by rfl
  have hfirst : firstMatch mediaBranches line = none := by
    apply firstMatch_eq_none_iff.mpr
    intro b hb
    rcases List.mem_cons.mp (show b ∈ mediaBranches.head (List.cons_ne_nil _ _) :: mediaBranches.tail from hb)
      with rfl | hb
    · exact hnone
    · exact fullMatch_of_clash (List.all_eq_true.mp hclash b hb) hprefix
  unfold MediaReading.isOther
  rw [hfirst]
  rfl

/-! ## Isolation -/

/-- Every description is that of the lines of its own section. -/
def Isolated (lines : List String) (d : SessionDescription) : Prop :=
  (ownSections lines).mapM MediaDescription.ofLines = .ok d.mediaDescriptions

section Isolation
variable {lines lines' : List String} {d d' : SessionDescription}

theorem isolated_of_recognized (h : SessionDescription.ofLines lines = .ok d) (hrec : Recognized lines) :
    Isolated lines d := by
  unfold Isolated
  rw [sections_of_recognized hrec]
  exact SessionDescription.ofLines_ok h

/-- A line that begins a section that is not recognized stays with the section before; it is in none of the
descriptions that it should be in. -/
theorem recognized_of_isolated (h : SessionDescription.ofLines lines = .ok d) (hisolated : Isolated lines d) :
    Recognized lines := by
  intro line hline hbegins
  by_contra hmedia
  have hother := isOther_of_beginsSection hbegins hmedia
  rw [dropWhile_eq_flatten] at hline
  obtain ⟨s, hs, hline⟩ := List.mem_flatten.mp hline
  obtain ⟨m, hm, hread⟩ := Except.exists_result_of_mapM_ok (SessionDescription.ofLines_ok h) hs
  obtain ⟨own, hown, hreadOwn⟩ := Except.exists_source_of_mapM_ok hisolated hm
  have hmem : line ∈ own.filter MediaReading.isOther := by
    rw [← MediaDescription.ofLines_otherLines hreadOwn, MediaDescription.ofLines_otherLines hread]
    exact List.mem_filter.mpr ⟨hline, hother⟩
  obtain ⟨hsection, hhead⟩ := List.mem_filter.mp hown
  obtain ⟨first, rest, rfl, -, hrest⟩ := exists_of_mem_sectionsBy hsection
  rcases List.mem_cons.mp (List.mem_filter.mp hmem).1 with rfl | hmem
  · exact hmedia hhead
  · exact hrest line hmem hbegins

/-- The same section in two texts has the same description. -/
theorem description_eq_of_ownSections (h : Isolated lines d) (h' : Isolated lines' d') {i j : Nat}
    (hown : (ownSections lines)[i]? = (ownSections lines')[j]?) :
    d.mediaDescriptions[i]? = d'.mediaDescriptions[j]? := by
  have hi := Except.getElem?_of_mapM_ok h i
  have hj := Except.getElem?_of_mapM_ok h' j
  rw [hown, hj] at hi
  exact (Option.map_injective (fun _ _ => Except.ok.inj) hi).symm

end Isolation

/-- A text is read section by section just when, once there is a section, every `m=` line is recognized; what is read
of a section is then the same in every such text. -/
theorem SessionDescription.isolated_iff {text : String} {d : SessionDescription} (h : parse text = .ok d) :
    (Isolated (linesOf text) d ↔ Recognized (linesOf text)) ∧
    (Recognized (linesOf text) → ∀ text' d', parse text' = .ok d' → Recognized (linesOf text') →
      ∀ i j : Nat, (ownSections (linesOf text))[i]? = (ownSections (linesOf text'))[j]? →
        d.mediaDescriptions[i]? = d'.mediaDescriptions[j]?) := by
  refine ⟨⟨recognized_of_isolated h, isolated_of_recognized h⟩, ?_⟩
  intro hrec text' d' h' hrec' i j hown
  exact description_eq_of_ownSections (isolated_of_recognized h hrec) (isolated_of_recognized h' hrec') hown

def videoText : String :=
  "v=0\r\no=- 1 2 IN IP4 0.0.0.0\r\ns=-\r\nt=0 0\r\nm=video 9 UDP/TLS/RTP/SAVPF 45\r\na=mid:0"

def dataChannelText : String := videoText ++ "\r\nm=application 9 UDP/DTLS/SCTP webrtc-datachannel\r\na=mid:1"

theorem SessionDescription.isolated_iff_videoText : ∃ d, parse videoText = .ok d ∧
    ((Isolated (linesOf videoText) d ↔ Recognized (linesOf videoText)) ∧
    (Recognized (linesOf videoText) → ∀ text' d', parse text' = .ok d' → Recognized (linesOf text') →
      ∀ i j : Nat, (ownSections (linesOf videoText))[i]? = (ownSections (linesOf text'))[j]? →
        d.mediaDescriptions[i]? = d'.mediaDescriptions[j]?)) := by
  have hsome : (parse videoText).toOption.isSome = true := by decide +kernel
  cases h : parse videoText with
  | error e =>
      rw [h] at hsome
      exact nomatch hsome
  | ok d => exact ⟨d, rfl, isolated_iff h⟩

/-- The data channel gives the video section its mid. -/
theorem SessionDescription.not_isolated_dataChannelText :
    ownSections (linesOf dataChannelText) = ownSections (linesOf videoText) ∧
    (parse videoText).toOption.map (fun d => d.mediaDescriptions.map (·.mid)) = some [some "0"] ∧
    (parse dataChannelText).toOption.map (fun d => d.mediaDescriptions.map (·.mid)) = some [some "1"] := by
  decide +kernel

end Sdp

end Scallop
