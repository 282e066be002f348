import Scallop.Sdp.RoundTrip
import Scallop.Sdp.Steps

/-!
# The transport part of a description

* `isTransport` : the lines that say how a client is reached;
* `withoutTransport` : what is left of the lines of a description without them, and without the ports
  of the sections; of a section that has been read, all that such lines do not write;
* `sections` : the lines before the first section, and those of every section; `readLines_sections`;
* `SessionDescription.ofLines_withoutTransport` : descriptions with the same lines, but for the
  transport part, have the same sections, but for what this part writes.
-/

namespace Scallop

namespace Sdp

open Regex

/-- How the lines of the transport part begin. -/
def transportBeginnings : List String :=
  ["c=", "a=rtcp:", "a=candidate:", "a=ice-", "a=fingerprint:", "a=setup:"]

/-- Whether a line is of the transport part. -/
def isTransport (line : String) : Bool :=
  transportBeginnings.any fun q => q.toList.isPrefixOf line.toList

/-- A line; of one that begins a section, all but the port. -/
def withoutPort (line : String) : String ⊕ String × String × String :=
  match M_LINE_REGEX.fullMatch line with
  | some m => .inr (m.get 1, m.get 3, m.get 4)
  | none => .inl line

/-- The lines without those of the transport part, and without the ports. -/
def withoutTransport (lines : List String) : List (String ⊕ String × String × String) :=
  (lines.filter fun line => !isTransport line).map withoutPort

/-- A section without what the lines of the transport part write, and the port. -/
def MediaDescription.withoutTransport (m : MediaDescription) : MediaDescription :=
  { m with
    port := 0
    connectionData := none
    rtcpConfiguration := none
    iceCandidates := []
    iceUfrag := none
    icePwd := none
    iceOtherLines := []
    otherLines := [] }

/-! ## Sections -/

namespace MediaReading

/-- What has been read, without the transport part. -/
def withoutTransport (r : MediaReading) : MediaReading :=
  { r with media := r.media.withoutTransport, iceCandidateLines := [] }

variable {r r' : MediaReading} {line : String}

theorem flush_withoutTransport (r : MediaReading) :
    r.flush.map withoutTransport = r.withoutTransport.flush := by
  obtain ⟨media, ssrcLines, iceCandidateLines, currentFormatLines⟩ := r
  unfold flush withoutTransport
  dsimp only
  split
  next =>
    cases MediaFormat.ofLines currentFormatLines with
    | error e => rfl
    | ok format => rfl
  next => rfl

/-- What is done with a line does not depend on the transport part. -/
theorem readLine_withoutTransport (r : MediaReading) (line : String) :
    (r.readLine line).map withoutTransport =
      (r.withoutTransport.readLine line).map withoutTransport := by
  unfold readLine
  cases hfirst : firstMatch mediaBranches line with
  | none => rfl
  | some b =>
      obtain ⟨branch, m⟩ := b
      obtain ⟨re, hmem, -⟩ := firstMatch_mem hfirst
      simp only [mediaBranches, List.mem_cons, List.not_mem_nil, or_false, Prod.mk.injEq] at hmem
      rcases hmem with ⟨-, rfl⟩ | ⟨-, rfl⟩ | ⟨-, rfl⟩ | ⟨-, rfl⟩ | ⟨-, rfl⟩ | ⟨-, rfl⟩ | ⟨-, rfl⟩ |
        ⟨-, rfl⟩ | ⟨-, rfl⟩ | ⟨-, rfl⟩ | ⟨-, rfl⟩ | ⟨-, rfl⟩ | ⟨-, rfl⟩ | ⟨-, rfl⟩
      · dsimp only
        cases typeFromString (m.get 1) with
        | error e => rfl
        | ok type =>
            cases stoul (m.get 2) with
            | error e => rfl
            | ok port => rfl
      · rfl
      · dsimp only
        cases RTCPConfiguration.ofLine line with
        | error e => rfl
        | ok c => rfl
      · rfl
      · rfl
      · rfl
      · dsimp only
        cases RTPExtension.ofLine line with
        | error e => rfl
        | ok e => rfl
      · rfl
      · dsimp only
        cases directionFromString (m.get 1) with
        | error e => rfl
        | ok d => rfl
      · rfl
      · rfl
      · dsimp only
        split
        next =>
          have hflush := flush_withoutTransport r
          cases h : r.flush with
          | error e =>
              rw [h] at hflush
              rw [← hflush]
              rfl
          | ok r' =>
              rw [h] at hflush
              rw [← hflush]
              rfl
        next => rfl
      · rfl
      · rfl

/-- A line of the transport part writes nothing else. -/
theorem readLine_of_isTransport (hline : isTransport line = true) (h : r.readLine line = .ok r') :
    r'.withoutTransport = r.withoutTransport := by
  obtain ⟨q, hq, hbegins⟩ := List.any_eq_true.mp hline
  have hclash {re : Regex} (h : ∀ q ∈ transportBeginnings, re.clashes q = true) {m : Captures} :
      re.fullMatch line ≠ some m := by
    rw [fullMatch_of_clash (h q hq) (List.isPrefixOf_iff_prefix.mp hbegins)]
    exact nofun
  unfold readLine at h
  split at h
  next branch m hfirst =>
    obtain ⟨re, hmem, hm⟩ := firstMatch_mem hfirst
    simp only [mediaBranches, List.mem_cons, List.not_mem_nil, or_false, Prod.mk.injEq] at hmem
    rcases hmem with ⟨rfl, -⟩ | ⟨-, rfl⟩ | ⟨-, rfl⟩ | ⟨-, rfl⟩ | ⟨-, rfl⟩ | ⟨rfl, -⟩ | ⟨rfl, -⟩ |
      ⟨rfl, -⟩ | ⟨rfl, -⟩ | ⟨-, rfl⟩ | ⟨rfl, -⟩ | ⟨rfl, -⟩ | ⟨-, rfl⟩ | ⟨rfl, -⟩
    · exact absurd hm (hclash (by decide))
    · obtain rfl := Except.ok.inj h
      rfl
    · obtain ⟨c, -, rfl⟩ := Except.of_map_ok h
      rfl
    · obtain rfl := Except.ok.inj h
      rfl
    · obtain rfl := Except.ok.inj h
      rfl
    · exact absurd hm (hclash (by decide))
    · exact absurd hm (hclash (by decide))
    · exact absurd hm (hclash (by decide))
    · exact absurd hm (hclash (by decide))
    · obtain rfl := Except.ok.inj h
      rfl
    · exact absurd hm (hclash (by decide))
    · exact absurd hm (hclash (by decide))
    · obtain rfl := Except.ok.inj h
      rfl
    · exact absurd hm (hclash (by decide))
  next =>
    obtain rfl := Except.ok.inj h
    rfl

/-- The same line, or two first lines that differ in their ports. -/
theorem readLine_of_withoutPort {line₁ line₂ : String} {r₁ r₂ r₁' r₂' : MediaReading}
    (hline : withoutPort line₁ = withoutPort line₂)
    (hr : r₁.withoutTransport = r₂.withoutTransport) (h₁ : r₁.readLine line₁ = .ok r₁')
    (h₂ : r₂.readLine line₂ = .ok r₂') : r₁'.withoutTransport = r₂'.withoutTransport := by
  unfold withoutPort at hline
  split at hline
  next m₁ hm₁ =>
    split at hline
    next m₂ hm₂ =>
      obtain ⟨htype, hprotocols, -⟩ : m₁.get 1 = m₂.get 1 ∧ m₁.get 3 = m₂.get 3 ∧
          m₁.get 4 = m₂.get 4 := by
        simpa only [Sum.inr.injEq, Prod.mk.injEq] using hline
      rw [r₁.readLine_eq (i := 0) (q := "") rfl rfl (List.nil_prefix) hm₁] at h₁
      rw [r₂.readLine_eq (i := 0) (q := "") rfl rfl (List.nil_prefix) hm₂] at h₂
      obtain ⟨type, ht₁, h₁⟩ := Except.of_bind_ok h₁
      obtain ⟨port₁, -, h₁⟩ := Except.of_bind_ok h₁
      obtain ⟨type₂, ht₂, h₂⟩ := Except.of_bind_ok h₂
      obtain ⟨port₂, -, h₂⟩ := Except.of_bind_ok h₂
      obtain rfl := Except.ok.inj h₁
      obtain rfl := Except.ok.inj h₂
      rw [htype, ht₂] at ht₁
      obtain rfl := Except.ok.inj ht₁
      rw [hprotocols]
      exact congrArg (fun r => { r with
        media := { r.media with type := type₂, protocols := m₂.get 3 } }) hr
    next => cases hline
  next =>
    split at hline
    next => cases hline
    next =>
      obtain rfl := Sum.inl.inj hline
      have h := readLine_withoutTransport r₁ line₁
      rw [hr, ← readLine_withoutTransport, h₁, h₂] at h
      exact Except.ok.inj h

theorem foldlM_of_isTransport {lines : List String} {r r' : MediaReading}
    (hlines : ∀ line ∈ lines, isTransport line = true) (h : lines.foldlM readLine r = .ok r') :
    r'.withoutTransport = r.withoutTransport := by
  induction lines generalizing r with
  | nil =>
      obtain rfl := Except.ok.inj h
      rfl
  | cons line lines ih =>
      rw [List.foldlM_cons] at h
      obtain ⟨r₁, hr₁, h⟩ := Except.of_bind_ok h
      exact (ih (fun l hl => hlines l (List.mem_cons_of_mem _ hl)) h).trans
        (readLine_of_isTransport (hlines line List.mem_cons_self) hr₁)

/-- Lines that differ in the transport part only. -/
theorem foldlM_of_withoutTransport {lines₁ lines₂ : List String} {r₁ r₂ r₁' r₂' : MediaReading}
    (hlines : Sdp.withoutTransport lines₁ = Sdp.withoutTransport lines₂)
    (hr : r₁.withoutTransport = r₂.withoutTransport) (h₁ : lines₁.foldlM readLine r₁ = .ok r₁')
    (h₂ : lines₂.foldlM readLine r₂ = .ok r₂') : r₁'.withoutTransport = r₂'.withoutTransport := by
  induction lines₁ generalizing lines₂ r₁ r₂ with
  | nil =>
      obtain rfl := Except.ok.inj h₁
      have hall : ∀ line ∈ lines₂, isTransport line = true := by
        intro line hmem
        have hnot := List.filter_eq_nil_iff.mp (List.map_eq_nil_iff.mp hlines.symm) line hmem
        simpa using hnot
      exact hr.trans (foldlM_of_isTransport hall h₂).symm
  | cons line₁ lines₁ ih =>
      rw [List.foldlM_cons] at h₁
      obtain ⟨r, hread₁, h₁⟩ := Except.of_bind_ok h₁
      by_cases hline : isTransport line₁ = true
      · have hskip : Sdp.withoutTransport (line₁ :: lines₁) = Sdp.withoutTransport lines₁ := by
          unfold Sdp.withoutTransport
          rw [List.filter_cons_of_neg (by simp [hline])]
        exact ih (hskip.symm.trans hlines) ((readLine_of_isTransport hline hread₁).trans hr) h₁ h₂
      · have hcons : Sdp.withoutTransport (line₁ :: lines₁) =
            withoutPort line₁ :: Sdp.withoutTransport lines₁ := by
          unfold Sdp.withoutTransport
          rw [List.filter_cons_of_pos (by simp [hline]), List.map_cons]
        obtain ⟨line₂, rest, hfilter, hport, hrest⟩ :=
          List.map_eq_cons_iff.mp (hlines.symm.trans hcons)
        obtain ⟨skipped, lines₂, rfl, hskipped, -, hlines₂⟩ := List.filter_eq_cons_iff.mp hfilter
        rw [List.foldlM_append] at h₂
        obtain ⟨r₃, hskip, h₂⟩ := Except.of_bind_ok h₂
        rw [List.foldlM_cons] at h₂
        obtain ⟨r₄, hread₂, h₂⟩ := Except.of_bind_ok h₂
        have hr₃ := foldlM_of_isTransport (fun l hl => by simpa using hskipped l hl) hskip
        refine ih ?_ (readLine_of_withoutPort hport.symm (hr.trans hr₃.symm) hread₁ hread₂) h₁ h₂
        unfold Sdp.withoutTransport
        rw [hlines₂]
        exact hrest.symm

/-- What is left to do at the end of a section does not depend on it either. -/
theorem finish_of_withoutTransport {r₁ r₂ : MediaReading} {m₁ m₂ : MediaDescription}
    (hr : r₁.withoutTransport = r₂.withoutTransport) (h₁ : r₁.finish = .ok m₁)
    (h₂ : r₂.finish = .ok m₂) : m₁.withoutTransport = m₂.withoutTransport := by
  unfold finish at h₁ h₂
  obtain ⟨r₁', hflush₁, h₁⟩ := Except.of_bind_ok h₁
  obtain ⟨r₂', hflush₂, h₂⟩ := Except.of_bind_ok h₂
  have hflush : r₁'.withoutTransport = r₂'.withoutTransport := by
    have h := flush_withoutTransport r₁
    rw [hr, ← flush_withoutTransport, hflush₁, hflush₂] at h
    exact Except.ok.inj h
  obtain ⟨candidates₁, -, h₁⟩ := Except.of_bind_ok h₁
  obtain ⟨candidates₂, -, h₂⟩ := Except.of_bind_ok h₂
  obtain ⟨ssrcDescription₁, hssrc₁, h₁⟩ := Except.of_bind_ok h₁
  obtain ⟨ssrcDescription₂, hssrc₂, h₂⟩ := Except.of_bind_ok h₂
  obtain rfl := Except.ok.inj h₁
  obtain rfl := Except.ok.inj h₂
  have hssrcLines : r₁'.ssrcLines = r₂'.ssrcLines := congrArg (·.ssrcLines) hflush
  rw [hssrcLines, hssrc₂] at hssrc₁
  obtain rfl := Except.ok.inj hssrc₁
  exact congrArg (fun r => { r.media with ssrcDescription := ssrcDescription₂ }) hflush

end MediaReading

/-- Sections with the same lines, but for the transport part. -/
theorem MediaDescription.ofLines_withoutTransport {lines₁ lines₂ : List String}
    {m₁ m₂ : MediaDescription} (hlines : Sdp.withoutTransport lines₁ = Sdp.withoutTransport lines₂)
    (h₁ : ofLines lines₁ = .ok m₁) (h₂ : ofLines lines₂ = .ok m₂) :
    m₁.withoutTransport = m₂.withoutTransport := by
  unfold ofLines at h₁ h₂
  obtain ⟨r₁, hr₁, h₁⟩ := Except.of_bind_ok h₁
  obtain ⟨r₂, hr₂, h₂⟩ := Except.of_bind_ok h₂
  exact MediaReading.finish_of_withoutTransport
    (MediaReading.foldlM_of_withoutTransport hlines rfl hr₁ hr₂) h₁ h₂

/-! ## Descriptions -/

section Sections
variable {α β : Type} {begins : α → Bool} {a : α}

/-- The elements before the first one that begins a section, and the sections. -/
def sectionsBy (begins : α → Bool) : List α → List α × List (List α)
  | [] => ([], [])
  | a :: as =>
      let s := sectionsBy begins as
      if begins a then ([], (a :: s.1) :: s.2) else (a :: s.1, s.2)

theorem sectionsBy_of_begins (h : begins a = true) (as : List α) :
    sectionsBy begins (a :: as) =
      ([], (a :: (sectionsBy begins as).1) :: (sectionsBy begins as).2) := if_pos h

theorem sectionsBy_of_not_begins (h : ¬ begins a = true) (as : List α) :
    sectionsBy begins (a :: as) = (a :: (sectionsBy begins as).1, (sectionsBy begins as).2) :=
  if_neg h

theorem sectionsBy_of_head {as : List α} (h : as.head?.all begins = true) :
    (sectionsBy begins as).1 = [] := by
  cases as with
  | nil => rfl
  | cons a as => exact congrArg (·.1) (sectionsBy_of_begins (by exact h) as)

/-- Sections stay sections when elements that begin none are left out. -/
theorem sectionsBy_map_filter {begins' : β → Bool} {keep : α → Bool} {f : α → β}
    (hkeep : ∀ a, begins a = true → keep a = true) (hf : ∀ a, begins' (f a) = begins a)
    (as : List α) :
    sectionsBy begins' ((as.filter keep).map f) =
      (((sectionsBy begins as).1.filter keep).map f,
        (sectionsBy begins as).2.map fun s => (s.filter keep).map f) := by
  induction as with
  | nil => rfl
  | cons a as ih =>
      by_cases hbegins : begins a = true
      · rw [List.filter_cons_of_pos (hkeep a hbegins), List.map_cons,
          sectionsBy_of_begins ((hf a).trans hbegins), ih, sectionsBy_of_begins hbegins,
          List.map_cons, List.filter_cons_of_pos (hkeep a hbegins), List.map_cons]
        rfl
      · rw [sectionsBy_of_not_begins hbegins]
        by_cases hka : keep a = true
        · rw [List.filter_cons_of_pos hka, List.map_cons,
            sectionsBy_of_not_begins (by rw [hf]; exact hbegins), ih, List.filter_cons_of_pos hka,
            List.map_cons]
        · rw [List.filter_cons_of_neg hka, ih, List.filter_cons_of_neg hka]

end Sections

/-- The lines before the first section of a description, and those of every section. -/
def sections (lines : List String) : List String × List (List String) :=
  sectionsBy isMediaLine lines

theorem isMediaLine_of_isTransport {line : String} (h : isTransport line = true) :
    isMediaLine line = false := by
  obtain ⟨q, hq, hbegins⟩ := List.any_eq_true.mp h
  have hclash : ∀ q ∈ transportBeginnings, M_LINE_REGEX.clashes q = true := by decide
  exact isMediaLine_eq_false (List.isPrefixOf_iff_prefix.mp hbegins) (hclash q hq)

theorem sections_withoutTransport (lines : List String) :
    sectionsBy Sum.isRight (withoutTransport lines) =
      (withoutTransport (sections lines).1, (sections lines).2.map withoutTransport) := by
  refine sectionsBy_map_filter (fun line hline => ?_) (fun line => ?_) lines
  · cases htransport : isTransport line with
    | false => rfl
    | true => exact nomatch (isMediaLine_of_isTransport htransport).symm.trans hline
  · unfold withoutPort isMediaLine
    cases M_LINE_REGEX.fullMatch line with
    | none => rfl
    | some m => rfl

namespace SessionReading

def pushSections (r : SessionReading) (medias : List MediaDescription) : SessionReading :=
  { r with
    session := { r.session with mediaDescriptions := r.session.mediaDescriptions ++ medias }
    mediaSectionLines := none }

theorem pushSections_nil {r : SessionReading} (hr : r.mediaSectionLines = none) :
    r.pushSections [] = r := by
  obtain ⟨session, mediaSectionLines, version, origin⟩ := r
  obtain rfl : mediaSectionLines = none := hr
  unfold pushSections
  rw [List.append_nil]

theorem pushSections_cons (r : SessionReading) (media : MediaDescription)
    (medias : List MediaDescription) :
    (r.pushSections [media]).pushSections medias = r.pushSections (media :: medias) := by
  unfold pushSections
  dsimp only
  rw [List.append_assoc, List.singleton_append]

/-- The lines before the first section are read one by one, and those of the sections together; so
are those of a section of which some lines have been read. -/
theorem readLines_sections (lines : List String) (r : SessionReading) :
    (r.mediaSectionLines = none →
      readLines lines r = do
        let r ← (sections lines).1.foldlM readLine r
        let medias ← (sections lines).2.mapM MediaDescription.ofLines
        return r.pushSections medias) ∧
    (∀ read, lines ≠ [] → lines.head?.all isMediaLine = false →
      readLines lines { r with mediaSectionLines := some read } = do
        let media ← MediaDescription.ofLines (read ++ (sections lines).1)
        let medias ← (sections lines).2.mapM MediaDescription.ofLines
        return r.pushSections (media :: medias)) := by
  induction lines generalizing r with
  | nil =>
      refine ⟨fun hr => ?_, fun _ hne => absurd rfl hne⟩
      show Except.ok r = Except.ok (r.pushSections [])
      rw [pushSections_nil hr]
  | cons line lines ih =>
      have hclose (read : List String) :
          (if lines.head?.all isMediaLine = true then r.close (read ++ [line]) lines
            else readLines lines { r with mediaSectionLines := some (read ++ [line]) }) = do
            let media ← MediaDescription.ofLines (read ++ line :: (sections lines).1)
            let medias ← (sections lines).2.mapM MediaDescription.ofLines
            return r.pushSections (media :: medias) := by
        by_cases hhead : lines.head?.all isMediaLine = true
        · have hfirst : (sections lines).1 = [] := sectionsBy_of_head hhead
          rw [if_pos hhead, hfirst]
          show (MediaDescription.ofLines (read ++ [line]) >>= fun media =>
            readLines lines (r.pushSections [media])) = _
          refine congrArg (_ >>= ·) (funext fun media => ?_)
          rw [(ih _).1 rfl, hfirst, List.foldlM_nil]
          exact congrArg (_ >>= ·) (funext fun medias =>
            congrArg Except.ok (r.pushSections_cons media medias))
        · have hne : lines ≠ [] := by
            rintro rfl
            exact hhead rfl
          rw [if_neg hhead, (ih r).2 (read ++ [line]) hne (eq_false_of_ne_true hhead),
            List.append_assoc, List.singleton_append]
      by_cases hline : isMediaLine line = true
      · have hsections : sections (line :: lines) =
            ([], (line :: (sections lines).1) :: (sections lines).2) :=
          sectionsBy_of_begins hline lines
        refine ⟨fun hr => ?_, fun read hne hhead => nomatch hline.symm.trans hhead⟩
        rw [readLines_cons [] (by rw [if_pos hline, hr]; rfl), hclose [], hsections,
          List.foldlM_nil, List.mapM_cons]
        simp only [bind_assoc, pure_bind, List.nil_append]
      · have hsections : sections (line :: lines) =
            (line :: (sections lines).1, (sections lines).2) :=
          sectionsBy_of_not_begins hline lines
        refine ⟨fun hr => ?_, fun read hne hhead => ?_⟩
        · rw [hsections, List.foldlM_cons, readLines]
          dsimp only
          rw [if_neg hline, hr]
          dsimp only
          cases hread : r.readLine line with
          | error e => rfl
          | ok r' => exact (ih r').1 ((readLine_keeps hread).1.trans hr)
        · rw [hsections]
          exact (readLines_cons read (if_neg hline)).trans (hclose read)

theorem mediaDescriptions_foldlM {lines : List String} {r r' : SessionReading}
    (h : lines.foldlM readLine r = .ok r') :
    r'.session.mediaDescriptions = r.session.mediaDescriptions := by
  induction lines generalizing r with
  | nil =>
      obtain rfl := Except.ok.inj h
      rfl
  | cons line lines ih =>
      rw [List.foldlM_cons] at h
      obtain ⟨r₁, hr₁, h⟩ := Except.of_bind_ok h
      exact (ih h).trans (readLine_keeps hr₁).2

end SessionReading

/-- A description is read of the lines before the first section, and of the sections. -/
theorem SessionDescription.ofLines_eq_ok_iff {lines : List String} {d : SessionDescription} : ofLines lines = .ok d ↔
    ∃ r medias, (sections lines).1.foldlM SessionReading.readLine {} = .ok r ∧
      (sections lines).2.mapM MediaDescription.ofLines = .ok medias ∧ r.version = true ∧ r.session.version = 0 ∧
      r.origin = true ∧ r.session.timing ≠ [] ∧ d = { r.session with mediaDescriptions := medias } := by
  have hsession {r : SessionReading} (hr : (sections lines).1.foldlM SessionReading.readLine {} = .ok r)
      (medias : List MediaDescription) :
      (r.pushSections medias).session = { r.session with mediaDescriptions := medias } := by
    unfold SessionReading.pushSections
    rw [SessionReading.mediaDescriptions_foldlM hr]
    rfl
  unfold ofLines
  rw [(SessionReading.readLines_sections lines {}).1 rfl]
  constructor
  · intro h
    obtain ⟨r₀, hr₀, h⟩ := Except.of_bind_ok h
    obtain ⟨r, hr, hr₀⟩ := Except.of_bind_ok hr₀
    obtain ⟨medias, hmedias, hr₀⟩ := Except.of_bind_ok hr₀
    obtain rfl := Except.ok.inj hr₀
    rw [hsession hr] at h
    split_ifs at h with hversion horigin htiming
    obtain rfl := Except.ok.inj h
    simp only [Bool.or_eq_true, Bool.not_eq_true', decide_eq_true_eq, not_or, Bool.not_eq_false, not_not] at hversion
    rw [Bool.not_eq_true, Bool.not_eq_false'] at horigin
    exact ⟨r, medias, hr, hmedias, hversion.1, hversion.2, horigin, htiming, rfl⟩
  · intro ⟨r, medias, hr, hmedias, hversion, hzero, horigin, htiming, hd⟩
    rw [hr, Except.bind_ok, hmedias]
    show (if _ then _ else _) = _
    rw [hsession hr, ← hd]
    rw [if_neg, if_neg, if_neg]
    · rfl
    · rw [hd]
      exact htiming
    · show ¬ (!r.origin) = true
      rw [horigin]
      decide
    · show ¬ (!r.version || decide (d.version ≠ 0)) = true
      rw [hversion, hd, hzero]
      decide

/-- The sections of a description are read of the lines of theirs. -/
theorem SessionDescription.ofLines_ok {lines : List String} {d : SessionDescription}
    (h : ofLines lines = .ok d) :
    (sections lines).2.mapM MediaDescription.ofLines = .ok d.mediaDescriptions := by
  obtain ⟨r, medias, -, hmedias, -, -, -, -, rfl⟩ := ofLines_eq_ok_iff.mp h
  exact hmedias

/-- Descriptions with the same lines, but for the transport part. -/
theorem SessionDescription.ofLines_withoutTransport {lines₁ lines₂ : List String}
    {d₁ d₂ : SessionDescription}
    (hlines : Sdp.withoutTransport lines₁ = Sdp.withoutTransport lines₂)
    (h₁ : ofLines lines₁ = .ok d₁) (h₂ : ofLines lines₂ = .ok d₂) :
    d₁.mediaDescriptions.map MediaDescription.withoutTransport =
      d₂.mediaDescriptions.map MediaDescription.withoutTransport := by
  have hsections := congrArg (sectionsBy Sum.isRight) hlines
  rw [sections_withoutTransport, sections_withoutTransport] at hsections
  exact Except.map_eq_of_mapM_ok
    (fun _ _ _ _ h h₁ h₂ => MediaDescription.ofLines_withoutTransport h h₁ h₂)
    (congrArg (·.2) hsections) (ofLines_ok h₁) (ofLines_ok h₂)

/-! ## Texts -/

def linesOf (sdp : String) : List String := (splitLines sdp.toList).map String.ofList

theorem splitLines_append {l : List Char} (h : ¬ ['\r', '\n'] <:+: l) (cs : List Char) :
    splitLines (l ++ '\r' :: '\n' :: cs) = l :: splitLines cs := by
  induction l with
  | nil => rw [List.nil_append, splitLines]
  | cons c l ih =>
      rw [List.cons_append, splitLines, ih fun hpart => h (hpart.trans (List.suffix_cons c l).isInfix)]
      intro cs' hc hcs'
      cases l with
      | nil => exact nomatch hcs'
      | cons b l =>
          obtain ⟨rfl, -⟩ := List.cons.inj hcs'
          subst hc
          exact h (List.prefix_append ['\r', '\n'] l).isInfix

theorem splitLines_of_not_mem {l : List Char} (h : '\r' ∉ l) : splitLines l = [l] := by
  induction l with
  | nil => rfl
  | cons c l ih =>
      have hc : c ≠ '\r' := fun hc => h (hc ▸ List.mem_cons_self)
      rw [splitLines, ih fun hl => h (List.mem_cons_of_mem _ hl)]
      exact fun cs' hcs' => absurd hcs' hc

/-- Lines that are put together are told apart again. -/
theorem linesOf_intercalate {lines : List String} (hne : lines ≠ [])
    (h : ∀ line ∈ lines, '\r' ∉ line.toList) : linesOf ("\r\n".intercalate lines) = lines := by
  induction lines with
  | nil => exact absurd rfl hne
  | cons line lines ih =>
      have hline := h line List.mem_cons_self
      cases lines with
      | nil =>
          unfold linesOf
          rw [String.intercalate_singleton, splitLines_of_not_mem hline, List.map_singleton,
            String.ofList_toList]
      | cons next lines =>
          have hl : ("\r\n".intercalate (line :: next :: lines)).toList =
              line.toList ++ '\r' :: '\n' :: ("\r\n".intercalate (next :: lines)).toList := by
            rw [String.intercalate_cons_cons, String.toList_append, String.toList_append,
              List.append_assoc]
            rfl
          unfold linesOf at ih ⊢
          rw [hl, splitLines_append fun hpart => hline (hpart.subset List.mem_cons_self), List.map_cons,
            String.ofList_toList,
            ih (List.cons_ne_nil _ _) fun l hmem => h l (List.mem_cons_of_mem _ hmem)]

end Sdp

end Scallop
