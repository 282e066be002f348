import Scallop.Sdp.Normal

/-!
# When reading and printing is idempotent

* `addressOf`, `urisOf`, `paramsOf` : the values of a section's lines that are formatted in the end of a line;
* `PrintableLines` : none of them begins with a NUL, and there is the line of a format; `printable_iff` : this is when
  what is read of the section is `Printable`;
* `printable_of_ofLines`, `printable_of_lines` : a section is, if it is read of its own lines, or one with the same is;
* `SessionDescription.Parsed.length_eq` : the lines tell how many sections there are;
* `normalize_idempotent_iff` : the text that is printed is printed again just when there is a section, and all are.
-/

namespace Scallop

namespace Sdp

open Regex

/-! ## Values of a section's lines -/

/-- What a group of a pattern holds of a line that it takes. -/
def valueOf? (re : Regex) (i : Nat) (line : String) : Option String := (re.fullMatch line).map (·.get i)

/-- The address of the last `c=` line. -/
def addressOf (lines : List String) : Option String := (lines.filterMap (valueOf? C_LINE_REGEX 3)).getLast?

/-- The URIs of the `a=extmap` lines. -/
def urisOf (lines : List String) : List String := lines.filterMap (valueOf? EXTMAP_REGEX 2)

/-- The parameters of the `a=fmtp` lines whose payload type is that of the `a=rtpmap` line before them; of the first
ones, before any, `pt`. -/
def paramsOf : Nat → List String → List String
  | _, [] => []
  | pt, line :: lines =>
      match RTP_MAP_REGEX.fullMatch line with
      | some m => paramsOf ((stoul (m.get 1)).toOption.getD 0 % 2 ^ 32) lines
      | none =>
          match RTP_FMTP_REGEX.fullMatch line with
          | some m =>
              if (stoul (m.get 1)).toOption = some pt then m.get 2 :: paramsOf pt lines else paramsOf pt lines
          | none => paramsOf pt lines

/-- There is a line of a format, and no value that is formatted in the end of a line begins with a NUL. -/
structure PrintableLines (lines : List String) : Prop where
  format : ∃ line ∈ lines, isFormat line = true
  address : ∀ s ∈ addressOf lines, cStr s ≠ ""
  uris : ∀ s ∈ urisOf lines, cStr s ≠ ""
  params : ∀ s ∈ paramsOf 0 lines, cStr s ≠ ""

instance (lines : List String) : Decidable (PrintableLines lines) :=
  decidable_of_iff ((∃ line ∈ lines, isFormat line = true) ∧ (∀ s ∈ addressOf lines, cStr s ≠ "") ∧
    (∀ s ∈ urisOf lines, cStr s ≠ "") ∧ ∀ s ∈ paramsOf 0 lines, cStr s ≠ "")
    ⟨fun ⟨hformat, haddress, huris, hparams⟩ => ⟨hformat, haddress, huris, hparams⟩,
      fun h => ⟨h.format, h.address, h.uris, h.params⟩⟩

section Values
variable {line : String} {lines : List String} {r r' : MediaReading} {m : MediaDescription}

/-- A line says something about the connection, or about an extension, or about neither. -/
theorem MediaReading.Step.values (h : Step line r r') :
    r'.media.connectionData.map (·.connectionAddress) =
      (valueOf? C_LINE_REGEX 3 line).or (r.media.connectionData.map (·.connectionAddress)) ∧
    r'.media.extensions.map (·.uri) = r.media.extensions.map (·.uri) ++ (valueOf? EXTMAP_REGEX 2 line).toList := by
  have hneither {re : Regex} {m : Captures} (hm : re.fullMatch line = some m) (hc : re.apart C_LINE_REGEX = true)
      (he : re.apart EXTMAP_REGEX = true) :
      r.media.connectionData.map (·.connectionAddress) =
        (valueOf? C_LINE_REGEX 3 line).or (r.media.connectionData.map (·.connectionAddress)) ∧
      r.media.extensions.map (·.uri) = r.media.extensions.map (·.uri) ++ (valueOf? EXTMAP_REGEX 2 line).toList := by
    simp [valueOf?, fullMatch_of_apart hm hc, fullMatch_of_apart hm he]
  cases h with
  | mLine hm => exact hneither hm rfl rfl
  | @connectionData m hm =>
      have hread : (ConnectionData.ofLine line).connectionAddress = m.get 3 := by
        unfold ConnectionData.ofLine
        rw [hm]
      simp [valueOf?, hm, fullMatch_of_apart (s := EXTMAP_REGEX) hm rfl, hread]
  | rtcpConfiguration hm => exact hneither hm rfl rfl
  | iceUfrag hm => exact hneither hm rfl rfl
  | icePwd hm => exact hneither hm rfl rfl
  | mid hm => exact hneither hm rfl rfl
  | extension hm he =>
      unfold RTPExtension.ofLine at he
      rw [hm] at he
      obtain ⟨n, -, rfl⟩ := Except.of_map_ok he
      simp [valueOf?, hm, fullMatch_of_apart (s := C_LINE_REGEX) hm rfl]
  | msid hm => exact hneither hm rfl rfl
  | direction hm => exact hneither hm rfl rfl
  | iceCandidate hm => exact hneither hm rfl rfl
  | ssrc hm => exact hneither hm rfl rfl
  | rtpmap hm _ hflush =>
      have hsame := hneither hm rfl rfl
      unfold flush at hflush
      split at hflush
      · obtain ⟨format, -, hflush⟩ := Except.of_bind_ok hflush
        obtain rfl := Except.ok.inj hflush
        exact hsame
      · obtain rfl := Except.ok.inj hflush
        exact hsame
  | format hm => exact hneither hm rfl rfl
  | iceOther hm => exact hneither hm rfl rfl
  | rtcpOther hm => exact hneither hm rfl rfl
  | other hnone =>
      have hc : C_LINE_REGEX.fullMatch line = none := hnone _ (List.mem_of_getElem? (i := 1) rfl)
      have he : EXTMAP_REGEX.fullMatch line = none := hnone _ (List.mem_of_getElem? (i := 6) rfl)
      simp [valueOf?, hc, he]

theorem MediaReading.values_of_foldlM (h : lines.foldlM readLine r = .ok r') :
    r'.media.connectionData.map (·.connectionAddress) =
      (addressOf lines).or (r.media.connectionData.map (·.connectionAddress)) ∧
    r'.media.extensions.map (·.uri) = r.media.extensions.map (·.uri) ++ urisOf lines := by
  unfold addressOf urisOf
  induction lines generalizing r with
  | nil =>
      obtain rfl := Except.ok.inj h
      simp
  | cons line lines ih =>
      rw [List.foldlM_cons] at h
      obtain ⟨r₁, hr₁, h⟩ := Except.of_bind_ok h
      obtain ⟨haddress, huris⟩ := ih h
      obtain ⟨haddress₁, huris₁⟩ := (readLine_step hr₁).values
      rw [haddress, haddress₁, huris, huris₁]
      constructor
      · cases hvalue : valueOf? C_LINE_REGEX 3 line with
        | none => rw [List.filterMap_cons_none hvalue, Option.none_or]
        | some s =>
            rw [List.filterMap_cons_some hvalue, List.getLast?_cons]
            cases (lines.filterMap (valueOf? C_LINE_REGEX 3)).getLast? <;> rfl
      · cases hvalue : valueOf? EXTMAP_REGEX 2 line with
        | none => rw [List.filterMap_cons_none hvalue, Option.toList_none, List.append_nil]
        | some s =>
            rw [List.filterMap_cons_some hvalue, List.append_assoc]
            rfl

theorem MediaDescription.values_of_ofLines (h : ofLines lines = .ok m) :
    m.connectionData.map (·.connectionAddress) = addressOf lines ∧ m.extensions.map (·.uri) = urisOf lines := by
  unfold ofLines MediaReading.finish at h
  obtain ⟨r, hr, h⟩ := Except.of_bind_ok h
  obtain ⟨r', hr', h⟩ := Except.of_bind_ok h
  obtain ⟨candidates, -, h⟩ := Except.of_bind_ok h
  obtain ⟨ssrcs, -, h⟩ := Except.of_bind_ok h
  obtain rfl := Except.ok.inj h
  have hvalues := MediaReading.values_of_foldlM hr
  rw [show addressOf lines = (addressOf lines).or none from (Option.or_none).symm]
  unfold MediaReading.flush at hr'
  split at hr'
  · obtain ⟨format, -, hr'⟩ := Except.of_bind_ok hr'
    obtain rfl := Except.ok.inj hr'
    exact hvalues
  · obtain rfl := Except.ok.inj hr'
    exact hvalues

/-! ## Parameters of the formats -/

theorem isFormat_of_begins {w : String} (hw : w ∈ ["rtpmap", "rtcp-fb", "fmtp"])
    (hq : ("a=" ++ w ++ ":").toList <+: line.toList) (hdot : ∀ c ∈ line.toList, isDot c = true) :
    isFormat line = true := by
  obtain ⟨rest, hrest⟩ := hq
  have hl : line.toList = "a=".toList ++ (w.toList ++ ((":" ++ String.ofList rest).toList ++ [])) := by
    rw [← hrest]
    simp only [String.toList_append, String.toList_ofList, List.append_assoc, List.append_nil]
  have hcolon : Over isDot ":" := by decide
  have hvalue : Over isDot (":" ++ String.ofList rest) := by
    refine hcolon.append fun c hc => hdot c ?_
    rw [String.toList_ofList] at hc
    rw [← hrest]
    exact List.mem_append_right _ hc
  unfold isFormat
  rw [MediaReading.fullMatch_mediaFormat hw hvalue hl]
  rfl

theorem isFormat_of_rtpmap (h : (RTP_MAP_REGEX.fullMatch line).isSome = true) : isFormat line = true := by
  obtain ⟨m, hm⟩ := Option.isSome_iff_exists.mp h
  obtain ⟨p, hp, hprefix⟩ := exists_head hm
  obtain rfl := List.mem_singleton.mp hp
  have hdigit (c : Char) (hc : c.isDigit = true) : isDot c = true := isDot_of rfl rfl hc
  have hword (c : Char) (hc : isWord c = true) : isDot c = true := isDot_of rfl rfl hc
  have hmap : AllDot "a=rtpmap:" := by decide
  have hspace : AllDot " " := by decide
  have hslash : AllDot "/" := by decide
  refine isFormat_of_begins (w := "rtpmap") (by decide) hprefix (within_of_fullMatch hm ?_)
  exact ⟨⟨⟨⟨⟨⟨hmap, hdigit, hdigit⟩, hspace⟩, hword, hword⟩, hslash⟩, hdigit, hdigit⟩,
    ⟨hslash, ⟨hdigit, hdigit⟩, trivial⟩, trivial⟩

theorem isFormat_of_fmtp (h : (RTP_FMTP_REGEX.fullMatch line).isSome = true) : isFormat line = true := by
  obtain ⟨m, hm⟩ := Option.isSome_iff_exists.mp h
  obtain ⟨p, hp, hprefix⟩ := exists_head hm
  obtain rfl := List.mem_singleton.mp hp
  have hdigit (c : Char) (hc : c.isDigit = true) : isDot c = true := isDot_of rfl rfl hc
  have hfmtp : AllDot "a=fmtp:" := by decide
  have hspace : AllDot " " := by decide
  have hdot (c : Char) (hc : isDot c = true) : isDot c = true := hc
  refine isFormat_of_begins (w := "fmtp") (by decide) hprefix (within_of_fullMatch hm ?_)
  exact ⟨⟨⟨hfmtp, hdigit, hdigit⟩, hspace⟩, hdot, hdot⟩

theorem paramsOf_filter (pt : Nat) (lines : List String) : paramsOf pt (lines.filter isFormat) = paramsOf pt lines := by
  induction lines generalizing pt with
  | nil => rfl
  | cons line lines ih =>
      by_cases hformat : isFormat line = true
      · rw [List.filter_cons_of_pos hformat, paramsOf, paramsOf]
        simp only [ih]
      · have hmap : RTP_MAP_REGEX.fullMatch line = none := by
          by_contra hne
          exact hformat (isFormat_of_rtpmap (Option.isSome_iff_ne_none.mpr hne))
        have hfmtp : RTP_FMTP_REGEX.fullMatch line = none := by
          by_contra hne
          exact hformat (isFormat_of_fmtp (Option.isSome_iff_ne_none.mpr hne))
        rw [List.filter_cons_of_neg hformat, ih, paramsOf, hmap]
        dsimp only
        rw [hfmtp]

theorem paramsOf_append (h : (RTP_MAP_REGEX.fullMatch line).isSome = true) (pt : Nat) (cur : List String) :
    paramsOf pt (cur ++ line :: lines) = paramsOf pt cur ++ paramsOf 0 (line :: lines) := by
  induction cur generalizing pt with
  | nil =>
      obtain ⟨m, hm⟩ := Option.isSome_iff_exists.mp h
      rw [List.nil_append, paramsOf, paramsOf, paramsOf, hm]
      rfl
  | cons first cur ih =>
      rw [List.cons_append, paramsOf, paramsOf]
      simp only [ih]
      split
      · rfl
      · split
        · split <;> rfl
        · rfl

theorem MediaFormat.Step.params {f f' : MediaFormat} (h : Step line f f') :
    f'.fmtParams ++ paramsOf f'.pt lines = f.fmtParams ++ paramsOf f.pt (line :: lines) := by
  rw [paramsOf]
  cases h with
  | rtpmap hm hpt =>
      rw [hm]
      dsimp only
      rw [hpt]
      rfl
  | fbType hmap hm =>
      have hfmtp : RTP_FMTP_REGEX.fullMatch line = none := fullMatch_of_apart hm rfl
      rw [hmap, hfmtp]
      split <;> rfl
  | @fmtParam m pt hmap hm hpt =>
      have hnumber : (stoul (m.get 1)).toOption = some pt := by rw [hpt, Except.toOption]
      rw [hmap, hm]
      dsimp only
      rw [hnumber]
      by_cases heq : pt = f.pt
      · rw [if_pos heq, if_pos (congrArg some heq), List.append_assoc]
        rfl
      · rw [if_neg heq, if_neg (fun h => heq (Option.some.inj h))]
  | other hmap hfmtp => rw [hmap, hfmtp]

theorem MediaFormat.params_of_foldlM {f f' : MediaFormat} (h : lines.foldlM readLine f = .ok f') :
    f'.fmtParams = f.fmtParams ++ paramsOf f.pt lines := by
  induction lines generalizing f with
  | nil =>
      obtain rfl := Except.ok.inj h
      rw [paramsOf, List.append_nil]
  | cons line lines ih =>
      rw [List.foldlM_cons] at h
      obtain ⟨f₁, hf₁, h⟩ := Except.of_bind_ok h
      rw [ih h, (readLine_step hf₁).params]

theorem params_of_flushFormats {t : FormatReading} {fs : List MediaFormat} (h : flushFormats t = .ok fs) :
    fs.flatMap (·.fmtParams) = t.1.flatMap (·.fmtParams) ++ paramsOf 0 t.2 := by
  unfold flushFormats at h
  split at h
  · obtain ⟨f, hf, rfl⟩ := Except.of_map_ok h
    have hparams : f.fmtParams = [] ++ paramsOf 0 t.2 := MediaFormat.params_of_foldlM hf
    rw [List.flatMap_append, List.flatMap_singleton, hparams, List.nil_append]
  next hnil =>
    obtain rfl := Except.ok.inj h
    rw [not_not.mp hnil, paramsOf, List.append_nil]

theorem params_of_formatsOf {t : FormatReading} {fs : List MediaFormat} (h : formatsOf t lines = .ok fs) :
    fs.flatMap (·.fmtParams) = t.1.flatMap (·.fmtParams) ++ paramsOf 0 (t.2 ++ lines) := by
  induction lines generalizing t with
  | nil =>
      rw [List.append_nil]
      exact params_of_flushFormats h
  | cons line lines ih =>
      rw [formatsOf_cons] at h
      obtain ⟨t', ht', h⟩ := Except.of_bind_ok h
      have hrest := ih h
      unfold formatStep at ht'
      split at ht'
      next hmap =>
        obtain ⟨fs', hfs', rfl⟩ := Except.of_map_ok ht'
        rw [hrest, params_of_flushFormats hfs', paramsOf_append hmap, List.append_assoc]
        rfl
      next =>
        obtain rfl := Except.ok.inj ht'
        rw [hrest, List.append_assoc]
        rfl

theorem formats_ne_nil_iff {fs : List MediaFormat} (h : formatsOf ([], []) lines = .ok fs) : fs ≠ [] ↔ lines ≠ [] := by
  cases lines with
  | nil =>
      obtain rfl := Except.ok.inj h
      simp
  | cons line lines =>
      rw [formatsOf_cons] at h
      obtain ⟨t, ht, h⟩ := Except.of_bind_ok h
      obtain ⟨t', ht', h⟩ := Except.of_bind_ok h
      have hbegun {line : String} {t t' : FormatReading} (h : formatStep t line = .ok t') : t'.2 ≠ [] := by
        unfold formatStep at h
        split at h
        · obtain ⟨fs', -, rfl⟩ := Except.of_map_ok h
          exact List.cons_ne_nil _ _
        · obtain rfl := Except.ok.inj h
          simp
      have hcur : t'.2 ≠ [] :=
        Except.of_foldlM_ok (P := fun t : FormatReading => t.2 ≠ []) ht' (hbegun ht) fun _ _ _ _ _ h => hbegun h
      unfold flushFormats at h
      rw [if_pos hcur] at h
      obtain ⟨f, -, rfl⟩ := Except.of_map_ok h
      simp

/-! ## Lines that can be printed -/

theorem MediaDescription.formats_of_ofLines (h : ofLines lines = .ok m) :
    (m.mediaFormats ≠ [] ↔ ∃ line ∈ lines, isFormat line = true) ∧
      m.mediaFormats.flatMap (·.fmtParams) = paramsOf 0 lines := by
  obtain ⟨m₀, fs, -, hfs, rfl⟩ := ofLines_iff_formats.mp h
  have hparams : fs.flatMap (·.fmtParams) = [] ++ paramsOf 0 (lines.filter isFormat) := params_of_formatsOf hfs
  rw [paramsOf_filter] at hparams
  refine ⟨?_, hparams⟩
  show fs ≠ [] ↔ _
  rw [formats_ne_nil_iff hfs, ne_eq, List.filter_eq_nil_iff]
  simp

/-- When what is read of a section can be printed. -/
theorem MediaDescription.printable_iff (h : ofLines lines = .ok m) : m.Printable ↔ PrintableLines lines := by
  obtain ⟨haddress, huris⟩ := values_of_ofLines h
  obtain ⟨hformat, hparams⟩ := formats_of_ofLines h
  constructor
  · intro hprint
    refine ⟨hformat.mp hprint.mediaFormats, ?_, ?_, ?_⟩
    · rw [← haddress]
      intro s hs
      obtain ⟨c, hc, rfl⟩ := Option.mem_map.mp hs
      exact hprint.connectionData c hc
    · rw [← huris]
      intro s hs
      obtain ⟨e, he, rfl⟩ := List.mem_map.mp hs
      exact hprint.extensions e he
    · rw [← hparams]
      intro s hs
      obtain ⟨f, hf, hs⟩ := List.mem_flatMap.mp hs
      exact hprint.fmtParams f hf s hs
  · intro hprint
    refine ⟨hformat.mpr hprint.format, ?_, ?_, ?_⟩
    · intro c hc
      exact hprint.address _ (haddress ▸ Option.mem_map_of_mem _ hc)
    · intro e he
      exact hprint.uris _ (huris ▸ List.mem_map_of_mem he)
    · intro f hf s hs
      exact hprint.params _ (hparams ▸ List.mem_flatMap.mpr ⟨f, hf, hs⟩)

end Values

/-! ## Lines that are printed again -/

section Printing
variable {re : Regex} {line s : String} {lines after : List String} {m m' : MediaDescription} {k : Captures} {i : Nat}

theorem noNul_append {s t : String} : NoNul (s ++ t) ↔ NoNul s ∧ NoNul t := by
  unfold NoNul
  rw [String.toList_append, List.mem_append, not_or]

theorem noNul_toString (n : Nat) : NoNul (toString n) := (over_toString n).noNul rfl

theorem exists_of_valueOf? (h : valueOf? re i line = some s) : ∃ k, re.fullMatch line = some k ∧ k.get i = s :=
  Option.map_eq_some_iff.mp h

theorem mem_addressOf (h : s ∈ addressOf lines) : ∃ line ∈ lines, valueOf? C_LINE_REGEX 3 line = some s :=
  List.mem_filterMap.mp (List.mem_of_getLast? h)

theorem mem_urisOf (h : s ∈ urisOf lines) : ∃ line ∈ lines, valueOf? EXTMAP_REGEX 2 line = some s :=
  List.mem_filterMap.mp h

theorem mem_paramsOf {pt : Nat} (h : s ∈ paramsOf pt lines) :
    ∃ line ∈ lines, valueOf? RTP_FMTP_REGEX 2 line = some s := by
  induction lines generalizing pt with
  | nil => exact absurd h List.not_mem_nil
  | cons line lines ih =>
      have hlater {pt : Nat} (h : s ∈ paramsOf pt lines) :
          ∃ line' ∈ line :: lines, valueOf? RTP_FMTP_REGEX 2 line' = some s := by
        obtain ⟨line', hmem, hvalue⟩ := ih h
        exact ⟨line', List.mem_cons_of_mem _ hmem, hvalue⟩
      rw [paramsOf] at h
      split at h
      · exact hlater h
      · split at h
        next k hk =>
          split at h
          · rcases List.mem_cons.mp h with rfl | h
            · exact ⟨line, List.mem_cons_self, by rw [valueOf?, hk, Option.map_some]⟩
            · exact hlater h
          · exact hlater h
        next => exact hlater h

/-- A line of a section that one of the three patterns takes. -/
theorem MediaDescription.Parsed.noNul_of_fullMatch (h : m.Parsed) (hline : line ∈ m.lines ++ after)
    (hafter : ∀ line ∈ after, line = "") (hm : re.fullMatch line = some k) (hclash : re.clashes "m=" = true)
    (hclashes : ∀ q ∈ otherBeginnings, re.clashes q = true) (hempty : re.fullMatch "" = none) : NoNul line := by
  rcases List.mem_append.mp hline with hline | hline
  · rcases List.mem_cons.mp hline with rfl | hline
    · rw [fullMatch_of_clash hclash m.prefix_mLine] at hm
      cases hm
    · have hice : ∀ line ∈ m.iceOtherLines, (ICE_OTHER_REGEX.fullMatch line).isSome :=
        fun line hl => (h.iceOtherLines line hl).1
      rcases m.mem_attributes hice h.rtcpOtherLines hline with ⟨c, -, rfl⟩ | ⟨e, -, rfl⟩ | ⟨f, -, v, -, rfl⟩ |
        ⟨q, hq, hprefix⟩
      · simp only [ConnectionData.line, noNul_append, noNul_cStr, and_true]
        decide
      · simp only [RTPExtension.line, noNul_append, noNul_toString, noNul_cStr, and_true]
        decide
      · simp only [noNul_append, noNul_toString, noNul_cStr, and_true]
        decide
      · rw [fullMatch_of_clash (hclashes q hq) hprefix] at hm
        cases hm
  · obtain rfl := hafter line hline
    rw [hempty] at hm
    cases hm

/-- The values of these lines are formatted as they are. -/
theorem MediaDescription.Parsed.cStr_ne_of_valueOf? (h : m.Parsed) (hline : line ∈ m.lines ++ after)
    (hafter : ∀ line ∈ after, line = "") (hvalue : valueOf? re i line = some s) (hs : s ≠ "")
    (hclash : re.clashes "m=" = true) (hclashes : ∀ q ∈ otherBeginnings, re.clashes q = true)
    (hempty : re.fullMatch "" = none) : cStr s ≠ "" := by
  obtain ⟨k, hk, rfl⟩ := exists_of_valueOf? hvalue
  have hnoNul : NoNul line := h.noNul_of_fullMatch hline hafter hk hclash hclashes hempty
  have hget : NoNul (k.get i) := by
    intro hmem
    have hall := forall_mem_get (p := (· ≠ '\x00')) hk i (fun c hc => decide_eq_true fun heq => hnoNul (heq ▸ hc))
    exact of_decide_eq_true (hall _ hmem) rfl
  rwa [cStr_eq hget]

theorem MediaDescription.Parsed.printable_of_ofLines (h : m.Parsed) (hformats : m.mediaFormats ≠ [])
    (hafter : ∀ line ∈ after, line = "") (hread : ofLines (m.lines ++ after) = .ok m) : m.Printable := by
  obtain ⟨haddress, huris⟩ := values_of_ofLines hread
  obtain ⟨-, hparams⟩ := formats_of_ofLines hread
  refine ⟨hformats, ?_, ?_, ?_⟩
  · intro c hc
    obtain ⟨line, hline, hvalue⟩ := mem_addressOf (haddress ▸ Option.mem_map_of_mem _ hc)
    exact h.cStr_ne_of_valueOf? hline hafter hvalue (h.connectionData c hc).connectionAddress.1 rfl (by decide) rfl
  · intro e he
    obtain ⟨line, hline, hvalue⟩ := mem_urisOf (huris ▸ List.mem_map_of_mem he)
    exact h.cStr_ne_of_valueOf? hline hafter hvalue (h.extensions e he).uri.1 rfl (by decide) rfl
  · intro f hf s hs
    obtain ⟨line, hline, hvalue⟩ := mem_paramsOf (hparams ▸ List.mem_flatMap.mpr ⟨f, hf, hs⟩)
    exact h.cStr_ne_of_valueOf? hline hafter hvalue ((h.mediaFormats f hf).fmtParams s hs).1 rfl (by decide) rfl

/-- A line with a payload type, and nothing after it. -/
theorem fullMatch_attribute_empty (q : String) (pt : Nat)
    (hre : re = text q ++ group 1 digits ++ text " " ++ group 2 dots) :
    re.fullMatch (q ++ toString pt ++ " " ++ "") = none := by
  subst hre
  have hl : (q ++ toString pt ++ " " ++ "").toList = q.toList ++ ((toString pt).toList ++ (" ".toList ++ [])) := by
    simp only [String.toList_append, List.append_assoc]
    rfl
  show (text q).run ((group 1 digits).run ((text " ").run ((group 2 dots).run Regex.finish))) [] _ = none
  rw [hl, run_text, run_number]
  rfl

theorem false_of_clash {p q : String} (hclash : clash p.toList q.toList = true) (hp : p.toList <+: line.toList)
    (hq : q.toList <+: line.toList) : False := by
  obtain ⟨rest, hrest⟩ := hq
  rw [← hrest] at hp
  exact not_prefix_of_clash hclash hp

/-- A line of a section that begins in one of the three ways. -/
theorem MediaDescription.Parsed.mem_lines {p : String} (h : m.Parsed) (hline : line ∈ m.lines)
    (hp : p.toList <+: line.toList) (hclash : clash p.toList "m=".toList = true)
    (hclashes : ∀ q ∈ otherBeginnings, clash p.toList q.toList = true) :
    (∃ c ∈ m.connectionData, line = c.line) ∨ (∃ e ∈ m.extensions, line = e.line) ∨
      ∃ f ∈ m.mediaFormats, ∃ fmtParam ∈ f.fmtParams,
        line = "a=fmtp:" ++ toString f.pt ++ " " ++ cStr fmtParam := by
  rcases List.mem_cons.mp hline with rfl | hline
  · exact (false_of_clash hclash hp m.prefix_mLine).elim
  · have hice : ∀ line ∈ m.iceOtherLines, (ICE_OTHER_REGEX.fullMatch line).isSome :=
      fun line hl => (h.iceOtherLines line hl).1
    rcases m.mem_attributes hice h.rtcpOtherLines hline with hc | he | hf | ⟨q, hq, hprefix⟩
    · exact .inl hc
    · exact .inr (.inl he)
    · exact .inr (.inr hf)
    · exact (false_of_clash (hclashes q hq) hp hprefix).elim

/-- A section with formats, and with the lines of one that can be printed. -/
theorem MediaDescription.Parsed.printable_of_lines (h : m.Parsed) (hformats : m.mediaFormats ≠ []) (h' : m'.Parsed)
    (hprint : m'.Printable) (hlines : m.lines = m'.lines) : m.Printable := by
  have hmem (line : String) (hline : line ∈ m.attributes) : line ∈ m'.lines :=
    hlines ▸ List.mem_cons_of_mem _ hline
  refine ⟨hformats, ?_, ?_, ?_⟩
  · intro c hc hnil
    have hline : c.line ∈ m.attributes := by
      simp [attributes, Option.mem_def.mp hc]
    rcases h'.mem_lines (hmem _ hline) c.prefix_line rfl (by decide) with ⟨c', hc', heq⟩ | ⟨e, -, heq⟩ |
      ⟨f, -, v, -, heq⟩
    · have hm := ConnectionData.fullMatch_line ((h'.connectionData c' hc').formatted (hprint.connectionData c' hc'))
      have hnone : C_LINE_REGEX.fullMatch c.line = none := by
        have haddr := (h.connectionData c hc).addrType
        unfold ConnectionData.line
        rw [(h.connectionData c hc).netType, hnil]
        simp only [List.mem_cons, List.not_mem_nil, or_false] at haddr
        rcases haddr with haddr | haddr <;> rw [haddr] <;> rfl
      rw [ConnectionData.line_formatted, ← heq, hnone] at hm
      cases hm
    · exact false_of_clash (p := "c=") rfl c.prefix_line (heq ▸ e.prefix_line)
    · exact false_of_clash (p := "c=") rfl c.prefix_line (heq ▸ prefix_attribute "a=fmtp:" _ _)
  · intro e he hnil
    have hline : e.line ∈ m.attributes := by
      simp only [attributes, List.mem_append]
      exact .inl (.inl (.inl (.inl (.inl (.inr (List.mem_map_of_mem he))))))
    rcases h'.mem_lines (hmem _ hline) e.prefix_line rfl (by decide) with ⟨c, -, heq⟩ | ⟨e', he', heq⟩ |
      ⟨f, -, v, -, heq⟩
    · exact false_of_clash (p := "a=extmap:") rfl e.prefix_line (heq ▸ c.prefix_line)
    · have hm := RTPExtension.fullMatch_line ((h'.extensions e' he').formatted (hprint.extensions e' he'))
      have hnone : EXTMAP_REGEX.fullMatch e.line = none := by
        unfold RTPExtension.line
        rw [hnil]
        exact fullMatch_attribute_empty "a=extmap:" _ rfl
      rw [RTPExtension.line_formatted, ← heq, hnone] at hm
      cases hm
    · exact false_of_clash (p := "a=extmap:") rfl e.prefix_line (heq ▸ prefix_attribute "a=fmtp:" _ _)
  · intro f hf s hs hnil
    have hline : "a=fmtp:" ++ toString f.pt ++ " " ++ cStr s ∈ m.attributes := by
      simp only [attributes, List.mem_append]
      refine .inl (.inr (List.mem_flatMap.mpr ⟨f, hf, ?_⟩))
      exact List.mem_append_right _ (List.mem_map_of_mem hs)
    have hprefix := prefix_attribute "a=fmtp:" (cStr s) f.pt
    rcases h'.mem_lines (hmem _ hline) hprefix rfl (by decide) with ⟨c, -, heq⟩ | ⟨e, -, heq⟩ | ⟨f', hf', v, hv, heq⟩
    · exact false_of_clash (p := "a=fmtp:") rfl hprefix (heq ▸ c.prefix_line)
    · exact false_of_clash (p := "a=fmtp:") rfl hprefix (heq ▸ e.prefix_line)
    · have hvalue : Over isDot (cStr v) := over_cStr ((h'.mediaFormats f' hf').fmtParams v hv)
        (hprint.fmtParams f' hf' v hv)
      have hm := fullMatch_attribute (q := "a=fmtp:") f'.pt (r := RTP_FMTP_REGEX) rfl hvalue
      have hnone : RTP_FMTP_REGEX.fullMatch ("a=fmtp:" ++ toString f.pt ++ " " ++ "") = none :=
        fullMatch_attribute_empty "a=fmtp:" _ rfl
      rw [← heq, hnil, hnone] at hm
      cases hm

end Printing

/-! ## How many sections there are -/

section Counting
variable {line s : String} {lines : List String} {p : Char → Bool} {m : MediaDescription} {d : SessionDescription}

def blanks : List Char := [' ', '\t', '\n', '\x0b', '\x0c', '\r']

theorem mem_blanks_of_isSpace {c : Char} (h : isSpace c = true) : c ∈ blanks := by
  rcases of_decide_eq_true h with rfl | hrange
  · decide
  · have hc : c.toNat = 9 ∨ c.toNat = 10 ∨ c.toNat = 11 ∨ c.toNat = 12 ∨ c.toNat = 13 := by omega
    rw [← Char.ofNat_toNat c]
    rcases hc with hc | hc | hc | hc | hc <;> rw [hc] <;> decide

theorem Over.countP_isSpace (h : Over p s) (hp : blanks.all (fun c => !p c) = true) :
    s.toList.countP isSpace = 0 := by
  apply List.countP_eq_zero.mpr
  intro c hc hspace
  have hfalse := List.all_eq_true.mp hp c (mem_blanks_of_isSpace hspace)
  rw [h.2 c hc] at hfalse
  cases hfalse

/-- The last of the three spaces of a section's first line is not in its end. -/
theorem three_le_countP_isSpace (h : isMediaLine line = true) : 3 ≤ line.toList.dropLast.countP isSpace := by
  obtain ⟨k, hk⟩ := Option.isSome_iff_exists.mp h
  obtain ⟨_, _, _, hline, hthird, hgroup⟩ := takes_seq.mp (fullMatch_takes hk)
  obtain ⟨_, hplus, -⟩ := takes_group.mp hgroup
  obtain ⟨hne, -, -⟩ := takes_plus_one.mp hplus
  obtain ⟨_, _, _, rfl, hprotocols, hspace₃⟩ := takes_seq.mp hthird
  obtain ⟨_, rfl, hc₃, -⟩ := takes_one.mp hspace₃
  obtain ⟨_, _, _, rfl, hsecond, -⟩ := takes_seq.mp hprotocols
  obtain ⟨_, _, _, rfl, hport, hspace₂⟩ := takes_seq.mp hsecond
  obtain ⟨_, rfl, hc₂, -⟩ := takes_one.mp hspace₂
  obtain ⟨_, _, _, rfl, hfirst, -⟩ := takes_seq.mp hport
  obtain ⟨_, _, _, rfl, -, hspace₁⟩ := takes_seq.mp hfirst
  obtain ⟨_, rfl, hc₁, -⟩ := takes_one.mp hspace₁
  rw [hline, List.dropLast_append_of_ne_nil hne]
  simp only [List.countP_append, List.countP_singleton, hc₁, hc₂, hc₃, if_true]
  omega

/-- The line of a section without formats does not begin one. -/
theorem MediaDescription.isMediaLine_mLine_iff (hprotocols : Over isProtocols m.protocols) :
    isMediaLine m.mLine = true ↔ m.mediaFormats ≠ [] := by
  refine ⟨fun hline hnil => ?_, isMediaLine_mLine hprotocols⟩
  have hthree := three_le_countP_isSpace hline
  have htype : ("m=" ++ stringFromType m.type).toList.countP isSpace = 0 := by
    cases m.type <;> decide
  have hport : (toString m.port.toNat).toList.countP isSpace = 0 := (over_toString _).countP_isSpace (by decide)
  have hspace : " ".toList.countP isSpace = 1 := by decide
  have hprotocol := hprotocols.countP_isSpace (by decide)
  have hl : m.mLine.toList = ("m=" ++ stringFromType m.type ++ " " ++ toString m.port.toNat ++ " " ++
      m.protocols).toList ++ [' '] := by
    unfold mLine
    rw [hnil, cStr_eq (hprotocols.noNul rfl), String.toList_append, String.toList_append, List.append_assoc]
    rfl
  rw [hl, List.dropLast_concat, String.toList_append, String.toList_append, String.toList_append, String.toList_append,
    List.countP_append, List.countP_append, List.countP_append, List.countP_append, htype, hport, hspace,
    hprotocol] at hthree
  omega

theorem countP_isMediaLine {ms : List MediaDescription} (h : ∀ m ∈ ms, m.Parsed) :
    (ms.flatMap MediaDescription.lines).countP isMediaLine = ms.countP (·.mediaFormats ≠ []) := by
  induction ms with
  | nil => rfl
  | cons m ms ih =>
      obtain ⟨hm, hms⟩ := List.forall_mem_cons.mp h
      have hattributes : m.attributes.countP isMediaLine = 0 := by
        apply List.countP_eq_zero.mpr
        intro line hline
        rw [m.isMediaLine_attributes (fun line hl => (hm.iceOtherLines line hl).1) hm.rtcpOtherLines hline]
        decide
      rw [List.flatMap_cons, List.countP_append, MediaDescription.lines, List.countP_cons, hattributes, ih hms,
        List.countP_cons]
      simp only [m.isMediaLine_mLine_iff hm.protocols, decide_eq_true_iff]
      omega

def isBundle (line : String) : Bool := (BUNDLE_REGEX.fullMatch line).isSome

theorem isBundle_eq_false {q : String} (hq : q.toList <+: line.toList) (h : BUNDLE_REGEX.clashes q = true) :
    isBundle line = false := by
  unfold isBundle
  rw [fullMatch_of_clash h hq]
  rfl

theorem MediaDescription.Parsed.isBundle_lines (h : m.Parsed) (hline : line ∈ m.lines) : isBundle line = false := by
  rcases List.mem_cons.mp hline with rfl | hline
  · exact isBundle_eq_false m.prefix_mLine rfl
  · rcases m.mem_attributes (fun line hl => (h.iceOtherLines line hl).1) h.rtcpOtherLines hline with ⟨c, -, rfl⟩ |
      ⟨e, -, rfl⟩ | ⟨f, -, v, -, rfl⟩ | ⟨q, hq, hprefix⟩
    · exact isBundle_eq_false c.prefix_line rfl
    · exact isBundle_eq_false e.prefix_line rfl
    · exact isBundle_eq_false (prefix_attribute "a=fmtp:" _ _) rfl
    · have hclashes : ∀ q ∈ otherBeginnings, BUNDLE_REGEX.clashes q = true := by decide
      exact isBundle_eq_false hprefix (hclashes q hq)

/-- The names of the sections are in one line. -/
theorem SessionDescription.Parsed.filter_isBundle (h : d.Parsed)
    (hmids : ∀ m ∈ d.mediaDescriptions, m.mid.isSome = true) :
    (d.preamble ++ d.mediaDescriptions.flatMap MediaDescription.lines).filter isBundle = d.bundleLine := by
  have hreadable := h.preambleReadable hmids
  have hheading : ∀ line ∈ ["v=" ++ toString d.version, d.origin.line, "s=" ++ d.sessionName],
      ¬ isBundle line = true := by
    simp only [List.forall_mem_cons, Bool.not_eq_true]
    exact ⟨isBundle_eq_false (MediaReading.prefix_append "v=" _) rfl,
      isBundle_eq_false ⟨_, (Origin.toList_line h.origin).symm⟩ rfl,
      isBundle_eq_false (MediaReading.prefix_append "s=" _) rfl, List.forall_mem_nil _⟩
  have htiming : ∀ line ∈ d.timing.map Timing.line, ¬ isBundle line = true := by
    intro line hline
    obtain ⟨t, -, rfl⟩ := List.mem_map.mp hline
    rw [isBundle_eq_false ⟨_, (Timing.toList_line t).symm⟩ rfl]
    decide
  have hbundle : ∀ line ∈ d.bundleLine, isBundle line = true := by
    intro line hline
    obtain ⟨hne, hline⟩ := List.mem_ite_nil_right.mp hline
    obtain rfl := List.mem_singleton.mp hline
    unfold isBundle
    rw [SessionReading.fullMatch_bundle (hreadable.over_mids hne)]
    rfl
  have hother : ∀ line ∈ d.otherLines, ¬ isBundle line = true := by
    intro line hline
    have hnone : BUNDLE_REGEX.fullMatch line = none :=
      firstMatch_eq_none_iff.mp (h.otherLines line hline).2 _ (List.mem_of_getElem? (i := 4) rfl)
    unfold isBundle
    rw [hnone]
    decide
  have hsections : ∀ line ∈ d.mediaDescriptions.flatMap MediaDescription.lines, ¬ isBundle line = true := by
    intro line hline
    obtain ⟨m, hm, hline⟩ := List.mem_flatMap.mp hline
    rw [(h.mediaDescriptions m hm).isBundle_lines hline]
    decide
  unfold preamble
  simp only [List.filter_append, List.filter_eq_nil_iff.mpr hheading, List.filter_eq_nil_iff.mpr htiming,
    List.filter_eq_self.mpr hbundle, List.filter_eq_nil_iff.mpr hother, List.filter_eq_nil_iff.mpr hsections,
    List.nil_append, List.append_nil]

/-- There is a space before each name, and none in it. -/
theorem SessionDescription.Parsed.countP_bundleLine (h : d.Parsed)
    (hmids : ∀ m ∈ d.mediaDescriptions, m.mid.isSome = true) :
    (d.bundleLine.flatMap String.toList).countP isSpace = d.mediaDescriptions.length := by
  have hjoin {ms : List MediaDescription} (hms : ∀ m ∈ ms, ∃ mid, m.mid = some mid ∧ Over isWord mid) :
      (String.join (ms.map fun m => " " ++ m.mid.getD "")).toList.countP isSpace = ms.length := by
    induction ms with
    | nil => rfl
    | cons m ms ih =>
        obtain ⟨⟨mid, hmid, hover⟩, hms⟩ := List.forall_mem_cons.mp hms
        have hspace : " ".toList.countP isSpace = 1 := by decide
        rw [List.map_cons, String.join_cons, String.toList_append, String.toList_append, List.countP_append,
          List.countP_append, ih hms, hspace, hmid, Option.getD_some, hover.countP_isSpace (by decide),
          List.length_cons]
        omega
  have hbundle : "a=group:BUNDLE".toList.countP isSpace = 0 := by decide
  unfold bundleLine
  split
  next =>
    rw [List.flatMap_singleton, String.toList_append, List.countP_append, hbundle,
      hjoin (h.preambleReadable hmids).mids, Nat.zero_add]
  next hnil =>
    rw [not_not.mp hnil]
    rfl

/-- The number of the sections can be told from the lines. -/
theorem SessionDescription.Parsed.length_eq (h : d.Parsed) (hlines : d.lines = .ok lines) :
    d.mediaDescriptions.length = ((lines.filter isBundle).flatMap String.toList).countP isSpace := by
  obtain ⟨hmids, rfl⟩ := lines_eq_ok_iff.mp hlines
  rw [h.filter_isBundle hmids, h.countP_bundleLine hmids]

theorem SessionDescription.Parsed.formats_ne_nil_iff (h : d.Parsed) (hlines : d.lines = .ok lines) :
    (∀ m ∈ d.mediaDescriptions, m.mediaFormats ≠ []) ↔ lines.countP isMediaLine = d.mediaDescriptions.length := by
  obtain ⟨hmids, rfl⟩ := lines_eq_ok_iff.mp hlines
  have hpreamble : d.preamble.countP isMediaLine = 0 := by
    apply List.countP_eq_zero.mpr
    intro line hline
    rw [isMediaLine_preamble (h.preambleReadable hmids) hline]
    decide
  rw [List.countP_append, hpreamble, Nat.zero_add, countP_isMediaLine h.mediaDescriptions, List.countP_eq_length]
  simp

end Counting

/-! ## Texts -/

section Texts
variable {text : String} {lines : List String} {d : SessionDescription}

/-- A description without sections is printed with a line more each time. -/
theorem SessionDescription.Parsed.normalize_ne_of_nil (h : d.Parsed) (hnil : d.mediaDescriptions = [])
    (htext : d.escapedString = .ok text) : normalize text ≠ .ok text := by
  intro hagain
  obtain ⟨lines, hlines, hsplit⟩ := h.linesOf_escapedString htext
  obtain ⟨d', hparse, hprint⟩ := Except.of_bind_ok hagain
  obtain ⟨lines', hlines', hsplit'⟩ := (parsed_of_parse hparse).linesOf_escapedString hprint
  obtain rfl : lines = lines' := List.append_cancel_right (hsplit.symm.trans hsplit')
  obtain ⟨hmids, rfl⟩ := lines_eq_ok_iff.mp hlines
  have hpreamble := h.preambleReadable hmids
  let more : SessionDescription := { d with mediaDescriptions := [], otherLines := d.otherLines ++ [""] }
  have hmore : more.PreambleReadable :=
    { hpreamble with
      mids := List.forall_mem_nil _
      otherLines := List.forall_mem_append.mpr ⟨hpreamble.otherLines, List.forall_mem_singleton.mpr ⟨rfl, rfl⟩⟩ }
  have hbundle : d.bundleLine = more.bundleLine := by
    unfold bundleLine
    rw [hnil]
  have hline : d.preamble ++ [""] = more.preamble := by
    unfold preamble
    rw [hbundle]
    exact List.append_assoc _ d.otherLines [""]
  have hsections : sections (linesOf text) = (more.preamble, []) := by
    rw [hsplit, hnil, List.flatMap_nil, List.append_nil, hline]
    refine (congrArg (sectionsBy isMediaLine) (List.append_nil _).symm).trans ?_
    refine sectionsBy_append_flatten (fun line hl => ?_) (List.forall_mem_nil _)
    rw [isMediaLine_preamble hmore hl]
    decide
  obtain ⟨medias, hmedias, rfl⟩ := (parse_eq_ok_iff hmore h.someTiming hsections).mp hparse
  obtain rfl := Except.ok.inj hmedias
  have hsame : d.preamble ++ d.mediaDescriptions.flatMap MediaDescription.lines = more.preamble ++ [] :=
    (lines_eq_ok_iff.mp hlines').2
  rw [hnil, List.flatMap_nil, ← hline] at hsame
  simp at hsame

/-- A description that is printed in the same way again has a section, and all its sections can be printed. -/
theorem SessionDescription.Parsed.printable_of_normalize (h : d.Parsed) (htext : d.escapedString = .ok text)
    (hagain : normalize text = .ok text) : d.mediaDescriptions ≠ [] ∧ ∀ m ∈ d.mediaDescriptions, m.Printable := by
  have hne : d.mediaDescriptions ≠ [] := fun hnil => h.normalize_ne_of_nil hnil htext hagain
  obtain ⟨lines, hlines, hsplit⟩ := h.linesOf_escapedString htext
  obtain ⟨d', hparse, hprint⟩ := Except.of_bind_ok hagain
  have h' : d'.Parsed := parsed_of_parse hparse
  obtain ⟨lines', hlines', hsplit'⟩ := h'.linesOf_escapedString hprint
  obtain rfl : lines = lines' := List.append_cancel_right (hsplit.symm.trans hsplit')
  have hmedias := ofLines_ok hparse
  have hsame : d'.mediaDescriptions.length = d.mediaDescriptions.length :=
    (h'.length_eq hlines').trans (h.length_eq hlines).symm
  have hcount : lines.countP isMediaLine = d'.mediaDescriptions.length := by
    rw [← (Except.of_mapM_ok hmedias).length_eq, ← linesOf, hsplit, sections, length_sectionsBy, List.countP_append]
    rfl
  have hformats := (h.formats_ne_nil_iff hlines).mpr (hcount.trans hsame)
  have hformats' := (h'.formats_ne_nil_iff hlines').mpr hcount
  have hne' : d'.mediaDescriptions ≠ [] := by
    intro hnil
    rw [hnil] at hsame
    exact hne (List.length_eq_zero_iff.mp hsame.symm)
  obtain ⟨ms, last, hms, hcut⟩ := h.sections_of_lines hne hformats hlines
  obtain ⟨ms', last', hms', hcut'⟩ := h'.sections_of_lines hne' hformats' hlines'
  obtain ⟨hinit, hlast⟩ := List.append_inj' (Prod.mk.inj (hcut.symm.trans hcut')).2 rfl
  rw [← linesOf, hsplit, hcut', hms'] at hmedias
  obtain ⟨hreadInit, hreadLast⟩ := Except.of_mapM_append_ok hmedias (List.length_map _)
  have hparsed := h.mediaDescriptions
  have hparsed' := h'.mediaDescriptions
  rw [hms', List.forall_mem_append, List.forall_mem_singleton] at hparsed' hformats'
  have hprintInit (m : MediaDescription) (hm : m ∈ ms') : m.Printable := by
    have hread : MediaDescription.ofLines m.lines = .ok m :=
      Except.of_mapM_map_ok (g := MediaDescription.lines) (k := id) (by rwa [List.map_id]) m hm
    exact (hparsed'.1 m hm).printable_of_ofLines (hformats'.1 m hm) (List.forall_mem_nil _) (by rwa [List.append_nil])
  have hprintLast : last'.Printable :=
    hparsed'.2.printable_of_ofLines hformats'.2 (List.forall_mem_singleton.mpr rfl)
      (List.forall₂_cons.mp (Except.of_mapM_ok hreadLast)).1
  refine ⟨hne, ?_⟩
  rw [hms, List.forall_mem_append, List.forall_mem_singleton] at hparsed hformats ⊢
  constructor
  · intro m hm
    obtain ⟨m', hm', hsame⟩ := List.mem_map.mp (hinit ▸ List.mem_map_of_mem hm)
    exact (hparsed.1 m hm).printable_of_lines (hformats.1 m hm) (hparsed'.1 m' hm') (hprintInit m' hm') hsame.symm
  · exact hparsed.2.printable_of_lines hformats.2 hparsed'.2 hprintLast
      (List.append_cancel_right (List.singleton_injective hlast))

/-- Reading and printing is idempotent just for the texts with a section all of whose sections can be printed. -/
theorem normalize_idempotent_iff (h : SessionDescription.parse text = .ok d)
    (hmid : ∀ m ∈ d.mediaDescriptions, m.mid.isSome = true) :
    (∃ t, normalize text = .ok t ∧ normalize t = .ok t) ↔
      (sections (linesOf text)).2 ≠ [] ∧ ∀ s ∈ (sections (linesOf text)).2, PrintableLines s := by
  have hparsed := SessionDescription.parsed_of_parse h
  have hmedias : (sections (linesOf text)).2.mapM MediaDescription.ofLines = .ok d.mediaDescriptions :=
    SessionDescription.ofLines_ok h
  have hprint : (∀ m ∈ d.mediaDescriptions, m.Printable) ↔ ∀ s ∈ (sections (linesOf text)).2, PrintableLines s := by
    constructor
    · intro hall s hs
      obtain ⟨m, hm, hread⟩ := Except.exists_result_of_mapM_ok hmedias hs
      exact (MediaDescription.printable_iff hread).mp (hall m hm)
    · intro hall m hm
      obtain ⟨s, hs, hread⟩ := Except.exists_source_of_mapM_ok hmedias hm
      exact (MediaDescription.printable_iff hread).mpr (hall s hs)
  have hnil : d.mediaDescriptions ≠ [] ↔ (sections (linesOf text)).2 ≠ [] := by
    rw [← List.length_pos_iff, ← List.length_pos_iff, (Except.of_mapM_ok hmedias).length_eq]
  have htext : ∃ t, d.escapedString = .ok t := by
    unfold SessionDescription.escapedString
    rw [SessionDescription.lines_eq (hparsed.preambleReadable hmid)]
    exact ⟨_, rfl⟩
  have hnormalize : normalize text = d.escapedString := by
    unfold normalize
    rw [h]
    rfl
  rw [← hprint, ← hnil, hnormalize]
  constructor
  · intro ⟨t, ht, hagain⟩
    exact hparsed.printable_of_normalize ht hagain
  · intro ⟨hne, hall⟩
    obtain ⟨t, ht⟩ := htext
    exact ⟨t, ht, hparsed.normalize_of_printable hne hall ht⟩

def audioText : String := "v=0\r\no=- 1 2 IN IP4 0.0.0.0\r\ns=-\r\nt=0 0\r\nm=audio 9 UDP 111\r\n" ++
  "c=IN IP4 0.0.0.0\r\na=mid:0\r\na=rtpmap:111 opus/48000/2\r\na=fmtp:111 minptime=10"

theorem normalize_idempotent_iff_audioText :
    ∃ t, normalize audioText = .ok t ∧ normalize t = .ok t := by
  have hmid : (SessionDescription.parse audioText).toOption.any
      (fun d => d.mediaDescriptions.all (·.mid.isSome)) = true := by decide +kernel
  cases h : SessionDescription.parse audioText with
  | error e =>
      rw [h] at hmid
      cases hmid
  | ok d =>
      rw [h] at hmid
      exact (normalize_idempotent_iff h (List.all_eq_true.mp hmid)).mpr (by decide +kernel)

def noSectionsText : String := "v=0\r\no=- 1 2 IN IP4 0.0.0.0\r\ns=-\r\nt=0 0"

/-- Each time it is printed with a line end more. -/
theorem not_normalize_idempotent_noSectionsText :
    (∃ d, SessionDescription.parse noSectionsText = .ok d ∧ ∀ m ∈ d.mediaDescriptions, m.mid.isSome = true) ∧
    ¬ ∃ t, normalize noSectionsText = .ok t ∧ normalize t = .ok t := by
  refine ⟨⟨_, rfl, List.forall_mem_nil _⟩, ?_⟩
  intro ⟨t, ht, hagain⟩
  have hfirst : normalize noSectionsText = .ok (noSectionsText ++ "\r\n") := rfl
  have hsecond : normalize (noSectionsText ++ "\r\n") = .ok (noSectionsText ++ "\r\n\r\n") := rfl
  obtain rfl := Except.ok.inj (hfirst.symm.trans ht)
  have hsame := Except.ok.inj (hsecond.symm.trans hagain)
  exact absurd hsame (by decide)

end Texts

end Sdp

end Scallop
