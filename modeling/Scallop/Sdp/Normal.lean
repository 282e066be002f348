import Scallop.Sdp.Parsed

/-!
# Reading and printing again

* `normalize` : the text that is printed of what has been read of a text;
* `formatted` : a part as its line says it; the line stays the same, and is read as this;
* `Printable` : no value of a section is empty when it is formatted, and there is a format.
-/

namespace Scallop

namespace Sdp

open Regex

/-- The text that is printed of the description that is read of a text. -/
def normalize (text : String) : Except Fault String := do
  let d ← SessionDescription.parse text
  d.escapedString

/-! ## Parts as they are formatted -/

section Formatting
variable {s : String} {p : Char → Bool}

theorem toList_cStr (s : String) : (cStr s).toList = s.toList.takeWhile (· ≠ '\x00') := String.toList_ofList ..

theorem noNul_cStr (s : String) : NoNul (cStr s) := by
  intro h
  rw [toList_cStr] at h
  have hne := List.mem_takeWhile_imp h
  simp at hne

theorem cStr_cStr (s : String) : cStr (cStr s) = cStr s := cStr_eq (noNul_cStr s)

theorem over_cStr (h : Over p s) (hne : cStr s ≠ "") : Over p (cStr s) := by
  refine ⟨hne, fun c hc => h.2 c ?_⟩
  rw [toList_cStr] at hc
  exact (List.takeWhile_prefix _).subset hc

end Formatting

def ConnectionData.formatted (c : ConnectionData) : ConnectionData :=
  { c with connectionAddress := cStr c.connectionAddress }

def ICECandidate.formatted (c : ICECandidate) : ICECandidate := { c with priority := c.priority % 2 ^ 32 }

def MediaFormat.formatted (f : MediaFormat) : MediaFormat := { f with fmtParams := f.fmtParams.map cStr }

def RTPExtension.formatted (e : RTPExtension) : RTPExtension := { e with uri := cStr e.uri }

/-- SSRCs of which nothing is printed are left out. -/
def MediaDescription.formatted (m : MediaDescription) : MediaDescription :=
  { m with
    connectionData := m.connectionData.map ConnectionData.formatted
    iceCandidates := m.iceCandidates.map ICECandidate.formatted
    mediaFormats := m.mediaFormats.map MediaFormat.formatted
    extensions := m.extensions.map RTPExtension.formatted
    ssrcDescription := m.ssrcDescription.filter fun d => d.lines ≠ [] }

def SessionDescription.formatted (d : SessionDescription) : SessionDescription :=
  { d with mediaDescriptions := d.mediaDescriptions.map MediaDescription.formatted }

theorem ConnectionData.line_formatted (c : ConnectionData) : c.formatted.line = c.line := by
  simp [ConnectionData.line, ConnectionData.formatted, cStr_cStr]

theorem ICECandidate.line_formatted (c : ICECandidate) : c.formatted.line = c.line := by
  simp [ICECandidate.line, ICECandidate.formatted]

theorem MediaFormat.lines_formatted (f : MediaFormat) : f.formatted.lines = f.lines := by
  simp [MediaFormat.lines, MediaFormat.formatted, cStr_cStr]

theorem RTPExtension.line_formatted (e : RTPExtension) : e.formatted.line = e.line := by
  simp [RTPExtension.line, RTPExtension.formatted, cStr_cStr]

theorem MediaDescription.lines_formatted (m : MediaDescription) : m.formatted.lines = m.lines := by
  have hconnection : (m.connectionData.map ConnectionData.formatted).map ConnectionData.line =
      m.connectionData.map ConnectionData.line := by
    rw [Option.map_map]
    exact congrArg (m.connectionData.map ·) (funext ConnectionData.line_formatted)
  have hcandidates : (m.iceCandidates.map ICECandidate.formatted).map ICECandidate.line =
      m.iceCandidates.map ICECandidate.line := by
    rw [List.map_map]
    exact congrArg (m.iceCandidates.map ·) (funext ICECandidate.line_formatted)
  have hextensions : (m.extensions.map RTPExtension.formatted).map RTPExtension.line =
      m.extensions.map RTPExtension.line := by
    rw [List.map_map]
    exact congrArg (m.extensions.map ·) (funext RTPExtension.line_formatted)
  have hformats : (m.mediaFormats.map MediaFormat.formatted).flatMap MediaFormat.lines =
      m.mediaFormats.flatMap MediaFormat.lines := by
    rw [List.flatMap_map]
    exact congrArg (m.mediaFormats.flatMap ·) (funext MediaFormat.lines_formatted)
  have hpayload : payloadTypesString (m.mediaFormats.map MediaFormat.formatted) =
      payloadTypesString m.mediaFormats := by
    unfold payloadTypesString
    rw [List.map_map]
    rfl
  have hssrcs : ((m.ssrcDescription.filter fun d => d.lines ≠ []).map SSRCDescription.lines).getD [] =
      (m.ssrcDescription.map SSRCDescription.lines).getD [] := by
    cases m.ssrcDescription with
    | none => rfl
    | some d =>
        by_cases hnil : d.lines = []
        · simp [Option.filter, hnil]
        · simp [Option.filter, hnil]
  unfold lines attributes mLine formatted
  dsimp only
  rw [hconnection, hcandidates, hextensions, hformats, hpayload, hssrcs]

theorem SessionDescription.lines_formatted (d : SessionDescription) : d.formatted.lines = d.lines := by
  have hsections : (d.mediaDescriptions.map MediaDescription.formatted).flatMap MediaDescription.lines =
      d.mediaDescriptions.flatMap MediaDescription.lines := by
    rw [List.flatMap_map]
    exact congrArg (d.mediaDescriptions.flatMap ·) (funext MediaDescription.lines_formatted)
  have hcheck : d.formatted.checkLines = d.checkLines := by
    unfold checkLines formatted
    rw [List.all_map]
    rfl
  have hbundle : d.formatted.bundleLine = d.bundleLine := by
    unfold bundleLine formatted
    simp only [ne_eq, List.map_eq_nil_iff, List.map_map]
    rfl
  unfold lines
  rw [hcheck, hbundle]
  unfold formatted
  rw [hsections]

/-- No value of a section is empty when it is formatted, and there is a format. -/
structure MediaDescription.Printable (m : MediaDescription) : Prop where
  mediaFormats : m.mediaFormats ≠ []
  connectionData : ∀ c ∈ m.connectionData, cStr c.connectionAddress ≠ ""
  extensions : ∀ e ∈ m.extensions, cStr e.uri ≠ ""
  fmtParams : ∀ f ∈ m.mediaFormats, ∀ fmtParam ∈ f.fmtParams, cStr fmtParam ≠ ""

theorem ConnectionData.Parsed.formatted {c : ConnectionData} (h : c.Parsed) (hne : cStr c.connectionAddress ≠ "") :
    c.formatted.WellFormed :=
  ⟨h.netType, h.addrType, over_cStr h.connectionAddress hne, noNul_cStr _⟩

theorem ICECandidate.Parsed.formatted {c : ICECandidate} (h : c.Parsed) : c.formatted.WellFormed :=
  { h with
    priority := Nat.mod_lt _ (by decide)
    address := h.address }

theorem RTPExtension.Parsed.formatted {e : RTPExtension} (h : e.Parsed) (hne : cStr e.uri ≠ "") :
    e.formatted.WellFormed := ⟨h.identifier, over_cStr h.uri hne, noNul_cStr _⟩

theorem MediaFormat.Parsed.formatted {f : MediaFormat} (h : f.Parsed)
    (hne : ∀ fmtParam ∈ f.fmtParams, cStr fmtParam ≠ "") : f.formatted.Readable :=
  { h with
    fmtParams := by
      intro fmtParam hmem
      obtain ⟨p, hp, rfl⟩ := List.mem_map.mp hmem
      exact ⟨over_cStr (h.fmtParams p hp) (hne p hp), noNul_cStr p⟩ }

/-- What is printed of a section can be read. -/
theorem MediaDescription.Parsed.formatted {m : MediaDescription} (h : m.Parsed) (hprint : m.Printable)
    (hmid : m.mid.isSome = true) : m.formatted.Readable where
  protocols := h.protocols
  connectionData := by
    intro c hc
    obtain ⟨c', hc', rfl⟩ := Option.mem_map.mp hc
    exact (h.connectionData c' hc').formatted (hprint.connectionData c' hc')
  rtcpConfiguration := h.rtcpConfiguration
  iceCandidates := by
    intro c hc
    obtain ⟨c', hc', rfl⟩ := List.mem_map.mp hc
    exact (h.iceCandidates c' hc').formatted
  someFormat := fun hnil => hprint.mediaFormats (List.map_eq_nil_iff.mp hnil)
  mediaFormats := by
    intro f hf
    obtain ⟨f', hf', rfl⟩ := List.mem_map.mp hf
    exact (h.mediaFormats f' hf').formatted (hprint.fmtParams f' hf')
  codecs := by
    intro f hf
    obtain ⟨f', hf', rfl⟩ := List.mem_map.mp (List.map_tail ▸ hf)
    exact h.codecs f' hf'
  iceUfrag := h.iceUfrag
  icePwd := h.icePwd
  iceOtherLines := h.iceOtherLines
  mid := by
    obtain ⟨mid, hsome⟩ := Option.isSome_iff_exists.mp hmid
    exact ⟨mid, hsome, h.mid mid hsome⟩
  extensions := by
    intro e he
    obtain ⟨e', he', rfl⟩ := List.mem_map.mp he
    exact (h.extensions e' he').formatted (hprint.extensions e' he')
  msid := h.msid
  rtcpOtherLines := h.rtcpOtherLines
  ssrcDescription := by
    intro d hd
    obtain ⟨hd, hne⟩ := Option.mem_filter_iff.mp hd
    exact ⟨h.ssrcDescription d hd, of_decide_eq_true hne⟩

/-! ## Line ends -/

section LineEnds
variable {s t line : String} {p : Char → Bool}

theorem AllDot.oneLine (h : AllDot s) : OneLine s := by
  intro hpart
  have hdot := h '\r' (hpart.subset List.mem_cons_self)
  cases hdot

@[simp] theorem allDot_append : AllDot (s ++ t) ↔ AllDot s ∧ AllDot t := by
  unfold AllDot
  rw [String.toList_append, List.forall_mem_append]

@[simp] theorem allDot_toString (n : Nat) : AllDot (toString n) := MediaReading.isDot_toString n

theorem AllDot.cStr (h : AllDot s) : AllDot (cStr s) := by
  intro c hc
  rw [toList_cStr] at hc
  exact h c ((List.takeWhile_prefix _).subset hc)

theorem Over.allDot (h : Over p s) (hn : p '\n' = false) (hr : p '\r' = false) : AllDot s := (h.isDot hn hr).2

theorem allDot_joinStrings {ss : List String} (h : ∀ s ∈ ss, AllDot s) : AllDot (joinStrings ss) := by
  induction ss using joinStrings.induct with
  | case1 => exact List.forall_mem_nil _
  | case2 s => exact h s List.mem_cons_self
  | case3 s ss hne ih =>
      obtain ⟨hs, hss⟩ := List.forall_mem_cons.mp h
      rw [joinStrings]
      · exact allDot_append.mpr ⟨allDot_append.mpr ⟨hs, by decide⟩, ih hss⟩
      · exact hne

theorem allDot_mem {ws : List String} (h : s ∈ ws) (hws : ∀ w ∈ ws, AllDot w) : AllDot s := hws s h

theorem ConnectionData.Parsed.allDot {c : ConnectionData} (h : c.Parsed) : AllDot c.line := by
  have hnet : AllDot c.netType := by
    rw [h.netType]
    decide
  have haddr : AllDot c.addrType := allDot_mem h.addrType (by decide)
  have hconnection : AllDot c.connectionAddress := h.connectionAddress.2
  simp only [ConnectionData.line, allDot_append, hnet.cStr, haddr.cStr, hconnection.cStr, and_true]
  decide

theorem RTCPConfiguration.WellFormed.allDot {c : RTCPConfiguration} (h : c.WellFormed) : AllDot c.line := by
  unfold RTCPConfiguration.line
  rcases h.address with ⟨hnet, -, -⟩ | ⟨hnet, haddr, hover⟩
  · rw [if_neg (fun hne => hne.1 hnet)]
    simp only [allDot_append, allDot_toString, and_true]
    decide
  · have hconnection : AllDot c.connectionAddress := hover.2
    rw [hnet, haddr]
    split
    · simp only [allDot_append, allDot_toString, hconnection, and_true]
      decide
    · simp only [allDot_append, allDot_toString, and_true]
      decide

theorem Util.Dotted.allDot (h : Util.Dotted Octet s) : AllDot s := by
  obtain ⟨a, b, c, d, ha, hb, hc, hd, rfl⟩ := h
  simp only [allDot_append, ha.1.allDot rfl rfl, hb.1.allDot rfl rfl, hc.1.allDot rfl rfl, hd.1.allDot rfl rfl,
    and_true, true_and]
  decide

theorem ICECandidate.Parsed.allDot {c : ICECandidate} (h : c.Parsed) : AllDot c.line := by
  have hfoundation : AllDot c.foundation := h.foundation.allDot rfl rfl
  have hprotocol : AllDot c.protocol := allDot_mem h.protocol (by decide)
  have haddress : AllDot c.address := Util.Dotted.allDot h.address
  have htype : AllDot c.type := allDot_mem h.type (by decide)
  have hremainder : AllDot c.remainder := h.remainder
  have hcandidate : AllDot "a=candidate:" := by decide
  have htyp : AllDot " typ " := by decide
  have hspace : AllDot " " := by decide
  unfold ICECandidate.line
  dsimp only
  split <;> simp only [allDot_append, allDot_toString, hfoundation.cStr, hprotocol.cStr, haddress.cStr, htype.cStr,
    hremainder, hcandidate, htyp, hspace, and_self]

theorem RTPExtension.Parsed.allDot {e : RTPExtension} (h : e.Parsed) : AllDot e.line := by
  have huri : AllDot e.uri := h.uri.2
  simp only [RTPExtension.line, allDot_append, allDot_toString, huri.cStr, and_true]
  decide

theorem isDot_of_isNoSpace {c : Char} (h : isNoSpace c = true) : isDot c = true := isDot_of rfl rfl h

theorem MediaStreamIdentifier.WellFormed.allDot {i : MediaStreamIdentifier} (h : i.WellFormed) : AllDot i.line := by
  have hidentifier : AllDot i.identifier := fun c hc => isDot_of_isNoSpace (h.identifier.2 c hc)
  have happData : AllDot i.appData := fun c hc => isDot_of_isNoSpace (h.appData c hc)
  unfold MediaStreamIdentifier.line
  split
  · simp only [allDot_append, hidentifier, happData, and_true]
    decide
  · simp only [allDot_append, hidentifier, and_true]
    decide

theorem MediaFormat.Parsed.allDot {f : MediaFormat} (h : f.Parsed) : ∀ line ∈ f.lines, AllDot line := by
  have hcodec : AllDot f.codec := by
    rcases h.codec with hcodec | ⟨-, hcodec, -⟩
    · exact hcodec.allDot rfl rfl
    · rw [hcodec]
      decide
  have hspace : AllDot " " := by decide
  unfold MediaFormat.lines
  refine List.forall_mem_append.mpr ⟨List.forall_mem_append.mpr ⟨?_, ?_⟩, ?_⟩
  · cases f.channels with
    | none =>
        refine List.forall_mem_singleton.mpr ?_
        simp only [allDot_append, allDot_toString, hcodec.cStr, and_true]
        decide
    | some n =>
        refine List.forall_mem_singleton.mpr ?_
        simp only [allDot_append, allDot_toString, hcodec.cStr, and_true]
        decide
  · intro line hline
    obtain ⟨fbType, hmem, rfl⟩ := List.mem_map.mp hline
    have hfbType : AllDot fbType := (h.fbTypes fbType hmem).2.2
    simp only [allDot_append, allDot_toString, hfbType.cStr, and_true]
    decide
  · intro line hline
    obtain ⟨fmtParam, hmem, rfl⟩ := List.mem_map.mp hline
    have hfmtParam : AllDot fmtParam := (h.fmtParams fmtParam hmem).2
    simp only [allDot_append, allDot_toString, hfmtParam.cStr, and_true]
    decide

theorem SSRCDescription.Readable.allDot {d : SSRCDescription} (h : d.Readable) : ∀ line ∈ d.lines, AllDot line := by
  intro line hline
  unfold SSRCDescription.lines at hline
  rcases List.mem_append.mp hline with hline | hline
  · obtain ⟨-, hline⟩ := List.mem_ite_nil_right.mp hline
    obtain rfl := List.mem_singleton.mp hline
    refine allDot_append.mpr ⟨by decide, allDot_joinStrings fun s hs => ?_⟩
    obtain ⟨a, -, rfl⟩ := List.mem_map.mp hs
    exact allDot_toString _
  · obtain ⟨s, hs, hline⟩ := List.mem_flatMap.mp hline
    have hreadable := h.ssrcs s hs
    have hcname : AllDot s.cname := fun c hc => (hreadable.cname c hc).2
    have hmsid : AllDot s.msid := fun c hc => (hreadable.msid c hc).2
    rw [SSRCAttributes.lines_eq hreadable, List.mem_append, mem_optionalLine, mem_optionalLine] at hline
    rcases hline with ⟨-, rfl⟩ | ⟨-, rfl⟩
    · simp only [ssrcLine, allDot_append, allDot_toString, hcname, and_true]
      decide
    · simp only [ssrcLine, allDot_append, allDot_toString, hmsid, and_true]
      decide

/-- No line of a section has a line end in it. -/
theorem MediaDescription.Parsed.allDot {m : MediaDescription} (h : m.Parsed) : ∀ line ∈ m.lines, AllDot line := by
  have hspace : AllDot " " := by decide
  have hice {value : String} (hv : Over isIce value) : AllDot value := hv.allDot rfl rfl
  refine List.forall_mem_cons.mpr ⟨?_, fun line hline => ?_⟩
  · have htype : AllDot (stringFromType m.type) := by
      cases m.type <;> decide
    have hprotocols : AllDot m.protocols := h.protocols.allDot rfl rfl
    have hpayload : AllDot (payloadTypesString m.mediaFormats) := by
      refine allDot_joinStrings fun s hs => ?_
      obtain ⟨f, -, rfl⟩ := List.mem_map.mp hs
      exact allDot_toString _
    simp only [MediaDescription.mLine, allDot_append, allDot_toString, htype, hprotocols.cStr, hpayload.cStr, hspace,
      and_true]
    decide
  · unfold MediaDescription.attributes at hline
    simp only [List.mem_append, List.mem_map, List.mem_flatMap, Option.mem_toList, Option.map_eq_some_iff] at hline
    rcases hline with ((((((((((((⟨c, hc, rfl⟩ | ⟨c, hc, rfl⟩) | ⟨c, hc, rfl⟩) | ⟨s, hs, rfl⟩) | ⟨s, hs, rfl⟩) |
      hother) | ⟨s, hs, rfl⟩) | ⟨e, he, rfl⟩) | ⟨d, -, rfl⟩) | ⟨i, hi, rfl⟩) | hrtcp) | ⟨f, hf, hl⟩) | hl)
    · exact (h.connectionData c hc).allDot
    · exact (h.rtcpConfiguration c hc).allDot
    · exact (h.iceCandidates c hc).allDot
    · exact allDot_append.mpr ⟨by decide, (hice (h.iceUfrag s hs)).cStr⟩
    · exact allDot_append.mpr ⟨by decide, (hice (h.icePwd s hs)).cStr⟩
    · obtain ⟨k, hk⟩ := Option.isSome_iff_exists.mp (h.iceOtherLines line hother).1
      exact within_of_fullMatch hk (within_dots (by decide))
    · have hmid : AllDot s := (h.mid s hs).allDot rfl rfl
      exact allDot_append.mpr ⟨by decide, hmid.cStr⟩
    · exact (h.extensions e he).allDot
    · cases d <;> decide
    · exact (h.msid i hi).allDot
    · obtain ⟨k, hk⟩ := Option.isSome_iff_exists.mp (h.rtcpOtherLines line hrtcp)
      have htext : AllDot "a=rtcp-" := by decide
      have hwords : ∀ w ∈ ["mux", "rsize"], AllDot w := by decide
      exact within_of_fullMatch hk ⟨htext, within_anyOf hwords⟩
    · exact (h.mediaFormats f hf).allDot line hl
    · cases hd : m.ssrcDescription with
      | none =>
          rw [hd] at hl
          exact absurd hl List.not_mem_nil
      | some d =>
          rw [hd] at hl
          exact (h.ssrcDescription d hd).allDot line hl

end LineEnds

/-! ## Texts -/

section Texts
variable {d : SessionDescription} {lines : List String}

theorem oneLine_append {s t : String} (hs : AllDot s) (ht : AllDot t) : OneLine (s ++ t) :=
  AllDot.oneLine (allDot_append.mpr ⟨hs, ht⟩)

theorem SessionDescription.Parsed.oneLine_preamble (h : d.Parsed) : ∀ line ∈ d.preamble, OneLine line := by
  have hspace : AllDot " " := by decide
  intro line hline
  unfold preamble bundleLine at hline
  simp only [List.mem_append, List.mem_cons, List.not_mem_nil, or_false, List.mem_map] at hline
  rcases hline with (((rfl | rfl | rfl) | ⟨t, -, rfl⟩) | hbundle) | hother
  · exact oneLine_append (by decide) (allDot_toString _)
  · have huser : AllDot d.origin.userName := h.origin.userName.allDot rfl rfl
    have hnet : AllDot d.origin.netType := h.origin.netType.allDot rfl rfl
    have haddr : AllDot d.origin.addrType := h.origin.addrType.allDot rfl rfl
    have hunicast : AllDot d.origin.unicastAddr := h.origin.unicastAddr.allDot rfl rfl
    apply AllDot.oneLine
    simp only [Origin.line, allDot_append, allDot_toString, huser.cStr, hnet.cStr, haddr.cStr, hunicast.cStr, hspace,
      and_true]
    decide
  · exact oneLine_append (by decide) h.sessionName.2
  · apply AllDot.oneLine
    simp only [Timing.line, allDot_append, allDot_toString, hspace, and_true]
    decide
  · obtain ⟨-, hbundle⟩ := List.mem_ite_nil_right.mp hbundle
    obtain rfl := List.mem_singleton.mp hbundle
    refine oneLine_append (by decide) fun c hc => ?_
    rw [String.toList_join, List.mem_flatMap] at hc
    obtain ⟨s, hs, hc⟩ := hc
    obtain ⟨m, hm, rfl⟩ := List.mem_map.mp hs
    refine (allDot_append.mpr ⟨hspace, ?_⟩ : AllDot (" " ++ m.mid.getD "")) c hc
    cases hmid : m.mid with
    | none => exact List.forall_mem_nil _
    | some mid => exact ((h.mediaDescriptions m hm).mid mid hmid).allDot rfl rfl
  · exact h.oneLine line hother

/-- Lines with an end each are told apart again; what follows the last end is one more line. -/
theorem linesOf_join (h : ∀ line ∈ lines, OneLine line) :
    linesOf (String.join (lines.map fun line => line ++ "\r\n")) = lines ++ [""] := by
  induction lines with
  | nil => rfl
  | cons line lines ih =>
      obtain ⟨hline, hlines⟩ := List.forall_mem_cons.mp h
      have hcons : (String.join ((line :: lines).map fun line => line ++ "\r\n")).toList =
          line.toList ++ '\r' :: '\n' :: (String.join (lines.map fun line => line ++ "\r\n")).toList := by
        rw [List.map_cons, String.join_cons, String.toList_append, String.toList_append, List.append_assoc]
        rfl
      unfold linesOf at ih ⊢
      rw [hcons, splitLines_append hline, List.map_cons, String.ofList_toList, ih hlines, List.cons_append]

/-- The lines of a description that has been read, if every section has a mid. -/
theorem SessionDescription.lines_eq_ok_iff :
    d.lines = .ok lines ↔ (∀ m ∈ d.mediaDescriptions, m.mid.isSome = true) ∧
      lines = d.preamble ++ d.mediaDescriptions.flatMap MediaDescription.lines := by
  unfold SessionDescription.lines checkLines
  split
  next hall =>
    rw [List.all_eq_true] at hall
    constructor
    · intro h
      exact ⟨hall, (Except.ok.inj h).symm⟩
    · intro ⟨_, h⟩
      exact congrArg Except.ok h.symm
  next hall =>
    rw [List.all_eq_true] at hall
    constructor
    · intro h
      cases h
    · intro h
      exact absurd h.1 hall

theorem SessionDescription.Parsed.oneLine_lines (h : d.Parsed) (hlines : d.lines = .ok lines) :
    ∀ line ∈ lines, OneLine line := by
  obtain ⟨-, rfl⟩ := lines_eq_ok_iff.mp hlines
  refine List.forall_mem_append.mpr ⟨h.oneLine_preamble, fun line hline => ?_⟩
  obtain ⟨m, hm, hline⟩ := List.mem_flatMap.mp hline
  exact ((h.mediaDescriptions m hm).allDot line hline).oneLine

/-- What is printed has the lines of the description, and an empty one. -/
theorem SessionDescription.Parsed.linesOf_escapedString (h : d.Parsed) {text : String}
    (htext : d.escapedString = .ok text) : ∃ lines, d.lines = .ok lines ∧ linesOf text = lines ++ [""] := by
  unfold escapedString at htext
  obtain ⟨lines, hlines, htext⟩ := Except.of_bind_ok htext
  obtain rfl := Except.ok.inj htext
  exact ⟨lines, hlines, linesOf_join (h.oneLine_lines hlines)⟩

end Texts

/-! ## What is read again -/

section Again
variable {m last : MediaDescription} {d : SessionDescription} {lines : List String} {line text : String}

def MediaReading.pushOther (r : MediaReading) (line : String) : MediaReading :=
  { r with media := { r.media with otherLines := r.media.otherLines ++ [line] } }

theorem MediaReading.flush_pushOther {r r' : MediaReading} (h : r.flush = .ok r') (line : String) :
    (r.pushOther line).flush = .ok (r'.pushOther line) := by
  unfold flush pushOther at *
  dsimp only
  split at h
  next hne =>
    obtain ⟨format, hformat, hr'⟩ := Except.of_bind_ok h
    obtain rfl := Except.ok.inj hr'
    rw [if_pos hne, hformat]
    rfl
  next hnil =>
    obtain rfl := Except.ok.inj h
    rw [if_neg hnil]
    rfl

theorem MediaDescription.ofLines_concat (h : ofLines lines = .ok m) (hline : MediaReading.isOther line = true) :
    ofLines (lines ++ [line]) = .ok { m with otherLines := m.otherLines ++ [line] } := by
  have hfirst : firstMatch mediaBranches line = none := Option.isNone_iff_eq_none.mp hline
  unfold ofLines at h ⊢
  obtain ⟨r, hr, h⟩ := Except.of_bind_ok h
  have hread : r.readLine line = .ok (r.pushOther line) := by
    unfold MediaReading.readLine
    rw [hfirst]
    rfl
  rw [List.foldlM_append, hr, Except.bind_ok, List.foldlM_cons, hread]
  show (r.pushOther line).finish = _
  unfold MediaReading.finish at h ⊢
  obtain ⟨r', hr', h⟩ := Except.of_bind_ok h
  obtain ⟨candidates, hcandidates, h⟩ := Except.of_bind_ok h
  obtain ⟨ssrcs, hssrcs, h⟩ := Except.of_bind_ok h
  obtain rfl := Except.ok.inj h
  rw [MediaReading.flush_pushOther hr', Except.bind_ok]
  show (r'.iceCandidateLines.mapM ICECandidate.ofLine >>= _) = _
  rw [hcandidates]
  show (SSRCDescription.ofLines? r'.ssrcLines >>= _) = _
  rw [hssrcs]
  rfl

theorem isOther_empty : MediaReading.isOther "" = true := by
  decide

theorem MediaDescription.Parsed.begins (h : m.Parsed) (hformats : m.mediaFormats ≠ []) {after : List String}
    (hafter : ∀ line ∈ after, ¬ isMediaLine line = true) : ∃ first rest, m.lines ++ after = first :: rest ∧
      isMediaLine first = true ∧ ∀ line ∈ rest, ¬ isMediaLine line = true := by
  refine ⟨m.mLine, m.attributes ++ after, rfl, isMediaLine_mLine h.protocols hformats,
    List.forall_mem_append.mpr ⟨fun line hline => ?_, hafter⟩⟩
  rw [isMediaLine_attributes (fun line hl => (h.iceOtherLines line hl).1) h.rtcpOtherLines hline]
  decide

/-- The sections are cut again as they were printed; the empty line at the end is with the last one. -/
theorem sections_printed {before : List String} {ms : List MediaDescription}
    (hbefore : ∀ line ∈ before, isMediaLine line = false) (hms : ∀ m ∈ ms, m.Parsed ∧ m.mediaFormats ≠ [])
    (hlast : last.Parsed ∧ last.mediaFormats ≠ []) :
    sections (before ++ (ms ++ [last]).flatMap MediaDescription.lines ++ [""]) =
      (before, ms.map MediaDescription.lines ++ [last.lines ++ [""]]) := by
  have hflatten : before ++ (ms ++ [last]).flatMap MediaDescription.lines ++ [""] =
      before ++ (ms.map MediaDescription.lines ++ [last.lines ++ [""]]).flatten := by
    simp [List.flatMap_def]
  have hempty : ∀ line ∈ [""], ¬ isMediaLine line = true := by decide
  rw [hflatten]
  apply sectionsBy_append_flatten
  · intro line hline
    rw [hbefore line hline]
    decide
  · refine List.forall_mem_append.mpr ⟨fun s hs => ?_,
      List.forall_mem_singleton.mpr (hlast.1.begins hlast.2 hempty)⟩
    obtain ⟨m, hm, rfl⟩ := List.mem_map.mp hs
    have hbegins := (hms m hm).1.begins (hms m hm).2 (List.forall_mem_nil _)
    rwa [List.append_nil] at hbegins

theorem SessionDescription.Parsed.preambleReadable (h : d.Parsed)
    (hmids : ∀ m ∈ d.mediaDescriptions, m.mid.isSome = true) : d.PreambleReadable :=
  { h with
    mids := by
      intro m hm
      obtain ⟨mid, hmid⟩ := Option.isSome_iff_exists.mp (hmids m hm)
      exact ⟨mid, hmid, (h.mediaDescriptions m hm).mid mid hmid⟩ }

theorem SessionDescription.Parsed.sections_of_lines (h : d.Parsed) (hne : d.mediaDescriptions ≠ [])
    (hformats : ∀ m ∈ d.mediaDescriptions, m.mediaFormats ≠ []) (hlines : d.lines = .ok lines) :
    ∃ ms last, d.mediaDescriptions = ms ++ [last] ∧
      sections (lines ++ [""]) = (d.preamble, ms.map MediaDescription.lines ++ [last.lines ++ [""]]) := by
  obtain ⟨hmids, rfl⟩ := lines_eq_ok_iff.mp hlines
  obtain ⟨ms, last, hms⟩ := (List.eq_nil_or_concat' _).resolve_left hne
  have hparsed (m : MediaDescription) (hm : m ∈ d.mediaDescriptions) : m.Parsed ∧ m.mediaFormats ≠ [] :=
    ⟨h.mediaDescriptions m hm, hformats m hm⟩
  rw [hms, List.forall_mem_append, List.forall_mem_singleton] at hparsed
  refine ⟨ms, last, hms, ?_⟩
  rw [hms]
  exact sections_printed (fun line => isMediaLine_preamble (h.preambleReadable hmids)) hparsed.1 hparsed.2

/-- The section that is read of the lines of one. -/
theorem MediaDescription.Parsed.ofLines_lines (h : m.Parsed) (hprint : m.Printable) (hmid : m.mid.isSome = true) :
    ofLines m.lines = .ok m.formatted.printed := by
  rw [← lines_formatted]
  exact MediaDescription.ofLines_lines (h.formatted hprint hmid)

/-- Other sections with the same lines and mids are printed in the same way. -/
theorem SessionDescription.lines_congr {medias : List MediaDescription}
    (hlines : medias.map MediaDescription.lines = d.mediaDescriptions.map MediaDescription.lines)
    (hmids : medias.map (·.mid) = d.mediaDescriptions.map (·.mid)) :
    { d with mediaDescriptions := medias : SessionDescription }.lines = d.lines := by
  have hall : medias.all (·.mid.isSome) = d.mediaDescriptions.all (·.mid.isSome) := by
    have hmap := congrArg (fun mids : List (Option String) => mids.all (·.isSome)) hmids
    rwa [List.all_map, List.all_map] at hmap
  have hnil : medias = [] ↔ d.mediaDescriptions = [] := by
    rw [← List.map_eq_nil_iff (f := (·.mid)), hmids, List.map_eq_nil_iff]
  have hjoin : medias.map (fun m => " " ++ m.mid.getD "") =
      d.mediaDescriptions.map fun m => " " ++ m.mid.getD "" := by
    have hmap := congrArg (List.map fun mid : Option String => " " ++ mid.getD "") hmids
    rwa [List.map_map, List.map_map] at hmap
  unfold SessionDescription.lines checkLines bundleLine
  dsimp only
  rw [hall, hjoin, List.flatMap_def, List.flatMap_def, hlines]
  simp only [ne_eq, hnil]

/-- A text with the same lines before the sections. -/
theorem SessionDescription.parse_eq_ok_iff {secs : List (List String)} (h : d.PreambleReadable)
    (htiming : d.timing ≠ []) (hsections : sections (linesOf text) = (d.preamble, secs)) {d' : SessionDescription} :
    parse text = .ok d' ↔
      ∃ medias, secs.mapM MediaDescription.ofLines = .ok medias ∧ d' = { d with mediaDescriptions := medias } := by
  have hread := readLine_preamble h
  show ofLines (linesOf text) = .ok d' ↔ _
  rw [ofLines_eq_ok_iff, hsections]
  constructor
  · intro ⟨r, medias, hr, hmedias, _, _, _, _, hd'⟩
    obtain rfl := Except.ok.inj (hr.symm.trans hread)
    exact ⟨medias, hmedias, hd'⟩
  · intro ⟨medias, hmedias, hd'⟩
    exact ⟨_, medias, hread, hmedias, rfl, h.version, rfl, htiming, hd'⟩

/-- Where all sections can be printed, and there is one, what is printed is printed again. -/
theorem SessionDescription.Parsed.normalize_of_printable (h : d.Parsed) (hne : d.mediaDescriptions ≠ [])
    (hprint : ∀ m ∈ d.mediaDescriptions, m.Printable) (htext : d.escapedString = .ok text) :
    normalize text = .ok text := by
  obtain ⟨lines, hlines, hsplit⟩ := h.linesOf_escapedString htext
  obtain ⟨ms, last, hms, hsections⟩ := h.sections_of_lines hne (fun m hm => (hprint m hm).mediaFormats) hlines
  rw [← hsplit] at hsections
  have hmids := (lines_eq_ok_iff.mp hlines).1
  have hpreamble := h.preambleReadable hmids
  have hread (m : MediaDescription) (hm : m ∈ d.mediaDescriptions) :
      MediaDescription.ofLines m.lines = .ok m.formatted.printed :=
    (h.mediaDescriptions m hm).ofLines_lines (hprint m hm) (hmids m hm)
  rw [hms, List.forall_mem_append, List.forall_mem_singleton] at hread
  let medias := ms.map (fun m => m.formatted.printed) ++ [{ last.formatted.printed with otherLines := [""] }]
  have hmedias :
      (ms.map MediaDescription.lines ++ [last.lines ++ [""]]).mapM MediaDescription.ofLines = .ok medias := by
    rw [List.mapM_append, Except.mapM_map_ok hread.1, Except.bind_ok, List.mapM_cons,
      MediaDescription.ofLines_concat hread.2 isOther_empty]
    rfl
  have hparse : parse text = .ok { d with mediaDescriptions := medias } :=
    (parse_eq_ok_iff hpreamble h.someTiming hsections).mpr ⟨medias, hmedias, rfl⟩
  have hlinesOf : medias.map MediaDescription.lines = d.mediaDescriptions.map MediaDescription.lines := by
    have hformatted (m : MediaDescription) : m.formatted.printed.lines = m.lines := m.lines_formatted
    have hlast : { last.formatted.printed with otherLines := [""] : MediaDescription }.lines = last.lines :=
      hformatted last
    rw [hms, List.map_append, List.map_append, List.map_map, List.map_singleton, List.map_singleton, hlast]
    exact congrArg (· ++ _) (List.map_congr_left fun m _ => hformatted m)
  have hmidsOf : medias.map (·.mid) = d.mediaDescriptions.map (·.mid) := by
    rw [hms, List.map_append, List.map_append, List.map_map]
    rfl
  unfold normalize
  rw [hparse, Except.bind_ok]
  unfold escapedString at htext ⊢
  rwa [lines_congr hlinesOf hmidsOf]

end Again

end Sdp

end Scallop
