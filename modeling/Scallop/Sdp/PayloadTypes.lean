import Scallop.Sdp.RoundTrip
import Scallop.Sdp.Steps

/-!
# Payload types

What `SDP::MediaDescription` makes of the formats of a media section.

* `formatStep`, `flushFormats` : the formats are read beside everything else (`ofLines_iff_formats`);
* `RtpMap`, `SectionLine`, `MediaSection` : a section as it is written, with the payload types of its `m=` line;
* `exists_formatsOf_iff` : which formats come of the lines;
* `Lists` : a description has the formats of the section, and prints them; `lists_iff` : just when the section is
  `Supported`.
-/

namespace Scallop

namespace Sdp

open Regex

/-! ## Two readings -/

/-- The formats that are complete, and the lines of the one that is not. -/
abbrev FormatReading := List MediaFormat × List String

def flushFormats (t : FormatReading) : Except Fault (List MediaFormat) :=
  if t.2 ≠ [] then (MediaFormat.ofLines t.2).map fun f => t.1 ++ [f] else .ok t.1

def formatStep (t : FormatReading) (line : String) : Except Fault FormatReading :=
  if (RTP_MAP_REGEX.fullMatch line).isSome then (flushFormats t).map fun fs => (fs, [line])
  else .ok (t.1, t.2 ++ [line])

def formatsOf (t : FormatReading) (lines : List String) : Except Fault (List MediaFormat) :=
  lines.foldlM formatStep t >>= flushFormats

def isFormat (line : String) : Bool := (MEDIA_FORMAT_REGEX.fullMatch line).isSome

def MediaDescription.withFormats (m : MediaDescription) (fs : List MediaFormat) : MediaDescription :=
  { m with mediaFormats := fs }

namespace MediaReading

variable {r : MediaReading} {t : FormatReading} {line : String}

def withFormats (r : MediaReading) (t : FormatReading) : MediaReading :=
  { r with media := { r.media with mediaFormats := t.1 }, currentFormatLines := t.2 }

theorem flush_withFormats (r : MediaReading) (t : FormatReading) :
    (r.withFormats t).flush = (flushFormats t).map fun fs => r.withFormats (fs, []) := by
  unfold flush flushFormats withFormats
  dsimp only
  split
  next =>
    cases MediaFormat.ofLines t.2 with
    | error e => rfl
    | ok f => rfl
  next h =>
    have hnil : t.2 = [] := not_not.mp h
    rw [hnil]
    rfl

theorem readLine_of_isFormat (r : MediaReading) (t : FormatReading) (h : isFormat line = true) :
    (r.withFormats t).readLine line = (formatStep t line).map r.withFormats := by
  obtain ⟨m, hm⟩ := Option.isSome_iff_exists.mp h
  obtain ⟨p, hp, hq⟩ := exists_head hm
  have hheads : MEDIA_FORMAT_REGEX.heads = ["a=rtpmap", "a=rtcp-fb", "a=fmtp"].map String.toList := by decide
  have hline : (r.withFormats t).readLine line = (do
      let r' ← if (RTP_MAP_REGEX.fullMatch line).isSome then (r.withFormats t).flush else .ok (r.withFormats t)
      return { r' with currentFormatLines := r'.currentFormatLines ++ [line] }) := by
    rw [hheads] at hp
    simp only [List.map_cons, List.map_nil, List.mem_cons, List.not_mem_nil, or_false] at hp
    rcases hp with rfl | rfl | rfl
    · exact readLine_eq _ (i := 11) (q := "a=rtpmap") rfl rfl hq hm
    · exact readLine_eq _ (i := 11) (q := "a=rtcp-fb") rfl rfl hq hm
    · exact readLine_eq _ (i := 11) (q := "a=fmtp") rfl rfl hq hm
  rw [hline, flush_withFormats]
  unfold formatStep
  by_cases hmap : (RTP_MAP_REGEX.fullMatch line).isSome = true
  · rw [if_pos hmap, if_pos hmap]
    cases flushFormats t with
    | error e => rfl
    | ok fs => rfl
  · rw [if_neg hmap, if_neg hmap]
    rfl

/-- Another line leaves the formats alone, and does not look at them. -/
theorem readLine_of_not_isFormat (r : MediaReading) (t : FormatReading) (h : ¬ isFormat line = true) :
    (r.withFormats t).readLine line = (r.readLine line).map (·.withFormats t) := by
  unfold readLine
  cases hfirst : firstMatch mediaBranches line with
  | none => rfl
  | some b =>
      obtain ⟨branch, m⟩ := b
      obtain ⟨re, hmem, hre⟩ := firstMatch_mem hfirst
      simp only [mediaBranches, List.mem_cons, List.not_mem_nil, or_false, Prod.mk.injEq] at hmem
      rcases hmem with ⟨-, rfl⟩ | ⟨-, rfl⟩ | ⟨-, rfl⟩ | ⟨-, rfl⟩ | ⟨-, rfl⟩ | ⟨-, rfl⟩ | ⟨-, rfl⟩ | ⟨-, rfl⟩ |
        ⟨-, rfl⟩ | ⟨-, rfl⟩ | ⟨-, rfl⟩ | ⟨rfl, rfl⟩ | ⟨-, rfl⟩ | ⟨-, rfl⟩
      · dsimp only
        cases typeFromString (m.get 1) with
        | error e => rfl
        | ok type =>
            cases stoul (m.get 2) with
            | error e => rfl
            | ok port => rfl
      · rfl
      · dsimp only
        cases RTCPConfiguration.ofLine line with
        | error e => rfl
        | ok c => rfl
      · rfl
      · rfl
      · rfl
      · dsimp only
        cases RTPExtension.ofLine line with
        | error e => rfl
        | ok e => rfl
      · rfl
      · dsimp only
        cases directionFromString (m.get 1) with
        | error e => rfl
        | ok d => rfl
      · rfl
      · rfl
      · exact absurd (Option.isSome_iff_exists.mpr ⟨m, hre⟩) h
      · rfl
      · rfl

theorem finish_withFormats (r : MediaReading) (t : FormatReading) :
    (r.withFormats t).finish = flushFormats t >>= fun fs =>
      (r.withFormats ([], [])).finish.map (·.withFormats fs) := by
  unfold finish
  rw [flush_withFormats, flush_withFormats]
  cases flushFormats t with
  | error e => rfl
  | ok fs =>
      show (r.iceCandidateLines.mapM ICECandidate.ofLine >>= _) =
        (r.iceCandidateLines.mapM ICECandidate.ofLine >>= _).map _
      cases r.iceCandidateLines.mapM ICECandidate.ofLine with
      | error e => rfl
      | ok candidates =>
          show (SSRCDescription.ofLines? r.ssrcLines >>= _) = (SSRCDescription.ofLines? r.ssrcLines >>= _).map _
          cases SSRCDescription.ofLines? r.ssrcLines with
          | error e => rfl
          | ok ssrcs => rfl

/-- A loop over the lines is one for the formats and one for everything else. -/
theorem foldlM_ok_iff {lines : List String} {r' : MediaReading} :
    lines.foldlM readLine (r.withFormats t) = .ok r' ↔
      ∃ s t', (lines.filter (!isFormat ·)).foldlM readLine r = .ok s ∧
        (lines.filter isFormat).foldlM formatStep t = .ok t' ∧ s.withFormats t' = r' := by
  apply Except.foldlM_pair
  · intro r t line h
    exact r.readLine_of_not_isFormat t h
  · intro r t line h
    exact r.readLine_of_isFormat t h

theorem withFormats_of_foldlM {lines : List String} {r' : MediaReading} (h : lines.foldlM readLine r = .ok r')
    (hr : r.withFormats t = r) (hlines : ∀ line ∈ lines, ¬ isFormat line = true) : r'.withFormats t = r' := by
  rw [← hr] at h
  obtain ⟨s, t', -, ht', rfl⟩ := foldlM_ok_iff.mp h
  rw [List.filter_eq_nil_iff.mpr hlines] at ht'
  obtain rfl := Except.ok.inj ht'
  rfl

end MediaReading

/-- The formats of a section come of the lines that belong to formats, everything else of the other lines. -/
theorem MediaDescription.ofLines_iff_formats {lines : List String} {m : MediaDescription} : ofLines lines = .ok m ↔
    ∃ m₀ fs, ofLines (lines.filter (!isFormat ·)) = .ok m₀ ∧ formatsOf ([], []) (lines.filter isFormat) = .ok fs ∧
      m₀.withFormats fs = m := by
  have hstart : MediaReading.withFormats { media := { type := .audio } } ([], []) =
      { media := { type := .audio } } := rfl
  have hnone : ∀ line ∈ lines.filter (!isFormat ·), ¬ isFormat line = true := by simp
  unfold ofLines formatsOf
  rw [Except.bind_ok_iff, ← hstart]
  constructor
  · intro h
    obtain ⟨r, hr, h⟩ := h
    obtain ⟨s, t, hs, ht, rfl⟩ := MediaReading.foldlM_ok_iff.mp hr
    rw [MediaReading.finish_withFormats] at h
    obtain ⟨fs, hfs, h⟩ := Except.of_bind_ok h
    obtain ⟨m₀, hm₀, rfl⟩ := Except.of_map_ok h
    rw [MediaReading.withFormats_of_foldlM hs hstart hnone] at hm₀
    exact ⟨m₀, fs, Except.bind_ok_iff.mpr ⟨s, hs, hm₀⟩, Except.bind_ok_iff.mpr ⟨t, ht, hfs⟩, rfl⟩
  · intro h
    obtain ⟨m₀, fs, h, hfs, rfl⟩ := h
    obtain ⟨s, hs, hm₀⟩ := Except.of_bind_ok h
    obtain ⟨t, ht, hfs⟩ := Except.of_bind_ok hfs
    refine ⟨s.withFormats t, MediaReading.foldlM_ok_iff.mpr ⟨s, t, hs, ht, rfl⟩, ?_⟩
    rw [MediaReading.finish_withFormats, hfs, Except.bind_ok, MediaReading.withFormats_of_foldlM hs hstart hnone, hm₀]
    rfl

/-! ## Sections as they are written -/

def isToken (c : Char) : Bool :=
  let n := c.toNat
  n = 0x21 || (0x23 ≤ n && n ≤ 0x27) || (0x2A ≤ n && n ≤ 0x2B) || (0x2D ≤ n && n ≤ 0x2E) || (0x30 ≤ n && n ≤ 0x39) ||
    (0x41 ≤ n && n ≤ 0x5A) || (0x5E ≤ n && n ≤ 0x7E)

/-- What an `a=rtpmap` line says. -/
structure RtpMap where
  pt : Nat
  name : String
  clockRate : Nat
  channels : Option Nat
deriving DecidableEq

namespace RtpMap

def ofFormat (f : MediaFormat) : RtpMap := ⟨f.pt, f.codec, f.clockRate, f.channels⟩

def format (a : RtpMap) : MediaFormat :=
  { pt := a.pt, codec := a.name, clockRate := a.clockRate, channels := a.channels }

def line (a : RtpMap) : String := a.format.rtpmap

def truncated (a : RtpMap) : RtpMap :=
  { a with clockRate := a.clockRate % 2 ^ 32, channels := a.channels.map (· % 2 ^ 32) }

def Fits (bits : Nat) (a : RtpMap) : Prop := a.clockRate < 2 ^ bits ∧ ∀ n ∈ a.channels, n < 2 ^ bits

instance (bits : Nat) (a : RtpMap) : Decidable (a.Fits bits) := inferInstanceAs (Decidable (_ ∧ _))

end RtpMap

/-- A line of a media section, the first one apart. -/
inductive SectionLine where
  | rtpmap (a : RtpMap)
  | fmtp (pt : Nat) (params : String)
  /-- Without a payload type, for all of them. -/
  | rtcpFb (pt : Option Nat) (value : String)
  | other (line : String)
deriving DecidableEq

namespace SectionLine

def text : SectionLine → String
  | rtpmap a => a.line
  | fmtp pt params => "a=" ++ "fmtp" ++ ":" ++ toString pt ++ " " ++ params
  | rtcpFb pt value => "a=" ++ "rtcp-fb" ++ ":" ++ (pt.map toString).getD "*" ++ " " ++ value
  | other line => line

def WellFormed : SectionLine → Prop
  | rtpmap a => a.pt ≤ 127 ∧ Over isToken a.name
  | fmtp pt params => pt ≤ 127 ∧ Over isDot params
  | rtcpFb pt value => (∀ n ∈ pt, n ≤ 127) ∧ Over isDot value
  | other line => isFormat line = false

def rtpmap? : SectionLine → Option RtpMap
  | rtpmap a => some a
  | _ => none

def inFormat : SectionLine → Bool
  | other _ => false
  | _ => true

end SectionLine

/-- A media section whose `m=` line lists payload types, and that has an `a=rtpmap` line for each. -/
structure MediaSection where
  type : MediaType
  port : UInt16
  protocols : String
  /-- The listed payload types. -/
  formats : List RtpMap
  body : List SectionLine
  wellFormed : ∀ l ∈ body, l.WellFormed
  mapped : (body.filterMap SectionLine.rtpmap?).Perm formats

namespace MediaSection

def mLine (s : MediaSection) : String :=
  "m=" ++ stringFromType s.type ++ " " ++ toString s.port.toNat ++ " " ++ s.protocols ++ " " ++
    numbers (s.formats.map (·.pt))

def lines (s : MediaSection) : List String := s.mLine :: s.body.map SectionLine.text

def otherLines (s : MediaSection) : List String :=
  s.mLine :: (s.body.filter (!·.inFormat)).map SectionLine.text

def formatLines (s : MediaSection) : List SectionLine := s.body.filter (·.inFormat)

end MediaSection

/-! ## Lines of formats -/

section Patterns
variable {β : Type} {k : Captures → List Char → Option β} {m : Captures} {i : Nat} {rest : List Char}

theorem run_number (n : Nat) :
    (group i digits).run ((text " ").run k) m ((toString n).toList ++ (" ".toList ++ rest)) =
      k ((i, (toString n).toList) :: m) rest := by
  have hover := over_toString n
  have hne : (toString n).toList ≠ [] := fun hnil => hover.1 (String.toList_inj.mp hnil)
  have hdigit (m : Captures) (c : Char) (cs : List Char) (hc : c.isDigit = true) :
      (text " ").run k m (c :: cs) = none := by
    apply refuses_text_cons (d := ' ') rfl
    intro heq
    subst heq
    exact absurd hc (by decide)
  show (group i (plus (one Char.isDigit))).run _ m _ = _
  rw [run_group_plus_one hne hover.2 (stops_append rfl rfl) hdigit, run_text]

/-- A line with a payload type is taken by the pattern of such lines, or not at all. -/
theorem fullMatch_attribute_or {q value : String} (pt : Nat) {r : Regex} {p : Char → Bool}
    (hr : r = text q ++ group 1 digits ++ text " " ++ group 2 (plus (one p))) (hne : value ≠ "") :
    r.fullMatch (q ++ toString pt ++ " " ++ value) = none ∨
      r.fullMatch (q ++ toString pt ++ " " ++ value) = some [(2, value.toList), (1, (toString pt).toList)] := by
  by_cases hv : ∀ c ∈ value.toList, p c = true
  · right
    exact fullMatch_attribute pt hr ⟨hne, hv⟩
  · left
    subst hr
    have hl : (q ++ toString pt ++ " " ++ value).toList =
        q.toList ++ ((toString pt).toList ++ (" ".toList ++ (value.toList ++ []))) := by
      simp only [String.toList_append, List.append_assoc, List.append_nil]
    show (text q).run ((group 1 digits).run ((text " ").run ((group 2 (plus (one p))).run Regex.finish))) [] _ = none
    rw [hl, run_text, run_number]
    apply run_group_plus_one_none hv
    · intro m c cs hc
      exact if_neg (List.cons_ne_nil _ _)
    · intro c hc m cs
      exact if_neg (List.cons_ne_nil _ _)

/-- The pattern does not take a codec with a character that is not one of words. -/
theorem fullMatch_rtpmap_none {f : MediaFormat} (hname : Over isToken f.codec)
    (h : ¬ ∀ c ∈ f.codec.toList, isWord c = true) : RTP_MAP_REGEX.fullMatch f.rtpmap = none := by
  have hslash {p : Char → Bool} (hp : p '/' = false) (c : Char) (hc : p c = true)
      (k : Captures → List Char → Option Captures) (m : Captures) (cs : List Char) :
      (text "/").run k m (c :: cs) = none := by
    apply refuses_text_cons (d := '/') rfl
    intro heq
    rw [heq, hp] at hc
    exact nomatch hc
  unfold fullMatch
  rw [MediaFormat.toList_rtpmap]
  show (text "a=rtpmap:").run ((group 1 digits).run ((text " ").run ((group 2 words).run _))) [] _ = none
  rw [run_text, run_number]
  apply run_group_plus_one_none h
  · intro m c cs hc
    exact hslash (p := isWord) rfl c hc _ m cs
  · intro c hc m cs
    exact hslash (p := isToken) rfl c (hname.2 c hc) _ m cs

end Patterns

/-- What is known of a format before its line. -/
def RtpMap.unknown : RtpMap := ⟨0, "", 0, none⟩

/-- The line of a codec, with a name that the pattern takes. -/
def SectionLine.recognized? : SectionLine → Option RtpMap
  | .rtpmap a => if a.name.toList.all isWord then some a else none
  | _ => none

section FormatLines
variable {l : SectionLine} {a : RtpMap}

theorem SectionLine.recognized?_eq_some (h : l.recognized? = some a) :
    l = .rtpmap a ∧ ∀ c ∈ a.name.toList, isWord c = true := by
  cases l with
  | rtpmap b =>
      obtain ⟨hall, h⟩ := Option.ite_none_right_eq_some.mp (show (if _ then some b else none) = some a from h)
      obtain rfl := Option.some.inj h
      exact ⟨rfl, List.all_eq_true.mp hall⟩
  | fmtp pt params => exact nomatch h
  | rtcpFb pt value => exact nomatch h
  | other line => exact nomatch h

theorem SectionLine.recognized?_rtpmap (h : ∀ c ∈ a.name.toList, isWord c = true) :
    (SectionLine.rtpmap a).recognized? = some a := if_pos (List.all_eq_true.mpr h)

theorem stoul_toString_of_le {n : Nat} (h : ¬ n < 2 ^ 64) : stoul (toString n) = .error (.logicError "stoul") := by
  unfold stoul
  rw [toList_toString, leadingNat_toDigits]
  exact if_neg h

section Recognized
variable (hwf : (SectionLine.rtpmap a).WellFormed) (h : ∀ c ∈ a.name.toList, isWord c = true)
include hwf h

theorem readLine_of_fits (hfits : a.Fits 64) : MediaFormat.readLine {} a.line = .ok a.truncated.format := by
  obtain ⟨hrate, hchannels⟩ := hfits
  have hpt : a.pt < 2 ^ 32 := Nat.lt_of_le_of_lt hwf.1 (by decide)
  have hpt' : a.pt < 2 ^ 64 := Nat.lt_trans hpt (by decide)
  have hmatch : RTP_MAP_REGEX.fullMatch a.line = _ := MediaFormat.fullMatch_rtpmap ⟨hwf.2.1, h⟩
  unfold MediaFormat.readLine
  rw [hmatch]
  obtain ⟨pt, name, clockRate, channels⟩ := a
  unfold RtpMap.truncated RtpMap.format
  dsimp only at hpt hpt' hrate hchannels ⊢
  cases channels with
  | none =>
      simp only [Option.map_none, Option.toList_none, List.nil_append, get_cons, Nat.reduceEqDiff, if_false, if_true,
        stoul_toString hpt', stoul_toString hrate, Except.bind_ok, Nat.mod_eq_of_lt hpt]
      rfl
  | some n =>
      simp only [Option.map_some, Option.toList_some, List.singleton_append, get_cons, Nat.reduceEqDiff, if_false,
        if_true, stoul_toString hpt', stoul_toString hrate, stoul_toString (hchannels n rfl), Except.bind_ok,
        Except.map, List.lookup_cons, beq_self_eq_true, Nat.mod_eq_of_lt hpt]
      rfl

theorem readLine_of_not_fits (hfits : ¬ a.Fits 64) :
    MediaFormat.readLine {} a.line = .error (.logicError "stoul") := by
  have hpt : a.pt < 2 ^ 64 := Nat.lt_of_le_of_lt hwf.1 (by decide)
  have hmatch : RTP_MAP_REGEX.fullMatch a.line = _ := MediaFormat.fullMatch_rtpmap ⟨hwf.2.1, h⟩
  unfold MediaFormat.readLine
  rw [hmatch]
  obtain ⟨pt, name, clockRate, channels⟩ := a
  unfold RtpMap.format
  dsimp only at hpt hfits ⊢
  by_cases hrate : clockRate < 2 ^ 64
  · cases channels with
    | none =>
        refine absurd ⟨hrate, ?_⟩ hfits
        intro n hn
        exact nomatch hn
    | some n =>
        have hn : ¬ n < 2 ^ 64 := by
          intro hn
          refine hfits ⟨hrate, ?_⟩
          intro n' hn'
          exact Option.mem_some.mp hn' ▸ hn
        simp only [Option.map_some, Option.toList_some, List.singleton_append, get_cons, Nat.reduceEqDiff, if_false,
          if_true, stoul_toString hpt, stoul_toString hrate, stoul_toString_of_le hn, Except.bind_ok,
          List.lookup_cons, beq_self_eq_true]
        rfl
  · cases channels with
    | none =>
        simp only [Option.map_none, Option.toList_none, List.nil_append, get_cons, Nat.reduceEqDiff, if_false,
          if_true, stoul_toString hpt, stoul_toString_of_le hrate, Except.bind_ok]
        rfl
    | some n =>
        simp only [Option.map_some, Option.toList_some, List.singleton_append, get_cons, Nat.reduceEqDiff, if_false,
          if_true, stoul_toString hpt, stoul_toString_of_le hrate, Except.bind_ok]
        rfl

/-- What is read of a line that the pattern takes. -/
theorem readLine_recognized (b : RtpMap) :
    (∃ f, MediaFormat.readLine {} a.line = .ok f ∧ RtpMap.ofFormat f = b) ↔ a.Fits 64 ∧ b = a.truncated := by
  by_cases hfits : a.Fits 64
  · rw [readLine_of_fits hwf h hfits]
    constructor
    · intro hread
      obtain ⟨f, hf, rfl⟩ := hread
      obtain rfl := Except.ok.inj hf
      exact ⟨hfits, rfl⟩
    · intro hb
      exact ⟨_, rfl, hb.2.symm⟩
  · rw [readLine_of_not_fits hwf h hfits]
    constructor
    · intro hread
      obtain ⟨f, hf, -⟩ := hread
      exact nomatch hf
    · intro hb
      exact absurd hb.1 hfits

end Recognized

/-- Another line leaves alone what the line of the codec says. -/
theorem readLine_unrecognized (hwf : l.WellFormed) (hformat : l.inFormat = true) (h : l.recognized? = none) :
    RTP_MAP_REGEX.fullMatch l.text = none ∧
    ∀ f, ∃ f', MediaFormat.readLine f l.text = .ok f' ∧ RtpMap.ofFormat f' = RtpMap.ofFormat f := by
  cases l with
  | other line => exact nomatch hformat
  | rtpmap a =>
      have hnot : ¬ ∀ c ∈ a.name.toList, isWord c = true := by
        intro hall
        rw [SectionLine.recognized?_rtpmap hall] at h
        exact nomatch h
      have hnone : RTP_MAP_REGEX.fullMatch (SectionLine.rtpmap a).text = none := fullMatch_rtpmap_none hwf.2 hnot
      have hq : "a=rtpmap:".toList <+: (SectionLine.rtpmap a).text.toList :=
        ⟨_, (MediaFormat.toList_rtpmap _).symm⟩
      refine ⟨hnone, fun f => ⟨f, ?_, rfl⟩⟩
      unfold MediaFormat.readLine
      rw [hnone, fullMatch_of_clash (q := "a=rtpmap:") rfl hq, fullMatch_of_clash (q := "a=rtpmap:") rfl hq]
  | fmtp pt params =>
      have hpt : pt < 2 ^ 64 := Nat.lt_of_le_of_lt hwf.1 (by decide)
      have hq : "a=fmtp:".toList <+: (SectionLine.fmtp pt params).text.toList := prefix_attribute "a=fmtp:" params pt
      have hm : RTP_FMTP_REGEX.fullMatch (SectionLine.fmtp pt params).text = _ := fullMatch_attribute pt rfl hwf.2
      have hnone : RTP_MAP_REGEX.fullMatch (SectionLine.fmtp pt params).text = none :=
        fullMatch_of_clash (q := "a=fmtp:") rfl hq
      refine ⟨hnone, fun f => ?_⟩
      unfold MediaFormat.readLine
      rw [hnone, fullMatch_of_clash (q := "a=fmtp:") rfl hq, hm]
      simp only [get_cons, Nat.reduceEqDiff, if_false, if_true, stoul_toString hpt, Except.bind_ok]
      refine ⟨_, rfl, ?_⟩
      split
      · rfl
      · rfl
  | rtcpFb pt value =>
      have hq : "a=rtcp-fb:".toList <+: (SectionLine.rtcpFb pt value).text.toList := by
        show "a=rtcp-fb:".toList <+: ("a=rtcp-fb:" ++ (pt.map toString).getD "*" ++ " " ++ value).toList
        simp only [String.toList_append, List.append_assoc]
        exact List.prefix_append _ _
      have hnone : RTP_MAP_REGEX.fullMatch (SectionLine.rtcpFb pt value).text = none :=
        fullMatch_of_clash (q := "a=rtcp-fb:") rfl hq
      have hfmtp : RTP_FMTP_REGEX.fullMatch (SectionLine.rtcpFb pt value).text = none :=
        fullMatch_of_clash (q := "a=rtcp-fb:") rfl hq
      have hkeeps (hfb : RTCP_FB_REGEX.fullMatch (SectionLine.rtcpFb pt value).text = none) (f : MediaFormat) :
          ∃ f', f.readLine (SectionLine.rtcpFb pt value).text = .ok f' ∧ RtpMap.ofFormat f' = RtpMap.ofFormat f := by
        refine ⟨f, ?_, rfl⟩
        unfold MediaFormat.readLine
        rw [hnone, hfb, hfmtp]
      refine ⟨hnone, ?_⟩
      cases pt with
      | none =>
          apply hkeeps
          have hl : (SectionLine.rtcpFb none value).text.toList =
              "a=rtcp-fb:".toList ++ '*' :: (" ".toList ++ value.toList) := by
            show ("a=rtcp-fb:" ++ "*" ++ " " ++ value).toList = _
            simp only [String.toList_append, List.append_assoc]
            rfl
          unfold fullMatch
          rw [hl]
          have hstar : Refuses digits ('*' :: (" ".toList ++ value.toList)) := (refuses_one rfl).seq
          exact hstar.group.text_seq.seq.seq _ _
      | some pt =>
          have hpt : pt < 2 ^ 64 := Nat.lt_of_le_of_lt (hwf.1 pt rfl) (by decide)
          rcases fullMatch_attribute_or (q := "a=rtcp-fb:") pt (r := RTCP_FB_REGEX) rfl hwf.2.1 with hm | hm
          · exact hkeeps hm
          · intro f
            have hm' : RTCP_FB_REGEX.fullMatch (SectionLine.rtcpFb (some pt) value).text = _ := hm
            unfold MediaFormat.readLine
            rw [hnone, hm']
            simp only [get_cons, Nat.reduceEqDiff, if_false, if_true, stoul_toString hpt, Except.bind_ok]
            refine ⟨_, rfl, ?_⟩
            split
            · rfl
            · rfl

end FormatLines

/-! ## Which formats come of the lines -/

section Formats
variable {ls : List SectionLine}

theorem ofLines_append (cur : List String) (line : String) :
    MediaFormat.ofLines (cur ++ [line]) = MediaFormat.ofLines cur >>= (·.readLine line) := by
  unfold MediaFormat.ofLines
  rw [List.foldlM_append]
  cases cur.foldlM MediaFormat.readLine {} with
  | error e => rfl
  | ok f =>
      rw [Except.bind_ok, Except.bind_ok, List.foldlM_cons]
      cases f.readLine line with
      | error e => rfl
      | ok f' => rfl

theorem ofLines_singleton (line : String) : MediaFormat.ofLines [line] = MediaFormat.readLine {} line :=
  ofLines_append [] line

theorem formatsOf_cons (t : FormatReading) (line : String) (lines : List String) :
    formatsOf t (line :: lines) = formatStep t line >>= fun t' => formatsOf t' lines := by
  unfold formatsOf
  rw [List.foldlM_cons]
  cases formatStep t line with
  | error e => rfl
  | ok t' => rfl

/-- Once a format has been begun, every line that the pattern takes begins another, and the others change none. -/
theorem exists_formatsOf_iff_of_begun (h : ∀ l ∈ ls, l.WellFormed ∧ l.inFormat = true) {fs : List MediaFormat}
    {cur : List String} (hcur : cur ≠ []) {as : List RtpMap} :
    (∃ fs', formatsOf (fs, cur) (ls.map SectionLine.text) = .ok fs' ∧ fs'.map RtpMap.ofFormat = as) ↔
      ∃ f, MediaFormat.ofLines cur = .ok f ∧ (∀ a ∈ ls.filterMap SectionLine.recognized?, a.Fits 64) ∧
        as = fs.map RtpMap.ofFormat ++
          RtpMap.ofFormat f :: (ls.filterMap SectionLine.recognized?).map RtpMap.truncated := by
  induction ls generalizing fs cur with
  | nil =>
      show (∃ fs', flushFormats (fs, cur) = .ok fs' ∧ _) ↔ _
      unfold flushFormats
      rw [if_pos hcur]
      constructor
      · intro hflush
        obtain ⟨fs', hfs', rfl⟩ := hflush
        obtain ⟨f, hf, rfl⟩ := Except.of_map_ok hfs'
        refine ⟨f, hf, ?_, by simp⟩
        intro a ha
        exact nomatch ha
      · intro hread
        obtain ⟨f, hf, -, rfl⟩ := hread
        exact ⟨fs ++ [f], Except.map_ok_iff.mpr ⟨f, hf, rfl⟩, by simp⟩
  | cons l ls ih =>
      obtain ⟨hwf, hformat⟩ := h l List.mem_cons_self
      have hls : ∀ l ∈ ls, l.WellFormed ∧ l.inFormat = true := fun l' hl' => h l' (List.mem_cons_of_mem _ hl')
      rw [List.map_cons, formatsOf_cons]
      cases hrec : l.recognized? with
      | none =>
          obtain ⟨hmap, hkeep⟩ := readLine_unrecognized hwf hformat hrec
          have hstep : formatStep (fs, cur) l.text = .ok (fs, cur ++ [l.text]) := by
            unfold formatStep
            rw [hmap]
            rfl
          rw [hstep, Except.bind_ok, ih hls (by simp), ofLines_append, List.filterMap_cons_none hrec]
          constructor
          · intro hread
            obtain ⟨f', hf', hfits, rfl⟩ := hread
            obtain ⟨f, hf, hf'⟩ := Except.of_bind_ok hf'
            obtain ⟨f'', hf'', hsame⟩ := hkeep f
            obtain rfl := Except.ok.inj (hf'.symm.trans hf'')
            exact ⟨f, hf, hfits, by rw [hsame]⟩
          · intro hread
            obtain ⟨f, hf, hfits, rfl⟩ := hread
            obtain ⟨f', hf', hsame⟩ := hkeep f
            exact ⟨f', Except.bind_ok_iff.mpr ⟨f, hf, hf'⟩, hfits, by rw [hsame]⟩
      | some a =>
          obtain ⟨rfl, hword⟩ := SectionLine.recognized?_eq_some hrec
          have hread := readLine_recognized hwf hword
          have hmap : (RTP_MAP_REGEX.fullMatch (SectionLine.rtpmap a).text).isSome = true :=
            Option.isSome_iff_exists.mpr ⟨_, MediaFormat.fullMatch_rtpmap ⟨hwf.2.1, hword⟩⟩
          have hstep : formatStep (fs, cur) (SectionLine.rtpmap a).text =
              (MediaFormat.ofLines cur).map fun f => (fs ++ [f], [(SectionLine.rtpmap a).text]) := by
            unfold formatStep flushFormats
            rw [if_pos hmap, if_pos hcur]
            cases MediaFormat.ofLines cur with
            | error e => rfl
            | ok f => rfl
          rw [hstep, List.filterMap_cons_some hrec, List.forall_mem_cons, List.map_cons]
          cases hf : MediaFormat.ofLines cur with
          | error e =>
              constructor
              · intro hread
                obtain ⟨fs', hfs', -⟩ := hread
                exact nomatch hfs'
              · intro hread
                obtain ⟨f, hf', -⟩ := hread
                exact nomatch hf'
          | ok f =>
              show (∃ fs', formatsOf (fs ++ [f], [(SectionLine.rtpmap a).text]) _ = .ok fs' ∧ _) ↔ _
              rw [ih hls (List.cons_ne_nil _ _), ofLines_singleton]
              constructor
              · intro hnext
                obtain ⟨g, hg, hfits, rfl⟩ := hnext
                obtain ⟨hfit, hsame⟩ := (hread _).mp ⟨g, hg, rfl⟩
                exact ⟨f, rfl, ⟨hfit, hfits⟩, by simp [hsame]⟩
              · intro hnext
                obtain ⟨f', hf', ⟨hfit, hfits⟩, rfl⟩ := hnext
                obtain rfl := Except.ok.inj hf'
                obtain ⟨g, hg, hsame⟩ := (hread a.truncated).mpr ⟨hfit, rfl⟩
                exact ⟨g, hg, hfits, by simp [hsame]⟩

/-- Whether the first of the lines, if there is one, begins a format that the pattern takes. -/
def leads (ls : List SectionLine) : Bool := ls.head?.all fun l => l.recognized?.isSome

/-- The formats that come of the lines; one that is not known comes of those before the first. -/
theorem exists_formatsOf_iff (h : ∀ l ∈ ls, l.WellFormed ∧ l.inFormat = true) {as : List RtpMap} :
    (∃ fs, formatsOf ([], []) (ls.map SectionLine.text) = .ok fs ∧ fs.map RtpMap.ofFormat = as) ↔
      (∀ a ∈ ls.filterMap SectionLine.recognized?, a.Fits 64) ∧
        as = (if leads ls then [] else [RtpMap.unknown]) ++
          (ls.filterMap SectionLine.recognized?).map RtpMap.truncated := by
  cases ls with
  | nil =>
      constructor
      · intro hread
        obtain ⟨fs, hfs, rfl⟩ := hread
        obtain rfl := Except.ok.inj hfs
        exact ⟨fun a ha => (nomatch ha), rfl⟩
      · intro hread
        exact ⟨[], rfl, hread.2.symm⟩
  | cons l ls =>
      obtain ⟨hwf, hformat⟩ := h l List.mem_cons_self
      have hls : ∀ l ∈ ls, l.WellFormed ∧ l.inFormat = true := fun l' hl' => h l' (List.mem_cons_of_mem _ hl')
      have hstep : formatStep ([], []) l.text = .ok ([], [l.text]) := by
        unfold formatStep
        split
        · rfl
        · rfl
      rw [List.map_cons, formatsOf_cons, hstep, Except.bind_ok,
        exists_formatsOf_iff_of_begun hls (List.cons_ne_nil _ _), ofLines_singleton]
      cases hrec : l.recognized? with
      | none =>
          have hleads : leads (l :: ls) = false := by simp [leads, hrec]
          obtain ⟨f, hf, hsame⟩ := (readLine_unrecognized hwf hformat hrec).2 {}
          rw [List.filterMap_cons_none hrec, hleads, hf]
          constructor
          · intro hread
            obtain ⟨f', hf', hfits, rfl⟩ := hread
            obtain rfl := Except.ok.inj hf'
            exact ⟨hfits, by rw [hsame]; rfl⟩
          · intro hread
            obtain ⟨hfits, rfl⟩ := hread
            exact ⟨f, rfl, hfits, by rw [hsame]; rfl⟩
      | some a =>
          have hleads : leads (l :: ls) = true := by simp [leads, hrec]
          obtain ⟨rfl, hword⟩ := SectionLine.recognized?_eq_some hrec
          have hread := readLine_recognized hwf hword
          rw [List.filterMap_cons_some hrec, hleads, List.forall_mem_cons, List.map_cons]
          constructor
          · intro hnext
            obtain ⟨f, hf, hfits, rfl⟩ := hnext
            obtain ⟨hfit, hsame⟩ := (hread _).mp ⟨f, hf, rfl⟩
            exact ⟨⟨hfit, hfits⟩, by rw [hsame]; rfl⟩
          · intro hnext
            obtain ⟨⟨hfit, hfits⟩, rfl⟩ := hnext
            obtain ⟨f, hf, hsame⟩ := (hread a.truncated).mpr ⟨hfit, rfl⟩
            exact ⟨f, hf, hfits, by rw [hsame]; rfl⟩

end Formats

namespace RtpMap

variable {a : RtpMap}

theorem fits_truncated (a : RtpMap) : a.truncated.Fits 32 := by
  refine ⟨Nat.mod_lt _ (by decide), ?_⟩
  intro n hn
  obtain ⟨k, -, rfl⟩ := Option.map_eq_some_iff.mp hn
  exact Nat.mod_lt _ (by decide)

theorem truncated_eq (h : a.Fits 32) : a.truncated = a := by
  obtain ⟨pt, name, clockRate, channels⟩ := a
  obtain ⟨hrate, hchannels⟩ := h
  unfold truncated
  dsimp only at hrate hchannels ⊢
  rw [Nat.mod_eq_of_lt hrate]
  cases channels with
  | none => rfl
  | some n => rw [Option.map_some, Nat.mod_eq_of_lt (hchannels n rfl)]

theorem Fits.mono {b b' : Nat} (h : a.Fits b) (hb : b ≤ b') : a.Fits b' := by
  have hpow : 2 ^ b ≤ 2 ^ b' := Nat.pow_le_pow_right (by decide) hb
  exact ⟨Nat.lt_of_lt_of_le h.1 hpow, fun n hn => Nat.lt_of_lt_of_le (h.2 n hn) hpow⟩

end RtpMap

namespace MediaSection

/-- The sections whose formats are read: names of word characters, numbers of 32 bits, no line of a format before the
first `a=rtpmap` line, and these in the order of the `m=` line. -/
structure Supported (s : MediaSection) : Prop where
  names : ∀ a ∈ s.formats, ∀ c ∈ a.name.toList, isWord c = true
  numbers : ∀ a ∈ s.formats, a.Fits 32
  first : s.formatLines.head?.all (fun l => l.rtpmap?.isSome) = true
  order : s.body.filterMap SectionLine.rtpmap? = s.formats

variable (s : MediaSection)

theorem mem_formats_iff (a : RtpMap) : a ∈ s.formats ↔ SectionLine.rtpmap a ∈ s.body := by
  rw [← s.mapped.mem_iff, List.mem_filterMap]
  constructor
  · intro h
    obtain ⟨l, hl, ha⟩ := h
    cases l with
    | rtpmap b =>
        obtain rfl := Option.some.inj ha
        exact hl
    | fmtp pt params => exact nomatch ha
    | rtcpFb pt value => exact nomatch ha
    | other line => exact nomatch ha
  · intro h
    exact ⟨_, h, rfl⟩

theorem name_of_mem {a : RtpMap} (h : a ∈ s.formats) : Over isToken a.name :=
  (s.wellFormed _ ((s.mem_formats_iff a).mp h)).2

theorem formatLines_wellFormed : ∀ l ∈ s.formatLines, l.WellFormed ∧ l.inFormat = true := by
  intro l hl
  obtain ⟨hl, hformat⟩ := List.mem_filter.mp hl
  exact ⟨s.wellFormed l hl, hformat⟩

/-- The lines that the pattern takes are those whose names it takes. -/
theorem filterMap_recognized? : s.formatLines.filterMap SectionLine.recognized? =
    (s.body.filterMap SectionLine.rtpmap?).filter fun a => a.name.toList.all isWord := by
  unfold formatLines
  rw [List.filterMap_filter, List.filter_filterMap]
  apply List.filterMap_congr
  intro l _
  cases l with
  | rtpmap a => simp [SectionLine.recognized?, SectionLine.rtpmap?, SectionLine.inFormat, Option.filter]
  | fmtp pt params => rfl
  | rtcpFb pt value => rfl
  | other line => rfl

theorem formats_eq_iff :
    ((∀ a ∈ s.formatLines.filterMap SectionLine.recognized?, a.Fits 64) ∧
      s.formats = (if leads s.formatLines then [] else [RtpMap.unknown]) ++
        (s.formatLines.filterMap SectionLine.recognized?).map RtpMap.truncated) ↔ s.Supported := by
  rw [s.filterMap_recognized?]
  constructor
  · intro h
    obtain ⟨-, hformats⟩ := h
    have hleads : leads s.formatLines = true := by
      by_contra hleads
      rw [if_neg hleads] at hformats
      have hmem : RtpMap.unknown ∈ s.formats := by
        rw [hformats]
        exact List.mem_cons_self
      exact (s.name_of_mem hmem).1 rfl
    rw [if_pos hleads, List.nil_append] at hformats
    have hlength := congrArg List.length hformats
    rw [List.length_map, ← s.mapped.length_eq] at hlength
    have hwords := List.length_filter_eq_length_iff.mp hlength.symm
    rw [List.filter_eq_self.mpr hwords] at hformats
    have hfits : ∀ a ∈ s.formats, a.Fits 32 := by
      intro a ha
      rw [hformats] at ha
      obtain ⟨b, -, rfl⟩ := List.mem_map.mp ha
      exact b.fits_truncated
    have hsame : (s.body.filterMap SectionLine.rtpmap?).map RtpMap.truncated =
        s.body.filterMap SectionLine.rtpmap? := by
      rw [List.map_congr_left fun a ha => RtpMap.truncated_eq (hfits a (s.mapped.mem_iff.mp ha)), List.map_id']
    refine ⟨?_, hfits, ?_, (hformats.trans hsame).symm⟩
    · intro a ha
      exact List.all_eq_true.mp (hwords a (s.mapped.mem_iff.mpr ha))
    · cases hhead : s.formatLines.head? with
      | none => rfl
      | some l =>
          unfold leads at hleads
          rw [hhead] at hleads
          obtain ⟨a, ha⟩ := Option.isSome_iff_exists.mp (show l.recognized?.isSome = true from hleads)
          obtain ⟨rfl, -⟩ := SectionLine.recognized?_eq_some ha
          rfl
  · intro h
    have hwords : ∀ a ∈ s.body.filterMap SectionLine.rtpmap?, a.name.toList.all isWord = true := by
      intro a ha
      exact List.all_eq_true.mpr (h.names a (s.mapped.mem_iff.mp ha))
    have hleads : leads s.formatLines = true := by
      unfold leads
      cases hhead : s.formatLines.head? with
      | none => rfl
      | some l =>
          have hfirst := h.first
          rw [hhead] at hfirst
          cases l with
          | rtpmap a =>
              have hmem := (List.mem_filter.mp (List.mem_of_mem_head? hhead)).1
              have hword := h.names a ((s.mem_formats_iff a).mpr hmem)
              rw [Option.all_some, SectionLine.recognized?_rtpmap hword, Option.isSome_some]
          | fmtp pt params => exact nomatch hfirst
          | rtcpFb pt value => exact nomatch hfirst
          | other line => exact nomatch hfirst
    rw [List.filter_eq_self.mpr hwords, if_pos hleads, h.order, List.nil_append]
    refine ⟨fun a ha => (h.numbers a ha).mono (by decide), ?_⟩
    rw [List.map_congr_left fun a ha => RtpMap.truncated_eq (h.numbers a ha), List.map_id']

end MediaSection

/-! ## Printing -/

/-- Whether a line gives the codec of a payload type. -/
def isRtpmapLine (line : String) : Bool := "a=rtpmap:".toList.isPrefixOf line.toList

section Printing
variable {line q : String} {m : MediaDescription} {f : MediaFormat}

theorem not_isRtpmapLine (hclash : clash "a=rtpmap:".toList q.toList = true) (hq : q.toList <+: line.toList) :
    ¬ isRtpmapLine line = true := by
  intro h
  obtain ⟨cs, hcs⟩ := hq
  have hprefix := List.isPrefixOf_iff_prefix.mp h
  rw [← hcs] at hprefix
  exact not_prefix_of_clash hclash hprefix

/-- Of the lines of a format the first gives its codec. -/
theorem MediaFormat.filter_isRtpmapLine (h : NoNul f.codec) :
    f.lines.filter isRtpmapLine = [(RtpMap.ofFormat f).line] := by
  have hfirst : f.lines = (RtpMap.ofFormat f).line ::
      (f.fbTypes.map (fun fbType => "a=rtcp-fb:" ++ toString f.pt ++ " " ++ cStr fbType) ++
        f.fmtParams.map fun fmtParam => "a=fmtp:" ++ toString f.pt ++ " " ++ cStr fmtParam) := by
    obtain ⟨pt, codec, clockRate, channels, fbTypes, fmtParams⟩ := f
    unfold MediaFormat.lines
    rw [cStr_eq h]
    cases channels with
    | none => simp [RtpMap.line, RtpMap.format, RtpMap.ofFormat, MediaFormat.rtpmap, MediaFormat.channelsText]
    | some n =>
        simp [RtpMap.line, RtpMap.format, RtpMap.ofFormat, MediaFormat.rtpmap, MediaFormat.channelsText,
          String.append_assoc]
  have hline : isRtpmapLine (RtpMap.ofFormat f).line = true :=
    List.isPrefixOf_iff_prefix.mpr ⟨_, (MediaFormat.toList_rtpmap _).symm⟩
  have hrest : (f.fbTypes.map (fun fbType => "a=rtcp-fb:" ++ toString f.pt ++ " " ++ cStr fbType) ++
      f.fmtParams.map fun fmtParam => "a=fmtp:" ++ toString f.pt ++ " " ++ cStr fmtParam).filter isRtpmapLine = [] := by
    apply List.filter_eq_nil_iff.mpr
    intro line hline
    rcases List.mem_append.mp hline with hline | hline
    · obtain ⟨fbType, -, rfl⟩ := List.mem_map.mp hline
      exact not_isRtpmapLine (q := "a=rtcp-fb:") rfl (prefix_attribute _ _ _)
    · obtain ⟨fmtParam, -, rfl⟩ := List.mem_map.mp hline
      exact not_isRtpmapLine (q := "a=fmtp:") rfl (prefix_attribute _ _ _)
  rw [hfirst, List.filter_cons_of_pos hline, hrest]

theorem SSRCDescription.not_isRtpmapLine_of_mem {d : SSRCDescription} (h : line ∈ d.lines) :
    ¬ isRtpmapLine line = true := by
  unfold SSRCDescription.lines at h
  rcases List.mem_append.mp h with h | h
  · obtain ⟨-, h⟩ := List.mem_ite_nil_right.mp h
    obtain rfl := List.mem_singleton.mp h
    exact not_isRtpmapLine (q := "a=ssrc-group:FID ") rfl (MediaReading.prefix_append _ _)
  · obtain ⟨s, -, h⟩ := List.mem_flatMap.mp h
    unfold SSRCAttributes.lines at h
    rcases List.mem_append.mp h with h | h
    · obtain ⟨-, h⟩ := List.mem_ite_nil_right.mp h
      obtain rfl := List.mem_singleton.mp h
      apply not_isRtpmapLine (q := "a=ssrc:") rfl
      simp only [String.toList_append, List.append_assoc, List.prefix_append]
    · obtain ⟨-, h⟩ := List.mem_ite_nil_right.mp h
      obtain rfl := List.mem_singleton.mp h
      apply not_isRtpmapLine (q := "a=ssrc:") rfl
      simp only [String.toList_append, List.append_assoc, List.prefix_append]

/-- The lines that give a codec are those of the formats. -/
theorem MediaDescription.filter_isRtpmapLine (hice : ∀ line ∈ m.iceOtherLines, "a=ice-".toList <+: line.toList)
    (hrtcp : ∀ line ∈ m.rtcpOtherLines, "a=rtcp-".toList <+: line.toList) (h : ∀ f ∈ m.mediaFormats, NoNul f.codec) :
    m.lines.filter isRtpmapLine = m.mediaFormats.map fun f => (RtpMap.ofFormat f).line := by
  have hmLine : ¬ isRtpmapLine m.mLine = true := by
    apply not_isRtpmapLine (q := "m=") rfl
    simp only [MediaDescription.mLine, String.toList_append, List.append_assoc, List.prefix_append]
  have hformats : (m.mediaFormats.flatMap MediaFormat.lines).filter isRtpmapLine =
      m.mediaFormats.map fun f => (RtpMap.ofFormat f).line := by
    rw [List.filter_flatMap, List.map_eq_flatMap]
    exact List.flatMap_congr fun f hf => MediaFormat.filter_isRtpmapLine (h f hf)
  have hssrcs : ((m.ssrcDescription.map SSRCDescription.lines).getD []).filter isRtpmapLine = [] := by
    apply List.filter_eq_nil_iff.mpr
    intro line hline
    cases hd : m.ssrcDescription with
    | none =>
        rw [hd] at hline
        exact absurd hline List.not_mem_nil
    | some d =>
        rw [hd] at hline
        exact SSRCDescription.not_isRtpmapLine_of_mem hline
  unfold MediaDescription.lines MediaDescription.attributes
  rw [List.filter_cons_of_neg hmLine, List.filter_append, List.filter_append, hformats, hssrcs, List.append_nil]
  rw [List.append_left_eq_self, List.filter_eq_nil_iff]
  intro line hline
  simp only [List.mem_append, List.mem_map, Option.mem_toList, Option.map_eq_some_iff] at hline
  rcases hline with ((((((((((⟨c, -, rfl⟩ | ⟨c, -, rfl⟩) | ⟨c, -, rfl⟩) | ⟨s, -, rfl⟩) | ⟨s, -, rfl⟩) | hline) |
    ⟨s, -, rfl⟩) | ⟨e, -, rfl⟩) | ⟨d, -, rfl⟩) | ⟨i, -, rfl⟩) | hline)
  · apply not_isRtpmapLine (q := "c=") rfl
    simp only [ConnectionData.line, String.toList_append, List.append_assoc, List.prefix_append]
  · apply not_isRtpmapLine (q := "a=rtcp:") rfl
    simp only [RTCPConfiguration.line, String.toList_append, List.append_assoc, List.prefix_append]
  · apply not_isRtpmapLine (q := "a=candidate:") rfl
    unfold ICECandidate.line
    dsimp only
    split
    · simp only [String.toList_append, List.append_assoc, List.prefix_append]
    · simp only [String.toList_append, List.append_assoc, List.prefix_append]
  · exact not_isRtpmapLine (q := "a=ice-ufrag:") rfl (MediaReading.prefix_append _ _)
  · exact not_isRtpmapLine (q := "a=ice-pwd:") rfl (MediaReading.prefix_append _ _)
  · exact not_isRtpmapLine (q := "a=ice-") rfl (hice line hline)
  · exact not_isRtpmapLine (q := "a=mid:") rfl (MediaReading.prefix_append _ _)
  · apply not_isRtpmapLine (q := "a=extmap:") rfl
    simp only [RTPExtension.line, String.toList_append, List.append_assoc, List.prefix_append]
  · cases d with
    | sendrecv => exact not_isRtpmapLine (q := "a=sendrecv") rfl List.prefix_rfl
    | sendonly => exact not_isRtpmapLine (q := "a=sendonly") rfl List.prefix_rfl
    | recvonly => exact not_isRtpmapLine (q := "a=recvonly") rfl List.prefix_rfl
    | inactive => exact not_isRtpmapLine (q := "a=inactive") rfl List.prefix_rfl
  · apply not_isRtpmapLine (q := "a=msid:") rfl
    simp only [MediaStreamIdentifier.line, String.toList_append, List.append_assoc, List.prefix_append]
  · exact not_isRtpmapLine (q := "a=rtcp-") rfl (hrtcp line hline)

end Printing

/-! ## Lines that are kept as they are -/

namespace MediaReading

variable {r r' : MediaReading} {line : String}

def KeepsOthers (r : MediaReading) : Prop :=
  (∀ line ∈ r.media.iceOtherLines, "a=ice-".toList <+: line.toList) ∧
    ∀ line ∈ r.media.rtcpOtherLines, "a=rtcp-".toList <+: line.toList

theorem KeepsOthers.flush (hr : r.KeepsOthers) (h : r.flush = .ok r') : r'.KeepsOthers := by
  unfold MediaReading.flush at h
  split at h
  · obtain ⟨format, -, h⟩ := Except.of_bind_ok h
    obtain rfl := Except.ok.inj h
    exact hr
  · obtain rfl := Except.ok.inj h
    exact hr

theorem KeepsOthers.readLine (hr : r.KeepsOthers) (h : r.readLine line = .ok r') : r'.KeepsOthers := by
  cases readLine_step h with
  | rtpmap _ _ hflush =>
      have hkeeps : KeepsOthers _ := hr.flush hflush
      exact hkeeps
  | iceOther hm =>
      obtain ⟨p, hp, hq⟩ := exists_head hm
      have hheads : ∀ p ∈ ICE_OTHER_REGEX.heads, "a=ice-".toList <+: p := by decide
      refine ⟨List.forall_mem_append.mpr ⟨hr.1, ?_⟩, hr.2⟩
      exact List.forall_mem_singleton.mpr ((hheads p hp).trans hq)
  | rtcpOther hm =>
      obtain ⟨p, hp, hq⟩ := exists_head hm
      have hheads : ∀ p ∈ RTCP_OTHER_REGEX.heads, "a=rtcp-".toList <+: p := by decide
      refine ⟨hr.1, List.forall_mem_append.mpr ⟨hr.2, ?_⟩⟩
      exact List.forall_mem_singleton.mpr ((hheads p hp).trans hq)
  | _ => exact hr

end MediaReading

theorem MediaDescription.keepsOthers_of_ofLines {lines : List String} {m : MediaDescription}
    (h : ofLines lines = .ok m) : (∀ line ∈ m.iceOtherLines, "a=ice-".toList <+: line.toList) ∧
      ∀ line ∈ m.rtcpOtherLines, "a=rtcp-".toList <+: line.toList := by
  unfold ofLines at h
  obtain ⟨r, hr, h⟩ := Except.of_bind_ok h
  have hstart : MediaReading.KeepsOthers { media := { type := .audio } } :=
    ⟨fun l hl => (nomatch hl), fun l hl => (nomatch hl)⟩
  have hread : r.KeepsOthers := Except.of_foldlM_ok hr hstart fun _ _ _ _ hr h => hr.readLine h
  unfold MediaReading.finish at h
  obtain ⟨r', hr', h⟩ := Except.of_bind_ok h
  obtain ⟨candidates, -, h⟩ := Except.of_bind_ok h
  obtain ⟨ssrcs, -, h⟩ := Except.of_bind_ok h
  obtain rfl := Except.ok.inj h
  exact hread.flush hr'

/-! ## Sections whose payload types are kept -/

/-- A description has the formats of a section, in its order, and prints them. -/
structure MediaDescription.Lists (m : MediaDescription) (s : MediaSection) : Prop where
  formats : m.mediaFormats.map RtpMap.ofFormat = s.formats
  mLine : m.mLine = "m=" ++ stringFromType m.type ++ " " ++ toString m.port.toNat ++ " " ++ cStr m.protocols ++ " " ++
    numbers (s.formats.map (·.pt))
  rtpmaps : m.lines.filter isRtpmapLine = s.formats.map RtpMap.line

namespace MediaSection

variable (s : MediaSection)

theorem isFormat_text {l : SectionLine} (h : l.WellFormed) : isFormat l.text = l.inFormat := by
  cases l with
  | other line => exact h
  | rtpmap a =>
      have hm := MediaReading.fullMatch_mediaFormat_rtpmap (f := a.format) (h.2.isDot rfl rfl)
      exact Option.isSome_iff_exists.mpr ⟨_, hm⟩
  | fmtp pt params =>
      have hm := MediaReading.fullMatch_mediaFormat_attribute (w := "fmtp") (by decide)
        (MediaReading.isDot_toString pt) h.2.2
      exact Option.isSome_iff_exists.mpr ⟨_, hm⟩
  | rtcpFb pt value =>
      have hpt : ∀ c ∈ ((pt.map toString).getD "*").toList, isDot c = true := by
        cases pt with
        | none => exact (show Over isDot "*" by decide).2
        | some n => exact MediaReading.isDot_toString n
      have hm := MediaReading.fullMatch_mediaFormat_attribute (w := "rtcp-fb") (by decide) hpt h.2.2
      exact Option.isSome_iff_exists.mpr ⟨_, hm⟩

theorem not_isFormat_mLine : isFormat s.mLine = false := by
  have hq : "m=".toList <+: s.mLine.toList := by
    simp only [mLine, String.toList_append, List.append_assoc, List.prefix_append]
  have hm : MEDIA_FORMAT_REGEX.fullMatch s.mLine = none := fullMatch_of_clash (q := "m=") rfl hq
  unfold isFormat
  rw [hm]
  rfl

theorem filter_isFormat_lines : s.lines.filter isFormat = s.formatLines.map SectionLine.text := by
  unfold lines formatLines
  rw [List.filter_cons_of_neg (by simp [s.not_isFormat_mLine]), List.filter_map]
  refine congrArg _ (List.filter_congr ?_)
  intro l hl
  exact isFormat_text (s.wellFormed l hl)

theorem filter_not_isFormat_lines : s.lines.filter (!isFormat ·) = s.otherLines := by
  unfold lines otherLines
  rw [List.filter_cons_of_pos (by simp [s.not_isFormat_mLine]), List.filter_map]
  refine congrArg (fun ls => s.mLine :: ls.map SectionLine.text) (List.filter_congr ?_)
  intro l hl
  show (!isFormat l.text) = !l.inFormat
  rw [isFormat_text (s.wellFormed l hl)]

/-- What is printed follows from the formats that are read. -/
theorem lists_of_formats {m : MediaDescription} {lines : List String} (h : MediaDescription.ofLines lines = .ok m)
    (hformats : m.mediaFormats.map RtpMap.ofFormat = s.formats) : m.Lists s := by
  obtain ⟨hice, hrtcp⟩ := MediaDescription.keepsOthers_of_ofLines h
  have hnames : ∀ f ∈ m.mediaFormats, NoNul f.codec := by
    intro f hf
    have hmem : RtpMap.ofFormat f ∈ s.formats := hformats ▸ List.mem_map_of_mem hf
    exact (s.name_of_mem hmem).noNul rfl
  have hpts : payloadTypesString m.mediaFormats = numbers (s.formats.map (·.pt)) := by
    rw [← hformats, numbers, List.map_map, List.map_map]
    rfl
  have hdots : NoNul (numbers (s.formats.map (·.pt))) := by
    cases s.formats with
    | nil => decide
    | cons a as =>
        have hdigit (c : Char) (hc : c.isDigit = true) : isPayloadTypes c = true := by simp [isPayloadTypes, hc]
        have hover : Over isPayloadTypes (numbers (a.pt :: as.map (·.pt))) := over_numbers hdigit rfl _ _
        exact hover.noNul rfl
  refine ⟨hformats, ?_, ?_⟩
  · unfold MediaDescription.mLine
    rw [hpts, cStr_eq hdots]
  · rw [MediaDescription.filter_isRtpmapLine hice hrtcp hnames, ← hformats, List.map_map]
    rfl

/-- Where the other lines are ones that are read, the payload types of a section are kept just when it is
supported. -/
theorem lists_iff (hread : ∃ m₀, MediaDescription.ofLines s.otherLines = .ok m₀) :
    (∃ m, MediaDescription.ofLines s.lines = .ok m ∧ m.Lists s) ↔ s.Supported := by
  obtain ⟨m₀, hm₀⟩ := hread
  have hiff : (∃ fs, formatsOf ([], []) (s.formatLines.map SectionLine.text) = .ok fs ∧
      fs.map RtpMap.ofFormat = s.formats) ↔ _ := exists_formatsOf_iff s.formatLines_wellFormed
  rw [s.formats_eq_iff] at hiff
  rw [← hiff]
  constructor
  · intro h
    obtain ⟨m, hm, hlists⟩ := h
    obtain ⟨m₁, fs, -, hfs, rfl⟩ := MediaDescription.ofLines_iff_formats.mp hm
    rw [s.filter_isFormat_lines] at hfs
    exact ⟨fs, hfs, hlists.formats⟩
  · intro h
    obtain ⟨fs, hfs, hformats⟩ := h
    have hm : MediaDescription.ofLines s.lines = .ok (m₀.withFormats fs) := by
      rw [MediaDescription.ofLines_iff_formats, s.filter_isFormat_lines, s.filter_not_isFormat_lines]
      exact ⟨m₀, fs, hm₀, hfs, rfl⟩
    exact ⟨_, hm, s.lists_of_formats hm hformats⟩

/-- Opus, and a second payload type of this name. -/
def telephone (name : String) (h : Over isToken name) : MediaSection where
  type := .audio
  port := 9
  protocols := "UDP/TLS/RTP/SAVPF"
  formats := [⟨111, "opus", 48000, some 2⟩, ⟨126, name, 8000, none⟩]
  body := [.rtpmap ⟨111, "opus", 48000, some 2⟩, .rtcpFb (some 111) "transport-cc", .rtpmap ⟨126, name, 8000, none⟩]
  wellFormed := by
    intro l hl
    simp only [List.mem_cons, List.not_mem_nil, or_false] at hl
    rcases hl with rfl | rfl | rfl
    · exact ⟨by decide, by decide⟩
    · exact ⟨by decide, by decide⟩
    · exact ⟨show 126 ≤ 127 by decide, h⟩
  mapped := .refl _

theorem telephone_otherLines (name : String) (h : Over isToken name) :
    ∃ m₀, MediaDescription.ofLines (telephone name h).otherLines = .ok m₀ := by
  have hread : (MediaDescription.ofLines ["m=audio 9 UDP/TLS/RTP/SAVPF 111 126"]).toOption.isSome = true := by
    decide +kernel
  have hlines : (telephone name h).otherLines = ["m=audio 9 UDP/TLS/RTP/SAVPF 111 126"] := by
    have hmLine : "m=" ++ "audio" ++ " " ++ toString 9 ++ " " ++ "UDP/TLS/RTP/SAVPF" ++ " " ++ numbers [111, 126] =
        "m=audio 9 UDP/TLS/RTP/SAVPF 111 126" := by
      decide
    exact congrArg (fun line => [line]) hmLine
  rw [hlines]
  cases hm : MediaDescription.ofLines ["m=audio 9 UDP/TLS/RTP/SAVPF 111 126"] with
  | error e =>
      rw [hm] at hread
      exact nomatch hread
  | ok m₀ => exact ⟨m₀, rfl⟩

theorem lists_iff_telephone : (∃ m, MediaDescription.ofLines (telephone "PCMU" (by decide)).lines = .ok m ∧
    m.Lists (telephone "PCMU" (by decide))) ↔ (telephone "PCMU" (by decide)).Supported :=
  lists_iff _ (telephone_otherLines _ _)

/-- A hyphen in the name loses the payload type. -/
theorem not_lists_telephone :
    (∃ m₀, MediaDescription.ofLines (telephone "telephone-event" (by decide)).otherLines = .ok m₀) ∧
    ¬ ∃ m, MediaDescription.ofLines (telephone "telephone-event" (by decide)).lines = .ok m ∧
      m.Lists (telephone "telephone-event" (by decide)) := by
  refine ⟨telephone_otherLines _ _, ?_⟩
  have hread : (MediaDescription.ofLines (telephone "telephone-event" (by decide)).lines).toOption.map
      (fun m => m.mediaFormats.map (·.pt)) = some [111] := by
    decide +kernel
  intro h
  obtain ⟨m, hm, hlists⟩ := h
  rw [hm] at hread
  have hpts : (m.mediaFormats.map RtpMap.ofFormat).map (·.pt) = [111] := by
    rw [List.map_map]
    exact Option.some.inj hread
  rw [hlists.formats] at hpts
  exact absurd hpts (by decide)

end MediaSection

end Sdp

end Scallop
