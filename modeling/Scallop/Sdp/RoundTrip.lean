import Scallop.Sdp.Lines

/-!
# Descriptions that read back

* `MediaReading.readLine_eq` : the branch that a line takes; one lemma for each kind of line;
* `MediaDescription.ofLines_lines` : a media section reads back, without its unrecognised lines,
  which are not printed;
* `SessionDescription.ofLines_lines_printed` : and so does a description.
-/

namespace Scallop

namespace Sdp

open Regex

/-! ## Media sections -/

/-- Every part is well formed; there is a format, and a mid. -/
structure MediaDescription.WellFormed (m : MediaDescription) : Prop where
  protocols : Over isProtocols m.protocols
  connectionData : ∀ c ∈ m.connectionData, c.WellFormed
  rtcpConfiguration : ∀ c ∈ m.rtcpConfiguration, c.WellFormed
  iceCandidates : ∀ c ∈ m.iceCandidates, c.WellFormed
  someFormat : m.mediaFormats ≠ []
  mediaFormats : ∀ f ∈ m.mediaFormats, f.WellFormed
  iceUfrag : ∀ iceUfrag ∈ m.iceUfrag, Over isIce iceUfrag
  icePwd : ∀ icePwd ∈ m.icePwd, Over isIce icePwd
  iceOtherLines : ∀ line ∈ m.iceOtherLines, (ICE_OTHER_REGEX.fullMatch line).isSome ∧
    ICE_UFRAG_REGEX.fullMatch line = none ∧ ICE_PWD_REGEX.fullMatch line = none
  mid : ∃ mid, m.mid = some mid ∧ Over isWord mid
  extensions : ∀ e ∈ m.extensions, e.WellFormed
  msid : ∀ i ∈ m.msid, i.WellFormed
  rtcpOtherLines : ∀ line ∈ m.rtcpOtherLines, (RTCP_OTHER_REGEX.fullMatch line).isSome
  ssrcDescription : ∀ d ∈ m.ssrcDescription, d.WellFormed

/-- As a section is read: the first format may have no codec, and SSRCs may have no attributes. -/
structure MediaDescription.Readable (m : MediaDescription) : Prop where
  protocols : Over isProtocols m.protocols
  connectionData : ∀ c ∈ m.connectionData, c.WellFormed
  rtcpConfiguration : ∀ c ∈ m.rtcpConfiguration, c.WellFormed
  iceCandidates : ∀ c ∈ m.iceCandidates, c.WellFormed
  someFormat : m.mediaFormats ≠ []
  mediaFormats : ∀ f ∈ m.mediaFormats, f.Readable
  codecs : ∀ f ∈ m.mediaFormats.tail, f.codec ≠ ""
  iceUfrag : ∀ iceUfrag ∈ m.iceUfrag, Over isIce iceUfrag
  icePwd : ∀ icePwd ∈ m.icePwd, Over isIce icePwd
  iceOtherLines : ∀ line ∈ m.iceOtherLines, (ICE_OTHER_REGEX.fullMatch line).isSome ∧
    ICE_UFRAG_REGEX.fullMatch line = none ∧ ICE_PWD_REGEX.fullMatch line = none
  mid : ∃ mid, m.mid = some mid ∧ Over isWord mid
  extensions : ∀ e ∈ m.extensions, e.WellFormed
  msid : ∀ i ∈ m.msid, i.WellFormed
  rtcpOtherLines : ∀ line ∈ m.rtcpOtherLines, (RTCP_OTHER_REGEX.fullMatch line).isSome
  ssrcDescription : ∀ d ∈ m.ssrcDescription, d.Readable ∧ d.lines ≠ []

theorem MediaDescription.WellFormed.readable {m : MediaDescription} (h : m.WellFormed) : m.Readable :=
  { h with
    mediaFormats := fun f hf => (h.mediaFormats f hf).readable
    codecs := fun f hf => (h.mediaFormats f (List.mem_of_mem_tail hf)).codec.1
    ssrcDescription := fun d hd =>
      ⟨(h.ssrcDescription d hd).readable, SSRCDescription.lines_ne_nil (h.ssrcDescription d hd)⟩ }

namespace MediaReading

variable {re : Regex} {branch : MediaBranch} {line q : String} {m : Captures} {i : Nat}
variable (r : MediaReading)

/-- A line takes the branch of its pattern, if the patterns before begin differently. -/
theorem readLine_eq (hi : mediaBranches[i]? = some (re, branch))
    (hbefore : (mediaBranches.take i).all (fun b => b.1.clashes q) = true)
    (hq : q.toList <+: line.toList) (hm : re.fullMatch line = some m) :
    r.readLine line = branch m line r := by
  unfold readLine
  rw [firstMatch_eq hi hbefore hq hm]

theorem readLine_connectionData {c : ConnectionData} (h : c.WellFormed) :
    r.readLine c.line = .ok { r with media := { r.media with connectionData := some c } } := by
  rw [r.readLine_eq (i := 1) (q := "c=") rfl rfl ⟨_, (ConnectionData.toList_line h).symm⟩
    (ConnectionData.fullMatch_line h)]
  show Except.ok { r with media := { r.media with
    connectionData := some (ConnectionData.ofLine c.line) } } = _
  rw [ConnectionData.ofLine_line h]

theorem readLine_rtcpConfiguration {c : RTCPConfiguration} (h : c.WellFormed) :
    r.readLine c.line = .ok { r with media := { r.media with rtcpConfiguration := some c } } := by
  obtain ⟨hread, m, hm⟩ := RTCPConfiguration.ofLine_line h
  rw [r.readLine_eq (i := 2) (q := "a=rtcp:") rfl rfl
    ⟨_, (RTCPConfiguration.toList_line c).symm⟩ hm]
  show (RTCPConfiguration.ofLine c.line).map _ = _
  rw [hread]
  rfl

theorem readLine_iceCandidate {c : ICECandidate} (h : c.WellFormed) :
    r.readLine c.line = .ok { r with iceCandidateLines := r.iceCandidateLines ++ [c.line] } := by
  rw [r.readLine_eq (i := 9) (q := "a=candidate:") rfl rfl
    ⟨_, (ICECandidate.toList_line h).symm⟩ (ICECandidate.fullMatch_line h)]

theorem readLine_extension {e : RTPExtension} (h : e.WellFormed) :
    r.readLine e.line =
      .ok { r with media := { r.media with extensions := r.media.extensions ++ [e] } } := by
  rw [r.readLine_eq (i := 6) (q := "a=extmap:") rfl rfl
    ⟨_, (RTPExtension.toList_line h).symm⟩ (RTPExtension.fullMatch_line h)]
  show (RTPExtension.ofLine e.line).map _ = _
  rw [RTPExtension.ofLine_line h]
  rfl

theorem readLine_msid {i : MediaStreamIdentifier} (h : i.WellFormed) :
    r.readLine i.line = .ok { r with media := { r.media with msid := some i } } := by
  rw [r.readLine_eq (i := 7) (q := "a=msid:") rfl rfl
    ⟨_, (MediaStreamIdentifier.toList_line i).symm⟩ (MediaStreamIdentifier.fullMatch_line h)]
  show Except.ok { r with media := { r.media with
    msid := some (MediaStreamIdentifier.ofLine i.line) } } = _
  rw [MediaStreamIdentifier.ofLine_line h]

theorem fullMatch_value {value : String} {p : Char → Bool}
    (hre : re = text q ++ group 1 (plus (one p))) (h : Over p value) :
    re.fullMatch (q ++ value) = some [(1, value.toList)] := by
  subst hre
  have hl : (q ++ value).toList = q.toList ++ (value.toList ++ []) := by
    rw [String.toList_append, List.append_nil]
  apply Eats.fullMatch
  rw [hl]
  exact (eats_text q).seq (eats_over h stops_nil).group

theorem prefix_append (q value : String) : q.toList <+: (q ++ value).toList := by
  rw [String.toList_append]
  exact List.prefix_append _ _

theorem readLine_iceUfrag {s : String} (h : Over isIce s) :
    r.readLine ("a=ice-ufrag:" ++ cStr s) =
      .ok { r with media := { r.media with iceUfrag := some s } } := by
  rw [cStr_eq (h.noNul rfl), r.readLine_eq (i := 3) (q := "a=ice-ufrag:") rfl rfl
    (prefix_append _ _) (fullMatch_value rfl h)]
  simp only [get_cons, if_true]

theorem readLine_icePwd {s : String} (h : Over isIce s) :
    r.readLine ("a=ice-pwd:" ++ cStr s) =
      .ok { r with media := { r.media with icePwd := some s } } := by
  rw [cStr_eq (h.noNul rfl), r.readLine_eq (i := 4) (q := "a=ice-pwd:") rfl rfl
    (prefix_append _ _) (fullMatch_value rfl h)]
  simp only [get_cons, if_true]

theorem readLine_mid {s : String} (h : Over isWord s) :
    r.readLine ("a=mid:" ++ cStr s) = .ok { r with media := { r.media with mid := some s } } := by
  rw [cStr_eq (h.noNul rfl), r.readLine_eq (i := 5) (q := "a=mid:") rfl rfl
    (prefix_append _ _) (fullMatch_value rfl h)]
  simp only [get_cons, if_true]

theorem readLine_direction (d : Direction) :
    r.readLine ("a=" ++ directionString d) =
      .ok { r with media := { r.media with direction := some d } } := by
  have hmem : directionString d ∈ ["sendrecv", "sendonly", "recvonly", "inactive"] := by
    cases d <;> decide
  have hm : DIRECTION_REGEX.fullMatch ("a=" ++ directionString d) =
      some [(1, (directionString d).toList)] := by
    have hl : ("a=" ++ directionString d).toList =
        "a=".toList ++ ((directionString d).toList ++ []) := by
      rw [String.toList_append, List.append_nil]
    apply Eats.fullMatch
    rw [hl]
    exact (eats_text "a=").seq (eats_anyOf hmem (by decide)).group
  have hread : directionFromString (directionString d) = .ok d := by
    cases d <;> rfl
  rw [r.readLine_eq (i := 8) (q := "a=" ++ directionString d) rfl (by cases d <;> decide)
    (List.prefix_rfl) hm]
  simp only [get_cons, if_true]
  rw [hread]
  rfl

/-- A match of a pattern begins with one of its heads. -/
theorem exists_beginning {re : Regex} (h : (re.fullMatch line).isSome) :
    ∃ p ∈ re.heads, p <+: line.toList := by
  obtain ⟨m, hm⟩ := Option.isSome_iff_exists.mp h
  exact exists_head hm

theorem readLine_iceOther (h : (ICE_OTHER_REGEX.fullMatch line).isSome ∧
    ICE_UFRAG_REGEX.fullMatch line = none ∧ ICE_PWD_REGEX.fullMatch line = none) :
    r.readLine line =
      .ok { r with media := { r.media with iceOtherLines := r.media.iceOtherLines ++ [line] } } := by
  obtain ⟨hsome, hufrag, hpwd⟩ := h
  obtain ⟨p, hp, hq⟩ := exists_beginning hsome
  obtain rfl := List.mem_singleton.mp hp
  obtain ⟨m, hm⟩ := Option.isSome_iff_exists.mp hsome
  have hnone (re : Regex) (h : re.clashes "a=ice-" = true) : re.fullMatch line = none :=
    fullMatch_of_clash h hq
  unfold readLine
  have hfirst : firstMatch mediaBranches line = firstMatch (mediaBranches.drop 12) line := by
    simp only [mediaBranches, firstMatch, List.drop, hufrag, hpwd, hnone M_LINE_REGEX rfl,
      hnone C_LINE_REGEX rfl, hnone RTCP_REGEX rfl, hnone MID_REGEX rfl, hnone EXTMAP_REGEX rfl,
      hnone MSID_REGEX rfl, hnone DIRECTION_REGEX rfl, hnone ICE_CANDIDATE_REGEX rfl,
      hnone SSRC_REGEX rfl, hnone MEDIA_FORMAT_REGEX rfl]
  rw [hfirst]
  simp only [mediaBranches, List.drop, firstMatch, hm]

theorem readLine_rtcpOther (h : (RTCP_OTHER_REGEX.fullMatch line).isSome) :
    r.readLine line =
      .ok { r with media := { r.media with rtcpOtherLines := r.media.rtcpOtherLines ++ [line] } } := by
  obtain ⟨p, hp, hq⟩ := exists_beginning h
  obtain ⟨m, hm⟩ := Option.isSome_iff_exists.mp h
  have hcases : p = "a=rtcp-mux".toList ∨ p = "a=rtcp-rsize".toList := by
    have hheads : RTCP_OTHER_REGEX.heads = ["a=rtcp-mux".toList, "a=rtcp-rsize".toList] := by
      decide
    exact List.mem_pair.mp (hheads ▸ hp)
  rcases hcases with rfl | rfl
  · rw [r.readLine_eq (i := 13) (q := "a=rtcp-mux") rfl rfl hq hm]
  · rw [r.readLine_eq (i := 13) (q := "a=rtcp-rsize") rfl rfl hq hm]

/-! ### Formats -/

theorem isDot_toString (n : Nat) : ∀ c ∈ (toString n).toList, isDot c = true :=
  ((over_toString n).isDot rfl rfl).2

theorem fullMatch_mediaFormat {w value : String} (hw : w ∈ ["rtpmap", "rtcp-fb", "fmtp"])
    (hv : Over isDot value)
    (hl : line.toList = "a=".toList ++ (w.toList ++ (value.toList ++ []))) :
    MEDIA_FORMAT_REGEX.fullMatch line = some [] := by
  apply Eats.fullMatch
  rw [hl]
  exact ((eats_text "a=").seq (eats_anyOf hw (by decide))).seq (eats_over hv stops_nil)

theorem fullMatch_mediaFormat_rtpmap {f : MediaFormat} (h : Over isDot f.codec) :
    MEDIA_FORMAT_REGEX.fullMatch f.rtpmap = some [] := by
  have hslash : Over isDot "/" := by decide
  have hcolon : Over isDot ":" := by decide
  have hspace : Over isDot " " := by decide
  have hchannels : ∀ c ∈ f.channelsText.toList, isDot c = true := by
    unfold MediaFormat.channelsText
    cases f.channels with
    | none => exact fun c hc => nomatch hc
    | some n => exact (hslash.append (isDot_toString n)).2
  have hv := (((((hcolon.append (isDot_toString f.pt)).append hspace.2).append
    h.2).append hslash.2).append (isDot_toString f.clockRate)).append hchannels
  have hq : "a=rtpmap:".toList = "a=".toList ++ ("rtpmap".toList ++ ":".toList) := by decide
  refine fullMatch_mediaFormat (w := "rtpmap") (by decide) hv ?_
  unfold MediaFormat.rtpmap
  simp only [String.toList_append, hq, List.append_assoc, List.append_nil]

/-- The line of a codec begins a format; one that is not read begins the first format only. -/
theorem readLine_rtpmap {f : MediaFormat} (h : f.Readable) {r r₁ : MediaReading} (hr : r.flush = .ok r₁)
    (hcodec : f.codec ≠ "" ∨ r.currentFormatLines = []) :
    r.readLine f.rtpmap = .ok { r₁ with currentFormatLines := r₁.currentFormatLines ++ [f.rtpmap] } := by
  by_cases hempty : f.codec = ""
  · have hnone := hcodec.resolve_left (not_not.mpr hempty)
    have hm : MEDIA_FORMAT_REGEX.fullMatch "a=rtpmap:0 /0" = some [] := by rfl
    have hmap : RTP_MAP_REGEX.fullMatch "a=rtpmap:0 /0" = none := by rfl
    unfold flush at hr
    rw [if_neg (not_not.mpr hnone)] at hr
    obtain rfl := Except.ok.inj hr
    rw [h.rtpmap_eq hempty, r.readLine_eq (i := 11) (q := "a=rtpmap:") rfl rfl (by decide) hm]
    dsimp only
    rw [hmap]
    rfl
  · have hover := h.over_codec hempty
    have hm := fullMatch_mediaFormat_rtpmap (hover.isDot rfl rfl)
    rw [r.readLine_eq (i := 11) (q := "a=rtpmap:") rfl rfl
      ⟨_, (MediaFormat.toList_rtpmap f).symm⟩ hm]
    dsimp only
    rw [MediaFormat.fullMatch_rtpmap hover]
    exact congrArg (· >>= _) hr

theorem fullMatch_mediaFormat_attribute {w number value : String} (hw : w ∈ ["rtcp-fb", "fmtp"])
    (hn : ∀ c ∈ number.toList, isDot c = true) (hv : ∀ c ∈ value.toList, isDot c = true) :
    MEDIA_FORMAT_REGEX.fullMatch ("a=" ++ w ++ ":" ++ number ++ " " ++ value) = some [] := by
  have hcolon : Over isDot ":" := by decide
  have hspace : Over isDot " " := by decide
  have htail := ((hcolon.append hn).append hspace.2).append hv
  refine fullMatch_mediaFormat (List.mem_cons_of_mem _ hw) htail ?_
  simp only [String.toList_append, List.append_assoc, List.append_nil]

/-- Another line of a format belongs to the last one. -/
theorem readLine_attribute {w value : String} (pt : Nat) (hw : w ∈ ["rtcp-fb", "fmtp"])
    (hv : Over isDot value) :
    r.readLine ("a=" ++ w ++ ":" ++ toString pt ++ " " ++ value) = .ok { r with
      currentFormatLines :=
        r.currentFormatLines ++ ["a=" ++ w ++ ":" ++ toString pt ++ " " ++ value] } := by
  have hm := fullMatch_mediaFormat_attribute hw (isDot_toString pt) hv.2
  have hq := prefix_attribute ("a=" ++ w ++ ":") value pt
  rcases List.mem_pair.mp hw with rfl | rfl
  · rw [r.readLine_eq (i := 11) (q := "a=rtcp-fb:") rfl rfl hq hm]
    dsimp only
    rw [fullMatch_of_clash (q := "a=rtcp-fb:") rfl hq]
    rfl
  · rw [r.readLine_eq (i := 11) (q := "a=fmtp:") rfl rfl hq hm]
    dsimp only
    rw [fullMatch_of_clash (q := "a=fmtp:") rfl hq]
    rfl

end MediaReading

/-- A loop whose steps put one thing after the other at the end of a list. -/
theorem foldlM_push {σ α β ε : Type} {f : σ → α → Except ε σ} {g : α → β}
    (push : σ → List β → σ) (hnil : ∀ s, push s [] = s)
    (hcons : ∀ s b bs, push (push s [b]) bs = push s (b :: bs)) {as : List α}
    (hstep : ∀ s, ∀ a ∈ as, f s a = .ok (push s [g a])) (s : σ) :
    as.foldlM f s = .ok (push s (as.map g)) := by
  induction as generalizing s with
  | nil => exact congrArg Except.ok (hnil s).symm
  | cons a as ih =>
      rw [List.foldlM_cons, hstep s a List.mem_cons_self, Except.bind_ok,
        ih fun s b hb => hstep s b (List.mem_cons_of_mem _ hb), hcons, List.map_cons]

namespace MediaReading

variable (r : MediaReading)

def pushFormatLines (lines : List String) : MediaReading :=
  { r with currentFormatLines := r.currentFormatLines ++ lines }

theorem pushFormatLines_nil : r.pushFormatLines [] = r := by
  unfold pushFormatLines
  rw [List.append_nil]

theorem pushFormatLines_cons (b : String) (bs : List String) :
    (r.pushFormatLines [b]).pushFormatLines bs = r.pushFormatLines (b :: bs) := by
  unfold pushFormatLines
  dsimp only
  rw [List.append_assoc, List.singleton_append]

/-- The lines of a format are kept, and those of the format before are done with. -/
theorem readLine_formatLines {f : MediaFormat} (h : f.Readable) {r r₁ : MediaReading}
    (hr : r.flush = .ok r₁) (hcodec : f.codec ≠ "" ∨ r.currentFormatLines = []) :
    f.lines.foldlM readLine r = .ok (r₁.pushFormatLines f.lines) := by
  have hattributes {w : String} (hw : w ∈ ["rtcp-fb", "fmtp"]) {values : List String}
      (hv : ∀ v ∈ values, Over isDot v) (r : MediaReading) :
      (values.map fun v => "a=" ++ w ++ ":" ++ toString f.pt ++ " " ++ v).foldlM readLine r =
        .ok (r.pushFormatLines
          (values.map fun v => "a=" ++ w ++ ":" ++ toString f.pt ++ " " ++ v)) := by
    refine (foldlM_push (g := id) pushFormatLines pushFormatLines_nil pushFormatLines_cons
      (fun r line hline => ?_) r).trans (by rw [List.map_id])
    obtain ⟨v, hmem, rfl⟩ := List.mem_map.mp hline
    exact r.readLine_attribute f.pt hw (hv v hmem)
  have hfb := hattributes (w := "rtcp-fb") (by decide) fun v hmem => (h.fbTypes v hmem).2
  have hfmt := hattributes (w := "fmtp") (by decide) fun v hmem => (h.fmtParams v hmem).1
  rw [MediaFormat.lines_eq h, List.foldlM_cons, readLine_rtpmap h hr hcodec, Except.bind_ok, List.foldlM_append]
  refine (congrArg (· >>= _) (hfb _)).trans ?_
  refine (hfmt _).trans (congrArg Except.ok ?_)
  unfold pushFormatLines
  dsimp only
  rw [List.append_assoc, List.append_assoc]
  rfl

theorem flush_pushFormatLines {f : MediaFormat} (h : f.Readable) {r : MediaReading}
    (hr : r.currentFormatLines = []) :
    (r.pushFormatLines f.lines).flush =
      .ok { r with media := { r.media with mediaFormats := r.media.mediaFormats ++ [f] } } := by
  have hne : f.lines ≠ [] := by
    rw [MediaFormat.lines_eq h]
    exact List.cons_ne_nil _ _
  unfold flush pushFormatLines
  dsimp only
  rw [hr, List.nil_append, if_pos hne, MediaFormat.ofLines_lines h]
  obtain ⟨media, ssrcLines, iceCandidateLines, currentFormatLines⟩ := r
  dsimp only at hr
  subst hr
  rfl

/-- After the lines of some formats, these are there but for the last one, whose lines are kept. -/
theorem readLine_formats {fs : List MediaFormat} (h : ∀ f ∈ fs, f.Readable) (hcodecs : ∀ f ∈ fs.tail, f.codec ≠ "")
    {r r₁ : MediaReading} (hr : r.flush = .ok r₁) (hr₁ : r₁.currentFormatLines = [])
    (hcodec : ∀ f ∈ fs.head?, f.codec ≠ "" ∨ r.currentFormatLines = []) :
    ∃ r', (fs.flatMap MediaFormat.lines).foldlM readLine r = .ok r' ∧ r'.flush =
      .ok { r₁ with media := { r₁.media with mediaFormats := r₁.media.mediaFormats ++ fs } } := by
  induction fs generalizing r r₁ with
  | nil =>
      refine ⟨r, rfl, hr.trans (congrArg Except.ok ?_)⟩
      rw [List.append_nil]
  | cons f fs ih =>
      have hf := h f List.mem_cons_self
      obtain ⟨r', hr', hflush⟩ := ih (fun g hg => h g (List.mem_cons_of_mem _ hg))
        (fun g hg => hcodecs g (List.mem_of_mem_tail hg)) (flush_pushFormatLines hf hr₁) hr₁
        fun g hg => .inl (hcodecs g (List.mem_of_mem_head? hg))
      refine ⟨r', ?_, hflush.trans (congrArg Except.ok ?_)⟩
      · rw [List.flatMap_cons, List.foldlM_append, readLine_formatLines hf hr (hcodec f rfl)]
        exact hr'
      · dsimp only
        rw [List.append_assoc, List.singleton_append]

/-! ### SSRCs -/

def pushSsrcLines (lines : List String) : MediaReading :=
  { r with ssrcLines := r.ssrcLines ++ lines }

theorem readLine_ssrc {w value : String} (hw : w ∈ ["a=ssrc-group:", "a=ssrc:"])
    (hv : Over isDot value) :
    r.readLine (w ++ value) = .ok (r.pushSsrcLines [w ++ value]) := by
  have hm {u : String} (hu : Over isDot u) (hl : w.toList = "a=ssrc".toList ++ u.toList) :
      SSRC_REGEX.fullMatch (w ++ value) = some [] := by
    have hline : (w ++ value).toList = "a=ssrc".toList ++ ((u ++ value).toList ++ []) := by
      rw [String.toList_append, String.toList_append, hl, List.append_nil, List.append_assoc]
    apply Eats.fullMatch
    rw [hline]
    exact (eats_text "a=ssrc").seq (eats_over (hu.append hv.2) stops_nil)
  rcases List.mem_pair.mp hw with rfl | rfl
  · rw [r.readLine_eq (i := 10) (q := "a=ssrc-group:") rfl rfl (prefix_append _ _)
      (hm (u := "-group:") (by decide) (by decide))]
    rfl
  · rw [r.readLine_eq (i := 10) (q := "a=ssrc:") rfl rfl (prefix_append _ _)
      (hm (u := ":") (by decide) (by decide))]
    rfl

theorem readLine_group {s : SSRCAttributes} (ss : List SSRCAttributes) :
    r.readLine ("a=ssrc-group:FID " ++ joinStrings ((s :: ss).map fun s => toString s.ssrc.toNat)) =
      .ok (r.pushSsrcLines
        ["a=ssrc-group:FID " ++ joinStrings ((s :: ss).map fun s => toString s.ssrc.toNat)]) := by
  have hjoin : joinStrings ((s :: ss).map fun s => toString s.ssrc.toNat) =
      numbers (s.ssrc.toNat :: ss.map fun s => s.ssrc.toNat) := by
    rw [numbers, List.map_cons, List.map_cons, List.map_map]
    rfl
  have hdigit (c : Char) (hc : c.isDigit = true) : isDot c = true := isDot_of rfl rfl hc
  have hfid : Over isDot "FID " := by decide
  have hsplit : "a=ssrc-group:FID " = "a=ssrc-group:" ++ "FID " := by decide
  rw [hjoin, hsplit, String.append_assoc]
  exact r.readLine_ssrc List.mem_cons_self (hfid.append (over_numbers hdigit (by decide) _ _).2)

theorem readLine_ssrcLine {name value : String} (hn : name ∈ ["msid", "cname"])
    (hv : Over isDot value) (n : SSRC) :
    r.readLine (ssrcLine n name value) = .ok (r.pushSsrcLines [ssrcLine n name value]) := by
  have hcolon : Over isDot ":" := by decide
  have hspace : Over isDot " " := by decide
  have hname : Over isDot name := by
    rcases List.mem_pair.mp hn with rfl | rfl <;> decide
  have hnumber : Over isDot (toString n.toNat) := (over_toString _).isDot rfl rfl
  have htail := (((hnumber.append hspace.2).append hname.2).append hcolon.2).append hv.2
  have hline : ssrcLine n name value =
      "a=ssrc:" ++ (toString n.toNat ++ " " ++ name ++ ":" ++ value) := by
    simp only [ssrcLine, String.append_assoc]
  rw [hline]
  exact r.readLine_ssrc (List.mem_cons_of_mem _ List.mem_cons_self) htail

theorem readLine_ssrcs {d : SSRCDescription} (h : d.Readable) :
    d.lines.foldlM readLine r = .ok (r.pushSsrcLines d.lines) := by
  have hstep (r : MediaReading) (line : String) (hline : line ∈ d.lines) :
      r.readLine line = .ok (r.pushSsrcLines [id line]) := by
    rcases List.mem_append.mp hline with hline | hline
    · split at hline
      next hlen =>
        obtain rfl := List.mem_singleton.mp hline
        obtain ⟨s, ss, hs⟩ := List.exists_cons_of_length_pos (show 0 < d.ssrcs.length by omega)
        rw [hs]
        exact r.readLine_group ss
      next => exact absurd hline List.not_mem_nil
    · obtain ⟨s, hs, hline⟩ := List.mem_flatMap.mp hline
      have hreadable := h.ssrcs s hs
      rw [SSRCAttributes.lines_eq hreadable, List.mem_append] at hline
      rcases hline with hline | hline
      · obtain ⟨hne, rfl⟩ := mem_optionalLine.mp hline
        exact r.readLine_ssrcLine (by decide) ⟨hne, fun c hc => (hreadable.cname c hc).2⟩ _
      · obtain ⟨hne, rfl⟩ := mem_optionalLine.mp hline
        exact r.readLine_ssrcLine (by decide) ⟨hne, fun c hc => (hreadable.msid c hc).2⟩ _
  refine (foldlM_push (g := id) pushSsrcLines ?_ ?_ hstep r).trans (by rw [List.map_id])
  · intro r
    unfold pushSsrcLines
    rw [List.append_nil]
  · intro r b bs
    unfold pushSsrcLines
    dsimp only
    rw [List.append_assoc, List.singleton_append]

end MediaReading

/-! ### Sections -/

theorem MediaDescription.fullMatch_mLine {m : MediaDescription} (hprotocols : Over isProtocols m.protocols)
    (hformats : m.mediaFormats ≠ []) :
    ∃ payloadTypes, M_LINE_REGEX.fullMatch m.mLine = some [(4, payloadTypes),
      (3, m.protocols.toList), (2, (toString m.port.toNat).toList),
      (1, (stringFromType m.type).toList)] := by
  obtain ⟨f, fs, hfs⟩ := List.exists_cons_of_ne_nil hformats
  have hpayload : payloadTypesString m.mediaFormats = numbers (f.pt :: fs.map (·.pt)) := by
    rw [payloadTypesString, hfs, numbers, List.map_cons, List.map_cons, List.map_map]
    rfl
  have hdigit (c : Char) (hc : c.isDigit = true) : isPayloadTypes c = true := by
    unfold isPayloadTypes
    rw [hc]
    rfl
  have hover := over_numbers hdigit (by decide) f.pt (fs.map (·.pt))
  have htype : stringFromType m.type ∈ ["audio", "video"] := by
    cases m.type <;> decide
  have hport : m.port.toNat < 10 ^ (4 + 1) := Nat.lt_trans m.port.toNat_lt (by decide)
  have hl : m.mLine.toList = "m=".toList ++ ((stringFromType m.type).toList ++ (" ".toList ++
      ((toString m.port.toNat).toList ++ (" ".toList ++ (m.protocols.toList ++ (" ".toList ++
      ((numbers (f.pt :: fs.map (·.pt))).toList ++ []))))))) := by
    unfold MediaDescription.mLine
    rw [hpayload, cStr_eq (hprotocols.noNul rfl), cStr_eq (hover.noNul rfl)]
    simp only [String.toList_append, List.append_assoc, List.append_nil]
  have hspace {rest : List Char} {k : Captures} : Eats space (" ".toList ++ rest) k k rest :=
    eats_one rfl
  refine ⟨(numbers (f.pt :: fs.map (·.pt))).toList, ?_⟩
  apply Eats.fullMatch
  rw [hl]
  exact (((((((eats_text "m=").seq (eats_anyOf htype (by decide)).group).seq hspace).seq
    (eats_upTo_digits hport (stops_append rfl rfl)).group).seq hspace).seq
    (eats_over hprotocols (stops_append rfl rfl)).group).seq hspace).seq
    (eats_over hover stops_nil).group

theorem MediaDescription.prefix_mLine (m : MediaDescription) : "m=".toList <+: m.mLine.toList := by
  simp only [MediaDescription.mLine, String.toList_append, List.append_assoc]
  exact List.prefix_append _ _

theorem MediaReading.readLine_mLine {m : MediaDescription} (h : m.Readable) (r : MediaReading) :
    r.readLine m.mLine = .ok { r with
      media := { r.media with type := m.type, port := m.port, protocols := m.protocols } } := by
  obtain ⟨payloadTypes, hm⟩ := MediaDescription.fullMatch_mLine h.protocols h.someFormat
  have hport : m.port.toNat < 2 ^ 64 := Nat.lt_trans m.port.toNat_lt (by decide)
  have htype : typeFromString (stringFromType m.type) = .ok m.type := by
    cases m.type <;> rfl
  rw [r.readLine_eq (i := 0) (q := "m=") rfl rfl m.prefix_mLine hm]
  have hget (i : Nat) (hi : i ≠ 4) (m : Captures) :
      Captures.get ((4, payloadTypes) :: m) i = m.get i := by
    unfold Captures.get
    rw [List.lookup_cons, beq_eq_false_iff_ne.mpr hi]
  simp only [hget 1 (by decide), hget 2 (by decide), hget 3 (by decide), get_cons,
    Nat.reduceEqDiff, if_false, if_true, htype, stoul_toString hport, Except.bind_ok,
    UInt16.ofNat_toNat]
  rfl

section Segments
variable {α σ ε β : Type} {r r' r'' : MediaReading}

theorem foldlM_append_ok {f : σ → α → Except ε σ} {s s' s'' : σ} {as bs : List α}
    (h : as.foldlM f s = .ok s') (h' : bs.foldlM f s' = .ok s'') :
    (as ++ bs).foldlM f s = .ok s'' := by
  rw [List.foldlM_append, h, Except.bind_ok, h']

theorem MediaReading.readLine_option {o : Option α} {line : α → String}
    (set : Option α → MediaReading) (hnone : set none = r)
    (hsome : ∀ a ∈ o, r.readLine (line a) = .ok (set (some a))) :
    (o.map line).toList.foldlM readLine r = .ok (set o) := by
  cases o with
  | none => exact congrArg Except.ok hnone.symm
  | some a =>
      show r.readLine (line a) >>= pure = _
      rw [hsome a rfl]
      rfl

end Segments

namespace MediaReading
variable (r : MediaReading)

theorem readLine_iceCandidates {cs : List ICECandidate} (h : ∀ c ∈ cs, c.WellFormed) :
    (cs.map ICECandidate.line).foldlM readLine r =
      .ok { r with iceCandidateLines := r.iceCandidateLines ++ cs.map ICECandidate.line } := by
  rw [List.foldlM_map]
  refine foldlM_push (g := ICECandidate.line)
    (fun r lines => { r with iceCandidateLines := r.iceCandidateLines ++ lines })
    (fun r => ?_) (fun r b bs => ?_) (fun r c hc => r.readLine_iceCandidate (h c hc)) r
  · rw [List.append_nil]
  · dsimp only
    rw [List.append_assoc, List.singleton_append]

theorem readLine_iceOthers {lines : List String}
    (h : ∀ line ∈ lines, (ICE_OTHER_REGEX.fullMatch line).isSome ∧
      ICE_UFRAG_REGEX.fullMatch line = none ∧ ICE_PWD_REGEX.fullMatch line = none) :
    lines.foldlM readLine r = .ok { r with
      media := { r.media with iceOtherLines := r.media.iceOtherLines ++ lines } } := by
  refine (foldlM_push (g := id) (fun r lines => { r with
    media := { r.media with iceOtherLines := r.media.iceOtherLines ++ lines } })
    (fun r => ?_) (fun r b bs => ?_) (fun r line hl => r.readLine_iceOther (h line hl)) r).trans
    (by rw [List.map_id])
  · rw [List.append_nil]
  · dsimp only
    rw [List.append_assoc, List.singleton_append]

theorem readLine_extensions {es : List RTPExtension} (h : ∀ e ∈ es, e.WellFormed) :
    (es.map RTPExtension.line).foldlM readLine r = .ok { r with
      media := { r.media with extensions := r.media.extensions ++ es } } := by
  rw [List.foldlM_map]
  refine (foldlM_push (g := id) (fun r es => { r with
    media := { r.media with extensions := r.media.extensions ++ es } })
    (fun r => ?_) (fun r b bs => ?_) (fun r e he => r.readLine_extension (h e he)) r).trans
    (by rw [List.map_id])
  · rw [List.append_nil]
  · dsimp only
    rw [List.append_assoc, List.singleton_append]

theorem readLine_rtcpOthers {lines : List String}
    (h : ∀ line ∈ lines, (RTCP_OTHER_REGEX.fullMatch line).isSome) :
    lines.foldlM readLine r = .ok { r with
      media := { r.media with rtcpOtherLines := r.media.rtcpOtherLines ++ lines } } := by
  refine (foldlM_push (g := id) (fun r lines => { r with
    media := { r.media with rtcpOtherLines := r.media.rtcpOtherLines ++ lines } })
    (fun r => ?_) (fun r b bs => ?_) (fun r line hl => r.readLine_rtcpOther (h line hl)) r).trans
    (by rw [List.map_id])
  · rw [List.append_nil]
  · dsimp only
    rw [List.append_assoc, List.singleton_append]

end MediaReading

theorem MediaReading.flush_pushSsrcLines {r r' : MediaReading} (h : r.flush = .ok r')
    (lines : List String) : (r.pushSsrcLines lines).flush = .ok (r'.pushSsrcLines lines) := by
  unfold flush pushSsrcLines at *
  dsimp only
  split at h
  next hne =>
    obtain ⟨f, hf, hr'⟩ := Except.of_bind_ok h
    obtain rfl := Except.ok.inj hr'
    rw [if_pos hne, hf]
    rfl
  next hnil =>
    obtain rfl := Except.ok.inj h
    rw [if_neg hnil]
    rfl

theorem mapM_iceCandidates {cs : List ICECandidate} (h : ∀ c ∈ cs, c.WellFormed) :
    (cs.map ICECandidate.line).mapM ICECandidate.ofLine = .ok cs := by
  induction cs with
  | nil => rfl
  | cons c cs ih =>
      rw [List.map_cons, List.mapM_cons, ICECandidate.ofLine_line (h c List.mem_cons_self),
        Except.bind_ok, ih fun d hd => h d (List.mem_cons_of_mem _ hd)]
      rfl

/-- What is printed of a section: all but its unrecognised lines. -/
def MediaDescription.printed (m : MediaDescription) : MediaDescription := { m with otherLines := [] }

/-- The reading of the SSRCs' lines, when there are any. -/
theorem SSRCDescription.ofLines_option {o : Option SSRCDescription} (h : ∀ d ∈ o, d.Readable ∧ d.lines ≠ []) :
    SSRCDescription.ofLines? ((o.map SSRCDescription.lines).getD []) = .ok o := by
  cases o with
  | none => rfl
  | some d =>
      obtain ⟨hd, hne⟩ := h d rfl
      show SSRCDescription.ofLines? d.lines = _
      unfold SSRCDescription.ofLines?
      rw [if_pos hne, SSRCDescription.ofLines_lines hd hne]
      rfl

/-- A section reads back as far as it is printed. -/
theorem MediaDescription.ofLines_lines {m : MediaDescription} (h : m.Readable) :
    MediaDescription.ofLines m.lines = .ok m.printed := by
  let r₀ : MediaReading := { media := { type := .audio } }
  let d₁ : MediaDescription := { type := m.type, port := m.port, protocols := m.protocols }
  have h₂ := MediaReading.readLine_option (o := m.connectionData)
    (fun o => { r₀ with media := { d₁ with connectionData := o } }) rfl
    fun c hc => MediaReading.readLine_connectionData _ (h.connectionData c hc)
  let d₂ : MediaDescription := { d₁ with connectionData := m.connectionData }
  have h₃ := foldlM_append_ok h₂ (MediaReading.readLine_option (o := m.rtcpConfiguration)
    (fun o => { r₀ with media := { d₂ with rtcpConfiguration := o } }) rfl
    fun c hc => MediaReading.readLine_rtcpConfiguration _ (h.rtcpConfiguration c hc))
  let d₃ : MediaDescription := { d₂ with rtcpConfiguration := m.rtcpConfiguration }
  have h₄ := foldlM_append_ok h₃ (MediaReading.readLine_iceCandidates _ h.iceCandidates)
  let r₁ : MediaReading :=
    { r₀ with media := d₃, iceCandidateLines := m.iceCandidates.map ICECandidate.line }
  have h₅ := foldlM_append_ok h₄ (MediaReading.readLine_option (o := m.iceUfrag)
    (fun o => { r₁ with media := { d₃ with iceUfrag := o } }) rfl
    fun s hs => MediaReading.readLine_iceUfrag _ (h.iceUfrag s hs))
  let d₄ : MediaDescription := { d₃ with iceUfrag := m.iceUfrag }
  have h₆ := foldlM_append_ok h₅ (MediaReading.readLine_option (o := m.icePwd)
    (fun o => { r₁ with media := { d₄ with icePwd := o } }) rfl
    fun s hs => MediaReading.readLine_icePwd _ (h.icePwd s hs))
  let d₅ : MediaDescription := { d₄ with icePwd := m.icePwd }
  have h₇ := foldlM_append_ok h₆ (MediaReading.readLine_iceOthers _ h.iceOtherLines)
  let d₆ : MediaDescription := { d₅ with iceOtherLines := m.iceOtherLines }
  have h₈ := foldlM_append_ok h₇ (MediaReading.readLine_option (o := m.mid)
    (fun o => { r₁ with media := { d₆ with mid := o } }) rfl
    fun s hs => by
      obtain ⟨mid, hmid, hword⟩ := h.mid
      obtain rfl := Option.some.inj (hmid.symm.trans hs)
      exact MediaReading.readLine_mid _ hword)
  let d₇ : MediaDescription := { d₆ with mid := m.mid }
  have h₉ := foldlM_append_ok h₈ (MediaReading.readLine_extensions _ h.extensions)
  let d₈ : MediaDescription := { d₇ with extensions := m.extensions }
  have h₁₀ := foldlM_append_ok h₉ (MediaReading.readLine_option (o := m.direction)
    (fun o => { r₁ with media := { d₈ with direction := o } }) rfl
    fun d _ => MediaReading.readLine_direction _ d)
  let d₉ : MediaDescription := { d₈ with direction := m.direction }
  have h₁₁ := foldlM_append_ok h₁₀ (MediaReading.readLine_option (o := m.msid)
    (fun o => { r₁ with media := { d₉ with msid := o } }) rfl
    fun i hi => MediaReading.readLine_msid _ (h.msid i hi))
  let d₁₀ : MediaDescription := { d₉ with msid := m.msid }
  have h₁₂ := foldlM_append_ok h₁₁ (MediaReading.readLine_rtcpOthers _ h.rtcpOtherLines)
  let d₁₁ : MediaDescription := { d₁₀ with rtcpOtherLines := m.rtcpOtherLines }
  let r₂ : MediaReading := { r₁ with media := d₁₁ }
  obtain ⟨r₃, hr₃, hflush⟩ :=
    @MediaReading.readLine_formats m.mediaFormats h.mediaFormats h.codecs r₂ r₂ rfl rfl fun _ _ => .inr rfl
  have h₁₃ := foldlM_append_ok h₁₂ hr₃
  have h₁₄ : m.attributes.foldlM MediaReading.readLine { r₀ with media := d₁ } =
      .ok (r₃.pushSsrcLines ((m.ssrcDescription.map SSRCDescription.lines).getD [])) := by
    refine foldlM_append_ok h₁₃ ?_
    cases hd : m.ssrcDescription with
    | none =>
        show pure r₃ = Except.ok (r₃.pushSsrcLines [])
        unfold MediaReading.pushSsrcLines
        rw [List.append_nil]
        rfl
    | some d => exact r₃.readLine_ssrcs (h.ssrcDescription d hd).1
  unfold MediaDescription.ofLines MediaDescription.lines
  rw [List.foldlM_cons, r₀.readLine_mLine h, Except.bind_ok]
  refine (congrArg (· >>= MediaReading.finish) h₁₄).trans ?_
  rw [Except.bind_ok]
  unfold MediaReading.finish
  rw [MediaReading.flush_pushSsrcLines hflush, Except.bind_ok]
  show (m.iceCandidates.map ICECandidate.line).mapM ICECandidate.ofLine >>= _ = _
  rw [mapM_iceCandidates h.iceCandidates, Except.bind_ok]
  show SSRCDescription.ofLines? ((m.ssrcDescription.map SSRCDescription.lines).getD []) >>= _ = _
  rw [SSRCDescription.ofLines_option h.ssrcDescription]
  rfl

/-! ## Where a section ends -/

theorem isMediaLine_eq_false {q line : String} (hq : q.toList <+: line.toList)
    (h : M_LINE_REGEX.clashes q = true) : isMediaLine line = false := by
  unfold isMediaLine
  rw [fullMatch_of_clash h hq]
  rfl

theorem RTCPConfiguration.prefix_line (c : RTCPConfiguration) : "a=rtcp:".toList <+: c.line.toList :=
  ⟨_, (RTCPConfiguration.toList_line c).symm⟩

theorem ConnectionData.prefix_line (c : ConnectionData) : "c=".toList <+: c.line.toList := by
  simp only [ConnectionData.line, String.toList_append, List.append_assoc, List.prefix_append]

theorem ICECandidate.prefix_line (c : ICECandidate) : "a=candidate:".toList <+: c.line.toList := by
  unfold ICECandidate.line
  dsimp only
  split <;> simp only [String.toList_append, List.append_assoc, List.prefix_append]

theorem RTPExtension.prefix_line (e : RTPExtension) : "a=extmap:".toList <+: e.line.toList :=
  prefix_attribute "a=extmap:" _ _

theorem SSRCDescription.prefix_line {d : SSRCDescription} {line : String} (h : line ∈ d.lines) :
    "a=ssrc".toList <+: line.toList := by
  have hgroup : "a=ssrc".toList <+: "a=ssrc-group:FID ".toList := by decide
  have hattr : "a=ssrc".toList <+: "a=ssrc:".toList := by decide
  unfold SSRCDescription.lines at h
  rcases List.mem_append.mp h with h | h
  · obtain ⟨-, h⟩ := List.mem_ite_nil_right.mp h
    obtain rfl := List.mem_singleton.mp h
    exact hgroup.trans (MediaReading.prefix_append _ _)
  · obtain ⟨s, -, h⟩ := List.mem_flatMap.mp h
    unfold SSRCAttributes.lines at h
    rcases List.mem_append.mp h with h | h
    · obtain ⟨-, h⟩ := List.mem_ite_nil_right.mp h
      obtain rfl := List.mem_singleton.mp h
      apply hattr.trans
      simp only [String.toList_append, List.append_assoc, List.prefix_append]
    · obtain ⟨-, h⟩ := List.mem_ite_nil_right.mp h
      obtain rfl := List.mem_singleton.mp h
      apply hattr.trans
      simp only [String.toList_append, List.append_assoc, List.prefix_append]

/-- The beginnings of the lines that have no value formatted in the end that may be empty. -/
def otherBeginnings : List String := ["a=rtcp:", "a=candidate:", "a=ice-", "a=mid:", "a=sendrecv", "a=sendonly",
  "a=recvonly", "a=inactive", "a=msid:", "a=rtcp-", "a=rtpmap:", "a=ssrc"]

theorem MediaDescription.mem_attributes {m : MediaDescription} {line : String}
    (hice : ∀ line ∈ m.iceOtherLines, (ICE_OTHER_REGEX.fullMatch line).isSome)
    (hrtcp : ∀ line ∈ m.rtcpOtherLines, (RTCP_OTHER_REGEX.fullMatch line).isSome) (h : line ∈ m.attributes) :
    (∃ c ∈ m.connectionData, line = c.line) ∨ (∃ e ∈ m.extensions, line = e.line) ∨
      (∃ f ∈ m.mediaFormats, ∃ fmtParam ∈ f.fmtParams,
        line = "a=fmtp:" ++ toString f.pt ++ " " ++ cStr fmtParam) ∨
      ∃ q ∈ otherBeginnings, q.toList <+: line.toList := by
  have hother {q : String} (hq : q ∈ otherBeginnings) (hbegins : q.toList <+: line.toList) :
      (∃ c ∈ m.connectionData, line = c.line) ∨ (∃ e ∈ m.extensions, line = e.line) ∨
        (∃ f ∈ m.mediaFormats, ∃ fmtParam ∈ f.fmtParams,
          line = "a=fmtp:" ++ toString f.pt ++ " " ++ cStr fmtParam) ∨
        ∃ q ∈ otherBeginnings, q.toList <+: line.toList := .inr (.inr (.inr ⟨q, hq, hbegins⟩))
  unfold MediaDescription.attributes at h
  simp only [List.mem_append, List.mem_map, List.mem_flatMap, Option.mem_toList,
    Option.map_eq_some_iff] at h
  rcases h with ((((((((((((⟨c, hc, rfl⟩ | ⟨c, -, rfl⟩) | ⟨c, -, rfl⟩) | ⟨s, -, rfl⟩) |
    ⟨s, -, rfl⟩) | h) | ⟨s, -, rfl⟩) | ⟨e, he, rfl⟩) | ⟨d, -, rfl⟩) | ⟨i, -, rfl⟩) | h) |
    ⟨f, hf, h⟩) | h)
  · exact .inl ⟨c, hc, rfl⟩
  · exact hother (q := "a=rtcp:") (by decide) c.prefix_line
  · exact hother (q := "a=candidate:") (by decide) c.prefix_line
  · have hq : "a=ice-".toList <+: "a=ice-ufrag:".toList := by decide
    exact hother (q := "a=ice-") (by decide) (hq.trans (MediaReading.prefix_append _ _))
  · have hq : "a=ice-".toList <+: "a=ice-pwd:".toList := by decide
    exact hother (q := "a=ice-") (by decide) (hq.trans (MediaReading.prefix_append _ _))
  · obtain ⟨p, hp, hq⟩ := MediaReading.exists_beginning (hice line h)
    obtain rfl := List.mem_singleton.mp hp
    exact hother (q := "a=ice-") (by decide) hq
  · exact hother (q := "a=mid:") (by decide) (MediaReading.prefix_append _ _)
  · exact .inr (.inl ⟨e, he, rfl⟩)
  · refine hother (q := "a=" ++ directionString d) ?_ List.prefix_rfl
    cases d <;> decide
  · exact hother (q := "a=msid:") (by decide) ⟨_, (MediaStreamIdentifier.toList_line i).symm⟩
  · obtain ⟨p, hp, hq⟩ := MediaReading.exists_beginning (hrtcp line h)
    have hheads : ∀ p ∈ RTCP_OTHER_REGEX.heads, "a=rtcp-".toList <+: p := by decide
    exact hother (q := "a=rtcp-") (by decide) ((hheads p hp).trans hq)
  · unfold MediaFormat.lines at h
    simp only [List.mem_append, List.mem_map] at h
    rcases h with (h | ⟨v, -, rfl⟩) | ⟨v, hv, rfl⟩
    · apply hother (q := "a=rtpmap:") (by decide)
      split at h
      next =>
        obtain rfl := List.mem_singleton.mp h
        simp only [String.toList_append, List.append_assoc, List.prefix_append]
      next =>
        obtain rfl := List.mem_singleton.mp h
        simp only [String.toList_append, List.append_assoc, List.prefix_append]
    · have hq : "a=rtcp-".toList <+: "a=rtcp-fb:".toList := by decide
      exact hother (q := "a=rtcp-") (by decide) (hq.trans (prefix_attribute _ _ _))
    · exact .inr (.inr (.inl ⟨f, hf, v, hv, rfl⟩))
  · apply hother (q := "a=ssrc") (by decide)
    cases hd : m.ssrcDescription with
    | none =>
        rw [hd] at h
        exact absurd h List.not_mem_nil
    | some d =>
        rw [hd] at h
        exact SSRCDescription.prefix_line h

/-- No other line of a section looks like its first one. -/
theorem MediaDescription.isMediaLine_attributes {m : MediaDescription} {line : String}
    (hice : ∀ line ∈ m.iceOtherLines, (ICE_OTHER_REGEX.fullMatch line).isSome)
    (hrtcp : ∀ line ∈ m.rtcpOtherLines, (RTCP_OTHER_REGEX.fullMatch line).isSome) (hline : line ∈ m.attributes) :
    isMediaLine line = false := by
  rcases m.mem_attributes hice hrtcp hline with ⟨c, -, rfl⟩ | ⟨e, -, rfl⟩ | ⟨f, -, v, -, rfl⟩ | ⟨q, hq, hprefix⟩
  · exact isMediaLine_eq_false c.prefix_line rfl
  · exact isMediaLine_eq_false e.prefix_line rfl
  · exact isMediaLine_eq_false (prefix_attribute "a=fmtp:" _ _) rfl
  · have hclashes : ∀ q ∈ otherBeginnings, M_LINE_REGEX.clashes q = true := by decide
    exact isMediaLine_eq_false hprefix (hclashes q hq)

theorem MediaDescription.isMediaLine_mLine {m : MediaDescription} (hprotocols : Over isProtocols m.protocols)
    (hformats : m.mediaFormats ≠ []) : isMediaLine m.mLine = true := by
  obtain ⟨payloadTypes, hm⟩ := MediaDescription.fullMatch_mLine hprotocols hformats
  unfold isMediaLine
  rw [hm]
  rfl

namespace SessionReading

/-- A section that has been read up to its end. -/
def close (lines rest : List String) (r : SessionReading) : Except Fault SessionReading := do
  let media ← MediaDescription.ofLines lines
  readLines rest { r with
    session := { r.session with mediaDescriptions := r.session.mediaDescriptions ++ [media] }
    mediaSectionLines := none }

theorem readLines_cons {line : String} {lines : List String} (read : List String)
    {r : SessionReading} (h : (if isMediaLine line = true then some (r.mediaSectionLines.getD [])
      else r.mediaSectionLines) = some read) :
    readLines (line :: lines) r =
      if lines.head?.all isMediaLine = true then r.close (read ++ [line]) lines
      else readLines lines { r with mediaSectionLines := some (read ++ [line]) } := by
  rw [readLines]
  dsimp only
  rw [h]
  rfl

/-- A section goes on up to the line that begins the next one. -/
theorem readLines_section {lines rest : List String} (r : SessionReading)
    (h : ∀ line ∈ lines, isMediaLine line = false) (hrest : rest.head?.all isMediaLine = true)
    (read : List String) :
    (if (lines ++ rest).head?.all isMediaLine = true then r.close read (lines ++ rest)
      else readLines (lines ++ rest) { r with mediaSectionLines := some read }) =
      r.close (read ++ lines) rest := by
  induction lines generalizing read with
  | nil =>
      rw [List.nil_append, if_pos hrest, List.append_nil]
  | cons line lines ih =>
      have hline := h line List.mem_cons_self
      have hhead : ¬ ((line :: lines) ++ rest).head?.all isMediaLine = true := by
        show ¬ isMediaLine line = true
        rw [hline]
        decide
      rw [if_neg hhead, List.cons_append, readLines_cons read (by
        rw [if_neg (by rw [hline]; decide)])]
      refine (ih (fun l hl => h l (List.mem_cons_of_mem _ hl)) (read ++ [line])).trans ?_
      rw [List.append_assoc, List.singleton_append]

/-- A section is read, and put with the others as far as it is printed. -/
theorem readLines_lines {m : MediaDescription} (hm : m.Readable) {rest : List String}
    (hrest : rest.head?.all isMediaLine = true) {r : SessionReading}
    (hr : r.mediaSectionLines = none) :
    readLines (m.lines ++ rest) r = readLines rest { r with
      session := { r.session with
        mediaDescriptions := r.session.mediaDescriptions ++ [m.printed] } } := by
  have hread := MediaDescription.ofLines_lines hm
  unfold MediaDescription.lines at *
  rw [List.cons_append, readLines_cons [] (by
    rw [if_pos (MediaDescription.isMediaLine_mLine hm.protocols hm.someFormat), hr]
    rfl)]
  refine (readLines_section r (fun line => MediaDescription.isMediaLine_attributes
    (fun line hl => (hm.iceOtherLines line hl).1) hm.rtcpOtherLines) hrest ([] ++ [m.mLine])).trans ?_
  unfold close
  rw [List.nil_append, List.singleton_append, hread, Except.bind_ok]
  obtain ⟨session, mediaSectionLines, version, origin⟩ := r
  dsimp only at hr
  subst hr
  rfl

theorem readLines_flatMap {ms : List MediaDescription} (h : ∀ m ∈ ms, m.Readable)
    {r : SessionReading} (hr : r.mediaSectionLines = none) :
    readLines (ms.flatMap MediaDescription.lines) r = .ok { r with
      session := { r.session with
        mediaDescriptions := r.session.mediaDescriptions ++ ms.map MediaDescription.printed } } := by
  induction ms generalizing r with
  | nil =>
      rw [List.map_nil, List.append_nil]
      rfl
  | cons m ms ih =>
      have hrest : (ms.flatMap MediaDescription.lines).head?.all isMediaLine = true := by
        cases ms with
        | nil => rfl
        | cons m' ms =>
            have hm' := h m' (by simp)
            exact MediaDescription.isMediaLine_mLine hm'.protocols hm'.someFormat
      rw [List.flatMap_cons, readLines_lines (h m List.mem_cons_self) hrest hr,
        ih (fun m' hm' => h m' (List.mem_cons_of_mem _ hm')) (by exact hr)]
      dsimp only
      rw [List.append_assoc, List.map_cons, List.singleton_append]

/-! ## Lines before the sections -/

/-- A line outside of the sections changes nothing about them. -/
theorem readLine_keeps {r r' : SessionReading} {line : String} (h : r.readLine line = .ok r') :
    r'.mediaSectionLines = r.mediaSectionLines ∧
      r'.session.mediaDescriptions = r.session.mediaDescriptions := by
  unfold readLine at h
  split at h
  next branch m hfirst =>
    obtain ⟨re, hmem, -⟩ := firstMatch_mem hfirst
    simp only [sessionBranches, List.mem_cons, List.not_mem_nil, or_false, Prod.mk.injEq] at hmem
    rcases hmem with ⟨-, rfl⟩ | ⟨-, rfl⟩ | ⟨-, rfl⟩ | ⟨-, rfl⟩ | ⟨-, rfl⟩
    · obtain ⟨n, -, rfl⟩ := Except.of_map_ok h
      exact ⟨rfl, rfl⟩
    · obtain ⟨o, -, rfl⟩ := Except.of_map_ok h
      exact ⟨rfl, rfl⟩
    · obtain rfl := Except.ok.inj h
      exact ⟨rfl, rfl⟩
    · obtain ⟨t, -, rfl⟩ := Except.of_map_ok h
      exact ⟨rfl, rfl⟩
    · obtain rfl := Except.ok.inj h
      exact ⟨rfl, rfl⟩
  next =>
    obtain rfl := Except.ok.inj h
    exact ⟨rfl, rfl⟩

/-- Lines outside of the sections are read one after the other. -/
theorem readLines_append {lines rest : List String} {r r' : SessionReading}
    (h : ∀ line ∈ lines, isMediaLine line = false) (hr : r.mediaSectionLines = none)
    (hread : lines.foldlM readLine r = .ok r') :
    readLines (lines ++ rest) r = readLines rest r' := by
  induction lines generalizing r with
  | nil =>
      obtain rfl := Except.ok.inj hread
      rfl
  | cons line lines ih =>
      rw [List.foldlM_cons] at hread
      obtain ⟨r₁, hr₁, hread⟩ := Except.of_bind_ok hread
      have hnone : (if isMediaLine line = true then some (r.mediaSectionLines.getD [])
          else r.mediaSectionLines) = none := by
        rw [if_neg (by rw [h line List.mem_cons_self]; decide), hr]
      rw [List.cons_append, readLines]
      dsimp only
      rw [hnone]
      dsimp only
      rw [hr₁, Except.bind_ok]
      exact ih (fun l hl => h l (List.mem_cons_of_mem _ hl))
        ((readLine_keeps hr₁).1.trans hr) hread

/-! ## Descriptions -/

section Branches
variable {re : Regex} {branch : SessionBranch} {line q : String} {m : Captures} {i : Nat}
variable (r : SessionReading)

/-- A line takes the branch of its pattern, if the patterns before begin differently. -/
theorem readLine_eq (hi : sessionBranches[i]? = some (re, branch))
    (hbefore : (sessionBranches.take i).all (fun b => b.1.clashes q) = true)
    (hq : q.toList <+: line.toList) (hm : re.fullMatch line = some m) :
    r.readLine line = branch m line r := by
  unfold readLine
  rw [firstMatch_eq hi hbefore hq hm]

theorem readLine_version :
    r.readLine ("v=" ++ toString 0) =
      .ok { r with session := { r.session with version := 0 }, version := true } := by
  rw [r.readLine_eq (i := 0) (q := "v=") rfl rfl (MediaReading.prefix_append _ _)
    (MediaReading.fullMatch_value rfl (over_toString 0))]
  simp only [get_cons, if_true, stoul_toString (show 0 < 2 ^ 64 by decide), Except.map]
  rfl

theorem readLine_origin {o : Origin} (h : o.WellFormed) :
    r.readLine o.line =
      .ok { r with session := { r.session with origin := o }, origin := true } := by
  rw [r.readLine_eq (i := 1) (q := "o=") rfl rfl ⟨_, (Origin.toList_line h).symm⟩
    (Origin.fullMatch_line h)]
  show (Origin.ofLine o.line).map _ = _
  rw [Origin.ofLine_line h]
  rfl

theorem readLine_sessionName {s : String} (h : Over isDot s) :
    r.readLine ("s=" ++ s) = .ok { r with session := { r.session with sessionName := s } } := by
  rw [r.readLine_eq (i := 2) (q := "s=") rfl rfl (MediaReading.prefix_append _ _)
    (MediaReading.fullMatch_value rfl h)]
  simp only [get_cons, if_true]

theorem readLine_timing {t : Timing} (h : t.WellFormed) :
    r.readLine t.line =
      .ok { r with session := { r.session with timing := r.session.timing ++ [t] } } := by
  rw [r.readLine_eq (i := 3) (q := "t=") rfl rfl ⟨_, (Timing.toList_line t).symm⟩
    (Timing.fullMatch_line t)]
  show (Timing.ofLine t.line).map _ = _
  rw [Timing.ofLine_line h]
  rfl

theorem fullMatch_bundle {s : String} (h : Over isDot s) :
    BUNDLE_REGEX.fullMatch ("a=group:BUNDLE" ++ s) = some [] := by
  have hl : ("a=group:BUNDLE" ++ s).toList = "a=group:BUNDLE".toList ++ (s.toList ++ []) := by
    rw [String.toList_append, List.append_nil]
  apply Eats.fullMatch
  rw [hl]
  exact (eats_text "a=group:BUNDLE").seq (eats_over h stops_nil)

theorem readLine_bundle {s : String} (h : Over isDot s) :
    r.readLine ("a=group:BUNDLE" ++ s) = .ok r := by
  rw [r.readLine_eq (i := 4) (q := "a=group:BUNDLE") rfl rfl (MediaReading.prefix_append _ _) (fullMatch_bundle h)]

theorem readLine_timings {ts : List Timing} (h : ∀ t ∈ ts, t.WellFormed) :
    (ts.map Timing.line).foldlM readLine r =
      .ok { r with session := { r.session with timing := r.session.timing ++ ts } } := by
  rw [List.foldlM_map]
  refine (foldlM_push (g := id) (fun r ts => { r with
    session := { r.session with timing := r.session.timing ++ ts } })
    (fun r => ?_) (fun r b bs => ?_) (fun r t ht => r.readLine_timing (h t ht)) r).trans
    (by rw [List.map_id])
  · rw [List.append_nil]
  · dsimp only
    rw [List.append_assoc, List.singleton_append]

theorem readLine_others {lines : List String}
    (h : ∀ line ∈ lines, firstMatch sessionBranches line = none) :
    lines.foldlM readLine r =
      .ok { r with session := { r.session with otherLines := r.session.otherLines ++ lines } } := by
  refine (foldlM_push (g := id) (fun r lines => { r with
    session := { r.session with otherLines := r.session.otherLines ++ lines } })
    (fun r => ?_) (fun r b bs => ?_) (fun r line hl => ?_) r).trans (by rw [List.map_id])
  · rw [List.append_nil]
  · dsimp only
    rw [List.append_assoc, List.singleton_append]
  · unfold readLine
    rw [h line hl]
    rfl

end Branches

end SessionReading

/-- Every part is well formed; the version is 0, and there is a timing. An unrecognised line is none
that begins a section. -/
structure SessionDescription.WellFormed (d : SessionDescription) : Prop where
  version : d.version = 0
  origin : d.origin.WellFormed
  sessionName : Over isDot d.sessionName
  someTiming : d.timing ≠ []
  timing : ∀ t ∈ d.timing, t.WellFormed
  mediaDescriptions : ∀ m ∈ d.mediaDescriptions, m.WellFormed
  otherLines : ∀ line ∈ d.otherLines,
    isMediaLine line = false ∧ firstMatch sessionBranches line = none

/-- The same of a description as it is read. -/
structure SessionDescription.Readable (d : SessionDescription) : Prop where
  version : d.version = 0
  origin : d.origin.WellFormed
  sessionName : Over isDot d.sessionName
  someTiming : d.timing ≠ []
  timing : ∀ t ∈ d.timing, t.WellFormed
  mediaDescriptions : ∀ m ∈ d.mediaDescriptions, m.Readable
  otherLines : ∀ line ∈ d.otherLines,
    isMediaLine line = false ∧ firstMatch sessionBranches line = none

theorem SessionDescription.WellFormed.readable {d : SessionDescription} (h : d.WellFormed) : d.Readable :=
  { h with mediaDescriptions := fun m hm => (h.mediaDescriptions m hm).readable }

/-- What stands before the sections can be read; every section has a mid. -/
structure SessionDescription.PreambleReadable (d : SessionDescription) : Prop where
  version : d.version = 0
  origin : d.origin.WellFormed
  sessionName : Over isDot d.sessionName
  timing : ∀ t ∈ d.timing, t.WellFormed
  mids : ∀ m ∈ d.mediaDescriptions, ∃ mid, m.mid = some mid ∧ Over isWord mid
  otherLines : ∀ line ∈ d.otherLines,
    isMediaLine line = false ∧ firstMatch sessionBranches line = none

theorem SessionDescription.Readable.preamble {d : SessionDescription} (h : d.Readable) : d.PreambleReadable :=
  { h with mids := fun m hm => (h.mediaDescriptions m hm).mid }

/-- What is printed of a description: all but the unrecognised lines of its sections. -/
def SessionDescription.printed (d : SessionDescription) : SessionDescription :=
  { d with mediaDescriptions := d.mediaDescriptions.map MediaDescription.printed }

def SessionDescription.preamble (d : SessionDescription) : List String :=
  ["v=" ++ toString d.version, d.origin.line, "s=" ++ d.sessionName] ++
    d.timing.map Timing.line ++ d.bundleLine ++ d.otherLines

theorem SessionDescription.lines_eq {d : SessionDescription} (h : d.PreambleReadable) :
    d.lines = .ok (d.preamble ++ d.mediaDescriptions.flatMap MediaDescription.lines) := by
  have hall : d.mediaDescriptions.all (·.mid.isSome) = true :=
    List.all_eq_true.mpr fun m hm => by
      obtain ⟨mid, hmid, -⟩ := h.mids m hm
      rw [hmid]
      rfl
  unfold SessionDescription.lines SessionDescription.checkLines
  rw [if_pos hall]
  rfl

theorem over_join {p : Char → Bool} {α : Type} {f : α → String} {as : List α} (hne : as ≠ [])
    (h : ∀ a ∈ as, Over p (f a)) : Over p (String.join (as.map f)) := by
  obtain ⟨a, as, rfl⟩ := List.exists_cons_of_ne_nil hne
  rw [List.map_cons, String.join_cons]
  refine (h a List.mem_cons_self).append fun c hc => ?_
  rw [String.toList_join, List.mem_flatMap] at hc
  obtain ⟨s, hs, hc⟩ := hc
  obtain ⟨b, hb, rfl⟩ := List.mem_map.mp hs
  exact (h b (List.mem_cons_of_mem _ hb)).2 c hc

theorem SessionDescription.PreambleReadable.over_mids {d : SessionDescription} (h : d.PreambleReadable)
    (hne : d.mediaDescriptions ≠ []) :
    Over isDot (String.join (d.mediaDescriptions.map fun m => " " ++ m.mid.getD "")) := by
  have hspace : Over isDot " " := by decide
  refine over_join hne fun m hm => ?_
  obtain ⟨mid, hmid, hword⟩ := h.mids m hm
  rw [hmid]
  exact hspace.append (hword.isDot rfl rfl).2

/-- The bundle line has the mids of the sections. -/
theorem SessionDescription.readLine_bundleLine {d : SessionDescription} (h : d.PreambleReadable)
    (r : SessionReading) : d.bundleLine.foldlM SessionReading.readLine r = .ok r := by
  unfold SessionDescription.bundleLine
  split
  next hne => exact congrArg (· >>= pure) (r.readLine_bundle (h.over_mids hne))
  next => rfl

/-- No line of the preamble begins a section. -/
theorem SessionDescription.isMediaLine_preamble {d : SessionDescription} (h : d.PreambleReadable)
    {line : String} (hline : line ∈ d.preamble) : isMediaLine line = false := by
  unfold SessionDescription.preamble SessionDescription.bundleLine at hline
  simp only [List.mem_append, List.mem_cons, List.not_mem_nil, or_false, List.mem_map] at hline
  rcases hline with (((rfl | rfl | rfl) | ⟨t, -, rfl⟩) | hbundle) | hother
  · exact isMediaLine_eq_false (MediaReading.prefix_append "v=" _) rfl
  · exact isMediaLine_eq_false ⟨_, (Origin.toList_line h.origin).symm⟩ rfl
  · exact isMediaLine_eq_false (MediaReading.prefix_append "s=" _) rfl
  · exact isMediaLine_eq_false ⟨_, (Timing.toList_line t).symm⟩ rfl
  · split at hbundle
    next =>
      obtain rfl := List.mem_singleton.mp hbundle
      exact isMediaLine_eq_false (MediaReading.prefix_append "a=group:BUNDLE" _) rfl
    next => exact absurd hbundle List.not_mem_nil
  · exact (h.otherLines line hother).1

theorem SessionDescription.readLine_preamble {d : SessionDescription} (h : d.PreambleReadable) :
    d.preamble.foldlM SessionReading.readLine {} = .ok {
      session := { d with mediaDescriptions := [] }, version := true, origin := true } := by
  have hversion := h.version
  have hheading : ["v=" ++ toString d.version, d.origin.line, "s=" ++ d.sessionName].foldlM
      SessionReading.readLine {} = .ok {
        session := { origin := d.origin, sessionName := d.sessionName, timing := [] }
        version := true
        origin := true } := by
    rw [hversion]
    show (SessionReading.readLine {} _ >>= fun r => SessionReading.readLine r _ >>= fun r =>
      SessionReading.readLine r _ >>= pure) = _
    rw [SessionReading.readLine_version, Except.bind_ok, SessionReading.readLine_origin _ h.origin,
      Except.bind_ok, SessionReading.readLine_sessionName _ h.sessionName]
    rfl
  unfold SessionDescription.preamble
  rw [List.foldlM_append, List.foldlM_append, List.foldlM_append, hheading, Except.bind_ok,
    SessionReading.readLine_timings _ h.timing, Except.bind_ok,
    SessionDescription.readLine_bundleLine h, Except.bind_ok,
    SessionReading.readLine_others _ fun line hline => (h.otherLines line hline).2]
  obtain ⟨version, origin, sessionName, timing, mediaDescriptions, otherLines⟩ := d
  dsimp only at hversion
  subst hversion
  rfl

theorem SessionDescription.ofLines_lines {d : SessionDescription} (h : d.Readable) :
    (d.lines >>= SessionDescription.ofLines) = .ok d.printed := by
  rw [SessionDescription.lines_eq h.preamble, Except.bind_ok]
  unfold SessionDescription.ofLines
  rw [SessionReading.readLines_append (fun line => SessionDescription.isMediaLine_preamble h.preamble) rfl
    (SessionDescription.readLine_preamble h.preamble),
    SessionReading.readLines_flatMap h.mediaDescriptions rfl, Except.bind_ok]
  dsimp only
  rw [if_neg (by simp [h.version]), if_neg (by decide), if_neg h.someTiming]
  rfl

/-- A description reads back as far as it is printed. -/
theorem SessionDescription.ofLines_lines_printed {d : SessionDescription} (h : d.WellFormed) :
    (d.lines >>= SessionDescription.ofLines) = .ok d.printed :=
  SessionDescription.ofLines_lines h.readable

/-- A section with a line of almost every kind; no pattern takes the last one. -/
def videoSection (mid : String) : MediaDescription where
  type := .video
  port := 9
  protocols := "UDP/TLS/RTP/SAVPF"
  connectionData := some { netType := "IN", addrType := "IP4", connectionAddress := "0.0.0.0" }
  rtcpConfiguration := some
    { port := 9, netType := "IN", addrType := "IP4", connectionAddress := "0.0.0.0" }
  iceCandidates := [{
    foundation := "1", componentId := 1, protocol := "udp", priority := 2122194687
    address := "10.0.0.2", port := 50123, type := "host", remainder := "generation 0" }]
  mediaFormats := [{
    pt := 45, codec := "AV1", clockRate := 90000, fbTypes := ["nack", "nack pli"]
    fmtParams := ["level-idx=5;profile=0"] }, { pt := 46, codec := "rtx", clockRate := 90000 }]
  iceUfrag := some "Vt4N"
  icePwd := some "wIFn/tD+"
  iceOtherLines := ["a=ice-options:trickle"]
  mid := some mid
  direction := some .sendrecv
  extensions := [{ identifier := 1, uri := "urn:ietf:params:rtp-hdrext:toffset" }]
  msid := some { identifier := "-", appData := "5bb2" }
  rtcpOtherLines := ["a=rtcp-mux", "a=rtcp-rsize"]
  ssrcDescription := some { ssrcs := [
    { ssrc := 2348, cname := "Bd9+", msid := "- 5bb2" },
    { ssrc := 2349, cname := "Bd9+", msid := "- 5bb2" }] }
  otherLines := ["a=setup:actpass"]

/-- A description that has this section twice. -/
def videoDescription : SessionDescription where
  mediaDescriptions := [videoSection "0", videoSection "1"]
  otherLines := ["a=extmap-allow-mixed", "a=msid-semantic: WMS"]

theorem videoSection_wellFormed {mid : String} (h : Over isWord mid) :
    (videoSection mid).WellFormed where
  protocols := (by decide : Over isProtocols "UDP/TLS/RTP/SAVPF")
  connectionData := by
    rintro c ⟨⟩
    exact ⟨rfl, by decide, by decide, by decide⟩
  rtcpConfiguration := by
    rintro c ⟨⟩
    exact ⟨.inr (by decide)⟩
  iceCandidates := by
    intro c hc
    obtain rfl := List.mem_singleton.mp hc
    exact ⟨by decide, by decide, by decide, by decide,
      ⟨"10", "0", "0", "2", by decide, by decide, by decide, by decide, by decide⟩,
      by decide, List.all_eq_true.mp (by decide)⟩
  someFormat := List.cons_ne_nil _ _
  mediaFormats := by
    intro f hf
    rcases List.mem_pair.mp hf with rfl | rfl
    · exact ⟨by decide, by decide, by decide, by decide, by decide, by decide⟩
    · exact ⟨by decide, by decide, by decide, by decide, by decide, by decide⟩
  iceUfrag := by
    rintro s ⟨⟩
    decide +kernel
  icePwd := by
    rintro s ⟨⟩
    decide +kernel
  iceOtherLines := by
    intro line hline
    obtain rfl := List.mem_singleton.mp hline
    decide +kernel
  mid := ⟨mid, rfl, h⟩
  extensions := by
    intro e he
    obtain rfl := List.mem_singleton.mp he
    exact ⟨by decide, by decide, by decide⟩
  msid := by
    rintro i ⟨⟩
    exact ⟨by decide, List.all_eq_true.mp (by decide)⟩
  rtcpOtherLines := by
    intro line hline
    rcases List.mem_pair.mp hline with rfl | rfl
    · decide +kernel
    · decide +kernel
  ssrcDescription := by
    rintro d ⟨⟩
    refine ⟨List.cons_ne_nil _ _, by decide, fun s hs => ?_⟩
    rcases List.mem_pair.mp hs with rfl | rfl
    · exact ⟨by decide, by decide⟩
    · exact ⟨by decide, by decide⟩

theorem videoDescription_wellFormed : videoDescription.WellFormed where
  version := rfl
  origin := ⟨by decide, by decide, by decide, by decide, by decide, by decide⟩
  sessionName := by decide
  someTiming := List.cons_ne_nil _ _
  timing := by
    intro t ht
    obtain rfl := List.mem_singleton.mp ht
    exact ⟨by decide, by decide⟩
  mediaDescriptions := by
    intro m hm
    rcases List.mem_pair.mp hm with rfl | rfl
    · exact videoSection_wellFormed (by decide)
    · exact videoSection_wellFormed (by decide)
  otherLines := by
    decide +kernel

/-- A description reads back as far as it is printed. -/
theorem SessionDescription.ofLines_lines_videoDescription :
    (videoDescription.lines >>= SessionDescription.ofLines) = .ok videoDescription.printed :=
  SessionDescription.ofLines_lines_printed videoDescription_wellFormed

/-- The line that no pattern takes is not there any more. -/
theorem SessionDescription.ofLines_lines_otherLines :
    videoDescription.WellFormed ∧
      (∀ m ∈ videoDescription.mediaDescriptions, ∀ line ∈ m.otherLines,
        firstMatch mediaBranches line = none) ∧
      (videoDescription.lines >>= SessionDescription.ofLines) ≠ .ok videoDescription := by
  refine ⟨videoDescription_wellFormed, ?_, fun heq => ?_⟩
  · decide +kernel
  · have hothers : (videoDescription.lines >>= SessionDescription.ofLines).toOption.map
        (fun d => d.mediaDescriptions.map (·.otherLines)) = some [[], []] := by
      decide +kernel
    rw [heq] at hothers
    exact absurd hothers (by decide)

end Sdp

end Scallop
