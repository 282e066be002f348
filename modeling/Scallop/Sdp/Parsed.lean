import Scallop.Sdp.PayloadTypes
import Scallop.Sdp.Sections
import Scallop.Util.Addresses
import Scallop.Util.Strings

/-!
# What has been read of a text

* `over_get`, `mem_get` : what a group of a pattern holds;
* `Parsed` : what holds of a part that was read from a line; `MediaReading.Parsed.readLine`,
  `SessionReading.Parsed.readLine` : and of what has been read so far;
* `MediaDescription.parsed_of_ofLines`, `SessionDescription.parsed_of_ofLines` : of a section, and of a description.
-/

namespace Scallop

namespace Sdp

open Regex

/-! ## Groups of a pattern -/

section Groups
variable {re : Regex} {p : Char → Bool} {t line s : String} {m : Captures} {i n : Nat}

theorem over_of_takes {cs : List Char} {m m' : Captures} (h : Takes (plus (one p)) m cs m') (hs : s.toList = cs) :
    Over p s := by
  obtain ⟨hne, hall, -⟩ := takes_plus_one.mp h
  subst hs
  exact ⟨fun hnil => hne (congrArg String.toList hnil), hall⟩

theorem over_get (h : re.fullMatch t = some m) (hi : re.uses i = true) (hg : re.groups i = [plus (one p)]) :
    Over p (m.get i) := by
  obtain ⟨m₁, m₂, htakes⟩ := takes_get h hi hg
  exact over_of_takes htakes rfl

theorem mem_get {ws : List String} (h : re.fullMatch t = some m) (hi : re.uses i = true)
    (hg : re.groups i = [anyOf ws]) : m.get i ∈ ws := by
  obtain ⟨m₁, m₂, htakes⟩ := takes_get h hi hg
  obtain ⟨⟨w, hw, heq⟩, -⟩ := takes_anyOf.mp htakes
  rwa [String.toList_inj.mp heq]

/-- A part of a line has the characters of the line. -/
theorem forall_mem_get (h : re.fullMatch t = some m) (i : Nat) (ht : ∀ c ∈ t.toList, p c = true) :
    ∀ c ∈ (m.get i).toList, p c = true := by
  rcases get_of_fullMatch h i with hnil | ⟨_, _, _, _, _, hpart⟩
  · rw [hnil]
    exact List.forall_mem_nil _
  · exact fun c hc => ht c (hpart.subset hc)

theorem stoul_lt (h : stoul s = .ok n) : n < 2 ^ 64 := by
  unfold stoul at h
  split at h
  · split at h
    next hlt =>
      obtain rfl := Except.ok.inj h
      exact hlt
    next => cases h
  · cases h

end Groups

/-! ## Parts of a session -/

section Parts
variable {line : String} {m : Captures}

theorem Origin.wellFormed_of_ofLine {o : Origin} (hm : O_LINE_REGEX.fullMatch line = some m)
    (h : Origin.ofLine line = .ok o) : o.WellFormed := by
  unfold Origin.ofLine at h
  rw [hm] at h
  obtain ⟨sessionId, hid, h⟩ := Except.of_bind_ok h
  obtain ⟨sessionVersion, hversion, h⟩ := Except.of_bind_ok h
  obtain rfl := Except.ok.inj h
  exact {
    userName := over_get hm rfl rfl
    sessionId := stoul_lt hid
    sessionVersion := stoul_lt hversion
    netType := over_get hm rfl rfl
    addrType := over_get hm rfl rfl
    unicastAddr := over_get hm rfl rfl }

theorem Timing.wellFormed_of_ofLine {t : Timing} (hm : T_LINE_REGEX.fullMatch line = some m)
    (h : Timing.ofLine line = .ok t) : t.WellFormed := by
  unfold Timing.ofLine at h
  rw [hm] at h
  obtain ⟨start, hstart, h⟩ := Except.of_bind_ok h
  obtain ⟨stop, hstop, h⟩ := Except.of_bind_ok h
  obtain rfl := Except.ok.inj h
  exact ⟨stoul_lt hstart, stoul_lt hstop⟩

/-! ## Parts of a section -/

/-- The address may have any characters but line ends. -/
structure ConnectionData.Parsed (c : ConnectionData) : Prop where
  netType : c.netType = "IN"
  addrType : c.addrType ∈ ["IP4", "IP6"]
  connectionAddress : Over isDot c.connectionAddress

theorem ConnectionData.parsed_ofLine (hm : C_LINE_REGEX.fullMatch line = some m) :
    (ConnectionData.ofLine line).Parsed := by
  have hnet : m.get 1 ∈ ["IN"] := mem_get hm rfl rfl
  unfold ConnectionData.ofLine
  rw [hm]
  exact ⟨List.mem_singleton.mp hnet, mem_get hm rfl rfl, over_get hm rfl rfl⟩

theorem RTCPConfiguration.wellFormed_of_ofLine {c : RTCPConfiguration} (hm : RTCP_REGEX.fullMatch line = some m)
    (h : RTCPConfiguration.ofLine line = .ok c) : c.WellFormed := by
  unfold RTCPConfiguration.ofLine at h
  rw [hm] at h
  obtain ⟨port, -, rfl⟩ := Except.of_map_ok h
  obtain ⟨_, _, m₁, -, hport, hrest⟩ := takes_seq.mp (fullMatch_takes hm)
  obtain ⟨_, _, m₀, -, htext, hgroup⟩ := takes_seq.mp hport
  obtain ⟨-, rfl⟩ := takes_text.mp htext
  obtain ⟨m₂, hdigits, rfl⟩ := takes_group.mp hgroup
  obtain ⟨-, -, rfl⟩ := takes_plus_one.mp hdigits
  rcases takes_opt.mp hrest with h | ⟨-, rfl⟩
  · obtain ⟨_, addr, _, -, h, haddr⟩ := takes_seq.mp h
    obtain ⟨_, _, _, -, h, hspace⟩ := takes_seq.mp h
    obtain ⟨_, ip4, _, -, h, hip4⟩ := takes_seq.mp h
    obtain ⟨_, _, _, -, h, hspace'⟩ := takes_seq.mp h
    obtain ⟨_, net, _, -, h, hin⟩ := takes_seq.mp h
    obtain ⟨-, rfl⟩ := takes_text.mp h
    obtain ⟨_, hword, rfl⟩ := takes_group.mp hin
    obtain ⟨rfl, rfl⟩ := takes_text.mp hword
    obtain ⟨-, rfl⟩ := takes_text.mp hspace'
    obtain ⟨_, hword, rfl⟩ := takes_group.mp hip4
    obtain ⟨rfl, rfl⟩ := takes_text.mp hword
    obtain ⟨-, rfl⟩ := takes_text.mp hspace
    obtain ⟨_, hdots, rfl⟩ := takes_group.mp haddr
    have hover := over_of_takes hdots (String.toList_ofList ..)
    obtain ⟨-, -, rfl⟩ := takes_plus_one.mp hdots
    exact ⟨.inr ⟨String.ofList_toList, String.ofList_toList, hover⟩⟩
  · exact ⟨.inl ⟨rfl, rfl, rfl⟩⟩

structure ICECandidate.Parsed (c : ICECandidate) : Prop where
  foundation : Over isFoundation c.foundation
  componentId : c.componentId < 1000
  protocol : c.protocol ∈ ["tcp", "udp"]
  address : Util.Dotted Octet c.address
  type : c.type ∈ ["host", "srflx", "prflx", "relay"]
  remainder : ∀ d ∈ c.remainder.toList, isDot d = true

theorem ICECandidate.parsed_of_ofLine {c : ICECandidate} (hm : ICE_CANDIDATE_REGEX.fullMatch line = some m)
    (h : ICECandidate.ofLine line = .ok c) : c.Parsed := by
  unfold ICECandidate.ofLine at h
  rw [hm] at h
  obtain ⟨componentId, hid, h⟩ := Except.of_bind_ok h
  obtain ⟨priority, -, h⟩ := Except.of_bind_ok h
  obtain ⟨port, -, h⟩ := Except.of_bind_ok h
  obtain rfl := Except.ok.inj h
  have hcomponent : componentId < 1000 := by
    obtain ⟨m₁, m₂, htakes⟩ := takes_get (g := octet) (i := 2) hm rfl rfl
    obtain ⟨hoctet, -⟩ := Util.takes_octet.mp htakes
    rw [String.ofList_toList] at hoctet
    have hlt := Util.number_lt hoctet.1 hoctet.2
    rw [Util.stoul_over hoctet.1 (by omega)] at hid
    obtain rfl := Except.ok.inj hid
    exact hlt
  have haddress : Util.Dotted Octet (m.get 5) := by
    obtain ⟨m₁, m₂, htakes⟩ := takes_get (g := Util.dotted octet) (i := 5) hm rfl rfl
    obtain ⟨hdotted, -⟩ := (Util.takes_dotted Util.takesJust_octet).mp htakes
    rwa [String.ofList_toList] at hdotted
  have hremainder : ∀ d ∈ (m.get 8).toList, isDot d = true := by
    obtain ⟨m₁, m₂, htakes⟩ := takes_get (g := star (one isDot)) (i := 8) hm rfl rfl
    exact (takes_star_one.mp htakes).1
  exact {
    foundation := over_get hm rfl rfl
    componentId := hcomponent
    protocol := mem_get hm rfl rfl
    address := haddress
    type := mem_get hm rfl rfl
    remainder := hremainder }

/-- The URI may have any characters but line ends. -/
structure RTPExtension.Parsed (e : RTPExtension) : Prop where
  identifier : e.identifier < 2 ^ 32
  uri : Over isDot e.uri

theorem RTPExtension.parsed_of_ofLine {e : RTPExtension} (hm : EXTMAP_REGEX.fullMatch line = some m)
    (h : RTPExtension.ofLine line = .ok e) : e.Parsed := by
  unfold RTPExtension.ofLine at h
  rw [hm] at h
  obtain ⟨n, -, rfl⟩ := Except.of_map_ok h
  exact ⟨Nat.mod_lt _ (by decide), over_get hm rfl rfl⟩

theorem MediaStreamIdentifier.wellFormed_ofLine (hm : MSID_REGEX.fullMatch line = some m) :
    (MediaStreamIdentifier.ofLine line).WellFormed := by
  unfold MediaStreamIdentifier.ofLine
  rw [hm]
  refine ⟨over_get hm rfl rfl, ?_⟩
  show ∀ c ∈ (m.get 2).toList, _
  rcases get_of_fullMatch hm 2 with hnil | ⟨g, hg, m₁, m₂, htakes, -⟩
  · rw [hnil]
    exact List.forall_mem_nil _
  · obtain rfl := List.mem_singleton.mp (show g ∈ [plus (one isNoSpace)] from hg)
    exact (over_of_takes htakes rfl).2

end Parts

/-! ## SSRCs -/

section SSRCs
variable {n : SSRC} {f : SSRCAttributes → SSRCAttributes} {ssrcs ssrcs' : List SSRCAttributes}

theorem SSRCAttributes.mem_update (hf : ∀ s, (f s).ssrc = s.ssrc) {t : SSRCAttributes} (ht : t ∈ update n f ssrcs) :
    t ∈ ssrcs ∨ t.ssrc = n := by
  induction ssrcs with
  | nil =>
      obtain rfl := List.mem_singleton.mp ht
      exact .inr (hf _)
  | cons s ssrcs ih =>
      rw [update] at ht
      split at ht
      next hs =>
        rcases List.mem_cons.mp ht with rfl | ht
        · exact .inr ((hf s).trans hs)
        · exact .inl (List.mem_cons_of_mem _ ht)
      next =>
        rcases List.mem_cons.mp ht with rfl | ht
        · exact .inl List.mem_cons_self
        · exact (ih ht).imp_left (List.mem_cons_of_mem _)

theorem SSRCAttributes.forall_mem_update {P : SSRCAttributes → Prop} (h : ∀ s ∈ ssrcs, P s) (hnew : P { ssrc := n })
    (hf : ∀ s, P s → P (f s)) : ∀ s ∈ update n f ssrcs, P s := by
  induction ssrcs with
  | nil => exact List.forall_mem_singleton.mpr (hf _ hnew)
  | cons s ssrcs ih =>
      obtain ⟨hs, hssrcs⟩ := List.forall_mem_cons.mp h
      rw [update]
      split
      · exact List.forall_mem_cons.mpr ⟨hf s hs, hssrcs⟩
      · exact List.forall_mem_cons.mpr ⟨hs, ih hssrcs⟩

/-- The first SSRC with the number is the one that is changed. -/
theorem SSRCAttributes.pairwise_update (hf : ∀ s, (f s).ssrc = s.ssrc)
    (h : ssrcs.Pairwise fun s t => s.ssrc = t.ssrc → t.Bare) :
    (update n f ssrcs).Pairwise fun s t => s.ssrc = t.ssrc → t.Bare := by
  induction ssrcs with
  | nil => exact List.pairwise_singleton _ _
  | cons s ssrcs ih =>
      obtain ⟨hs, hssrcs⟩ := List.pairwise_cons.mp h
      rw [update]
      split
      · refine List.pairwise_cons.mpr ⟨fun t ht => ?_, hssrcs⟩
        rw [hf]
        exact hs t ht
      next hne =>
        refine List.pairwise_cons.mpr ⟨fun t ht heq => ?_, ih hssrcs⟩
        rcases mem_update hf ht with ht | ht
        · exact hs t ht heq
        · exact absurd (heq.trans ht) hne

theorem SSRCDescription.Readable.readLine {line : String} (h : (SSRCDescription.mk ssrcs).Readable)
    (hline : ∀ c ∈ line.toList, isDot c = true) (hread : SSRCDescription.readLine ssrcs line = .ok ssrcs') :
    (SSRCDescription.mk ssrcs').Readable := by
  unfold SSRCDescription.readLine at hread
  split at hread
  next m hm =>
    obtain ⟨numbers, -, hread⟩ := Except.of_bind_ok hread
    obtain rfl := Except.ok.inj hread
    have hbare : ∀ t ∈ numbers.map fun k => ({ ssrc := .ofNat k } : SSRCAttributes), t.Bare := by
      intro t ht
      obtain ⟨k, -, rfl⟩ := List.mem_map.mp ht
      exact ⟨rfl, rfl⟩
    refine ⟨List.pairwise_append.mpr ⟨h.first, List.pairwise_of_forall_mem_list fun _ _ t ht _ => hbare t ht,
      fun _ _ t ht _ => hbare t ht⟩, List.forall_mem_append.mpr ⟨h.ssrcs, fun t ht => ?_⟩⟩
    obtain ⟨hcname, hmsid⟩ := hbare t ht
    constructor
    · rw [hcname]
      exact List.forall_mem_nil _
    · rw [hmsid]
      exact List.forall_mem_nil _
  next =>
    split at hread
    next m hm =>
      obtain ⟨k, -, hread⟩ := Except.of_bind_ok hread
      obtain rfl := Except.ok.inj hread
      have hover : Over isSsrcAttr (m.get 3) := over_get hm rfl rfl
      have hvalue : ∀ c ∈ (m.get 3).toList, isSsrcAttr c = true ∧ isDot c = true :=
        fun c hc => ⟨hover.2 c hc, forall_mem_get hm 3 hline c hc⟩
      refine ⟨SSRCAttributes.pairwise_update (fun s => ?_) h.first, SSRCAttributes.forall_mem_update h.ssrcs
        ⟨List.forall_mem_nil _, List.forall_mem_nil _⟩ fun s hs => ?_⟩
      · split_ifs <;> rfl
      · split_ifs
        · exact ⟨hvalue, hs.msid⟩
        · exact ⟨hs.cname, hvalue⟩
        · exact hs
    next =>
      obtain rfl := Except.ok.inj hread
      exact h

theorem SSRCDescription.readable_of_ofLines {lines : List String} {d : SSRCDescription}
    (hlines : ∀ line ∈ lines, ∀ c ∈ line.toList, isDot c = true) (h : ofLines lines = .ok d) : d.Readable := by
  unfold ofLines at h
  obtain ⟨ssrcs, hssrcs, h⟩ := Except.of_bind_ok h
  obtain rfl := Except.ok.inj h
  have hstart : (SSRCDescription.mk []).Readable := ⟨.nil, List.forall_mem_nil _⟩
  exact Except.of_foldlM_ok (P := fun ssrcs => (SSRCDescription.mk ssrcs).Readable) hssrcs hstart
    fun _ _ line hline h hread => h.readLine (hlines line hline) hread

end SSRCs

/-! ## Formats -/

/-- The parameters may have any characters but line ends. -/
structure MediaFormat.Parsed (f : MediaFormat) : Prop where
  pt : f.pt < 2 ^ 32
  codec : Over isWord f.codec ∨ f.pt = 0 ∧ f.codec = "" ∧ f.clockRate = 0 ∧ f.channels = none
  clockRate : f.clockRate < 2 ^ 32
  channels : ∀ n ∈ f.channels, n < 2 ^ 32
  fbTypes : ∀ fbType ∈ f.fbTypes, Over isFbType fbType ∧ Over isDot fbType
  fmtParams : ∀ fmtParam ∈ f.fmtParams, Over isDot fmtParam

section Formats
variable {f f' : MediaFormat} {line : String} {lines : List String}

theorem MediaFormat.Parsed.readLine (hf : f.Parsed) (hline : ∀ c ∈ line.toList, isDot c = true)
    (h : f.readLine line = .ok f') : f'.Parsed := by
  cases readLine_step h with
  | rtpmap hm _ hchannels =>
      refine ⟨Nat.mod_lt _ (by decide), .inl (over_get hm rfl rfl), Nat.mod_lt _ (by decide), ?_, hf.fbTypes,
        hf.fmtParams⟩
      rcases hchannels with rfl | hchannels
      · exact hf.channels
      · exact hchannels
  | fbType _ hm =>
      have hover := over_get (p := isFbType) (i := 2) hm rfl rfl
      split_ifs
      · exact { hf with fbTypes := List.forall_mem_append.mpr ⟨hf.fbTypes,
          List.forall_mem_singleton.mpr ⟨hover, hover.1, forall_mem_get hm 2 hline⟩⟩ }
      · exact hf
  | fmtParam _ hm =>
      split_ifs
      · exact { hf with fmtParams := List.forall_mem_append.mpr ⟨hf.fmtParams,
          List.forall_mem_singleton.mpr (over_get hm rfl rfl)⟩ }
      · exact hf
  | other => exact hf

theorem MediaFormat.parsed_of_ofLines (hlines : ∀ line ∈ lines, ∀ c ∈ line.toList, isDot c = true)
    (h : ofLines lines = .ok f) : f.Parsed := by
  have hstart : MediaFormat.Parsed {} :=
    ⟨by decide, .inr ⟨rfl, rfl, rfl, rfl⟩, by decide, nofun, List.forall_mem_nil _, List.forall_mem_nil _⟩
  exact Except.of_foldlM_ok h hstart fun _ _ line hline hf h => hf.readLine (hlines line hline) h

/-- The codec is known once its line has been read. -/
theorem MediaFormat.codec_ne_of_readLine (hf : f.codec ≠ "" ∨ (RTP_MAP_REGEX.fullMatch line).isSome = true)
    (h : f.readLine line = .ok f') : f'.codec ≠ "" := by
  cases readLine_step h with
  | rtpmap hm =>
      have hover := over_get (p := isWord) (i := 2) hm rfl rfl
      exact hover.1
  | fbType hmap =>
      have hne := hf.resolve_right (by simp [hmap])
      split_ifs <;> exact hne
  | fmtParam hmap =>
      have hne := hf.resolve_right (by simp [hmap])
      split_ifs <;> exact hne
  | other hmap => exact hf.resolve_right (by simp [hmap])

theorem MediaFormat.codec_ne_of_ofLines (hline : (RTP_MAP_REGEX.fullMatch line).isSome = true)
    (h : ofLines (line :: lines) = .ok f) : f.codec ≠ "" := by
  unfold ofLines at h
  rw [List.foldlM_cons] at h
  obtain ⟨f₁, hf₁, h⟩ := Except.of_bind_ok h
  exact Except.of_foldlM_ok (P := fun f => f.codec ≠ "") h (codec_ne_of_readLine (.inr hline) hf₁)
    fun _ _ _ _ hf h => codec_ne_of_readLine (.inl hf) h

end Formats

/-- Of the formats only the first may have no codec; the lines of a later one begin with its codec. -/
structure FormatReading.Parsed (t : FormatReading) : Prop where
  formats : ∀ f ∈ t.1, f.Parsed
  codecs : ∀ f ∈ t.1.tail, f.codec ≠ ""
  lines : ∀ line ∈ t.2, ∀ c ∈ line.toList, isDot c = true
  begun : t.1 ≠ [] → ∃ line lines, t.2 = line :: lines ∧ (RTP_MAP_REGEX.fullMatch line).isSome = true

section FormatReadings
variable {t t' : FormatReading} {fs : List MediaFormat} {line : String}

theorem FormatReading.Parsed.flush (ht : FormatReading.Parsed t) (h : flushFormats t = .ok fs) :
    (∀ f ∈ fs, f.Parsed) ∧ ∀ f ∈ fs.tail, f.codec ≠ "" := by
  unfold flushFormats at h
  split at h
  · obtain ⟨f, hf, rfl⟩ := Except.of_map_ok h
    have hparsed := MediaFormat.parsed_of_ofLines ht.lines hf
    refine ⟨List.forall_mem_append.mpr ⟨ht.formats, List.forall_mem_singleton.mpr hparsed⟩, ?_⟩
    by_cases hnil : t.1 = []
    · rw [hnil]
      exact List.forall_mem_nil _
    · obtain ⟨line, lines, hlines, hmap⟩ := ht.begun hnil
      rw [hlines] at hf
      rw [List.tail_append_of_ne_nil hnil]
      exact List.forall_mem_append.mpr ⟨ht.codecs,
        List.forall_mem_singleton.mpr (MediaFormat.codec_ne_of_ofLines hmap hf)⟩
  · obtain rfl := Except.ok.inj h
    exact ⟨ht.formats, ht.codecs⟩

theorem FormatReading.Parsed.formatStep (ht : FormatReading.Parsed t) (hline : ∀ c ∈ line.toList, isDot c = true)
    (h : formatStep t line = .ok t') : FormatReading.Parsed t' := by
  unfold Sdp.formatStep at h
  split at h
  next hmap =>
    obtain ⟨fs, hfs, rfl⟩ := Except.of_map_ok h
    obtain ⟨hformats, hcodecs⟩ := ht.flush hfs
    exact ⟨hformats, hcodecs, List.forall_mem_singleton.mpr hline, fun _ => ⟨line, [], rfl, hmap⟩⟩
  next =>
    obtain rfl := Except.ok.inj h
    refine ⟨ht.formats, ht.codecs, List.forall_mem_append.mpr ⟨ht.lines, List.forall_mem_singleton.mpr hline⟩, ?_⟩
    intro hne
    obtain ⟨first, lines, hlines, hmap⟩ := ht.begun hne
    exact ⟨first, lines ++ [line], by rw [hlines]; rfl, hmap⟩

end FormatReadings

/-! ## Sections -/

structure MediaDescription.Parsed (m : MediaDescription) : Prop where
  protocols : Over isProtocols m.protocols
  connectionData : ∀ c ∈ m.connectionData, c.Parsed
  rtcpConfiguration : ∀ c ∈ m.rtcpConfiguration, c.WellFormed
  iceCandidates : ∀ c ∈ m.iceCandidates, c.Parsed
  mediaFormats : ∀ f ∈ m.mediaFormats, f.Parsed
  codecs : ∀ f ∈ m.mediaFormats.tail, f.codec ≠ ""
  iceUfrag : ∀ iceUfrag ∈ m.iceUfrag, Over isIce iceUfrag
  icePwd : ∀ icePwd ∈ m.icePwd, Over isIce icePwd
  iceOtherLines : ∀ line ∈ m.iceOtherLines, (ICE_OTHER_REGEX.fullMatch line).isSome ∧
    ICE_UFRAG_REGEX.fullMatch line = none ∧ ICE_PWD_REGEX.fullMatch line = none
  mid : ∀ mid ∈ m.mid, Over isWord mid
  extensions : ∀ e ∈ m.extensions, e.Parsed
  msid : ∀ i ∈ m.msid, i.WellFormed
  rtcpOtherLines : ∀ line ∈ m.rtcpOtherLines, (RTCP_OTHER_REGEX.fullMatch line).isSome
  ssrcDescription : ∀ d ∈ m.ssrcDescription, d.Readable

/-- What has been read of a section, apart from the formats. -/
structure MediaReading.Parsed (r : MediaReading) : Prop where
  media : (r.media.withFormats []).Parsed
  ssrcLines : ∀ line ∈ r.ssrcLines, ∀ c ∈ line.toList, isDot c = true
  iceCandidateLines : ∀ line ∈ r.iceCandidateLines, (ICE_CANDIDATE_REGEX.fullMatch line).isSome

/-- A text of characters that `.` stands for. -/
def AllDot (s : String) : Prop := ∀ c ∈ s.toList, isDot c = true

instance (s : String) : Decidable (AllDot s) := decidable_of_iff (s.toList.all isDot = true) List.all_eq_true

theorem within_dots {s : String} (hs : AllDot s) : (text s ++ dots).Within isDot :=
  ⟨hs, fun _ h => h, fun _ h => h⟩

theorem isDot_of_isFormat {line : String} (h : isFormat line = true) : ∀ c ∈ line.toList, isDot c = true := by
  have htext : AllDot "a=" := by decide
  have hwords : ∀ w ∈ ["rtpmap", "rtcp-fb", "fmtp"], AllDot w := by decide
  obtain ⟨m, hm⟩ := Option.isSome_iff_exists.mp h
  exact within_of_fullMatch hm ⟨⟨htext, within_anyOf hwords⟩, fun _ h => h, fun _ h => h⟩

namespace MediaReading

variable {r r' : MediaReading} {line : String}

theorem Parsed.flush (hr : r.Parsed) (h : r.flush = .ok r') : r'.Parsed := by
  unfold MediaReading.flush at h
  split at h
  · obtain ⟨format, -, h⟩ := Except.of_bind_ok h
    obtain rfl := Except.ok.inj h
    exact ⟨hr.media, hr.ssrcLines, hr.iceCandidateLines⟩
  · obtain rfl := Except.ok.inj h
    exact hr

theorem Parsed.readLine (hr : r.Parsed) (h : r.readLine line = .ok r') : r'.Parsed := by
  have hmedia := hr.media
  have hssrcs := hr.ssrcLines
  have hcandidates := hr.iceCandidateLines
  cases readLine_step h with
  | mLine hm => exact ⟨{ hmedia with protocols := over_get hm rfl rfl }, hssrcs, hcandidates⟩
  | connectionData hm =>
      refine ⟨{ hmedia with connectionData := ?_ }, hssrcs, hcandidates⟩
      intro c hc
      obtain rfl := Option.some.inj hc
      exact ConnectionData.parsed_ofLine hm
  | rtcpConfiguration hm hread =>
      refine ⟨{ hmedia with rtcpConfiguration := ?_ }, hssrcs, hcandidates⟩
      intro c hc
      obtain rfl := Option.some.inj hc
      exact RTCPConfiguration.wellFormed_of_ofLine hm hread
  | iceUfrag hm =>
      refine ⟨{ hmedia with iceUfrag := ?_ }, hssrcs, hcandidates⟩
      intro s hs
      obtain rfl := Option.some.inj hs
      exact over_get hm rfl rfl
  | icePwd hm =>
      refine ⟨{ hmedia with icePwd := ?_ }, hssrcs, hcandidates⟩
      intro s hs
      obtain rfl := Option.some.inj hs
      exact over_get hm rfl rfl
  | mid hm =>
      refine ⟨{ hmedia with mid := ?_ }, hssrcs, hcandidates⟩
      intro s hs
      obtain rfl := Option.some.inj hs
      exact over_get hm rfl rfl
  | extension hm he =>
      exact ⟨{ hmedia with extensions := List.forall_mem_append.mpr ⟨hmedia.extensions,
        List.forall_mem_singleton.mpr (RTPExtension.parsed_of_ofLine hm he)⟩ }, hssrcs, hcandidates⟩
  | msid hm =>
      refine ⟨{ hmedia with msid := ?_ }, hssrcs, hcandidates⟩
      intro i hi
      obtain rfl := Option.some.inj hi
      exact MediaStreamIdentifier.wellFormed_ofLine hm
  | direction => exact ⟨{ hmedia with }, hssrcs, hcandidates⟩
  | iceCandidate hm =>
      exact ⟨hmedia, hssrcs, List.forall_mem_append.mpr ⟨hcandidates, List.forall_mem_singleton.mpr (by rw [hm]; rfl)⟩⟩
  | ssrc hm =>
      refine ⟨hmedia, List.forall_mem_append.mpr ⟨hssrcs, List.forall_mem_singleton.mpr ?_⟩, hcandidates⟩
      exact within_of_fullMatch hm (within_dots (by decide))
  | rtpmap _ _ hflush =>
      have hparsed : Parsed _ := hr.flush hflush
      exact ⟨hparsed.media, hparsed.ssrcLines, hparsed.iceCandidateLines⟩
  | format => exact ⟨hmedia, hssrcs, hcandidates⟩
  | iceOther hm hufrag hpwd =>
      refine ⟨{ hmedia with iceOtherLines := List.forall_mem_append.mpr ⟨hmedia.iceOtherLines, ?_⟩ }, hssrcs,
        hcandidates⟩
      exact List.forall_mem_singleton.mpr ⟨by rw [hm]; rfl, hufrag, hpwd⟩
  | rtcpOther hm =>
      refine ⟨{ hmedia with rtcpOtherLines := List.forall_mem_append.mpr ⟨hmedia.rtcpOtherLines, ?_⟩ }, hssrcs,
        hcandidates⟩
      exact List.forall_mem_singleton.mpr (by rw [hm]; rfl)
  | other => exact ⟨{ hmedia with }, hssrcs, hcandidates⟩

theorem forall_mem_none {α : Type} {p : α → Prop} : ∀ a ∈ (none : Option α), p a :=
  fun a ha => absurd ha (Option.not_mem_none a)

theorem parsed_mLine (hline : isMediaLine line = true)
    (h : MediaReading.readLine { media := { type := .audio } } line = .ok r) : r.Parsed := by
  obtain ⟨m, hm⟩ := Option.isSome_iff_exists.mp hline
  unfold MediaReading.readLine mediaBranches firstMatch at h
  rw [hm] at h
  obtain ⟨type, -, h⟩ := Except.of_bind_ok h
  obtain ⟨port, -, h⟩ := Except.of_bind_ok h
  obtain rfl := Except.ok.inj h
  refine ⟨?_, List.forall_mem_nil _, List.forall_mem_nil _⟩
  exact ⟨over_get hm rfl rfl, forall_mem_none, forall_mem_none, List.forall_mem_nil _, List.forall_mem_nil _,
    List.forall_mem_nil _, forall_mem_none, forall_mem_none, List.forall_mem_nil _, forall_mem_none,
    List.forall_mem_nil _, forall_mem_none, List.forall_mem_nil _, forall_mem_none⟩

end MediaReading

section Sections
variable {line : String} {lines : List String} {m : MediaDescription} {d : SessionDescription}

theorem formats_parsed_of_ofLines (h : MediaDescription.ofLines lines = .ok m) :
    (∀ f ∈ m.mediaFormats, f.Parsed) ∧ ∀ f ∈ m.mediaFormats.tail, f.codec ≠ "" := by
  obtain ⟨m₀, fs, -, hfs, rfl⟩ := MediaDescription.ofLines_iff_formats.mp h
  obtain ⟨t, ht, hfs⟩ := Except.of_bind_ok hfs
  have hstart : FormatReading.Parsed ([], []) :=
    ⟨List.forall_mem_nil _, List.forall_mem_nil _, List.forall_mem_nil _, fun hne => absurd rfl hne⟩
  have hread := Except.of_foldlM_ok (P := FormatReading.Parsed) ht hstart fun _ _ line hline ht h =>
    ht.formatStep (isDot_of_isFormat (List.mem_filter.mp hline).2) h
  exact hread.flush hfs

/-- A section that begins with its `m=` line. -/
theorem MediaDescription.parsed_of_ofLines (hline : isMediaLine line = true) (h : ofLines (line :: lines) = .ok m) :
    m.Parsed := by
  obtain ⟨hformats, hcodecs⟩ := formats_parsed_of_ofLines h
  unfold ofLines at h
  obtain ⟨r, hr, h⟩ := Except.of_bind_ok h
  rw [List.foldlM_cons] at hr
  obtain ⟨r₁, hr₁, hr⟩ := Except.of_bind_ok hr
  have hparsed : r.Parsed :=
    Except.of_foldlM_ok hr (MediaReading.parsed_mLine hline hr₁) fun _ _ _ _ hr h => hr.readLine h
  unfold MediaReading.finish at h
  obtain ⟨r', hr', h⟩ := Except.of_bind_ok h
  obtain ⟨candidates, hcandidates, h⟩ := Except.of_bind_ok h
  obtain ⟨ssrcs, hssrcs, h⟩ := Except.of_bind_ok h
  obtain rfl := Except.ok.inj h
  obtain ⟨hmedia, hssrcLines, hcandidateLines⟩ := hparsed.flush hr'
  refine { hmedia with
    mediaFormats := hformats, codecs := hcodecs, iceCandidates := ?_, ssrcDescription := ?_ }
  · intro c hc
    obtain ⟨line, hline, hread⟩ := Except.exists_source_of_mapM_ok hcandidates hc
    obtain ⟨k, hk⟩ := Option.isSome_iff_exists.mp (hcandidateLines line hline)
    exact ICECandidate.parsed_of_ofLine hk hread
  · intro d hd
    obtain rfl : ssrcs = some d := hd
    unfold SSRCDescription.ofLines? at hssrcs
    split at hssrcs
    · obtain ⟨d', hd', heq⟩ := Except.of_map_ok hssrcs
      obtain rfl := Option.some.inj heq
      exact SSRCDescription.readable_of_ofLines hssrcLines hd'
    · cases hssrcs

end Sections

/-! ## Sessions -/

def OneLine (line : String) : Prop := ¬ ['\r', '\n'] <:+: line.toList

theorem oneLine_of_mem_linesOf {text line : String} (h : line ∈ linesOf text) : OneLine line := by
  obtain ⟨cs, hcs, rfl⟩ := List.mem_map.mp h
  unfold OneLine
  rw [String.toList_ofList]
  exact (Util.splits_splitLines _).not_inside (List.cons_ne_nil _ _) hcs

structure SessionDescription.Parsed (d : SessionDescription) : Prop where
  version : d.version = 0
  origin : d.origin.WellFormed
  sessionName : Over isDot d.sessionName
  someTiming : d.timing ≠ []
  timing : ∀ t ∈ d.timing, t.WellFormed
  mediaDescriptions : ∀ m ∈ d.mediaDescriptions, m.Parsed
  otherLines : ∀ line ∈ d.otherLines, isMediaLine line = false ∧ firstMatch sessionBranches line = none
  oneLine : ∀ line ∈ d.otherLines, OneLine line

/-- What has been read of some of the lines. -/
structure SessionReading.Parsed (lines : List String) (r : SessionReading) : Prop where
  origin : r.origin = true → r.session.origin.WellFormed
  sessionName : Over isDot r.session.sessionName
  timing : ∀ t ∈ r.session.timing, t.WellFormed
  otherLines : ∀ line ∈ r.session.otherLines, line ∈ lines ∧ firstMatch sessionBranches line = none

theorem SessionReading.Parsed.readLine {lines : List String} {line : String} {r r' : SessionReading}
    (hr : r.Parsed lines) (hline : line ∈ lines) (h : r.readLine line = .ok r') : r'.Parsed lines := by
  unfold SessionReading.readLine at h
  split at h
  next branch m hfirst =>
    obtain ⟨re, hmem, hm⟩ := firstMatch_mem hfirst
    simp only [sessionBranches, List.mem_cons, List.not_mem_nil, or_false, Prod.mk.injEq] at hmem
    rcases hmem with ⟨rfl, rfl⟩ | ⟨rfl, rfl⟩ | ⟨rfl, rfl⟩ | ⟨rfl, rfl⟩ | ⟨rfl, rfl⟩
    · obtain ⟨n, -, rfl⟩ := Except.of_map_ok h
      exact { hr with }
    · obtain ⟨o, ho, rfl⟩ := Except.of_map_ok h
      exact { hr with origin := fun _ => Origin.wellFormed_of_ofLine hm ho }
    · obtain rfl := Except.ok.inj h
      exact { hr with sessionName := over_get hm rfl rfl }
    · obtain ⟨t, ht, rfl⟩ := Except.of_map_ok h
      exact { hr with timing := List.forall_mem_append.mpr ⟨hr.timing,
        List.forall_mem_singleton.mpr (Timing.wellFormed_of_ofLine hm ht)⟩ }
    · obtain rfl := Except.ok.inj h
      exact hr
  next hfirst =>
    obtain rfl := Except.ok.inj h
    exact { hr with otherLines := List.forall_mem_append.mpr ⟨hr.otherLines,
      List.forall_mem_singleton.mpr ⟨hline, hfirst⟩⟩ }

theorem SessionDescription.parsed_of_ofLines {lines : List String} {d : SessionDescription}
    (hlines : ∀ line ∈ lines, OneLine line) (h : ofLines lines = .ok d) : d.Parsed := by
  obtain ⟨r, medias, hr, hmedias, -, hversion, horigin, htiming, rfl⟩ := ofLines_eq_ok_iff.mp h
  have hstart : SessionReading.Parsed (sections lines).1 {} :=
    ⟨nofun, by decide, List.forall_mem_nil _, List.forall_mem_nil _⟩
  have hread := Except.of_foldlM_ok hr hstart fun _ _ _ hline hr h => hr.readLine hline h
  have hmem {line : String} (hline : line ∈ r.session.otherLines) := (hread.otherLines line hline).1
  exact {
    version := hversion
    origin := hread.origin horigin
    sessionName := hread.sessionName
    someTiming := htiming
    timing := hread.timing
    mediaDescriptions := by
      intro m hm
      obtain ⟨s, hs, hm⟩ := Except.exists_source_of_mapM_ok hmedias hm
      obtain ⟨first, rest, rfl, hfirst, -⟩ := exists_of_mem_sectionsBy hs
      exact MediaDescription.parsed_of_ofLines hfirst hm
    otherLines := fun line hline =>
      ⟨eq_false_of_ne_true (not_begins_of_mem_fst (hmem hline)), (hread.otherLines line hline).2⟩
    oneLine := by
      intro line hline
      apply hlines
      rw [← flatten_sectionsBy isMediaLine lines]
      exact List.mem_append_left _ (hmem hline) }

theorem SessionDescription.parsed_of_parse {text : String} {d : SessionDescription} (h : parse text = .ok d) :
    d.Parsed := parsed_of_ofLines (fun _ => oneLine_of_mem_linesOf) h

end Sdp

end Scallop
