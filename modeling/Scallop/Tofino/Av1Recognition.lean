import Scallop.Tofino.IngressParser

/-!
# Recognition of dependency descriptors

What the parser of the switch extracts as `hdr.av1`, against `rtp::hdr::extension_ptr` for the same packet.

* `Tiles` : the contents of an extension block are elements and zero padding; `ExtensionPacket` : an RTP packet with
  such a block of at most 31 words;
* `switch_av1_iff` : what the parser extracts; `extensionPtr_of_lead` : where the walk finds the descriptor;
* `recognition_agrees_iff` : the two agree except on the packets that are `Misread`: where the block is empty, or where
  a 2-byte header announces two bytes.
-/

namespace Scallop

namespace Tofino

open Rtp (ExtProfile extensionPtr)

inductive Tiles (profile : ExtProfile) : Buf → Prop
  | nil : Tiles profile []
  | padding {bs : Buf} : Tiles profile bs → Tiles profile (0 :: bs)
  | element {hd data bs : Buf} : hd.length = headerBytes profile → hd.u8 0 ≠ 0 →
      data.length = elementBytes profile hd → Tiles profile bs → Tiles profile (hd ++ (data ++ bs))

/-- An RTP packet without CSRCs whose extension block has one of the two profiles and at most 31 words, all there. -/
structure ExtensionPacket (buf : Buf) (profile : ExtProfile) (words : Nat) : Prop where
  version : buf.u8 0 >>> 6 = 2
  extension : Rtp.extension buf = true
  csrc : Rtp.csrcCount buf = 0
  magic : profile = .oneByte ∧ buf.u8 12 = 0xbe ∧ buf.u8 13 = 0xde ∨
    profile = .twoByte ∧ buf.u8 12 = 0x10 ∧ buf.u8 13 = 0x00
  announced : buf.u8 14 = 0 ∧ (buf.u8 15).toNat = words
  short : words ≤ 31
  present : 16 + 4 * words ≤ buf.length
  tiles : Tiles profile ((buf.drop 16).take (4 * words))

section Switch
variable {buf : Buf} {profile : ExtProfile} {words : Nat} {d : Buf}

theorem setCounter_eq (c : Cursor) {field : UInt8} (h : field.toNat ≤ 31) :
    (c.setCounter field).rtpExtnLenCounter = 4 * field.toNat := by
  have hall : ∀ n : Fin 32, ((BitVec.ofNat 8 n.val).rotateRight 6 &&& 127#8).toNat = 4 * n.val := by decide
  have hf : field.toBitVec = BitVec.ofNat 8 field.toNat := by
    apply BitVec.eq_of_toNat_eq
    rw [BitVec.toNat_ofNat]
    exact (Nat.mod_eq_of_lt field.toNat_lt).symm
  have hrot := hall ⟨field.toNat, by omega⟩
  rw [← hf] at hrot
  show min 255 (((field.toBitVec.rotateRight 6 &&& 127#8).toNat + 0 : Nat) : Int) = _
  rw [hrot]
  dsimp only
  omega

theorem u8_take {buf : Buf} {i n : Nat} (h : i < n) : Buf.u8 (buf.take n) i = buf.u8 i := by
  simp [Buf.u8, List.getD_eq_getElem?_getD, h]

theorem u8_drop (buf : Buf) (i n : Nat) : Buf.u8 (buf.drop n) i = buf.u8 (n + i) := by
  simp [Buf.u8, List.getD_eq_getElem?_getD]

theorem lookahead_eq {c : Cursor} {n : Nat} {next : Buf → State} (h : n ≤ c.rest.length) :
    c.lookahead n next = next (c.rest.take n) c := if_pos h

theorem extract_eq {c : Cursor} {h : Hdr} {n : Nat} {next : Buf → State} (hn : n ≤ c.rest.length) :
    c.extract h n next =
      next (c.rest.take n) { c with rest := c.rest.drop n, hdr := c.hdr ++ [(h, c.rest.take n)] } := if_pos hn

/-- The parser takes the packet for RTCP if its second byte is that of an RTCP packet. -/
theorem tryParse_eq (hp : ExtensionPacket buf profile words) :
    switchIngressParser buf =
      if Rtp.isRtcp buf then parseRtcp { rest := buf } else parseRtpWithExtns { rest := buf } := by
  have hlen := hp.present
  have h0 : Buf.u8 (buf.take 2) 0 = buf.u8 0 := u8_take (by omega)
  have h1 : Buf.u8 (buf.take 2) 1 = buf.u8 1 := u8_take (by omega)
  have hext : (buf.u8 0 >>> 4) &&& 0x01 = 1 := of_decide_eq_true hp.extension
  rw [switchIngressParser, tryParseStunRtpRtcp, lookahead_eq (by show 2 ≤ buf.length; omega)]
  dsimp only
  rw [h0, h1, hp.version, hext, if_neg (by decide)]
  by_cases hr : 200 ≤ buf.u8 1 ∧ buf.u8 1 ≤ 207
  · rw [if_pos ⟨rfl, hr⟩, if_pos (by simpa [Rtp.isRtcp] using hr)]
  · rw [if_neg fun h => hr h.2, if_pos ⟨rfl, rfl⟩, if_neg (by simpa [Rtp.isRtcp] using hr)]

/-- The extension block of the packet: the counter is set, and its elements are next. -/
theorem parseRtpWithExtns_iff (hp : ExtensionPacket buf profile words) :
    hdrAv1 (parseRtpWithExtns { rest := buf }) = some d ↔ Av1At profile 3 (4 * words) (buf.drop 16) d := by
  have hlen := hp.present
  have hu : ∀ i < 4, Buf.u8 ((buf.drop 12).take 4) i = buf.u8 (12 + i) := fun i hi => by rw [u8_take hi, u8_drop]
  have hword : (buf.u8 15).toNat ≤ 31 := by
    rw [hp.announced.2]
    exact hp.short
  have hdrop : (buf.drop 12).drop 4 = buf.drop 16 := by rw [List.drop_drop]
  rw [parseRtpWithExtns, extract_eq (by show 12 ≤ buf.length; omega), parseRtpExtensions,
    lookahead_eq (by show 4 ≤ (buf.drop 12).length; rw [List.length_drop]; omega)]
  dsimp only
  rw [hu 0 (by omega), hu 1 (by omega), hu 2 (by omega), hu 3 (by omega)]
  have hcounter := setCounter_eq
    { rest := buf.drop 12, hdr := [] ++ [(Hdr.rtp, buf.take 12)] } hword
  rw [hp.announced.2] at hcounter
  obtain ⟨rfl, h12, h13⟩ | ⟨rfl, h12, h13⟩ := hp.magic
  · rw [h12, h13, hp.announced.1, if_pos (by decide), parseRtpExtnOnebytehdrtype,
      extract_eq (by show 4 ≤ (buf.drop 12).length; rw [List.length_drop]; omega)]
    refine (finds_onebyte _ d ?_).trans ?_
    · rfl
    · show Av1At _ 3 (Cursor.rtpExtnLenCounter _) ((buf.drop 12).drop 4) d ↔ _
      rw [hdrop]
      exact Iff.of_eq (congrArg (fun t => Av1At _ 3 t (buf.drop 16) d) hcounter)
  · rw [h12, h13, hp.announced.1, if_neg (by decide), if_pos (by decide), parseRtpExtnTwobytehdrtype,
      extract_eq (by show 4 ≤ (buf.drop 12).length; rw [List.length_drop]; omega)]
    refine (finds_twobyte _ d ?_).trans ?_
    · rfl
    · show Av1At _ 3 (Cursor.rtpExtnLenCounter _) ((buf.drop 12).drop 4) d ↔ _
      rw [hdrop]
      exact Iff.of_eq (congrArg (fun t => Av1At _ 3 t (buf.drop 16) d) hcounter)

/-- What the parser of the switch extracts as `hdr.av1`. -/
theorem switch_av1_iff (hp : ExtensionPacket buf profile words) :
    hdrAv1 (switchIngressParser buf) = some d ↔
      Rtp.isRtcp buf = false ∧ Av1At profile 3 (4 * words) (buf.drop 16) d := by
  rw [tryParse_eq hp]
  cases hr : Rtp.isRtcp buf with
  | false =>
      rw [if_neg Bool.false_ne_true, parseRtpWithExtns_iff hp]
      simp
  | true =>
      rw [if_pos rfl, parseRtcp, extract_eq (by show 8 ≤ buf.length; have := hp.present; omega)]
      constructor
      · intro hx
        have hnone : hdrAv1 ([] ++ [(Hdr.rtcp, buf.take 8)]) = none := hdrAv1_push rfl (by simp) _
        exact absurd (hnone.symm.trans hx) (by simp)
      · intro hx
        cases hx.1

end Switch

/-! ## The walk over the block -/

section Walk
variable {buf : Buf} {profile : ExtProfile} {bs rest hd data : Buf} {p : Nat}

theorem readByte_of_drop {b : UInt8} (h : buf.drop p = b :: rest) : buf.readByte p = .ok b := by
  have hb : buf[p]? = some b := by
    rw [← List.head?_drop, h]
    rfl
  unfold Buf.readByte
  rw [hb]

theorem extLen_eq (hprof : profile = .oneByte ∨ profile = .twoByte) (hlen : hd.length = headerBytes profile)
    (h : buf.drop p = hd ++ rest) : Rtp.extLen buf p profile = .ok (elementBytes profile hd) := by
  obtain rfl | rfl := hprof
  · obtain ⟨b, rfl⟩ := List.length_eq_one_iff.mp hlen
    unfold Rtp.extLen
    rw [readByte_of_drop h]
    show Except.ok ((b &&& 0x0f).toNat + 1) = Except.ok (b.toNat % 16 + 1)
    rw [low_toNat]
  · obtain ⟨b, l, rfl⟩ := List.length_eq_two.mp hlen
    have h1 : buf.drop (p + 1) = l :: rest := by
      rw [← List.drop_drop, h]
      rfl
    unfold Rtp.extLen
    rw [readByte_of_drop h1]
    rfl

theorem extType_eq (hprof : profile = .oneByte ∨ profile = .twoByte) (hlen : hd.length = headerBytes profile)
    (h : buf.drop p = hd ++ rest) : Rtp.extType buf p profile = .ok (elementId profile hd) := by
  obtain rfl | rfl := hprof
  · obtain ⟨b, rfl⟩ := List.length_eq_one_iff.mp hlen
    have hb := b.toNat_lt
    unfold Rtp.extType
    rw [readByte_of_drop h]
    show Except.ok (((b >>> 4) &&& 0x0f).toNat) = Except.ok (b.toNat / 16)
    rw [low_toNat, shift_toNat, Nat.mod_eq_of_lt (by omega)]
  · obtain ⟨b, l, rfl⟩ := List.length_eq_two.mp hlen
    unfold Rtp.extType
    rw [readByte_of_drop h]
    rfl

theorem headerBytes_pos (profile : ExtProfile) : 0 < headerBytes profile := by
  unfold headerBytes
  split <;> omega

theorem walk_element (hprof : profile = .oneByte ∨ profile = .twoByte) (hlen : hd.length = headerBytes profile)
    (hne : hd.u8 0 ≠ 0) (h : buf.drop (12 + p) = hd ++ rest) {stop fuel : Nat} (hp : p < stop) :
    Rtp.walkExtensions buf profile (headerBytes profile) stop (fuel + 1) p =
      ((12 + p) :: ·) <$> Rtp.walkExtensions buf profile (headerBytes profile) stop fuel
        (p + (elementBytes profile hd + headerBytes profile)) := by
  obtain ⟨b, hd', rfl⟩ : ∃ b hd', hd = b :: hd' := by
    cases hd with
    | nil => exact absurd hlen (Nat.ne_of_lt (headerBytes_pos profile))
    | cons b hd' => exact ⟨b, hd', rfl⟩
  have hb : b ≠ 0 := hne
  rw [Rtp.walkExtensions, if_pos hp, readByte_of_drop h, extLen_eq hprof hlen h]
  show (if b ≠ 0 then _ else _) = _
  rw [if_pos hb]
  rfl

theorem walk_padding {hdrLen stop fuel : Nat} (h : buf.drop (12 + p) = 0 :: rest) (hp : p < stop) :
    Rtp.walkExtensions buf profile hdrLen stop (fuel + 1) p =
      Rtp.walkExtensions buf profile hdrLen stop fuel (p + 1) := by
  rw [Rtp.walkExtensions, if_pos hp, readByte_of_drop h]
  rfl

/-- The walk goes through the whole block without a fault. -/
theorem walk_tiles (hprof : profile = .oneByte ∨ profile = .twoByte) (ht : Tiles profile bs) :
    ∀ {p fuel : Nat}, buf.drop (12 + p) = bs ++ rest → bs.length ≤ fuel →
      ∃ ps, Rtp.walkExtensions buf profile (headerBytes profile) (p + bs.length) fuel p = .ok ps := by
  induction ht with
  | nil =>
      intro p fuel _ _
      cases fuel with
      | zero => exact ⟨[], rfl⟩
      | succ fuel => exact ⟨[], by rw [Rtp.walkExtensions, if_neg (by simp)]⟩
  | @padding bs _ ih =>
      intro p fuel h hf
      cases fuel with
      | zero => exact absurd hf (by simp)
      | succ fuel =>
          have h' : buf.drop (12 + (p + 1)) = bs ++ rest := by
            rw [show 12 + (p + 1) = 12 + p + 1 by omega, ← List.drop_drop, h]
            rfl
          obtain ⟨ps, hps⟩ := @ih (p + 1) fuel h' (by simpa using hf)
          refine ⟨ps, ?_⟩
          rw [walk_padding h (by simp), ← hps, List.length_cons]
          congr 1
          omega
  | @element hd data bs hlen hne hdata _ ih =>
      intro p fuel h hf
      rw [List.length_append, List.length_append] at hf
      have hpos := headerBytes_pos profile
      cases fuel with
      | zero => omega
      | succ fuel =>
          have hnext : buf.drop (12 + (p + (elementBytes profile hd + headerBytes profile))) = bs ++ rest := by
            rw [show 12 + (p + (elementBytes profile hd + headerBytes profile))
              = 12 + p + (hd ++ data).length by rw [List.length_append]; omega, ← List.drop_drop, h]
            simp
          obtain ⟨ps, hps⟩ := @ih _ fuel hnext (by omega)
          refine ⟨(12 + p) :: ps, ?_⟩
          rw [@walk_element _ _ (data ++ bs ++ rest) hd p hprof hlen hne (by rw [h]; simp) _ fuel
            (by rw [List.length_append]; omega)]
          rw [show p + (hd ++ (data ++ bs)).length = p + (elementBytes profile hd + headerBytes profile) + bs.length by
            rw [List.length_append, List.length_append]; omega, hps]
          rfl

theorem u8_ne_zero (h : elementId profile hd ≠ 0) : hd.u8 0 ≠ 0 := by
  intro h0
  apply h
  unfold elementId
  rw [h0]
  split <;> rfl

/-- The block begins with a header of which the identifier is not zero: with the element of this header. -/
theorem tiles_element (ht : Tiles profile bs) (hne : bs ≠ []) (hlen : hd.length = headerBytes profile)
    (hid : elementId profile hd ≠ 0) {tail : Buf} (he : bs ++ rest = hd ++ tail) :
    ∃ data bs', bs = hd ++ (data ++ bs') ∧ data.length = elementBytes profile hd ∧ Tiles profile bs' := by
  cases ht with
  | nil => exact absurd rfl hne
  | padding ht =>
      obtain ⟨b, hd', rfl⟩ : ∃ b hd', hd = b :: hd' := by
        cases hd with
        | nil => exact absurd hlen (Nat.ne_of_lt (headerBytes_pos profile))
        | cons b hd' => exact ⟨b, hd', rfl⟩
      rw [List.cons_append, List.cons_append, List.cons.injEq] at he
      exact absurd he.1.symm (u8_ne_zero hid)
  | @element hd' data bs' hlen' hne' hdata ht =>
      rw [List.append_assoc] at he
      obtain ⟨rfl, -⟩ := List.append_inj he (hlen'.trans hlen.symm)
      exact ⟨data, bs', rfl, hdata, ht⟩

/-- What the walk goes on with after an element. -/
theorem drop_element (h : buf.drop (12 + p) = hd ++ (data ++ rest)) (hlen : hd.length = headerBytes profile)
    (hdata : data.length = elementBytes profile hd) :
    buf.drop (12 + (p + (elementBytes profile hd + headerBytes profile))) = rest := by
  rw [show 12 + (p + (elementBytes profile hd + headerBytes profile)) = 12 + p + (hd ++ data).length by
    rw [List.length_append]; omega, ← List.drop_drop, h, ← List.append_assoc, List.drop_left]

/-- The walk finds the descriptor behind the elements that the parser steps over. -/
theorem find_lead (hprof : profile = .oneByte ∨ profile = .twoByte) (h12 : Av1Header profile hd) {tail : Buf} :
    ∀ (es : List (Buf × Buf)) {bs : Buf} {p fuel : Nat}, Lead profile bs.length es → Tiles profile bs → bs ≠ [] →
      bs ++ rest = layout es ++ (hd ++ tail) → buf.drop (12 + p) = bs ++ rest → bs.length ≤ fuel →
      ∃ ps, Rtp.walkExtensions buf profile (headerBytes profile) (p + bs.length) fuel p = .ok ps ∧
        Rtp.findExtension buf profile 12 ps = .ok (some (12 + p + (layout es).length)) := by
  intro es
  induction es with
  | nil =>
      intro bs p fuel _ ht hne he h hf
      have hid : elementId profile hd ≠ 0 := by rw [h12.id]; decide
      obtain ⟨data, bs', rfl, hdata, ht'⟩ := tiles_element ht hne h12.header hid he
      have hpos := headerBytes_pos profile
      have hlen := h12.header
      rw [List.length_append, List.length_append] at hf
      cases fuel with
      | zero => omega
      | succ fuel =>
          rw [List.append_assoc, List.append_assoc] at h
          obtain ⟨ps, hps⟩ := @walk_tiles _ _ _ _ hprof ht' _ fuel (drop_element h hlen hdata) (by omega)
          refine ⟨(12 + p) :: ps, ?_, ?_⟩
          · rw [walk_element hprof hlen (u8_ne_zero hid) h (by rw [List.length_append]; omega),
              show p + (hd ++ (data ++ bs')).length
                  = p + (elementBytes profile hd + headerBytes profile) + bs'.length by
                rw [List.length_append, List.length_append]; omega, hps]
            rfl
          · rw [Rtp.findExtension, extType_eq hprof hlen h, h12.id]
            rfl
  | cons e es ih =>
      intro bs p fuel hlead ht hne he h hf
      obtain ⟨hd', data⟩ := e
      obtain ⟨hs, hend, hlead⟩ : Skippable profile hd' data ∧ (bs.length : Int) - (hd' ++ data).length ≠ 0 ∧
        Lead profile (bs.length - (hd' ++ data).length) es := hlead
      have hlayout : layout ((hd', data) :: es) = hd' ++ (data ++ layout es) := by simp [layout]
      rw [hlayout, List.append_assoc] at he
      obtain ⟨data', bs', rfl, hdata, ht'⟩ := tiles_element ht hne hs.header hs.id.1 he
      have hpos := headerBytes_pos profile
      have hlen := hs.header
      have hsize := hs.size
      rw [List.append_assoc, List.append_assoc, List.append_assoc] at he
      obtain ⟨rfl, he'⟩ := List.append_inj (List.append_cancel_left he) (hdata.trans hsize.symm)
      simp only [List.length_append] at hf hend hlead
      have hsub : ((hd'.length + (data'.length + bs'.length) : Nat) : Int) - ((hd'.length + data'.length : Nat) : Int)
          = bs'.length := by omega
      rw [hsub] at hend hlead
      have hne' : bs' ≠ [] := by
        rintro rfl
        exact hend rfl
      cases fuel with
      | zero => omega
      | succ fuel =>
          rw [List.append_assoc, List.append_assoc] at h
          obtain ⟨ps, hps, hfind⟩ := @ih bs' _ fuel hlead ht' hne' he' (drop_element h hlen hdata) (by omega)
          refine ⟨(12 + p) :: ps, ?_, ?_⟩
          · rw [walk_element hprof hlen (u8_ne_zero hs.id.1) h (by rw [List.length_append]; omega),
              show p + (hd' ++ (data' ++ bs')).length
                = p + (elementBytes profile hd' + headerBytes profile) + bs'.length by
                rw [List.length_append, List.length_append]; omega, hps]
            rfl
          · rw [Rtp.findExtension, extType_eq hprof hlen h]
            show (if elementId profile hd' = 12 then _ else _) = _
            rw [if_neg hs.id.2.1, hfind, hlayout]
            simp only [List.length_append]
            congr 2
            omega

/-! ## The packet -/

theorem readByte_eq {words i : Nat} (hp : ExtensionPacket buf profile words) (hi : i < 16) :
    buf.readByte i = .ok (buf.u8 i) :=
  Buf.readByte_of_lt (Nat.lt_of_lt_of_le hi (Nat.le_trans (Nat.le_add_right 16 _) hp.present))

theorem extensionProfile_eq {words : Nat} (hp : ExtensionPacket buf profile words) :
    Rtp.extensionProfile buf = .ok profile := by
  unfold Rtp.extensionProfile
  rw [readByte_eq hp (i := 12) (by omega), readByte_eq hp (i := 13) (by omega)]
  obtain ⟨rfl, h12, h13⟩ | ⟨rfl, h12, h13⟩ := hp.magic <;> rw [h12, h13] <;> rfl

theorem extensionPtrs_eq {words : Nat} (hp : ExtensionPacket buf profile words) :
    Rtp.extensionPtrs buf =
      Rtp.walkExtensions buf profile (headerBytes profile) (4 + 4 * words) (4 + 4 * words) 4 := by
  have hshort := hp.short
  have htotal : ∃ total : UInt16, Rtp.totalExtBytes buf = .ok total ∧ total.toNat = 4 * words := by
    unfold Rtp.totalExtBytes
    rw [readByte_eq hp (i := 14) (by omega), readByte_eq hp (i := 15) (by omega), hp.announced.1]
    refine ⟨_, rfl, ?_⟩
    have hw := hp.announced.2
    show ((0 + (buf.u8 15).toUInt16) * 4).toNat = 4 * words
    rw [UInt16.zero_add, UInt16.toNat_mul, UInt8.toNat_toUInt16, hw]
    show words * 4 % 65536 = 4 * words
    omega
  obtain ⟨total, htotal, hvalue⟩ := htotal
  have hother : profile ≠ .other := by
    obtain ⟨rfl, -⟩ | ⟨rfl, -⟩ := hp.magic <;> decide
  unfold Rtp.extensionPtrs
  rw [if_neg (by simp [hp.csrc, hp.extension]), extensionProfile_eq hp, htotal]
  show (if profile = .other then _ else _) = _
  rw [if_neg hother]
  show Rtp.walkExtensions buf profile _ (total.toNat + 4) (total.toNat + 4) 4 = _
  rw [hvalue, Nat.add_comm]
  rfl

theorem extensionPtr_eq {words : Nat} (hp : ExtensionPacket buf profile words) {ps : List Nat} {r : Option Nat}
    (hps : Rtp.extensionPtrs buf = .ok ps) (hr : Rtp.findExtension buf profile 12 ps = .ok r) :
    extensionPtr buf 12 = .ok r := by
  unfold extensionPtr
  rw [hps]
  cases ps with
  | nil => exact hr
  | cons p ps =>
      show (do let profile ← Rtp.extensionProfile buf; Rtp.findExtension buf profile 12 (p :: ps)) = _
      rw [extensionProfile_eq hp]
      exact hr

theorem profile_cases {words : Nat} (hp : ExtensionPacket buf profile words) :
    profile = .oneByte ∨ profile = .twoByte :=
  hp.magic.imp And.left And.left

theorem extensionPtr_of_empty (hp : ExtensionPacket buf profile 0) : extensionPtr buf 12 = .ok none := by
  have hps : Rtp.extensionPtrs buf = .ok [] := by
    rw [extensionPtrs_eq hp]
    rfl
  exact extensionPtr_eq hp hps rfl

/-- In a block that is not, `extension_ptr` finds the descriptor behind the elements that the parser steps over. -/
theorem extensionPtr_of_lead {words : Nat} (hp : ExtensionPacket buf profile words) (hw : words ≠ 0)
    {es : List (Buf × Buf)} {tail : Buf} (hlead : Lead profile (4 * words) es) (h12 : Av1Header profile hd)
    (he : buf.drop 16 = layout es ++ (hd ++ tail)) :
    extensionPtr buf 12 = .ok (some (16 + (layout es).length)) := by
  have hpresent := hp.present
  have hblock : ((buf.drop 16).take (4 * words)).length = 4 * words := by
    rw [List.length_take, List.length_drop]
    omega
  have hcut := (List.take_append_drop (4 * words) (buf.drop 16)).symm
  have hlead' : Lead profile ((buf.drop 16).take (4 * words)).length es := by
    rw [hblock]
    exact_mod_cast hlead
  have hne : (buf.drop 16).take (4 * words) ≠ [] := by
    rw [← List.length_pos_iff, hblock]
    omega
  have hfuel : ((buf.drop 16).take (4 * words)).length ≤ 4 + 4 * words := by
    rw [hblock]
    omega
  have hstart : buf.drop (12 + 4) = (buf.drop 16).take (4 * words) ++ (buf.drop 16).drop (4 * words) := hcut
  obtain ⟨ps, hps, hfind⟩ := find_lead (profile_cases hp) h12 es hlead' hp.tiles hne (hcut.symm.trans he) hstart hfuel
  rw [hblock] at hps
  exact extensionPtr_eq hp ((extensionPtrs_eq hp).trans hps) hfind

end Walk

/-! ## Agreement -/

/-- If the parser of the switch extracts `hdr.av1`, the walk finds an element with identifier 12 and at least three
payload bytes, of which these are the first. -/
def Agrees (buf : Buf) (profile : ExtProfile) : Prop :=
  ∀ d, hdrAv1 (switchIngressParser buf) = some d →
    ∃ p n, extensionPtr buf 12 = .ok (some p) ∧ Rtp.extLen buf p profile = .ok n ∧ 3 ≤ n ∧
      d = (buf.drop (p + headerBytes profile)).take 3

/-- Behind at most two elements that the parser steps over, none of which ends the block, there is the header of a
descriptor and three bytes more; but the block is empty, or the header is a 2-byte one that announces two bytes. -/
def Misread (buf : Buf) (profile : ExtProfile) (words : Nat) : Prop :=
  Rtp.isRtcp buf = false ∧ ∃ es hd d tail, es.length < 3 ∧ Lead profile (4 * words) es ∧ Av1Header profile hd ∧
    d.length = 3 ∧ buf.drop 16 = layout es ++ (hd ++ (d ++ tail)) ∧
    (words = 0 ∨ profile = .twoByte ∧ elementLen profile hd = 2)

section Agreement
variable {buf : Buf} {profile : ExtProfile} {words : Nat}

/-- **The parser of the switch and the extension walk agree** on the descriptor of a packet iff it is not misread. -/
theorem recognition_agrees_iff (hp : ExtensionPacket buf profile words) :
    Agrees buf profile ↔ ¬ Misread buf profile words := by
  constructor
  · rintro hagree ⟨hrtp, es, hd, d, tail, hes, hlead, h12, hd3, he, hbad⟩
    have hx : hdrAv1 (switchIngressParser buf) = some d :=
      (switch_av1_iff hp).mpr ⟨hrtp, es, hd, tail, hes, hlead, h12, hd3, he⟩
    obtain ⟨p, n, hptr, hlen, hn, -⟩ := hagree d hx
    by_cases hw : words = 0
    · subst hw
      rw [extensionPtr_of_empty hp] at hptr
      cases hptr
    · obtain ⟨rfl, htwo⟩ := hbad.resolve_left hw
      rw [extensionPtr_of_lead hp hw hlead h12 he] at hptr
      cases hptr
      have hdrop : buf.drop (16 + (layout es).length) = hd ++ (d ++ tail) := by
        rw [← List.drop_drop, he, List.drop_left]
      rw [extLen_eq (.inr rfl) h12.header hdrop] at hlen
      cases hlen
      have hle : 3 ≤ elementLen .twoByte hd := hn
      omega
  · intro hgood d hx
    obtain ⟨hrtp, es, hd, tail, hes, hlead, h12, hd3, he⟩ := (switch_av1_iff hp).mp hx
    have hok : words ≠ 0 ∧ ¬ (profile = .twoByte ∧ elementLen profile hd = 2) := by
      rw [← not_or]
      exact fun hbad => hgood ⟨hrtp, es, hd, d, tail, hes, hlead, h12, hd3, he, hbad⟩
    have hdrop : buf.drop (16 + (layout es).length) = hd ++ (d ++ tail) := by
      rw [← List.drop_drop, he, List.drop_left]
    refine ⟨16 + (layout es).length, elementBytes profile hd, extensionPtr_of_lead hp hok.1 hlead h12 he,
      extLen_eq (profile_cases hp) h12.header hdrop, ?_, ?_⟩
    · have hlen := h12.len
      obtain rfl | rfl := profile_cases hp
      · show 3 ≤ elementLen .oneByte hd + 1
        omega
      · have hne : elementLen .twoByte hd ≠ 2 := fun h2 => hok.2 ⟨rfl, h2⟩
        show 3 ≤ elementLen .twoByte hd
        omega
    · rw [← List.drop_drop, hdrop, ← h12.header, List.drop_left, ← hd3, List.take_left]

theorem recognition_agrees_iff_descriptor :
    Agrees [0x90, 0x2d, 0, 1, 0, 0, 0, 0, 0, 0, 0, 5, 0xbe, 0xde, 0, 2, 0x10, 7, 0xc2, 0x80, 0, 9, 0, 0, 1] .oneByte ↔
      ¬ Misread [0x90, 0x2d, 0, 1, 0, 0, 0, 0, 0, 0, 0, 5, 0xbe, 0xde, 0, 2, 0x10, 7, 0xc2, 0x80, 0, 9, 0, 0, 1]
        .oneByte 2 := by
  have htail : Tiles .oneByte [0xc2, 0x80, 0, 9, 0, 0] :=
    @Tiles.element .oneByte [0xc2] [0x80, 0, 9] _ rfl (by decide) rfl (.padding (.padding .nil))
  have htiles : Tiles .oneByte [0x10, 7, 0xc2, 0x80, 0, 9, 0, 0] :=
    @Tiles.element .oneByte [0x10] [7] _ rfl (by decide) rfl htail
  exact recognition_agrees_iff
    ⟨by decide, by decide, by decide, by decide, by decide, by decide, by decide, htiles⟩

/-- Payload behind an empty block is taken for a descriptor, and so is the byte behind a descriptor of two bytes. -/
theorem recognition_not_agrees :
    (ExtensionPacket [0x90, 0x2d, 0, 1, 0, 0, 0, 0, 0, 0, 0, 5, 0xbe, 0xde, 0, 0, 0xc2, 0x80, 0, 9] .oneByte 0 ∧
      ¬ Agrees [0x90, 0x2d, 0, 1, 0, 0, 0, 0, 0, 0, 0, 5, 0xbe, 0xde, 0, 0, 0xc2, 0x80, 0, 9] .oneByte) ∧
    (ExtensionPacket [0x90, 0x2d, 0, 1, 0, 0, 0, 0, 0, 0, 0, 5, 0x10, 0x00, 0, 1, 12, 2, 0x80, 0, 9] .twoByte 1 ∧
      ¬ Agrees [0x90, 0x2d, 0, 1, 0, 0, 0, 0, 0, 0, 0, 5, 0x10, 0x00, 0, 1, 12, 2, 0x80, 0, 9] .twoByte) := by
  refine ⟨⟨?_, ?_⟩, ?_, ?_⟩
  · exact ⟨by decide, by decide, by decide, by decide, by decide, by decide, by decide, .nil⟩
  · intro h
    obtain ⟨p, n, hp, -⟩ := h [0x80, 0, 9] (by decide)
    exact absurd (hp.symm.trans (show _ = Except.ok none by decide)) (by simp)
  · have htiles : Tiles .twoByte [12, 2, 0x80, 0] :=
      @Tiles.element .twoByte [12, 2] [0x80, 0] _ rfl (by decide) rfl .nil
    exact ⟨by decide, by decide, by decide, by decide, by decide, by decide, by decide, htiles⟩
  · intro h
    obtain ⟨p, n, hp, hn, hle, -⟩ := h [0x80, 0, 9] (by decide)
    obtain rfl : p = 16 := by
      have he := hp.symm.trans (show _ = Except.ok (some 16) by decide)
      exact Option.some.inj (Except.ok.inj he)
    obtain rfl : n = 2 := Except.ok.inj (hn.symm.trans (show _ = Except.ok 2 by decide))
    exact absurd hle (by decide)

end Agreement

end Tofino

end Scallop
