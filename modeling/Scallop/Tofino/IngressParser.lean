import Scallop.DataPlane.Rtp

/-!
# The parser of the switch

`SwitchIngressParser` of `hardware/tofino/data_plane/includes/parsers.p4`, from `try_parse_stun_rtp_rtcp` on: the packet
starts with the payload of its UDP datagram.

* `Hdr`, `Cursor`, `Cursor.extract` : what is extracted, and how; an extraction beyond the end of the packet ends the
  parser with the headers so far;
* `parseRtpExtnOnebytehdrtypeElement1`, ... : the unrolled states for the extension elements, from the last to the
  first;
* `switchIngressParser` : the headers of a packet; `hdrAv1` : the three bytes of `hdr.av1`;
* `Av1At`, `av1_elements_iff` : where in a packet these bytes are taken from.

The counter `rtp_extn_len_counter` is an integer: it is zero exactly if as many bytes were consumed as announced.
-/

namespace Scallop

namespace Tofino

open Rtp (ExtProfile)

/-- The headers of `header_t` that are extracted here. Elements are numbered as in their names, and their data by its
size. -/
inductive Hdr where
  | stun
  | rtp
  | rtcp
  | rtpExtnOnebytehdr
  | rtpExtnTwobytehdr
  | rtpExtnElemOnebytehdr (n : Nat)
  | rtpExtnElemTwobytehdr (n : Nat)
  | rtpExtnElemOnebytehdrData (n size : Nat)
  | rtpExtnElemTwobytehdrData (n size : Nat)
  | av1
deriving DecidableEq, Repr

/-- The headers that are valid, in the order of their extraction. -/
abbrev Headers := List (Hdr × Buf)

/-- The bytes of `hdr.av1`, if it is valid. -/
def hdrAv1 (hs : Headers) : Option Buf := hs.lookup .av1

/-- What is left of the packet, the counter `rtp_extn_len_counter`, and the headers so far. -/
structure Cursor where
  rest : Buf
  rtpExtnLenCounter : Int := 0
  hdr : Headers := []

abbrev State := Cursor → Headers

namespace Cursor

/-- `pkt.extract(hdr.h)` of `n` bytes. -/
def extract (c : Cursor) (h : Hdr) (n : Nat) (next : Buf → State) : Headers :=
  if n ≤ c.rest.length then
    next (c.rest.take n) { c with rest := c.rest.drop n, hdr := c.hdr ++ [(h, c.rest.take n)] }
  else c.hdr

/-- `pkt.lookahead` of `n` bytes. -/
def lookahead (c : Cursor) (n : Nat) (next : Buf → State) : Headers :=
  if n ≤ c.rest.length then next (c.rest.take n) c else c.hdr

def decrement (c : Cursor) (n : Nat) : Cursor := { c with rtpExtnLenCounter := c.rtpExtnLenCounter - n }

/-- `rtp_extn_len_counter.set(field, 255, 6, 6, 0)`: rotated by 6 bits, masked with `2^(6+1) - 1`, at most 255. -/
def setCounter (c : Cursor) (field : UInt8) : Cursor :=
  { c with rtpExtnLenCounter := min 255 ((field.toBitVec.rotateRight 6 &&& 127#8).toNat + 0) }

end Cursor

/-! ## The states -/

def accept : State := Cursor.hdr

def parseAv1 : State := fun c => c.extract .av1 3 fun _ => accept

/-- The data of element 1 or 2: `next` is the header of the element after it. -/
def elementData (h : Hdr) (size : Nat) (next : State) : State := fun c =>
  c.extract h size fun _ c =>
    let c := c.decrement size
    if c.rtpExtnLenCounter = 0 then accept c else next c

def elementDataLast (h : Hdr) (size : Nat) : State := fun c =>
  c.extract h size fun _ c => accept (c.decrement size)

/-- The header of element `n`: 1-byte header type. -/
def onebytehdrtypeElement (n : Nat) (onebytedata threebytedata fifteenbytedata : State) : State := fun c =>
  c.extract (.rtpExtnElemOnebytehdr n) 1 fun hd c =>
    let c := c.decrement 1
    let id := hd.u8 0 >>> 4
    let len := hd.u8 0 &&& 0x0f
    if id = 0 then accept c
    else if id = 15 then accept c
    else if id = 12 ∧ len ≤ 1 then accept c
    else if id = 12 then parseAv1 c
    else if len = 0 then onebytedata c
    else if len = 2 then threebytedata c
    else if len = 14 then fifteenbytedata c
    else accept c

/-- The header of element `n`: 2-byte header type. -/
def twobytehdrtypeElement (n : Nat) (onebytedata threebytedata twentybytedata : State) : State := fun c =>
  c.extract (.rtpExtnElemTwobytehdr n) 2 fun hd c =>
    let c := c.decrement 2
    let id := hd.u8 0
    let len := hd.u8 1
    if id = 0 then accept c
    else if id = 12 ∧ len ≤ 1 then accept c
    else if id = 12 then parseAv1 c
    else if len = 1 then onebytedata c
    else if len = 3 then threebytedata c
    else if len = 20 then twentybytedata c
    else accept c

def parseOnebytehdrtypeElement3Onebytedata : State := elementDataLast (.rtpExtnElemOnebytehdrData 3 1) 1

def parseOnebytehdrtypeElement3Threebytedata : State := elementDataLast (.rtpExtnElemOnebytehdrData 3 3) 3

def parseOnebytehdrtypeElement3Fifteenbytedata : State := elementDataLast (.rtpExtnElemOnebytehdrData 3 15) 15

def parseRtpExtnOnebytehdrtypeElement3 : State :=
  onebytehdrtypeElement 3 parseOnebytehdrtypeElement3Onebytedata parseOnebytehdrtypeElement3Threebytedata
    parseOnebytehdrtypeElement3Fifteenbytedata

def parseOnebytehdrtypeElement2Onebytedata : State :=
  elementData (.rtpExtnElemOnebytehdrData 2 1) 1 parseRtpExtnOnebytehdrtypeElement3

def parseOnebytehdrtypeElement2Threebytedata : State :=
  elementData (.rtpExtnElemOnebytehdrData 2 3) 3 parseRtpExtnOnebytehdrtypeElement3

def parseOnebytehdrtypeElement2Fifteenbytedata : State :=
  elementData (.rtpExtnElemOnebytehdrData 2 15) 15 parseRtpExtnOnebytehdrtypeElement3

def parseRtpExtnOnebytehdrtypeElement2 : State :=
  onebytehdrtypeElement 2 parseOnebytehdrtypeElement2Onebytedata parseOnebytehdrtypeElement2Threebytedata
    parseOnebytehdrtypeElement2Fifteenbytedata

def parseOnebytehdrtypeElement1Onebytedata : State :=
  elementData (.rtpExtnElemOnebytehdrData 1 1) 1 parseRtpExtnOnebytehdrtypeElement2

def parseOnebytehdrtypeElement1Threebytedata : State :=
  elementData (.rtpExtnElemOnebytehdrData 1 3) 3 parseRtpExtnOnebytehdrtypeElement2

def parseOnebytehdrtypeElement1Fifteenbytedata : State :=
  elementData (.rtpExtnElemOnebytehdrData 1 15) 15 parseRtpExtnOnebytehdrtypeElement2

def parseRtpExtnOnebytehdrtypeElement1 : State :=
  onebytehdrtypeElement 1 parseOnebytehdrtypeElement1Onebytedata parseOnebytehdrtypeElement1Threebytedata
    parseOnebytehdrtypeElement1Fifteenbytedata

def parseTwobytehdrtypeElement3Onebytedata : State := elementDataLast (.rtpExtnElemTwobytehdrData 3 1) 1

def parseTwobytehdrtypeElement3Threebytedata : State := elementDataLast (.rtpExtnElemTwobytehdrData 3 3) 3

def parseTwobytehdrtypeElement3Twentybytedata : State := elementDataLast (.rtpExtnElemTwobytehdrData 3 20) 20

def parseRtpExtnTwobytehdrtypeElement3 : State :=
  twobytehdrtypeElement 3 parseTwobytehdrtypeElement3Onebytedata parseTwobytehdrtypeElement3Threebytedata
    parseTwobytehdrtypeElement3Twentybytedata

def parseTwobytehdrtypeElement2Onebytedata : State :=
  elementData (.rtpExtnElemTwobytehdrData 2 1) 1 parseRtpExtnTwobytehdrtypeElement3

def parseTwobytehdrtypeElement2Threebytedata : State :=
  elementData (.rtpExtnElemTwobytehdrData 2 3) 3 parseRtpExtnTwobytehdrtypeElement3

def parseTwobytehdrtypeElement2Twentybytedata : State :=
  elementData (.rtpExtnElemTwobytehdrData 2 20) 20 parseRtpExtnTwobytehdrtypeElement3

def parseRtpExtnTwobytehdrtypeElement2 : State :=
  twobytehdrtypeElement 2 parseTwobytehdrtypeElement2Onebytedata parseTwobytehdrtypeElement2Threebytedata
    parseTwobytehdrtypeElement2Twentybytedata

def parseTwobytehdrtypeElement1Onebytedata : State :=
  elementData (.rtpExtnElemTwobytehdrData 1 1) 1 parseRtpExtnTwobytehdrtypeElement2

def parseTwobytehdrtypeElement1Threebytedata : State :=
  elementData (.rtpExtnElemTwobytehdrData 1 3) 3 parseRtpExtnTwobytehdrtypeElement2

def parseTwobytehdrtypeElement1Twentybytedata : State :=
  elementData (.rtpExtnElemTwobytehdrData 1 20) 20 parseRtpExtnTwobytehdrtypeElement2

def parseRtpExtnTwobytehdrtypeElement1 : State :=
  twobytehdrtypeElement 1 parseTwobytehdrtypeElement1Onebytedata parseTwobytehdrtypeElement1Threebytedata
    parseTwobytehdrtypeElement1Twentybytedata

def parseRtpExtnOnebytehdrtype : State := fun c =>
  c.extract .rtpExtnOnebytehdr 4 fun _ => parseRtpExtnOnebytehdrtypeElement1

def parseRtpExtnTwobytehdrtype : State := fun c =>
  c.extract .rtpExtnTwobytehdr 4 fun _ => parseRtpExtnTwobytehdrtypeElement1

/-- The counter is set to the length in bytes; a block that is too long is not parsed. -/
def parseRtpExtensions : State := fun c =>
  c.lookahead 4 fun hd c =>
    let c := c.setCounter (hd.u8 3)
    if hd.u8 0 = 0xbe ∧ hd.u8 1 >>> 4 = 0xd ∧ hd.u8 1 &&& 0x0f = 0xe ∧ hd.u8 2 = 0 then parseRtpExtnOnebytehdrtype c
    else if hd.u8 0 = 0x10 ∧ hd.u8 1 >>> 4 = 0x0 ∧ hd.u8 2 = 0 then parseRtpExtnTwobytehdrtype c
    else accept c

def parseStun : State := fun c => c.extract .stun 20 fun _ => accept

def parseRtcp : State := fun c => c.extract .rtcp 8 fun _ => accept

def parseRtpWithExtns : State := fun c => c.extract .rtp 12 fun _ => parseRtpExtensions

def parseRtpWoutExtns : State := fun c => c.extract .rtp 12 fun _ => accept

def tryParseStunRtpRtcp : State := fun c =>
  c.lookahead 2 fun hd c =>
    let version := hd.u8 0 >>> 6
    let rtpMrkrpltpRtcpPt := hd.u8 1
    let rtpExtnRtcpRrc1 := (hd.u8 0 >>> 4) &&& 0x01
    if version = 0 then parseStun c
    else if version = 2 ∧ 200 ≤ rtpMrkrpltpRtcpPt ∧ rtpMrkrpltpRtcpPt ≤ 207 then parseRtcp c
    else if version = 2 ∧ rtpExtnRtcpRrc1 = 1 then parseRtpWithExtns c
    else if version = 2 ∧ rtpExtnRtcpRrc1 = 0 then parseRtpWoutExtns c
    else accept c

/-- The headers that are extracted from a UDP payload. -/
def switchIngressParser (buf : Buf) : Headers := tryParseStunRtpRtcp { rest := buf }

/-! ## Where the bytes of `hdr.av1` come from -/

def headerBytes (profile : ExtProfile) : Nat := if profile = .oneByte then 1 else 2

/-- The identifier in the header of an element. -/
def elementId (profile : ExtProfile) (hd : Buf) : Nat :=
  if profile = .oneByte then (hd.u8 0).toNat / 16 else (hd.u8 0).toNat

/-- The length field in the header of an element. -/
def elementLen (profile : ExtProfile) (hd : Buf) : Nat :=
  if profile = .oneByte then (hd.u8 0).toNat % 16 else (hd.u8 1).toNat

/-- The payload bytes of an element: the length field of a 1-byte header is one less. -/
def elementBytes (profile : ExtProfile) (hd : Buf) : Nat :=
  if profile = .oneByte then elementLen profile hd + 1 else elementLen profile hd

/-- An element that the parser steps over to the next. -/
structure Skippable (profile : ExtProfile) (hd data : Buf) : Prop where
  header : hd.length = headerBytes profile
  id : elementId profile hd ≠ 0 ∧ elementId profile hd ≠ 12 ∧ (profile = .oneByte → elementId profile hd ≠ 15)
  size : data.length = elementBytes profile hd
  known : data.length = 1 ∨ data.length = 3 ∨ data.length = if profile = .oneByte then 15 else 20

/-- A header that the parser takes for that of a dependency descriptor. -/
structure Av1Header (profile : ExtProfile) (hd : Buf) : Prop where
  header : hd.length = headerBytes profile
  id : elementId profile hd = 12
  len : 2 ≤ elementLen profile hd

/-- The elements are stepped over, and none of them ends `t` bytes on. -/
def Lead (profile : ExtProfile) : Int → List (Buf × Buf) → Prop
  | _, [] => True
  | t, e :: es => Skippable profile e.1 e.2 ∧ t - (e.1 ++ e.2).length ≠ 0 ∧ Lead profile (t - (e.1 ++ e.2).length) es

def layout (es : List (Buf × Buf)) : Buf := es.flatMap fun e => e.1 ++ e.2

/-- Fewer than `n` elements are stepped over, then comes the header of a descriptor, and then `d`. -/
def Av1At (profile : ExtProfile) (n : Nat) (t : Int) (bytes d : Buf) : Prop :=
  ∃ es hd tail, es.length < n ∧ Lead profile t es ∧ Av1Header profile hd ∧ d.length = 3 ∧
    bytes = layout es ++ (hd ++ (d ++ tail))

section Av1At
variable {profile : ExtProfile} {n : Nat} {t : Int} {bytes d : Buf}

theorem not_av1At_zero : ¬ Av1At profile 0 t bytes d := by
  rintro ⟨es, _, _, hes, _⟩
  exact absurd hes (Nat.not_lt_zero _)

/-- The descriptor is the next element, or after the next, which is stepped over. -/
theorem av1At_succ_iff : Av1At profile (n + 1) t bytes d ↔
    (∃ hd tail, Av1Header profile hd ∧ d.length = 3 ∧ bytes = hd ++ (d ++ tail)) ∨
    ∃ hd data rest, Skippable profile hd data ∧ t - (hd ++ data).length ≠ 0 ∧
      Av1At profile n (t - (hd ++ data).length) rest d ∧ bytes = hd ++ (data ++ rest) := by
  constructor
  · rintro ⟨es, hd, tail, hn, hlead, hhd, hd3, rfl⟩
    cases es with
    | nil => exact .inl ⟨hd, tail, hhd, hd3, rfl⟩
    | cons e es =>
        obtain ⟨hs, ht, hlead⟩ := hlead
        refine .inr ⟨e.1, e.2, layout es ++ (hd ++ (d ++ tail)), hs, ht, ?_, ?_⟩
        · exact ⟨es, hd, tail, Nat.lt_of_succ_lt_succ hn, hlead, hhd, hd3, rfl⟩
        · simp [layout]
  · rintro (⟨hd, tail, hhd, hd3, rfl⟩ | ⟨hd, data, rest, hs, ht, ⟨es, hd', tail, hn, hlead, hhd, hd3, rfl⟩, rfl⟩)
    · exact ⟨[], hd, tail, Nat.succ_pos n, trivial, hhd, hd3, rfl⟩
    · refine ⟨(hd, data) :: es, hd', tail, Nat.succ_lt_succ hn, ⟨hs, ht, hlead⟩, hhd, hd3, ?_⟩
      simp [layout]

/-- A packet that ends in the header of the next element. -/
theorem not_av1At_short (hlt : bytes.length < headerBytes profile) : ¬ Av1At profile n t bytes d := by
  cases n with
  | zero => exact not_av1At_zero
  | succ n =>
      rw [av1At_succ_iff]
      rintro (⟨hd, tail, hhd, -, rfl⟩ | ⟨hd, data, rest, hs, -, -, rfl⟩)
      · rw [List.length_append, hhd.header] at hlt
        omega
      · rw [List.length_append, hs.header] at hlt
        omega

variable {hd rest : Buf} (hlen : hd.length = headerBytes profile)
include hlen

/-- The next element is neither a descriptor nor stepped over. -/
theorem not_av1At_of (h12 : ¬ Av1Header profile hd) (hs : ∀ data, ¬ Skippable profile hd data) :
    ¬ Av1At profile (n + 1) t (hd ++ rest) d := by
  rw [av1At_succ_iff]
  rintro (⟨hd', tail, hhd, -, he⟩ | ⟨hd', data, rest', hs', -, -, he⟩)
  · obtain ⟨rfl, -⟩ := List.append_inj he (hlen.trans hhd.header.symm)
    exact h12 hhd
  · obtain ⟨rfl, -⟩ := List.append_inj he (hlen.trans hs'.header.symm)
    exact hs data hs'

theorem av1At_take_iff (h12 : Av1Header profile hd) :
    Av1At profile (n + 1) t (hd ++ rest) d ↔ d.length = 3 ∧ ∃ tail, rest = d ++ tail := by
  rw [av1At_succ_iff]
  constructor
  · rintro (⟨hd', tail, hhd, hd3, he⟩ | ⟨hd', data, rest', hs', -, -, he⟩)
    · obtain ⟨rfl, rfl⟩ := List.append_inj he (hlen.trans hhd.header.symm)
      exact ⟨hd3, tail, rfl⟩
    · obtain ⟨rfl, -⟩ := List.append_inj he (hlen.trans hs'.header.symm)
      exact absurd h12.id hs'.id.2.1
  · rintro ⟨hd3, tail, rfl⟩
    exact .inl ⟨hd, tail, h12, hd3, rfl⟩

/-- The next element has `m` bytes of data and is stepped over. -/
theorem av1At_skip_iff {m : Nat}
    (hid : elementId profile hd ≠ 0 ∧ elementId profile hd ≠ 12 ∧ (profile = .oneByte → elementId profile hd ≠ 15))
    (hm : elementBytes profile hd = m) (hk : m = 1 ∨ m = 3 ∨ m = if profile = .oneByte then 15 else 20) :
    Av1At profile (n + 1) t (hd ++ rest) d ↔
      ∃ data rest', rest = data ++ rest' ∧ data.length = m ∧ t - headerBytes profile - m ≠ 0 ∧
        Av1At profile n (t - headerBytes profile - m) rest' d := by
  have hsub : ∀ data : Buf, data.length = m → t - (hd ++ data).length = t - headerBytes profile - m := by
    intro data hdata
    rw [List.length_append, hlen, hdata]
    omega
  rw [av1At_succ_iff]
  constructor
  · rintro (⟨hd', tail, hhd, -, he⟩ | ⟨hd', data, rest', hs', ht, hx, he⟩)
    · obtain ⟨rfl, -⟩ := List.append_inj he (hlen.trans hhd.header.symm)
      exact absurd hhd.id hid.2.1
    · obtain ⟨rfl, rfl⟩ := List.append_inj he (hlen.trans hs'.header.symm)
      have hdata : data.length = m := hs'.size.trans hm
      rw [hsub data hdata] at ht hx
      exact ⟨data, rest', rfl, hdata, ht, hx⟩
  · rintro ⟨data, rest', rfl, hdata, ht, hx⟩
    rw [← hsub data hdata] at ht hx
    refine .inr ⟨hd, data, rest', ?_, ht, hx, rfl⟩
    exact ⟨hlen, hid, hdata.trans hm.symm, by rw [hdata]; exact hk⟩

end Av1At

/-- What a state does about `hdr.av1` when `n` elements can still come. -/
def Finds (profile : ExtProfile) (n : Nat) (state : State) : Prop :=
  ∀ c d, hdrAv1 c.hdr = none → (hdrAv1 (state c) = some d ↔ Av1At profile n c.rtpExtnLenCounter c.rest d)

/-- What a state for `m` bytes of data does about `hdr.av1` when `n` elements can still come after them. -/
def FindsAfter (profile : ExtProfile) (n m : Nat) (state : State) : Prop :=
  ∀ c d, hdrAv1 c.hdr = none → (hdrAv1 (state c) = some d ↔
    ∃ data rest, c.rest = data ++ rest ∧ data.length = m ∧ c.rtpExtnLenCounter - m ≠ 0 ∧
      Av1At profile n (c.rtpExtnLenCounter - m) rest d)

section States
variable {profile : ExtProfile} {n m : Nat} {h : Hdr} {next : State} {c : Cursor} {d : Buf}

theorem hdrAv1_push {hs : Headers} (hn : hdrAv1 hs = none) (hh : h ≠ .av1) (bytes : Buf) :
    hdrAv1 (hs ++ [(h, bytes)]) = none := by
  have hb : (Hdr.av1 == h) = false := by simpa using hh.symm
  unfold hdrAv1 at hn ⊢
  rw [List.lookup_append, hn]
  rw [List.lookup_cons, hb, List.lookup_nil]
  rfl

theorem hdrAv1_push_av1 {hs : Headers} (hn : hdrAv1 hs = none) (bytes : Buf) :
    hdrAv1 (hs ++ [(.av1, bytes)]) = some bytes := by
  unfold hdrAv1 at hn ⊢
  rw [List.lookup_append, hn]
  rw [List.lookup_cons_self]
  rfl

/-- An extraction either cuts the packet or ends the parser. -/
theorem extract_cases (c : Cursor) (h : Hdr) (m : Nat) (next : Buf → State) :
    (∃ bytes rest, c.rest = bytes ++ rest ∧ bytes.length = m ∧
      c.extract h m next = next bytes { c with rest := rest, hdr := c.hdr ++ [(h, bytes)] }) ∨
    (c.rest.length < m ∧ c.extract h m next = c.hdr) := by
  unfold Cursor.extract
  by_cases hm : m ≤ c.rest.length
  · rw [if_pos hm]
    exact .inl ⟨_, _, (List.take_append_drop m c.rest).symm, by simpa using hm, rfl⟩
  · rw [if_neg hm]
    exact .inr ⟨by omega, rfl⟩

theorem parseAv1_iff (hc : hdrAv1 c.hdr = none) :
    hdrAv1 (parseAv1 c) = some d ↔ d.length = 3 ∧ ∃ tail, c.rest = d ++ tail := by
  obtain ⟨bytes, rest, hr, hlen, he⟩ | ⟨hlt, he⟩ := extract_cases c .av1 3 fun _ => accept
  · rw [parseAv1, he, accept, hdrAv1_push_av1 hc, hr, Option.some_inj]
    constructor
    · rintro rfl
      exact ⟨hlen, rest, rfl⟩
    · rintro ⟨hd, tail, ht⟩
      exact (List.append_inj ht (hlen.trans hd.symm)).1
  · rw [parseAv1, he, hc]
    constructor
    · intro hh
      cases hh
    · rintro ⟨hd, tail, ht⟩
      rw [ht, List.length_append] at hlt
      omega

theorem FindsAfter.last (hh : h ≠ .av1) : FindsAfter profile 0 m (elementDataLast h m) := by
  intro c d hc
  have hnone : hdrAv1 (elementDataLast h m c) = none := by
    obtain ⟨bytes, rest, -, -, he⟩ | ⟨-, he⟩ := extract_cases c h m fun _ c => accept (c.decrement m)
    · rw [elementDataLast, he]
      exact hdrAv1_push hc hh bytes
    · rw [elementDataLast, he, hc]
  rw [hnone]
  constructor
  · intro hx
    cases hx
  · rintro ⟨_, _, _, _, _, hx⟩
    exact absurd hx not_av1At_zero

theorem Finds.after (hf : Finds profile n next) (hh : h ≠ .av1) : FindsAfter profile n m (elementData h m next) := by
  intro c d hc
  obtain ⟨bytes, rest, hr, hlen, he⟩ | ⟨hlt, he⟩ := extract_cases c h m fun _ c =>
    if (c.decrement m).rtpExtnLenCounter = 0 then accept (c.decrement m) else next (c.decrement m)
  · have hpush := hdrAv1_push hc hh bytes
    rw [elementData, he, hr]
    split
    · next hz =>
        constructor
        · intro hx
          exact absurd (hpush.symm.trans hx) (by simp)
        · rintro ⟨_, _, _, _, hx, _⟩
          exact absurd hz hx
    · next hz =>
        refine (hf _ d hpush).trans ?_
        constructor
        · intro hx
          exact ⟨bytes, rest, rfl, hlen, hz, hx⟩
        · rintro ⟨data, rest', hcut, hdata, -, hx⟩
          obtain ⟨-, rfl⟩ := List.append_inj hcut (hlen.trans hdata.symm)
          exact hx
  · rw [elementData, he, hc]
    constructor
    · intro hx
      cases hx
    · rintro ⟨data, rest, hcut, hdata, -⟩
      rw [hcut, List.length_append] at hlt
      omega

/-- An element of which the header can be extracted. -/
theorem finds_of_extract {body : Buf → State} (hh : h ≠ .av1)
    (hbody : ∀ c hd d, hd.length = headerBytes profile → hdrAv1 c.hdr = none →
      (hdrAv1 (body hd c) = some d ↔ Av1At profile n c.rtpExtnLenCounter (hd ++ c.rest) d)) :
    Finds profile n fun c => c.extract h (headerBytes profile) body := by
  intro c d hc
  obtain ⟨hd, rest, hr, hlen, he⟩ | ⟨hlt, he⟩ := extract_cases c h (headerBytes profile) body
  · show hdrAv1 (c.extract h (headerBytes profile) body) = some d ↔ _
    rw [he, hr]
    exact hbody _ hd d hlen (hdrAv1_push hc hh hd)
  · show hdrAv1 (c.extract h (headerBytes profile) body) = some d ↔ _
    rw [he, hc]
    constructor
    · intro hx
      cases hx
    · intro hx
      exact absurd hx (not_av1At_short hlt)

/-- The parser stops at an element that is neither a descriptor nor stepped over. -/
theorem accept_iff {k : Nat} {hd : Buf} (hlen : hd.length = headerBytes profile) (hc : hdrAv1 c.hdr = none)
    (h12 : ¬ Av1Header profile hd) (hs : ∀ data, ¬ Skippable profile hd data) :
    hdrAv1 (accept (c.decrement k)) = some d ↔ Av1At profile (n + 1) c.rtpExtnLenCounter (hd ++ c.rest) d := by
  apply iff_of_false
  · intro hx
    exact absurd (hc.symm.trans hx) (by simp)
  · exact not_av1At_of hlen h12 hs

theorem shift_toNat (b : UInt8) : (b >>> 4).toNat = b.toNat / 16 := by
  rw [UInt8.toNat_shiftRight]
  show b.toNat >>> (4 % 8) = _
  rw [Nat.shiftRight_eq_div_pow]

theorem low_toNat (b : UInt8) : (b &&& 0x0f).toNat = b.toNat % 16 := by
  rw [UInt8.toNat_and]
  exact Nat.and_two_pow_sub_one_eq_mod b.toNat 4

theorem Finds.onebyte {s₁ s₃ s₁₅ : State} (k : Nat) (h₁ : FindsAfter .oneByte n 1 s₁)
    (h₃ : FindsAfter .oneByte n 3 s₃) (h₁₅ : FindsAfter .oneByte n 15 s₁₅) :
    Finds .oneByte (n + 1) (onebytehdrtypeElement k s₁ s₃ s₁₅) := by
  apply finds_of_extract (h := .rtpExtnElemOnebytehdr k) (by simp)
  intro c hd d hlen hc
  have hid : elementId .oneByte hd = (hd.u8 0 >>> 4).toNat := by rw [shift_toNat]; rfl
  have hl : elementLen .oneByte hd = (hd.u8 0 &&& 0x0f).toNat := by rw [low_toNat]; rfl
  have hbytes : elementBytes .oneByte hd = elementLen .oneByte hd + 1 := rfl
  dsimp only
  generalize hd.u8 0 >>> 4 = id at hid ⊢
  generalize hd.u8 0 &&& 0x0f = len at hl ⊢
  split_ifs with h0 h15 h12s h12 hl0 hl2 hl14
  · subst h0
    exact accept_iff hlen hc (fun h => absurd (hid.symm.trans h.id) (by decide)) fun data h => h.id.1 hid
  · subst h15
    exact accept_iff hlen hc (fun h => absurd (hid.symm.trans h.id) (by decide)) fun data h => h.id.2.2 rfl hid
  · obtain ⟨rfl, hle⟩ := h12s
    rw [UInt8.le_iff_toNat_le, ← hl] at hle
    exact accept_iff hlen hc (fun h => absurd (h.len.trans hle) (by decide)) fun data h => h.id.2.1 hid
  · subst h12
    have hlt : 2 ≤ elementLen .oneByte hd := by
      have hgt : ¬ len ≤ 1 := fun hle => h12s ⟨rfl, hle⟩
      rw [UInt8.le_iff_toNat_le, ← hl] at hgt
      exact Nat.lt_of_not_le hgt
    exact (parseAv1_iff (c := c.decrement 1) hc).trans (av1At_take_iff hlen ⟨hlen, hid, hlt⟩).symm
  all_goals
    have hids : elementId .oneByte hd ≠ 0 ∧ elementId .oneByte hd ≠ 12 ∧
        (ExtProfile.oneByte = .oneByte → elementId .oneByte hd ≠ 15) := by
      rw [hid]
      exact ⟨fun h => h0 (UInt8.toNat_inj.mp h), fun h => h12 (UInt8.toNat_inj.mp h),
        fun _ h => h15 (UInt8.toNat_inj.mp h)⟩
  · subst hl0
    exact (h₁ (c.decrement 1) d hc).trans (av1At_skip_iff hlen hids (by rw [hbytes, hl]; rfl) (.inl rfl)).symm
  · subst hl2
    exact (h₃ (c.decrement 1) d hc).trans (av1At_skip_iff hlen hids (by rw [hbytes, hl]; rfl) (.inr (.inl rfl))).symm
  · subst hl14
    exact (h₁₅ (c.decrement 1) d hc).trans (av1At_skip_iff hlen hids (by rw [hbytes, hl]; rfl) (.inr (.inr rfl))).symm
  · refine accept_iff hlen hc (fun h => hids.2.1 h.id) fun data h => ?_
    have hsize := h.size
    rw [hbytes, hl] at hsize
    have h0' : len.toNat ≠ 0 := fun h => hl0 (UInt8.toNat_inj.mp h)
    have h2' : len.toNat ≠ 2 := fun h => hl2 (UInt8.toNat_inj.mp h)
    have h14' : len.toNat ≠ 14 := fun h => hl14 (UInt8.toNat_inj.mp h)
    have hk := h.known
    rw [if_pos rfl] at hk
    omega

theorem Finds.twobyte {s₁ s₃ s₂₀ : State} (k : Nat) (h₁ : FindsAfter .twoByte n 1 s₁)
    (h₃ : FindsAfter .twoByte n 3 s₃) (h₂₀ : FindsAfter .twoByte n 20 s₂₀) :
    Finds .twoByte (n + 1) (twobytehdrtypeElement k s₁ s₃ s₂₀) := by
  apply finds_of_extract (h := .rtpExtnElemTwobytehdr k) (by simp)
  intro c hd d hlen hc
  have hid : elementId .twoByte hd = (hd.u8 0).toNat := rfl
  have hl : elementLen .twoByte hd = (hd.u8 1).toNat := rfl
  have hbytes : elementBytes .twoByte hd = elementLen .twoByte hd := rfl
  dsimp only
  generalize hd.u8 0 = id at hid ⊢
  generalize hd.u8 1 = len at hl ⊢
  split_ifs with h0 h12s h12 hl1 hl3 hl20
  · subst h0
    exact accept_iff hlen hc (fun h => absurd (hid.symm.trans h.id) (by decide)) fun data h => h.id.1 hid
  · obtain ⟨rfl, hle⟩ := h12s
    rw [UInt8.le_iff_toNat_le, ← hl] at hle
    exact accept_iff hlen hc (fun h => absurd (h.len.trans hle) (by decide)) fun data h => h.id.2.1 hid
  · subst h12
    have hlt : 2 ≤ elementLen .twoByte hd := by
      have hgt : ¬ len ≤ 1 := fun hle => h12s ⟨rfl, hle⟩
      rw [UInt8.le_iff_toNat_le, ← hl] at hgt
      exact Nat.lt_of_not_le hgt
    exact (parseAv1_iff (c := c.decrement 2) hc).trans (av1At_take_iff hlen ⟨hlen, hid, hlt⟩).symm
  all_goals
    have hids : elementId .twoByte hd ≠ 0 ∧ elementId .twoByte hd ≠ 12 ∧
        (ExtProfile.twoByte = .oneByte → elementId .twoByte hd ≠ 15) := by
      rw [hid]
      exact ⟨fun h => h0 (UInt8.toNat_inj.mp h), fun h => h12 (UInt8.toNat_inj.mp h), fun h => nomatch h⟩
  · subst hl1
    exact (h₁ (c.decrement 2) d hc).trans (av1At_skip_iff hlen hids (by rw [hbytes, hl]; rfl) (.inl rfl)).symm
  · subst hl3
    exact (h₃ (c.decrement 2) d hc).trans (av1At_skip_iff hlen hids (by rw [hbytes, hl]; rfl) (.inr (.inl rfl))).symm
  · subst hl20
    exact (h₂₀ (c.decrement 2) d hc).trans (av1At_skip_iff hlen hids (by rw [hbytes, hl]; rfl) (.inr (.inr rfl))).symm
  · refine accept_iff hlen hc (fun h => hids.2.1 h.id) fun data h => ?_
    have hsize := h.size
    rw [hbytes, hl] at hsize
    have h1' : len.toNat ≠ 1 := fun h => hl1 (UInt8.toNat_inj.mp h)
    have h3' : len.toNat ≠ 3 := fun h => hl3 (UInt8.toNat_inj.mp h)
    have h20' : len.toNat ≠ 20 := fun h => hl20 (UInt8.toNat_inj.mp h)
    have hk := h.known
    rw [if_neg (fun h => nomatch h)] at hk
    omega

/-- The unrolled states for 1-byte headers find a descriptor among the first three elements. -/
theorem finds_onebyte : Finds .oneByte 3 parseRtpExtnOnebytehdrtypeElement1 := by
  have h3 : Finds .oneByte 1 parseRtpExtnOnebytehdrtypeElement3 :=
    Finds.onebyte 3 (.last (by simp)) (.last (by simp)) (.last (by simp))
  have h2 : Finds .oneByte 2 parseRtpExtnOnebytehdrtypeElement2 :=
    Finds.onebyte 2 (h3.after (by simp)) (h3.after (by simp)) (h3.after (by simp))
  exact Finds.onebyte 1 (h2.after (by simp)) (h2.after (by simp)) (h2.after (by simp))

theorem finds_twobyte : Finds .twoByte 3 parseRtpExtnTwobytehdrtypeElement1 := by
  have h3 : Finds .twoByte 1 parseRtpExtnTwobytehdrtypeElement3 :=
    Finds.twobyte 3 (.last (by simp)) (.last (by simp)) (.last (by simp))
  have h2 : Finds .twoByte 2 parseRtpExtnTwobytehdrtypeElement2 :=
    Finds.twobyte 2 (h3.after (by simp)) (h3.after (by simp)) (h3.after (by simp))
  exact Finds.twobyte 1 (h2.after (by simp)) (h2.after (by simp)) (h2.after (by simp))

end States

end Tofino

end Scallop
