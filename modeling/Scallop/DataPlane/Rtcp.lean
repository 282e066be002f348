import Scallop.DataPlane.Rtp

/-!
# RTCP headers

`rtcp::hdr` of `lib/proto/rtcp.h`: the fields of a header at the beginning of a buffer, those of a
receiver's bandwidth estimate and those of a negative acknowledgement; what follows in the buffer does
not matter for them (`*_append`). `bytes16`, `bytes32` : numbers as they stand in a header.
-/

namespace Scallop

namespace Rtcp

/-- The packet types of `rtcp::pt` that are told apart. -/
inductive Pt where
  | sr
  | rr
  | sdes
  | rtpfb
  | psfb
  | unknown
deriving DecidableEq, Repr

section Hdr
variable (buf : Buf)

def pt : Pt :=
  if buf.u8 1 = 200 then .sr
  else if buf.u8 1 = 201 then .rr
  else if buf.u8 1 = 202 then .sdes
  else if buf.u8 1 = 205 then .rtpfb
  else if buf.u8 1 = 206 then .psfb
  else .unknown

def recepRepCount : Nat := (buf.u8 0 &&& 0x1f).toNat

def fbFmt : Nat := (buf.u8 0 &&& 0x1f).toNat

/-- The length of the packet in bytes, without those that follow it. -/
def byteLen : Nat := (buf.u16 2).toNat * 4 + 4

def senderSsrc : SSRC := buf.u32 4

def numSsrcs : Nat := (buf.u32 16 >>> 24).toNat

/-- `remb::bit_rate`: the mantissa shifted by the exponent, on 32 bits. A shift by 32 or more is
undefined in the source; here it is by the exponent modulo 32, as the usual machines do. -/
def bitRate : UInt32 := (buf.u32 16 &&& 0x3ffff) <<< ((buf.u32 16 >>> 18) &&& 0x3f)

/-- `remb.ssrcs[i]`. -/
def rembSsrc (i : Nat) : SSRC := buf.u32 (20 + 4 * i)

/-- `nack.pid`. -/
def nackPid : UInt16 := buf.u16 12

/-- `nack.blp`: a bit for each of the 16 numbers that follow. -/
def nackBlp : UInt16 := buf.u16 14

/-- The sequence numbers that a negative acknowledgement asks for. -/
def nackNumbers : List UInt16 :=
  nackPid buf :: ((List.range 16).filter fun i => (nackBlp buf).toNat.testBit i).map
    fun i => nackPid buf + 1 + UInt16.ofNat i

def isNack : Bool := Rtp.containsRtpOrRtcp buf ∧ pt buf = .rtpfb ∧ fbFmt buf = 1

end Hdr

/-! ## Headers at the beginning of a longer buffer -/

section Append
variable {buf : Buf} (rest : Buf) {i : Nat}

theorem u8_append (h : i < buf.length) : Buf.u8 (buf ++ rest) i = buf.u8 i := by
  rw [Buf.u8, Buf.u8, List.getD_eq_getElem?_getD, List.getD_eq_getElem?_getD,
    List.getElem?_append_left h]

theorem u16_append (h : i + 2 ≤ buf.length) : Buf.u16 (buf ++ rest) i = buf.u16 i := by
  rw [Buf.u16, Buf.u16, u8_append rest (by omega), u8_append rest (by omega)]

theorem u32_append (h : i + 4 ≤ buf.length) : Buf.u32 (buf ++ rest) i = buf.u32 i := by
  rw [Buf.u32, Buf.u32, u16_append rest (by omega), u16_append rest (by omega)]

theorem pt_append (h : 4 ≤ buf.length) : pt (buf ++ rest) = pt buf := by
  rw [pt, pt, u8_append rest (by omega)]

theorem fbFmt_append (h : 4 ≤ buf.length) : fbFmt (buf ++ rest) = fbFmt buf := by
  rw [fbFmt, fbFmt, u8_append rest (by omega)]

theorem recepRepCount_append (h : 4 ≤ buf.length) :
    recepRepCount (buf ++ rest) = recepRepCount buf := fbFmt_append rest h

theorem byteLen_append (h : 4 ≤ buf.length) : byteLen (buf ++ rest) = byteLen buf := by
  rw [byteLen, byteLen, u16_append rest h]

theorem senderSsrc_append (h : 8 ≤ buf.length) : senderSsrc (buf ++ rest) = senderSsrc buf :=
  u32_append rest h

theorem numSsrcs_append (h : 20 ≤ buf.length) : numSsrcs (buf ++ rest) = numSsrcs buf := by
  rw [numSsrcs, numSsrcs, u32_append rest h]

theorem bitRate_append (h : 20 ≤ buf.length) : bitRate (buf ++ rest) = bitRate buf := by
  rw [bitRate, bitRate, u32_append rest h]

theorem rembSsrc_append (h : 24 + 4 * i ≤ buf.length) :
    rembSsrc (buf ++ rest) i = rembSsrc buf i := u32_append rest (by omega)

end Append

/-! ## Numbers in a header -/

/-- `htons`, as bytes. -/
def bytes16 (v : UInt16) : Buf := [.ofNat (v.toNat / 256), .ofNat v.toNat]

/-- `htonl`, as bytes. -/
def bytes32 (v : UInt32) : Buf := bytes16 (.ofNat (v.toNat / 65536)) ++ bytes16 (.ofNat v.toNat)

theorem u16_of_bytes16 (v : UInt16) : UInt16.ofNat
    (256 * (UInt8.ofNat (v.toNat / 256)).toNat + (UInt8.ofNat v.toNat).toNat) = v := by
  have hv := v.toNat_lt
  rw [← UInt16.toNat_inj, UInt16.toNat_ofNat', UInt8.toNat_ofNat', UInt8.toNat_ofNat']
  omega

theorem u8_append_right {buf : Buf} (pre : Buf) (i : Nat) : Buf.u8 (pre ++ buf) (pre.length + i) = buf.u8 i := by
  rw [Buf.u8, Buf.u8, List.getD_eq_getElem?_getD, List.getD_eq_getElem?_getD,
    List.getElem?_append_right (Nat.le_add_right _ _), Nat.add_sub_cancel_left]

theorem u32_append_right {buf : Buf} (pre : Buf) (i : Nat) :
    Buf.u32 (pre ++ buf) (pre.length + i) = buf.u32 i := by
  unfold Buf.u32 Buf.u16
  simp only [Nat.add_assoc, u8_append_right]

theorem u32_of_bytes32 (v : UInt32) (rest : Buf) : Buf.u32 (bytes32 v ++ rest) 0 = v := by
  have hv := v.toNat_lt
  have hi : Buf.u16 (bytes32 v ++ rest) 0 = .ofNat (v.toNat / 65536) := u16_of_bytes16 _
  have lo : Buf.u16 (bytes32 v ++ rest) 2 = .ofNat v.toNat := u16_of_bytes16 _
  rw [Buf.u32, hi, lo, ← UInt32.toNat_inj, UInt32.toNat_ofNat', UInt16.toNat_ofNat',
    UInt16.toNat_ofNat']
  omega

/-- The `i`-th of the numbers behind a header. -/
theorem u32_flatMap (l : List UInt32) (pre rest : Buf) (i : Nat) (v : UInt32) (h : l[i]? = some v) :
    Buf.u32 (pre ++ (l.flatMap bytes32 ++ rest)) (pre.length + 4 * i) = v := by
  induction i generalizing l pre with
  | zero =>
      match l, h with
      | w :: l, h =>
          obtain rfl : w = v := Option.some.inj h
          rw [u32_append_right, List.flatMap_cons, List.append_assoc]
          exact u32_of_bytes32 w _
  | succ i ih =>
      match l, h with
      | w :: l, h =>
          have hi := ih l (pre ++ bytes32 w) h
          have hlen : (pre ++ bytes32 w).length = pre.length + 4 := by
            rw [List.length_append]
            rfl
          rw [hlen, List.append_assoc] at hi
          rw [List.flatMap_cons, List.append_assoc,
            show pre.length + 4 * (i + 1) = pre.length + 4 + 4 * i by omega]
          exact hi

end Rtcp

end Scallop
