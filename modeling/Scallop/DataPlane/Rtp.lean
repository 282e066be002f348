import Mathlib.Data.UInt

/-!
# Datagrams and RTP headers

* `Fault` : the exceptions of the source, and its undefined behaviour;
* `IPv4Port`, `Buf` : endpoints, datagrams; big-endian reads (`u16`, `u32`), `Buf.readByte` : a read that
  faults outside the datagram;
* `rtp::hdr` of `lib/proto/rtp.h`: `seq`, `ssrc`, `isRtcp`, the walk over the header extensions
  (`extensionPtrs`, `extensionPtr`), `setSeq` : the sequence number rewritten in place.

Pointers into a datagram are offsets from its beginning.
-/

namespace Scallop

/-- An exception, or undefined behaviour: a read outside of the buffer it was meant for, or of the
value of an empty optional. -/
inductive Fault where
  | outOfBounds
  | emptyOptional
  | invalidArgument (what : String)
  | logicError (what : String)
  | domainError (what : String)
  | runtimeError (what : String)
deriving DecidableEq, Repr

def Fault.IsUndefined (e : Fault) : Prop := e = .emptyOptional ∨ e = .outOfBounds

structure IPv4Port where
  ip : UInt32 := 0
  port : UInt16 := 0
deriving DecidableEq, Repr

abbrev SSRC := UInt32

/-- The bytes of a datagram, or of a part of one. -/
abbrev Buf := List UInt8

namespace Buf

variable (buf : Buf)

def readByte (i : Nat) : Except Fault UInt8 :=
  match buf[i]? with
  | some b => .ok b
  | none => .error .outOfBounds

/-- A read of `len` bytes. -/
def readBytes (i len : Nat) : Except Fault Buf :=
  if i + len ≤ buf.length then .ok ((buf.drop i).take len) else .error .outOfBounds

/-- A byte of a header whose presence was checked. -/
def u8 (i : Nat) : UInt8 := buf.getD i 0

/-- `ntohs` of two such bytes. -/
def u16 (i : Nat) : UInt16 := .ofNat (256 * (buf.u8 i).toNat + (buf.u8 (i + 1)).toNat)

/-- `ntohl` of four such bytes. -/
def u32 (i : Nat) : UInt32 := .ofNat (65536 * (buf.u16 i).toNat + (buf.u16 (i + 2)).toNat)

/-- `htons` stored at an offset. -/
def setU16 (i : Nat) (v : UInt16) : Buf :=
  (buf.set i (.ofNat (v.toNat / 256))).set (i + 1) (.ofNat v.toNat)

variable {buf}

theorem readByte_of_lt {i : Nat} (h : i < buf.length) : buf.readByte i = .ok (buf.u8 i) := by
  unfold readByte u8
  rw [List.getD_eq_getElem?_getD, List.getElem?_eq_getElem h]
  rfl

theorem readByte_ok {i : Nat} {b : UInt8} (h : buf.readByte i = .ok b) : b = buf.u8 i := by
  unfold readByte at h
  unfold u8
  rw [List.getD_eq_getElem?_getD]
  cases hb : buf[i]? with
  | none =>
      rw [hb] at h
      exact nomatch h
  | some b' =>
      rw [hb] at h
      exact (Except.ok.inj h).symm

theorem readBytes_ok {i len : Nat} {bytes : Buf} (h : buf.readBytes i len = .ok bytes) :
    i + len ≤ buf.length ∧ bytes = (buf.drop i).take len := by
  unfold readBytes at h
  split at h
  · exact ⟨‹_›, (Except.ok.inj h).symm⟩
  · exact nomatch h

end Buf

namespace Rtp

def containsRtpOrRtcp (buf : Buf) : Bool := 12 ≤ buf.length ∧ (buf.u8 0 >>> 6) &&& 0x03 = 0x02

inductive ExtProfile where
  | oneByte
  | twoByte
  | other
deriving DecidableEq, Repr

/-- `rtp::ext_type`: the identifier of the extension at `p`. -/
def extType (buf : Buf) (p : Nat) : ExtProfile → Except Fault Nat
  | .oneByte => do
      let b ← buf.readByte p
      return ((b >>> 4) &&& 0x0f).toNat
  | .twoByte => do
      let b ← buf.readByte p
      return b.toNat
  | .other => .error (.domainError "rtp::ext_type: unsupported extension profile")

/-- `rtp::ext_len`: the length of the extension at `p`, without its header. -/
def extLen (buf : Buf) (p : Nat) : ExtProfile → Except Fault Nat
  | .oneByte => do
      let b ← buf.readByte p
      return (b &&& 0x0f).toNat + 1
  | .twoByte => do
      let b ← buf.readByte (p + 1)
      return b.toNat
  | .other => .error (.domainError "rtp::ext_len: unsupported extension profile")

section Hdr
variable (buf : Buf)

def extension : Bool := (buf.u8 0 >>> 4) &&& 0x01 = 1

def csrcCount : UInt8 := buf.u8 0 &&& 0x0f

def isRtcp : Bool := 200 ≤ buf.u8 1 ∧ buf.u8 1 ≤ 207

def seq : UInt16 := buf.u16 2

def ssrc : SSRC := buf.u32 8

/-- `rtp->seq = htons(..)`. -/
def setSeq (v : UInt16) : Buf := buf.setU16 2 v

/-- `hdr::extension_profile`, of a header with extensions. -/
def extensionProfile : Except Fault ExtProfile := do
  let hi ← buf.readByte 12
  let lo ← buf.readByte 13
  if hi = 0xbe ∧ lo = 0xde then return .oneByte
  else if hi = 0x10 ∧ lo = 0x00 then return .twoByte
  else return .other

/-- The loop of `extension_ptrs`: the offset `i` counts from the profile header, which is at `12`;
every round moves it on, so `stop` rounds are enough. -/
def walkExtensions (profile : ExtProfile) (hdrLen stop : Nat) : Nat → Nat → Except Fault (List Nat)
  | 0, _ => .ok []
  | fuel + 1, i =>
      if i < stop then do
        let b ← buf.readByte (12 + i)
        if b ≠ 0 then
          let len ← extLen buf (12 + i) profile
          let rest ← walkExtensions profile hdrLen stop fuel (i + (len + hdrLen))
          return (12 + i) :: rest
        else walkExtensions profile hdrLen stop fuel (i + 1)
      else .ok []

/-- The bytes of all extensions, computed on 16 bits. -/
def totalExtBytes : Except Fault UInt16 := do
  let hi ← buf.readByte 14
  let lo ← buf.readByte 15
  return (hi.toUInt16 <<< 8 + lo.toUInt16) * 4

/-- `hdr::extension_ptrs`: the offsets of the extensions. -/
def extensionPtrs : Except Fault (List Nat) := do
  if csrcCount buf ≠ 0 ∨ ¬ extension buf then
    return []
  let profile ← extensionProfile buf
  if profile = .other then
    return []
  let hdrLen := if profile = .oneByte then 1 else 2
  let total ← totalExtBytes buf
  let stop := total.toNat + 4
  walkExtensions buf profile hdrLen stop stop 4

/-- The first of the extensions at `ptrs` with the identifier `type`. -/
def findExtension (profile : ExtProfile) (type : Nat) : List Nat → Except Fault (Option Nat)
  | [] => .ok none
  | p :: ps => do
      let t ← extType buf p profile
      if t = type then return some p
      else findExtension profile type ps

/-- `hdr::extension_ptr`: the offset of the extension with the identifier `type`. -/
def extensionPtr (type : Nat) : Except Fault (Option Nat) := do
  let ptrs ← extensionPtrs buf
  match ptrs with
  | [] => return none
  | _ => findExtension buf (← extensionProfile buf) type ptrs

end Hdr

/-! ## The rewritten sequence number -/

section SetSeq
variable {buf : Buf}

@[simp] theorem length_setSeq (v : UInt16) : (setSeq buf v).length = buf.length := by
  simp [setSeq, Buf.setU16]

theorem u8_setSeq {i : Nat} (h2 : i ≠ 2) (h3 : i ≠ 3) (v : UInt16) :
    Buf.u8 (setSeq buf v) i = buf.u8 i := by
  simp [Buf.u8, setSeq, Buf.setU16, List.getD_eq_getElem?_getD, h2.symm, h3.symm]

theorem seq_setSeq (h : 4 ≤ buf.length) (v : UInt16) : seq (setSeq buf v) = v := by
  have h2 : Buf.u8 (setSeq buf v) 2 = .ofNat (v.toNat / 256) := by
    simp [Buf.u8, setSeq, Buf.setU16, List.getD_eq_getElem?_getD,
      show 2 < buf.length by omega]
  have h3 : Buf.u8 (setSeq buf v) 3 = .ofNat v.toNat := by
    simp [Buf.u8, setSeq, Buf.setU16, List.getD_eq_getElem?_getD,
      show 3 < buf.length by omega]
  have hv := v.toNat_lt
  rw [seq, Buf.u16, h2, h3, ← UInt16.toNat_inj, UInt16.toNat_ofNat', UInt8.toNat_ofNat',
    UInt8.toNat_ofNat']
  omega

/-- Storing the number that is there changes nothing. -/
theorem setSeq_seq : setSeq buf (seq buf) = buf := by
  have hhi : (UInt8.ofNat ((seq buf).toNat / 256)) = buf.u8 2 := by
    have := (buf.u8 2).toNat_lt
    have := (buf.u8 (2 + 1)).toNat_lt
    rw [seq, Buf.u16, ← UInt8.toNat_inj, UInt8.toNat_ofNat', UInt16.toNat_ofNat']
    omega
  have hlo : (UInt8.ofNat (seq buf).toNat) = buf.u8 (2 + 1) := by
    have := (buf.u8 2).toNat_lt
    have := (buf.u8 (2 + 1)).toNat_lt
    rw [seq, Buf.u16, ← UInt8.toNat_inj, UInt8.toNat_ofNat', UInt16.toNat_ofNat']
    omega
  rw [setSeq, Buf.setU16, hhi, hlo]
  apply List.ext_getElem
  · simp
  · intro i hi hi'
    rw [List.getElem_set, List.getElem_set]
    split
    · rename_i h3
      subst h3
      simp [Buf.u8, List.getD_eq_getElem?_getD, hi']
    · split
      · rename_i h2
        subst h2
        simp [Buf.u8, List.getD_eq_getElem?_getD, hi']
      · rfl

/-- The number that is stored last is the one that stays. -/
theorem setSeq_setSeq (v w : UInt16) : setSeq (setSeq buf v) w = setSeq buf w := by
  unfold setSeq Buf.setU16
  rw [List.set_comm _ _ (by decide : (3 : Nat) ≠ 2), List.set_set, List.set_set]

end SetSeq

end Rtp

end Scallop
