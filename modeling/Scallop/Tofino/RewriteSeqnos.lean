import Scallop.Lib.Machine

/-!
# Sequence numbers in the data plane of the switch

The control `Rewrite_Sequence_Numbers` of `hardware/tofino/data_plane/includes/rewrite_seqnos.p4`, and `SwitchEgress`
of `scallop_tofino.p4`, which invokes it.

* `Registers`, `rewriteSequenceNumbers` : the two register arrays, one invocation;
* `Owned` : a cell holds the signature of a stream and counts its drops; `Owned.step`, `Owned.run`;
* `own_drop_count` : what the packets of the first stream in a cell are reduced by, whatever collides with it;
* `switchEgress`, `egress_final` : a run of the egress is a run of the control on the packets it invokes it for;
  `egress_drop_count` : so the numbers are reduced there;
  `egress_keeps` : as no packet comes to the egress as a layer drop, no number is changed there.

The two hash functions are parameters. Cells are indexed by 8 bits, fewer than the arrays have.
-/

namespace Scallop

namespace Tofino

open Machine

/-- `packet_type_t`. -/
abbrev PacketType := BitVec 8

def PACKET_TYPE_CONSUME_CPU : PacketType := 0x05

def AV1_LAYER_DROP : PacketType := 0x21

/-- The header fields that identify a receive stream. -/
structure RcvStream where
  srcAddr : BitVec 32
  dstAddr : BitVec 32
  srcPort : BitVec 16
  dstPort : BitVec 16
  ssrc : BitVec 32
deriving DecidableEq, Repr

/-- What the control reads and writes of the headers of a media packet. -/
structure MediaHeader extends RcvStream where
  sequenceNum : BitVec 16
deriving DecidableEq, Repr

/-- `hash_rcv_stream_signature` and `hash_rcv_stream_index`, with their seeds. -/
structure Hashes where
  rcvStreamSignature : BitVec 4 → RcvStream → BitVec 32
  rcvStreamIndex : BitVec 4 → BitVec 32 → BitVec 8

def SEED_RCV_STREAM_SIGNATURE : BitVec 4 := 7

def SEED_RCV_STREAM_INDEX : BitVec 4 := 7

structure Registers where
  regRcvStreamSignature : BitVec 8 → BitVec 32 := fun _ => 0
  regDropCount : BitVec 8 → BitVec 16 := fun _ => 0

/-- One invocation of the control: the headers and the packet type. -/
structure Invocation where
  hdr : MediaHeader
  packetType : PacketType
deriving DecidableEq, Repr

namespace Invocation

def rcvStream (p : Invocation) : RcvStream := p.hdr.toRcvStream

/-- The packet is dropped to leave out a layer. -/
def IsDrop (p : Invocation) : Prop := p.packetType = AV1_LAYER_DROP

instance (p : Invocation) : Decidable p.IsDrop := inferInstanceAs (Decidable (p.packetType = AV1_LAYER_DROP))

end Invocation

/-! ## The control -/

/-- Check receive stream signature match: the new cell and the match type. -/
def setOrMatchRcvStreamSignatures (rcvStreamSignature memCell : BitVec 32) : BitVec 32 × BitVec 8 :=
  if memCell = 0 then (rcvStreamSignature, 0)
  else if memCell = rcvStreamSignature then (memCell, 1)
  else (memCell, 2)

def incrementDropCount (memCell : BitVec 16) : BitVec 16 := memCell + 1

namespace Hashes
variable (h : Hashes)

/-- `compute_rcv_stream_signature`. -/
def signature (x : RcvStream) : BitVec 32 := h.rcvStreamSignature SEED_RCV_STREAM_SIGNATURE x

/-- `compute_rcv_stream_index`, from the signature. -/
def index (sig : BitVec 32) : BitVec 8 := h.rcvStreamIndex SEED_RCV_STREAM_INDEX sig

end Hashes

/-- `Rewrite_Sequence_Numbers`: the registers and the headers that leave. -/
def rewriteSequenceNumbers (h : Hashes) (r : Registers) (p : Invocation) : Registers × MediaHeader :=
  let rcvStreamSignature := h.signature p.rcvStream
  let rcvStreamIndex := h.index rcvStreamSignature
  let cell := setOrMatchRcvStreamSignatures rcvStreamSignature (r.regRcvStreamSignature rcvStreamIndex)
  let r := { r with regRcvStreamSignature := Function.update r.regRcvStreamSignature rcvStreamIndex cell.1 }
  let rcvStreamSignatureMatchType := cell.2
  -- the registers, and the drop count where it is read
  let counted : Registers × Option (BitVec 16) :=
    if rcvStreamSignatureMatchType = 1 ∧ p.packetType = AV1_LAYER_DROP then
      ({ r with
          regDropCount := Function.update r.regDropCount rcvStreamIndex
            (incrementDropCount (r.regDropCount rcvStreamIndex)) }, none)
    else if rcvStreamSignatureMatchType = 1 then (r, some (r.regDropCount rcvStreamIndex))
    else (r, none)
  (counted.1,
    if rcvStreamSignatureMatchType = 1 ∧ p.packetType ≠ AV1_LAYER_DROP then
      { p.hdr with sequenceNum := p.hdr.sequenceNum - counted.2.getD 0 }
    else p.hdr)

section Rewrite
variable (h : Hashes) {r : Registers} (p : Invocation) {sig : BitVec 32} {n : Nat}

theorem rewrite_of_match (hs : h.signature p.rcvStream = sig) (hne : sig ≠ 0)
    (hr : r.regRcvStreamSignature (h.index sig) = sig) :
    rewriteSequenceNumbers h r p =
      if p.IsDrop then
        ({ r with regDropCount :=
            Function.update r.regDropCount (h.index sig) (r.regDropCount (h.index sig) + 1) }, p.hdr)
      else (r, { p.hdr with sequenceNum := p.hdr.sequenceNum - r.regDropCount (h.index sig) }) := by
  have hcell : setOrMatchRcvStreamSignatures sig (r.regRcvStreamSignature (h.index sig)) = (sig, 1) := by
    rw [hr, setOrMatchRcvStreamSignatures, if_neg hne, if_pos rfl]
  have hkeep : Function.update r.regRcvStreamSignature (h.index sig) sig = r.regRcvStreamSignature := by
    conv_lhs => rw [← hr]
    rw [hr]
    exact Function.update_eq_self_iff.mpr hr.symm
  simp only [rewriteSequenceNumbers, hs, hcell, hkeep, incrementDropCount]
  by_cases hd : p.packetType = AV1_LAYER_DROP
  · simp [Invocation.IsDrop, hd]
  · simp [Invocation.IsDrop, hd]

/-- A packet whose cell is empty: its signature is set, and it is not counted. -/
theorem rewrite_of_empty (hs : h.signature p.rcvStream = sig) (hr : r.regRcvStreamSignature (h.index sig) = 0) :
    rewriteSequenceNumbers h r p =
      ({ r with regRcvStreamSignature := Function.update r.regRcvStreamSignature (h.index sig) sig }, p.hdr) := by
  have hcell : setOrMatchRcvStreamSignatures sig (r.regRcvStreamSignature (h.index sig)) = (sig, 0) := by
    rw [hr, setOrMatchRcvStreamSignatures, if_pos rfl]
  simp only [rewriteSequenceNumbers, hs, hcell]
  simp

/-- A packet whose cell holds another signature: nothing is changed. -/
theorem rewrite_of_other (hs : h.signature p.rcvStream = sig) (hne : r.regRcvStreamSignature (h.index sig) ≠ 0)
    (hr : r.regRcvStreamSignature (h.index sig) ≠ sig) : rewriteSequenceNumbers h r p = (r, p.hdr) := by
  have hcell : setOrMatchRcvStreamSignatures sig (r.regRcvStreamSignature (h.index sig))
      = (r.regRcvStreamSignature (h.index sig), 2) := by
    rw [setOrMatchRcvStreamSignatures, if_neg hne, if_neg hr]
  simp only [rewriteSequenceNumbers, hs, hcell, Function.update_eq_self]
  simp

/-- A packet of another cell does not touch this one. -/
theorem rewrite_frame {i : BitVec 8} (hi : h.index (h.signature p.rcvStream) ≠ i) :
    (rewriteSequenceNumbers h r p).1.regRcvStreamSignature i = r.regRcvStreamSignature i ∧
      (rewriteSequenceNumbers h r p).1.regDropCount i = r.regDropCount i := by
  unfold rewriteSequenceNumbers
  dsimp only
  split_ifs <;> simp [Function.update_of_ne hi.symm]

end Rewrite

/-! ## The first stream in a cell -/

/-- The cell of a signature holds it, and its drop count is `n`. -/
structure Owned (h : Hashes) (r : Registers) (sig : BitVec 32) (n : Nat) : Prop where
  signature : r.regRcvStreamSignature (h.index sig) = sig
  dropCount : r.regDropCount (h.index sig) = BitVec.ofNat 16 n

/-- The layer drops among `run` that carry the signature. -/
def dropsOf (h : Hashes) (sig : BitVec 32) (run : List Invocation) : Nat :=
  run.countP fun p => h.signature p.rcvStream = sig ∧ p.IsDrop

section Run
variable {h : Hashes} {r : Registers} {sig : BitVec 32} {n : Nat} {p : Invocation}

theorem dropsOf_append (run run' : List Invocation) :
    dropsOf h sig (run ++ run') = dropsOf h sig run + dropsOf h sig run' := List.countP_append

theorem dropsOf_singleton (p : Invocation) :
    dropsOf h sig [p] = if h.signature p.rcvStream = sig ∧ p.IsDrop then 1 else 0 := by
  simp [dropsOf, List.countP_singleton]

/-- A packet that carries another signature changes neither the cell nor its count. -/
theorem Owned.other (ho : Owned h r sig n) (hne : sig ≠ 0) (hp : h.signature p.rcvStream ≠ sig) :
    (rewriteSequenceNumbers h r p).1.regRcvStreamSignature (h.index sig) = r.regRcvStreamSignature (h.index sig) ∧
      (rewriteSequenceNumbers h r p).1.regDropCount (h.index sig) = r.regDropCount (h.index sig) := by
  by_cases hi : h.index (h.signature p.rcvStream) = h.index sig
  · have hcell : r.regRcvStreamSignature (h.index (h.signature p.rcvStream)) = sig := by rw [hi, ho.signature]
    rw [rewrite_of_other h p rfl (by rwa [hcell]) (by rw [hcell]; exact hp.symm)]
    exact ⟨rfl, rfl⟩
  · exact rewrite_frame h p hi

theorem Owned.step (ho : Owned h r sig n) (hne : sig ≠ 0) (p : Invocation) :
    Owned h (rewriteSequenceNumbers h r p).1 sig (n + dropsOf h sig [p]) := by
  rw [dropsOf_singleton]
  by_cases hs : h.signature p.rcvStream = sig
  · rw [rewrite_of_match h p hs hne ho.signature]
    by_cases hd : p.IsDrop
    · rw [if_pos hd, if_pos ⟨hs, hd⟩]
      constructor
      · exact ho.signature
      · show Function.update _ _ _ _ = _
        rw [Function.update_self, ho.dropCount]
        exact (BitVec.ofNat_add n 1).symm
    · rw [if_neg hd, if_neg fun hh => hd hh.2]
      exact ho
  · obtain ⟨hsig, hcount⟩ := ho.other hne hs
    rw [if_neg fun hh => hs hh.1]
    exact ⟨hsig.trans ho.signature, hcount.trans ho.dropCount⟩

theorem Owned.run (ho : Owned h r sig n) (hne : sig ≠ 0) (run : List Invocation) :
    Owned h (final (rewriteSequenceNumbers h) r run) sig (n + dropsOf h sig run) := by
  induction run generalizing r n with
  | nil => exact ho
  | cons p run ih =>
      have hrest := ih (ho.step hne p)
      rw [Nat.add_assoc, ← dropsOf_append, List.singleton_append] at hrest
      exact hrest

/-- A forwarded packet that carries the signature. -/
theorem Owned.sequenceNum (ho : Owned h r sig n) (hne : sig ≠ 0) (hs : h.signature p.rcvStream = sig)
    (hd : ¬ p.IsDrop) :
    (rewriteSequenceNumbers h r p).2 = { p.hdr with sequenceNum := p.hdr.sequenceNum - BitVec.ofNat 16 n } := by
  rw [rewrite_of_match h p hs hne ho.signature, if_neg hd, ho.dropCount]

/-- The packets before the first in the cell leave it empty. -/
theorem empty_before {i : BitVec 8} {before : List Invocation}
    (hb : ∀ p ∈ before, h.index (h.signature p.rcvStream) ≠ i) :
    (final (rewriteSequenceNumbers h) r before).regRcvStreamSignature i = r.regRcvStreamSignature i ∧
      (final (rewriteSequenceNumbers h) r before).regDropCount i = r.regDropCount i := by
  induction before generalizing r with
  | nil => exact ⟨rfl, rfl⟩
  | cons p before ih =>
      obtain ⟨hsig, hcount⟩ := rewrite_frame (r := r) h p (hb p List.mem_cons_self)
      obtain ⟨hsig', hcount'⟩ := ih (r := (rewriteSequenceNumbers h r p).1) fun x hx => hb x (List.mem_cons_of_mem _ hx)
      exact ⟨hsig'.trans hsig, hcount'.trans hcount⟩

/-- The first packet in an empty cell: it leaves as it came, and it is not counted. -/
theorem owned_first (hs : h.signature p.rcvStream = sig) (hr : r.regRcvStreamSignature (h.index sig) = 0)
    (hc : r.regDropCount (h.index sig) = 0) :
    Owned h (rewriteSequenceNumbers h r p).1 sig 0 ∧ (rewriteSequenceNumbers h r p).2 = p.hdr := by
  rw [rewrite_of_empty h p hs hr]
  refine ⟨?_, rfl⟩
  constructor
  · exact Function.update_self _ _ _
  · exact hc

end Run

/-- The layer drops of a stream among `run`. -/
def layerDrops (x : RcvStream) (run : List Invocation) : Nat := run.countP fun p => p.rcvStream = x ∧ p.IsDrop

section First
variable {h : Hashes} {x : RcvStream} {before rest pre post run : List Invocation} {first p : Invocation}

/-- A signature that no other stream of the run has counts the stream's own packets. -/
theorem dropsOf_eq_layerDrops (hu : ∀ p ∈ run, h.signature p.rcvStream = h.signature x → p.rcvStream = x) :
    dropsOf h (h.signature x) run = layerDrops x run := by
  apply List.countP_congr
  intro p hp
  simp only [decide_eq_true_eq]
  constructor
  · intro hh
    exact ⟨hu p hp hh.1, hh.2⟩
  · intro hh
    exact ⟨congrArg h.signature hh.1, hh.2⟩

theorem dropsOf_eq_zero {sig : BitVec 32} (hb : ∀ p ∈ before, h.index (h.signature p.rcvStream) ≠ h.index sig) :
    dropsOf h sig before = 0 := by
  apply List.countP_eq_zero.mpr
  intro p hp hh
  simp only [decide_eq_true_eq] at hh
  exact hb p hp (congrArg h.index hh.1)

/-- Where a packet of the run stands: before the first in the cell, it is the first, or after it. -/
theorem split_cases (he : before ++ first :: rest = pre ++ p :: post) :
    p ∈ before ∨ (pre = before ∧ p = first) ∨ ∃ mid, pre = before ++ first :: mid := by
  obtain ⟨mid, hpre, hmid⟩ | ⟨mid, hbefore, hmid⟩ := List.append_eq_append_iff.mp he
  · cases mid with
    | nil =>
        rw [List.nil_append, List.cons.injEq] at hmid
        exact .inr (.inl ⟨by simpa using hpre, hmid.1.symm⟩)
    | cons y mid =>
        rw [List.cons_append, List.cons.injEq] at hmid
        rw [← hmid.1] at hpre
        exact .inr (.inr ⟨mid, hpre⟩)
  · cases mid with
    | nil =>
        rw [List.nil_append, List.cons.injEq] at hmid
        exact .inr (.inl ⟨by simpa using hbefore.symm, hmid.1⟩)
    | cons y mid =>
        rw [List.cons_append, List.cons.injEq] at hmid
        left
        rw [hbefore, hmid.1]
        simp

variable (hb : ∀ p ∈ before, h.index (h.signature p.rcvStream) ≠ h.index (h.signature x))
include hb

/-- After the first packet in the cell and those of `mid`, the drops of `mid` are counted. -/
theorem owned_after (hne : h.signature x ≠ 0) (hx : first.rcvStream = x) (mid : List Invocation) :
    Owned h (final (rewriteSequenceNumbers h) {} (before ++ first :: mid)) (h.signature x)
      (dropsOf h (h.signature x) mid) := by
  obtain ⟨hsig, hcount⟩ := empty_before (r := {}) hb
  have ho := (owned_first (p := first) (congrArg h.signature hx) hsig hcount).1
  rw [final_append, final_cons]
  have hrun := ho.run hne mid
  rwa [Nat.zero_add] at hrun

/-- **The drop count of a receive stream.** For the first stream in a cell, whatever other streams share the cell: if
its first packet is forwarded, every forwarded packet leaves with its number less the layer drops that came before it
with its signature, which are its own if no other stream has this signature. A packet that carries another signature
never changes the count. -/
theorem own_drop_count (hne : h.signature x ≠ 0) (hx : first.rcvStream = x) (hd : ¬ first.IsDrop) :
    (∀ pre p post, before ++ first :: rest = pre ++ p :: post → p.rcvStream = x → ¬ p.IsDrop →
      (rewriteSequenceNumbers h (final (rewriteSequenceNumbers h) {} pre) p).2 =
        { p.hdr with sequenceNum := p.hdr.sequenceNum - BitVec.ofNat 16 (dropsOf h (h.signature x) pre) }) ∧
    ((∀ p ∈ before ++ first :: rest, h.signature p.rcvStream = h.signature x → p.rcvStream = x) →
      ∀ pre p post, before ++ first :: rest = pre ++ p :: post →
        dropsOf h (h.signature x) pre = layerDrops x pre) ∧
    (∀ pre p post, before ++ first :: rest = pre ++ p :: post → h.signature p.rcvStream ≠ h.signature x →
      (final (rewriteSequenceNumbers h) {} (pre ++ [p])).regDropCount (h.index (h.signature x)) =
        (final (rewriteSequenceNumbers h) {} pre).regDropCount (h.index (h.signature x))) := by
  have hzero : dropsOf h (h.signature x) before = 0 := dropsOf_eq_zero hb
  refine ⟨?_, ?_, ?_⟩
  · intro pre p post he hp hpd
    obtain hm | ⟨rfl, rfl⟩ | ⟨mid, rfl⟩ := split_cases he
    · exact absurd (congrArg (fun y => h.index (h.signature y)) hp) (hb p hm)
    · obtain ⟨hsig, hcount⟩ := empty_before (r := {}) hb
      rw [(owned_first (congrArg h.signature hx) hsig hcount).2, hzero]
      simp
    · have hcount : dropsOf h (h.signature x) (before ++ first :: mid) = dropsOf h (h.signature x) mid := by
        rw [← List.singleton_append, dropsOf_append, dropsOf_append, hzero, dropsOf_singleton,
          if_neg fun hh => hd hh.2]
        omega
      rw [hcount]
      exact (owned_after hb hne hx mid).sequenceNum hne (congrArg h.signature hp) hpd
  · intro hu pre p post he
    apply dropsOf_eq_layerDrops
    intro y hy
    apply hu y
    rw [he]
    exact List.mem_append_left _ hy
  · intro pre p post he hp
    rw [final_append, final_cons, final_nil]
    obtain hm | ⟨rfl, rfl⟩ | ⟨mid, rfl⟩ := split_cases he
    · exact (rewrite_frame h p (hb p hm)).2
    · exact absurd (congrArg h.signature hx) hp
    · exact ((owned_after hb hne hx mid).other hne hp).2

end First

/-- All streams in one cell, with their SSRC as signature. -/
def oneCell : Hashes := ⟨fun _ x => x.ssrc, fun _ _ => 0⟩

/-- A packet of a receive stream of one receiver. -/
def mediaPacket (ssrc : BitVec 32) (sequenceNum : BitVec 16) (packetType : PacketType) : Invocation :=
  ⟨⟨⟨0x0a00d36f, 0x0a00d301, 3000, 50000, ssrc⟩, sequenceNum⟩, packetType⟩

theorem own_drop_count_collision :
    let x := (mediaPacket 5 0 0).rcvStream
    let run := [mediaPacket 5 65535 0, mediaPacket 6 40 AV1_LAYER_DROP, mediaPacket 5 0 AV1_LAYER_DROP,
      mediaPacket 5 1 0]
    (∀ pre p post, run = pre ++ p :: post → p.rcvStream = x → ¬ p.IsDrop →
      (rewriteSequenceNumbers oneCell (final (rewriteSequenceNumbers oneCell) {} pre) p).2 =
        { p.hdr with sequenceNum := p.hdr.sequenceNum - BitVec.ofNat 16 (dropsOf oneCell (oneCell.signature x) pre) }) ∧
    ((∀ p ∈ run, oneCell.signature p.rcvStream = oneCell.signature x → p.rcvStream = x) →
      ∀ pre p post, run = pre ++ p :: post → dropsOf oneCell (oneCell.signature x) pre = layerDrops x pre) ∧
    (∀ pre p post, run = pre ++ p :: post → oneCell.signature p.rcvStream ≠ oneCell.signature x →
      (final (rewriteSequenceNumbers oneCell) {} (pre ++ [p])).regDropCount (oneCell.index (oneCell.signature x)) =
        (final (rewriteSequenceNumbers oneCell) {} pre).regDropCount (oneCell.index (oneCell.signature x))) :=
  @own_drop_count oneCell (mediaPacket 5 0 0).rcvStream [] _ (mediaPacket 5 65535 0) (by decide) (by decide)
    (by decide) (by decide)

/-- A first packet that is a layer drop is not counted; the drops of a stream with the same signature are. -/
theorem drop_count_not_own :
    (let h := oneCell
     let x := (mediaPacket 5 0 0).rcvStream
     let pre := [mediaPacket 5 10 AV1_LAYER_DROP]
     let p := mediaPacket 5 11 0
     h.signature x ≠ 0 ∧ layerDrops x pre = 1 ∧
       (rewriteSequenceNumbers h (final (rewriteSequenceNumbers h) {} pre) p).2.sequenceNum = 11) ∧
    (let h : Hashes := ⟨fun _ _ => 1, fun _ _ => 0⟩
     let x := (mediaPacket 5 0 0).rcvStream
     let pre := [mediaPacket 5 10 0, mediaPacket 6 40 AV1_LAYER_DROP]
     let p := mediaPacket 5 11 0
     h.signature x ≠ 0 ∧ layerDrops x pre = 0 ∧
       (rewriteSequenceNumbers h (final (rewriteSequenceNumbers h) {} pre) p).2.sequenceNum = 10) := by
  decide

/-! ## The egress -/

def CPU_PORT : Nat := 192

def SFU_IPV4_ADDR : BitVec 32 := 0x0a00d36f

def SFU_UDP_PORT : BitVec 16 := 3000

/-- A media packet at the egress: its headers, and the metadata that the control reads. -/
structure EgressPacket where
  hdr : MediaHeader
  egressRid : Nat
  egressPort : Nat
  /-- `bridged_md`, where it is valid. -/
  bridgedTemplateIdMod : Option (BitVec 8)
  packetType : PacketType := 0
  templateIdMod : BitVec 8 := 0
deriving Repr

/-- The table `ipv4_route`: the destination for a source, an SSRC and a replication identifier. -/
abbrev Ipv4Route := BitVec 32 → BitVec 16 → BitVec 32 → Nat → Option (BitVec 32 × BitVec 16)

/-- `set_destination_headers`, or `no_op`. -/
def setDestinationHeaders (route : Ipv4Route) (rid : Nat) (hdr : MediaHeader) : MediaHeader :=
  match route hdr.srcAddr hdr.srcPort hdr.ssrc rid with
  | some (ipDstAddr, udpDstPort) => { hdr with dstAddr := ipDstAddr, dstPort := udpDstPort }
  | none => hdr

def setSourceToSfu (hdr : MediaHeader) : MediaHeader := { hdr with srcAddr := SFU_IPV4_ADDR, srcPort := SFU_UDP_PORT }

namespace EgressPacket

/-- `eg_md.packet_type` when the headers are rewritten. -/
def finalType (p : EgressPacket) : PacketType :=
  if p.egressRid = 0 ∧ p.egressPort = CPU_PORT then PACKET_TYPE_CONSUME_CPU else p.packetType

/-- The addresses a media packet gets; a copy for the CPU keeps its own. -/
def readdressed (route : Ipv4Route) (p : EgressPacket) : MediaHeader :=
  if p.finalType ≠ PACKET_TYPE_CONSUME_CPU then setSourceToSfu (setDestinationHeaders route p.egressRid p.hdr)
  else p.hdr

/-- The invocation of the control for the packet, if there is one. -/
def invocation (route : Ipv4Route) (p : EgressPacket) : Option Invocation :=
  if p.bridgedTemplateIdMod.getD p.templateIdMod ≠ 64 then some ⟨p.readdressed route, p.finalType⟩ else none

end EgressPacket

/-- `SwitchEgress.apply` on a packet with an RTP header. -/
def switchEgress (h : Hashes) (route : Ipv4Route) (r : Registers) (p : EgressPacket) : Registers × MediaHeader :=
  match p.invocation route with
  | some i => rewriteSequenceNumbers h r i
  | none => (r, p.readdressed route)

section Egress
variable (h : Hashes) (route : Ipv4Route)

/-- A run of the egress is a run of the control. -/
theorem egress_final (r : Registers) (run : List EgressPacket) :
    final (switchEgress h route) r run
      = final (rewriteSequenceNumbers h) r (run.filterMap (EgressPacket.invocation route)) := by
  induction run generalizing r with
  | nil => rfl
  | cons p run ih =>
      rw [final_cons, ih, List.filterMap_cons]
      unfold switchEgress
      cases p.invocation route <;> rfl

theorem readdressed_sequenceNum (p : EgressPacket) : (p.readdressed route).sequenceNum = p.hdr.sequenceNum := by
  unfold EgressPacket.readdressed setSourceToSfu setDestinationHeaders
  split
  · dsimp only
    split <;> rfl
  · rfl

/-- The first packet of a stream that the control is invoked for counts nothing, and from then on every forwarded packet
of the stream leaves the egress with its number less the layer drops with its signature. -/
theorem egress_drop_count {x : RcvStream} (hne : h.signature x ≠ 0) {run : List EgressPacket}
    {before mid : List Invocation} {first i : Invocation}
    (hrun : run.filterMap (EgressPacket.invocation route) = before ++ first :: mid) (hx : first.rcvStream = x)
    (hb : ∀ p ∈ before, h.index (h.signature p.rcvStream) ≠ h.index (h.signature x))
    {p : EgressPacket} (hp : p.invocation route = some i) (hi : i.rcvStream = x) (hd : ¬ i.IsDrop) :
    (switchEgress h route (final (switchEgress h route) {} run) p).2 =
      { p.readdressed route with
        sequenceNum := p.hdr.sequenceNum - BitVec.ofNat 16 (dropsOf h (h.signature x) mid) } := by
  have howned := owned_after hb hne hx mid
  rw [← hrun, ← egress_final h route] at howned
  have hsent := howned.sequenceNum hne (congrArg h.signature hi) hd
  have hhdr : i.hdr = p.readdressed route := by
    unfold EgressPacket.invocation at hp
    split at hp
    · rw [← Option.some.inj hp]
    · cases hp
  have hinvoked : ∀ r, switchEgress h route r p = rewriteSequenceNumbers h r i := by
    intro r
    unfold switchEgress
    rw [hp]
  rw [hinvoked, hsent, hhdr, readdressed_sequenceNum]

theorem finalType_ne_drop {p : EgressPacket} (hp : p.packetType ≠ AV1_LAYER_DROP) :
    p.finalType ≠ AV1_LAYER_DROP := by
  unfold EgressPacket.finalType
  split
  · decide
  · exact hp

/-- A packet that is no layer drop increments no count. -/
theorem rewrite_dropCount {p : Invocation} (hp : ¬ p.IsDrop) (r : Registers) :
    (rewriteSequenceNumbers h r p).1.regDropCount = r.regDropCount := by
  unfold Invocation.IsDrop at hp
  unfold rewriteSequenceNumbers
  dsimp only
  split_ifs with h1 h2
  · exact absurd h1.2 hp
  · rfl
  · rfl

/-- While no drop is counted, every packet keeps its number. -/
theorem rewrite_sequenceNum (p : Invocation) {r : Registers} (hr : r.regDropCount = fun _ => 0) :
    (rewriteSequenceNumbers h r p).2.sequenceNum = p.hdr.sequenceNum := by
  unfold rewriteSequenceNumbers
  dsimp only
  split_ifs with h1 h2 h3
  · exact absurd h2.2 h1.2
  · show p.hdr.sequenceNum - r.regDropCount _ = _
    rw [hr]
    exact BitVec.sub_zero _
  · exact absurd h1.1 h3
  · rfl

/-- One packet at the egress that is no layer drop. -/
theorem egress_step {p : EgressPacket} (hp : p.packetType ≠ AV1_LAYER_DROP) {r : Registers}
    (hr : r.regDropCount = fun _ => 0) :
    (switchEgress h route r p).1.regDropCount = (fun _ => 0) ∧
      (switchEgress h route r p).2.sequenceNum = p.hdr.sequenceNum := by
  unfold switchEgress EgressPacket.invocation
  by_cases hm : p.bridgedTemplateIdMod.getD p.templateIdMod ≠ 64
  · rw [if_pos hm]
    constructor
    · rw [← hr]
      exact rewrite_dropCount h (p := ⟨p.readdressed route, p.finalType⟩) (finalType_ne_drop hp) r
    · exact (rewrite_sequenceNum h _ hr).trans (readdressed_sequenceNum route p)
  · rw [if_neg hm]
    exact ⟨hr, readdressed_sequenceNum route p⟩

/-- The type of a packet at the egress is only ever set to that of a copy for the CPU. As long as none comes in as a
layer drop, no count moves and every packet leaves with the number it came with. -/
theorem egress_keeps {run : List EgressPacket} (hrun : ∀ p ∈ run, p.packetType ≠ AV1_LAYER_DROP) {r : Registers}
    (hr : r.regDropCount = fun _ => 0) :
    (outputs (switchEgress h route) r run).map MediaHeader.sequenceNum = run.map fun p => p.hdr.sequenceNum := by
  induction run generalizing r with
  | nil => rfl
  | cons p run ih =>
      obtain ⟨hcount, hseq⟩ := egress_step h route (hrun p List.mem_cons_self) hr
      rw [outputs_cons, List.map_cons, List.map_cons, hseq, ih (fun x hx => hrun x (List.mem_cons_of_mem _ hx)) hcount]

end Egress

end Tofino

end Scallop
