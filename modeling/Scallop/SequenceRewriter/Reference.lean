import Mathlib.Data.Int.Basic
import Scallop.SequenceRewriter.Stream

/-!
# The reference heuristic

`solution_type3` of `hardware/seqnum_rewrite_sim/seqnum_rewrite_sim.ipynb`, which the rewriter was
ported from. Its numbers are integers of any size, it keeps the layer of the greatest frame where
the port keeps a drop flag, and it answers `-1` where the port answers nothing.

* `SimPacket` : a packet of the simulation, `SimPacket.pkt` : the port's packet;
* `Reference.step`, `solutionType3` : the reference;
* `Refines` : the port's state is that of the reference, the drop count modulo `2^32`;
  `port_refines_reference` : the port computes the numbers of the reference, modulo `2^32`.
-/

namespace Scallop

open Machine

def dropLayers : List Int := [2]

/-- A packet: group, frame, layer and sequence number, the number after dropping, the mark
(`1` start, `2` intermediate, `3` end), and whether it is received. -/
structure SimPacket where
  row ::
  gn : Int := 0
  fn : Int
  ln : Int
  sn : Int
  rn : Int := 0
  mk : Int
  pr : Bool := true
deriving DecidableEq, Repr

/-- The packet with its rewritten sequence number. -/
structure SimPacketOut extends SimPacket where
  row ::
  srn : Int
deriving DecidableEq, Repr

/-- The variables of `solution_type3`. -/
structure Reference where
  dropCount : Int := 0
  maxFrameNumber : Int := 0
  maxFrameLayer : Int := 0
  maxFrameStartSn : Int := 0
  maxFrameMaxSn : Int := 0
  maxFrameEndSeen : Bool := false
  maxDroppedFrame : Int := 0
deriving DecidableEq, Repr

namespace Reference

def firstPacket (t : Reference) (p : SimPacket) : Reference × Int :=
  ({ t with
      maxFrameNumber := p.fn
      maxFrameLayer := p.ln
      maxFrameStartSn := if p.mk = 1 then p.sn else p.sn - 1
      maxFrameMaxSn := if p.mk = 3 then p.sn else p.sn + 1
      dropCount := if p.ln ∉ dropLayers then t.dropCount else if p.mk = 3 then 2 else t.dropCount
      maxFrameEndSeen := if p.mk = 3 then true else t.maxFrameEndSeen },
    if p.ln ∉ dropLayers then p.sn else -1)

def sameFrame (t : Reference) (p : SimPacket) : Reference × Int :=
  let startSn :=
    if p.mk = 1 then p.sn
    else if p.sn = t.maxFrameStartSn then p.sn - 1
    else t.maxFrameStartSn
  ({ t with
      maxFrameStartSn := startSn
      maxFrameMaxSn :=
        if p.mk = 3 then p.sn
        else if ¬ t.maxFrameEndSeen then p.sn + 1
        else t.maxFrameMaxSn
      dropCount :=
        if p.ln ∉ dropLayers then t.dropCount
        else if p.mk = 3 then t.dropCount + (p.sn - startSn + 1)
        else t.dropCount
      maxFrameEndSeen := if p.mk = 3 then true else t.maxFrameEndSeen },
    if p.ln ∉ dropLayers then p.sn - t.dropCount else -1)

def nextFrame (t : Reference) (p : SimPacket) : Reference × Int :=
  let dropCount :=
    if t.maxFrameLayer ∈ dropLayers ∧ ¬ t.maxFrameEndSeen then
      if p.mk = 1 then t.dropCount + (p.sn - t.maxFrameStartSn) else t.dropCount + 3
    else if p.ln ∈ dropLayers ∧ p.mk = 3 then
      if t.maxFrameEndSeen then t.dropCount + (p.sn - t.maxFrameMaxSn) else t.dropCount + 2
    else t.dropCount
  ({ t with
      maxFrameNumber := p.fn
      dropCount := dropCount
      maxFrameLayer := p.ln
      maxFrameStartSn := if p.mk = 1 then p.sn else p.sn - 1
      maxFrameMaxSn := if p.mk = 3 then p.sn else p.sn + 1
      maxFrameEndSeen := if p.mk = 3 then true else false },
    if p.ln ∉ dropLayers then p.sn - dropCount else -1)

def futureFrame (t : Reference) (p : SimPacket) : Reference × Int :=
  let guessed :=
    if t.maxFrameLayer ∉ dropLayers ∧ p.ln ∉ dropLayers ∧ p.fn - t.maxFrameNumber + 1 ≥ 2 then
      t.dropCount + 2
    else t.dropCount
  let dropCount :=
    if t.maxFrameLayer ∈ dropLayers ∧ ¬ t.maxFrameEndSeen then
      guessed + (t.maxFrameMaxSn - t.maxFrameStartSn)
    else guessed
  ({ t with
      maxFrameNumber := p.fn
      maxFrameLayer := p.ln
      maxFrameStartSn :=
        if p.mk = 1 then p.sn
        else if p.sn = t.maxFrameStartSn then p.sn - 1
        else if p.mk = 2 then p.sn - 1
        else if p.mk = 3 then p.sn - 2
        else t.maxFrameStartSn
      maxFrameMaxSn := if p.mk = 3 then p.sn else p.sn + 1
      dropCount :=
        if p.ln ∉ dropLayers then dropCount else if p.mk = 3 then dropCount + 2 else dropCount
      maxFrameEndSeen := if p.mk = 3 then true else false },
    if p.ln ∉ dropLayers then p.sn - dropCount else -1)

def pastFrame (t : Reference) (p : SimPacket) (dropWhenUnsure : Bool) : Reference × Int :=
  (t,
    if p.ln ∈ dropLayers then -1
    else if p.fn + 1 = t.maxFrameNumber then
      if t.maxFrameLayer ∉ dropLayers then p.sn - t.dropCount
      else if ¬ t.maxFrameEndSeen then p.sn - t.dropCount
      else p.sn - (t.dropCount - (t.maxFrameMaxSn - t.maxFrameStartSn + 1))
    else if p.fn > t.maxDroppedFrame then p.sn - t.dropCount
    else if dropWhenUnsure then -1
    else p.sn - t.dropCount)

/-- The branches, in the order of the source; the last condition, `fn < max_frame_number`, is what
the others leave. -/
def rewrite (t : Reference) (p : SimPacket) (dropWhenUnsure : Bool) : Reference × Int :=
  if p.fn > 1 ∧ t.maxFrameNumber = 0 then t.firstPacket p
  else if p.fn = t.maxFrameNumber then t.sameFrame p
  else if p.fn = t.maxFrameNumber + 1 then t.nextFrame p
  else if p.fn > t.maxFrameNumber + 1 then t.futureFrame p
  else t.pastFrame p dropWhenUnsure

/-- Adjust the maximal dropped frame number. -/
def noteDrop (t : Reference) (p : SimPacket) : Reference :=
  if p.ln ∈ dropLayers then { t with maxDroppedFrame := max p.fn t.maxDroppedFrame } else t

def step (dropWhenUnsure : Bool) (t : Reference) (p : SimPacket) : Reference × SimPacketOut :=
  if ¬ p.pr then (t, { p with srn := -1, pr := false })
  else
    let r := t.rewrite p dropWhenUnsure
    (r.1.noteDrop p, { p with srn := r.2, pr := true })

end Reference

/-- `solution_type3`: the packets with their rewritten numbers. -/
def solutionType3 (packetsIn : List SimPacket) (dropWhenUnsure : Bool) : List SimPacketOut :=
  outputs (Reference.step dropWhenUnsure) {} packetsIn

namespace SimPacket

def pkt (p : SimPacket) : Pkt where
  frame := UInt16.ofNat p.fn.toNat
  seq := UInt16.ofNat p.sn.toNat
  mark := if p.mk = 1 then .start else if p.mk = 2 then .inter else .ending
  drop := decide (p.ln ∈ dropLayers)
  lost := !p.pr

/-- The numbers are in the range of the port, with a margin of two for sequence numbers. -/
structure InRange (p : SimPacket) : Prop where
  fn : 1 ≤ p.fn ∧ p.fn ≤ 65535
  sn : 2 ≤ p.sn ∧ p.sn ≤ 65534
  mark : p.mk = 1 ∨ p.mk = 2 ∨ p.mk = 3

section InRange
variable {p : SimPacket} (h : p.InRange)
include h

theorem InRange.frame : (p.pkt.frame.toNat : Int) = p.fn := by
  have := h.fn
  rw [pkt, UInt16.toNat_ofNat_of_lt' (by change p.fn.toNat < 65536; omega)]
  omega

theorem InRange.seq : (p.pkt.seq.toNat : Int) = p.sn := by
  have := h.sn
  rw [pkt, UInt16.toNat_ofNat_of_lt' (by change p.sn.toNat < 65536; omega)]
  omega

theorem InRange.seq_sub {n : Nat} (hn : n ≤ 2) :
    ((p.pkt.seq - UInt16.ofNat n).toNat : Int) = p.sn - n := by
  have hs := h.sn
  have hq := h.seq
  have hv : (UInt16.ofNat n).toNat = n := UInt16.toNat_ofNat_of_lt' (by change n < 65536; omega)
  rw [UInt16.toNat_sub_of_le _ _ (UInt16.le_iff_toNat_le.mpr (by omega)), hv]
  omega

theorem InRange.seq_succ : ((p.pkt.seq + 1).toNat : Int) = p.sn + 1 := by
  have hs := h.sn
  have hq := h.seq
  have hv : (p.pkt.seq + 1).toNat = p.pkt.seq.toNat + 1 := by
    rw [UInt16.toNat_add]
    exact Nat.mod_eq_of_lt (by change _ + 1 < 65536; omega)
  omega

theorem InRange.start_iff : p.pkt.mark = .start ↔ p.mk = 1 := by
  rcases h.mark with hm | hm | hm <;> simp [pkt, hm]

theorem InRange.inter_iff : p.pkt.mark = .inter ↔ p.mk = 2 := by
  rcases h.mark with hm | hm | hm <;> simp [pkt, hm]

theorem InRange.ending_iff : p.pkt.mark = .ending ↔ p.mk = 3 := by
  rcases h.mark with hm | hm | hm <;> simp [pkt, hm]

end InRange

end SimPacket

namespace SequenceRewriter

/-! ## One packet -/

/-- The port's state is that of the reference, the drop count modulo `2^32`. -/
structure Refines (s : SequenceRewriter) (t : Reference) : Prop where
  dropCount : s.dropCount = UInt32.ofInt t.dropCount
  maxFrame : (s.maxFrame.toNat : Int) = t.maxFrameNumber
  dropMaxFrame : s.dropMaxFrame = decide (t.maxFrameLayer ∈ dropLayers)
  startSeq : (s.maxFrameStartSeq.toNat : Int) = t.maxFrameStartSn
  maxSeq : (s.maxFrameMaxSeq.toNat : Int) = t.maxFrameMaxSn
  endSeen : s.maxFrameEndSeen = t.maxFrameEndSeen
  maxDropFrame : (s.maxDropFrame.toNat : Int) = t.maxDroppedFrame

/-- The answers to a packet: nothing, and the marker `-1`, if its layer is one to drop, and
otherwise the same number. -/
def SameNumber (p : SimPacket) (out : Option UInt32) (srn : Int) : Prop :=
  if p.ln ∈ dropLayers then out = none ∧ srn = -1 else out = some (UInt32.ofInt srn)

theorem ofInt_sub (x y : Int) : UInt32.ofInt (x - y) = UInt32.ofInt x - UInt32.ofInt y := by
  rw [Int.sub_eq_add_neg, UInt32.ofInt_add, UInt32.ofInt_neg, UInt32.sub_eq_add_neg]

theorem toUInt32_eq {a : UInt16} {x : Int} (h : (a.toNat : Int) = x) :
    a.toUInt32 = UInt32.ofInt x := by
  have ha := a.toNat_lt
  have hx : (x % 2 ^ 32).toNat = a.toNat := by omega
  rw [UInt32.ofInt, hx, ← UInt32.toNat_inj, UInt16.toNat_toUInt32, UInt32.toNat_ofNat_of_lt']
  exact Nat.lt_trans ha (by decide)

section Step
variable {s : SequenceRewriter} {t : Reference} {p : SimPacket}

/-- The numbers of a kept and of a dropped packet. -/
theorem sameNumber_of {out : Option UInt32} {n d : UInt32} {x y : Int}
    (hout : out = if p.pkt.drop then none else some (n - d)) (hn : n = UInt32.ofInt x)
    (hd : d = UInt32.ofInt y) : SameNumber p out (if p.ln ∉ dropLayers then x - y else -1) := by
  unfold SameNumber
  by_cases hl : p.ln ∈ dropLayers
  · simp [hl, hout, SimPacket.pkt]
  · simp [hl, hout, SimPacket.pkt, hn, hd, ofInt_sub]

theorem startSeq_eq (hp : p.InRange) :
    ((if p.pkt.mark = .start then p.pkt.seq else p.pkt.seq - 1).toNat : Int)
      = if p.mk = 1 then p.sn else p.sn - 1 := by
  simp only [hp.start_iff]
  split
  · exact hp.seq
  · exact hp.seq_sub (n := 1) (by decide)

theorem maxSeq_eq (hp : p.InRange) :
    ((if p.pkt.mark = .ending then p.pkt.seq else p.pkt.seq + 1).toNat : Int)
      = if p.mk = 3 then p.sn else p.sn + 1 := by
  simp only [hp.ending_iff]
  split
  · exact hp.seq
  · exact hp.seq_succ

theorem eq_startSeq_iff (h : Refines s t) (hp : p.InRange) :
    p.pkt.seq = s.maxFrameStartSeq ↔ p.sn = t.maxFrameStartSn := by
  rw [← UInt16.toNat_inj, ← hp.seq, ← h.startSeq, Nat.cast_inj]

/-- The drop flag and the marks, as the port reads them. -/
theorem reads (hp : p.InRange) :
    (p.pkt.drop = true ↔ p.ln ∈ dropLayers) ∧ (p.pkt.mark = .start ↔ p.mk = 1) ∧
      (p.pkt.mark = .inter ↔ p.mk = 2) ∧ (p.pkt.mark = .ending ↔ p.mk = 3) :=
  ⟨by simp [SimPacket.pkt], hp.start_iff, hp.inter_iff, hp.ending_iff⟩

theorem refines_firstPacket (h : Refines s t) (hp : p.InRange) :
    Refines (s.firstPacket p.pkt).1 (t.firstPacket p).1 ∧
      SameNumber p (s.firstPacket p.pkt).2 (t.firstPacket p).2 := by
  obtain ⟨hd, -, -, he⟩ := reads hp
  refine ⟨⟨?_, hp.frame, rfl, startSeq_eq hp, maxSeq_eq hp, ?_, h.maxDropFrame⟩, ?_⟩
  · simp only [firstPacket, Reference.firstPacket, hd, he, h.dropCount]
    by_cases hl : p.ln ∈ dropLayers <;> by_cases hm : p.mk = 3 <;> simp only [hl, hm] <;> rfl
  · simp only [firstPacket, Reference.firstPacket, he, h.endSeen]
  · have h0 : (s.firstPacket p.pkt).2
        = if p.pkt.drop then none else some (p.pkt.seq.toUInt32 - 0) := by
      simp only [firstPacket, UInt32.sub_zero]
    have := sameNumber_of h0 (toUInt32_eq hp.seq) (y := 0) rfl
    rwa [Int.sub_zero] at this

theorem refines_sameFrame (h : Refines s t) (hp : p.InRange) :
    Refines (s.sameFrame p.pkt).1 (t.sameFrame p).1 ∧
      SameNumber p (s.sameFrame p.pkt).2 (t.sameFrame p).2 := by
  obtain ⟨hd, hs, -, he⟩ := reads hp
  have hstart : ((s.sameFrameStartSeq p.pkt).toNat : Int)
      = if p.mk = 1 then p.sn else if p.sn = t.maxFrameStartSn then p.sn - 1
        else t.maxFrameStartSn := by
    simp only [sameFrameStartSeq, hs, eq_startSeq_iff h hp]
    split
    · exact hp.seq
    · split
      · exact hp.seq_sub (n := 1) (by decide)
      · exact h.startSeq
  refine ⟨⟨?_, h.maxFrame, h.dropMaxFrame, hstart, ?_, ?_, h.maxDropFrame⟩,
    sameNumber_of rfl (toUInt32_eq hp.seq) h.dropCount⟩
  · simp only [sameFrame, Reference.sameFrame, hd, he, h.dropCount, toUInt32_eq hp.seq,
      toUInt32_eq hstart]
    by_cases hl : p.ln ∈ dropLayers <;> by_cases hm : p.mk = 3 <;>
      simp [hl, hm, ofInt_sub]
  · simp only [sameFrame, Reference.sameFrame, he, h.endSeen]
    split
    · exact hp.seq
    · cases t.maxFrameEndSeen
      · exact hp.seq_succ
      · exact h.maxSeq
  · simp only [sameFrame, Reference.sameFrame, he, h.endSeen]

theorem nextFrameDropCount_eq (h : Refines s t) (hp : p.InRange) :
    s.nextFrameDropCount p.pkt = UInt32.ofInt (t.nextFrame p).1.dropCount := by
  obtain ⟨hd, hs, -, he⟩ := reads hp
  simp only [nextFrameDropCount, Reference.nextFrame, hd, hs, he, h.dropCount, h.dropMaxFrame,
    h.endSeen, decide_eq_true_eq]
  split
  · split
    · rw [UInt32.ofInt_add, ofInt_sub, toUInt32_eq hp.seq, toUInt32_eq h.startSeq]
    · rw [UInt32.ofInt_add]
      rfl
  · split
    · split
      · rw [UInt32.ofInt_add, ofInt_sub, toUInt32_eq hp.seq, toUInt32_eq h.maxSeq]
      · rw [UInt32.ofInt_add]
        rfl
    · rfl

theorem refines_nextFrame (h : Refines s t) (hp : p.InRange) :
    Refines (s.nextFrame p.pkt).1 (t.nextFrame p).1 ∧
      SameNumber p (s.nextFrame p.pkt).2 (t.nextFrame p).2 := by
  have hcount := nextFrameDropCount_eq h hp
  refine ⟨⟨hcount, hp.frame, rfl, startSeq_eq hp, maxSeq_eq hp, ?_, h.maxDropFrame⟩,
    sameNumber_of rfl (toUInt32_eq hp.seq) hcount⟩
  simp only [nextFrame, Reference.nextFrame, hp.ending_iff]
  by_cases hm : p.mk = 3 <;> simp [hm]

/-- The frames left out are counted by the port on 32 bits. -/
theorem skip_iff (h : Refines s t) (hp : p.InRange) (hf : p.fn > t.maxFrameNumber + 1) :
    skipCadence ≤ p.pkt.frame.toUInt32 - s.maxFrame.toUInt32 + 1 ↔
      p.fn - t.maxFrameNumber + 1 ≥ 2 := by
  have hle := p.pkt.frame.toNat_lt
  have h1 := hp.frame
  have h2 := h.maxFrame
  have hsub : (p.pkt.frame.toUInt32 - s.maxFrame.toUInt32).toNat
      = p.pkt.frame.toNat - s.maxFrame.toNat := by
    rw [UInt32.toNat_sub_of_le, UInt16.toNat_toUInt32, UInt16.toNat_toUInt32]
    rw [UInt32.le_iff_toNat_le, UInt16.toNat_toUInt32, UInt16.toNat_toUInt32]
    omega
  have hadd : (p.pkt.frame.toUInt32 - s.maxFrame.toUInt32 + 1).toNat
      = p.pkt.frame.toNat - s.maxFrame.toNat + 1 := by
    rw [UInt32.toNat_add, hsub]
    exact Nat.mod_eq_of_lt (by change _ + 1 < 4294967296; omega)
  rw [UInt32.le_iff_toNat_le, hadd]
  change 2 ≤ _ ↔ _
  omega

theorem refines_futureFrame (h : Refines s t) (hp : p.InRange)
    (hf : p.fn > t.maxFrameNumber + 1) :
    Refines (s.futureFrame p.pkt).1 (t.futureFrame p).1 ∧
      SameNumber p (s.futureFrame p.pkt).2 (t.futureFrame p).2 := by
  obtain ⟨hd, hs, hi, he⟩ := reads hp
  have hcount : s.futureFrameDropCount p.pkt = UInt32.ofInt
      (if t.maxFrameLayer ∈ dropLayers ∧ ¬ t.maxFrameEndSeen then
        (if t.maxFrameLayer ∉ dropLayers ∧ p.ln ∉ dropLayers ∧ p.fn - t.maxFrameNumber + 1 ≥ 2 then
          t.dropCount + 2 else t.dropCount) + (t.maxFrameMaxSn - t.maxFrameStartSn)
      else if t.maxFrameLayer ∉ dropLayers ∧ p.ln ∉ dropLayers ∧
          p.fn - t.maxFrameNumber + 1 ≥ 2 then t.dropCount + 2
      else t.dropCount) := by
    simp only [futureFrameDropCount, hd, h.dropMaxFrame, decide_eq_true_eq, skip_iff h hp hf,
      h.dropCount, h.endSeen, toUInt32_eq h.maxSeq, toUInt32_eq h.startSeq]
    split <;> split <;> simp only [UInt32.ofInt_add, ofInt_sub] <;> rfl
  refine ⟨⟨?_, hp.frame, rfl, ?_, maxSeq_eq hp, ?_, h.maxDropFrame⟩,
    sameNumber_of rfl (toUInt32_eq hp.seq) hcount⟩
  · simp only [futureFrame, Reference.futureFrame, hd, he, hcount]
    by_cases hl : p.ln ∈ dropLayers
    · by_cases hm : p.mk = 3
      · simp only [hl, hm, not_true, and_self, if_true, if_false, UInt32.ofInt_add]
        rfl
      · simp only [hl, hm, and_false, if_false]
        rfl
    · simp only [hl, false_and, if_false, not_false_eq_true, if_true]
  · simp only [futureFrame, Reference.futureFrame, hs, hi, eq_startSeq_iff h hp]
    have hm := hp.mark
    split
    · exact hp.seq
    · split
      · exact hp.seq_sub (n := 1) (by decide)
      · split
        · exact hp.seq_sub (n := 1) (by decide)
        · rw [if_pos (by omega)]
          exact hp.seq_sub (n := 2) (by decide)
  · simp only [futureFrame, Reference.futureFrame, he]
    by_cases hm : p.mk = 3 <;> simp [hm]

theorem refines_pastFrame (h : Refines s t) (hp : p.InRange) :
    SameNumber p (s.pastFrame p.pkt).2 (t.pastFrame p false).2 := by
  obtain ⟨hd, -, -, -⟩ := reads hp
  have h1 : p.pkt.frame.toNat + 1 = s.maxFrame.toNat ↔ p.fn + 1 = t.maxFrameNumber := by
    rw [← hp.frame, ← h.maxFrame]
    omega
  have h2 : s.maxDropFrame < p.pkt.frame ↔ p.fn > t.maxDroppedFrame := by
    rw [UInt16.lt_iff_toNat_lt, ← hp.frame, ← h.maxDropFrame]
    omega
  unfold SameNumber
  by_cases hl : p.ln ∈ dropLayers
  · simp [hl, pastFrame, Reference.pastFrame, hd]
  · simp only [pastFrame, Reference.pastFrame, hd, hl, if_false, h1, h2, h.dropMaxFrame, h.endSeen,
      decide_eq_true_eq, dropWhenUnsure, toUInt32_eq hp.seq, h.dropCount, toUInt32_eq h.maxSeq,
      toUInt32_eq h.startSeq]
    by_cases h3 : p.fn + 1 = t.maxFrameNumber
    · by_cases h4 : t.maxFrameLayer ∈ dropLayers <;> cases t.maxFrameEndSeen <;>
        simp [h3, h4, ofInt_sub]
    · simp [h3, ofInt_sub]

theorem Refines.noteDrop (h : Refines s t) (hp : p.InRange) :
    Refines (s.noteDrop p.pkt) (t.noteDrop p) := by
  have hd := (reads hp).1
  unfold SequenceRewriter.noteDrop Reference.noteDrop
  by_cases hl : p.ln ∈ dropLayers
  · rw [if_pos (hd.mpr hl), if_pos hl]
    refine ⟨h.dropCount, h.maxFrame, h.dropMaxFrame, h.startSeq, h.maxSeq, h.endSeen, ?_⟩
    have h1 := hp.frame
    have h2 := h.maxDropFrame
    change ((if p.pkt.frame ≤ s.maxDropFrame then s.maxDropFrame else p.pkt.frame).toNat : Int)
      = max p.fn t.maxDroppedFrame
    split <;> rename_i hle <;> rw [UInt16.le_iff_toNat_le] at hle <;> omega
  · rw [if_neg fun h' => hl (hd.mp h'), if_neg hl]
    exact h

/-- The port and the reference choose the same branch. -/
theorem refines_rewrite (h : Refines s t) (hp : p.InRange) :
    Refines (s.handle p.pkt (s.branch p.pkt)).1 (t.rewrite p false).1 ∧
      SameNumber p (s.handle p.pkt (s.branch p.pkt)).2 (t.rewrite p false).2 := by
  have hfn := hp.fn
  have h1 := hp.frame
  have h2 := h.maxFrame
  unfold Reference.rewrite
  rcases branch_cases s p.pkt with ⟨hf, hm, hb⟩ | ⟨he, hb⟩ | ⟨hn, hb⟩ | ⟨hm, hf, hb⟩ | ⟨hlt, hb⟩
  · have hf' : 1 < p.pkt.frame.toNat := UInt16.lt_iff_toNat_lt.mp hf
    rw [hm] at h2
    rw [hb, if_pos ⟨by omega, h2.symm⟩]
    exact refines_firstPacket h hp
  · have hfr : p.fn = t.maxFrameNumber := by rw [← h1, ← h2, he]
    rw [hb, if_neg (by omega), if_pos hfr]
    exact refines_sameFrame h hp
  · rw [hb, if_neg (by omega), if_neg (by omega), if_pos (by omega)]
    exact refines_nextFrame h hp
  · have hm' : s.maxFrame.toNat ≠ 0 := fun h0 => hm (UInt16.toNat_inj.mp h0)
    rw [hb, if_neg (by omega), if_neg (by omega), if_neg (by omega), if_pos (by omega)]
    exact refines_futureFrame h hp (by omega)
  · rw [UInt16.lt_iff_toNat_lt] at hlt
    rw [hb, if_neg (by omega), if_neg (by omega), if_neg (by omega), if_neg (by omega)]
    exact ⟨h, refines_pastFrame h hp⟩

/-- The port's answer to a packet and what the reference does with it: nothing for exactly the
packets that are lost or of a layer to drop, which the reference marks as lost or answers with `-1`;
the number of the reference for all others. -/
def Agrees (out : Option UInt32) (row : SimPacketOut) : Prop :=
  (out = none ↔ row.pr = false ∨ row.ln ∈ dropLayers) ∧
    ((row.pr = false ∨ row.ln ∈ dropLayers) → row.srn = -1) ∧
    ∀ number ∈ out, number = UInt32.ofInt row.srn

theorem Refines.step (h : Refines s t) (hp : p.InRange) :
    Refines (s.call p.pkt).1 (Reference.step false t p).1 ∧
      Agrees (s.call p.pkt).2 (Reference.step false t p).2 := by
  unfold Reference.step
  cases hr : p.pr with
  | false =>
      rw [call_lost (by simp [SimPacket.pkt, hr])]
      exact ⟨h, by simp [Agrees]⟩
  | true =>
      rw [call_of_branch (by simp [SimPacket.pkt, hr]) rfl]
      obtain ⟨hs, hn⟩ := refines_rewrite h hp
      refine ⟨hs.noteDrop hp, ?_⟩
      unfold SameNumber at hn
      unfold Agrees
      by_cases hl : p.ln ∈ dropLayers
      · rw [if_pos hl] at hn
        simp [hn.1, hn.2, hl]
      · rw [if_neg hl] at hn
        simp [hn, hl]

end Step

/-! ## Runs -/

theorem refines_fresh : Refines {} {} :=
  ⟨rfl, rfl, by decide, rfl, rfl, rfl, rfl⟩

theorem step_packet (t : Reference) (p : SimPacket) :
    (Reference.step false t p).2.toSimPacket = p := by
  obtain ⟨gn, fn, ln, sn, rn, mk, pr⟩ := p
  unfold Reference.step
  cases pr <;> rfl

/-- **The port computes what the reference does**, packet by packet. -/
theorem port_refines_reference {packetsIn : List SimPacket} (hin : ∀ p ∈ packetsIn, p.InRange) :
    List.Forall₂ Agrees (outputs call {} (packetsIn.map SimPacket.pkt))
        (solutionType3 packetsIn false) ∧
      (solutionType3 packetsIn false).map SimPacketOut.toSimPacket = packetsIn := by
  have hstep : ∀ s t p, Refines s t → p.InRange →
      Refines (s.call p.pkt).1 (Reference.step false t p).1 ∧
        Agrees (s.call p.pkt).2 (Reference.step false t p).2 := fun s t p h hp => h.step hp
  refine ⟨?_, ?_⟩
  · rw [outputs_map]
    exact outputs_forall₂ hstep refines_fresh hin
  · exact map_outputs _ step_packet _ _

theorem port_refines_reference_short :
    List.Forall₂ Agrees (outputs call {} ([⟨0, 2, 2, 10, 0, 1, true⟩, ⟨0, 2, 2, 11, 0, 2, false⟩,
        ⟨0, 3, 1, 13, 0, 2, true⟩].map SimPacket.pkt))
        (solutionType3 [⟨0, 2, 2, 10, 0, 1, true⟩, ⟨0, 2, 2, 11, 0, 2, false⟩,
          ⟨0, 3, 1, 13, 0, 2, true⟩] false) ∧
      (solutionType3 [⟨0, 2, 2, 10, 0, 1, true⟩, ⟨0, 2, 2, 11, 0, 2, false⟩,
          ⟨0, 3, 1, 13, 0, 2, true⟩] false).map SimPacketOut.toSimPacket
        = [⟨0, 2, 2, 10, 0, 1, true⟩, ⟨0, 2, 2, 11, 0, 2, false⟩, ⟨0, 3, 1, 13, 0, 2, true⟩] :=
  port_refines_reference (by
    intro p hp
    simp only [List.mem_cons, List.not_mem_nil, or_false] at hp
    rcases hp with rfl | rfl | rfl
    · exact ⟨by decide, by decide, by decide⟩
    · exact ⟨by decide, by decide, by decide⟩
    · exact ⟨by decide, by decide, by decide⟩)

/-- A number of the reference can be `-1` as well: frame `2` is dropped and counted as three
packets, and a kept packet of frame `3` has number `2`. The port answers it. -/
theorem marker_is_a_number :
    ¬ ∀ packetsIn : List SimPacket, (∀ p ∈ packetsIn, p.InRange) →
      List.Forall₂ (fun (out : Option UInt32) (row : SimPacketOut) =>
          out = none ↔ row.pr = false ∨ row.srn = -1)
        (outputs call {} (packetsIn.map SimPacket.pkt)) (solutionType3 packetsIn false) := by
  intro h
  have hrun := h [⟨0, 2, 2, 2, 0, 1, true⟩, ⟨0, 2, 2, 4, 0, 3, true⟩, ⟨0, 3, 1, 2, 0, 2, true⟩] (by
    intro p hp
    simp only [List.mem_cons, List.not_mem_nil, or_false] at hp
    rcases hp with rfl | rfl | rfl
    · exact ⟨by decide, by decide, by decide⟩
    · exact ⟨by decide, by decide, by decide⟩
    · exact ⟨by decide, by decide, by decide⟩)
  have hlast := (List.forall₂_iff_get.mp hrun).2 2 (by decide) (by decide)
  exact absurd hlast (by decide)

end SequenceRewriter

end Scallop
