import Mathlib.Data.UInt

/-!
# The sequence rewriter

`SequenceRewriter` of `lib/sequence_rewriter.{h,cc}`: one per receiver of a stream, it renumbers
the packets that are forwarded so that packets dropped on purpose leave no gap.

* `Pkt`, `Mark` : a packet as the rewriter sees it; `markFromAV1FrameFlags`;
* `SequenceRewriter.call` : `operator()(const Pkt&)`, one definition for each of its branches;
* `SequenceRewriter.offset` : what is subtracted from a packet that is kept, with `call_kept`,
  `call_dropped`.

Sequence and frame numbers are 16 bits wide and the drop count 32, as in the source. Where the
source compares or subtracts after promotion to `int`, comparisons are on `toNat` and differences
on `toUInt32`, which is what the conversion back to `unsigned` leaves of them.
-/

namespace Scallop

inductive Mark where
  | start
  | inter
  | ending
deriving DecidableEq, Repr

/-- `SequenceRewriter::Pkt`; `lost` is set when the packet carries a `sim` that says so. -/
structure Pkt where
  frame : UInt16 := 0
  seq : UInt16 := 0
  mark : Mark := .inter
  drop : Bool := false
  lost : Bool := false
deriving DecidableEq, Repr

/-- A packet that is both start and end of its frame is marked as end. -/
def markFromAV1FrameFlags (start ending : Bool) : Mark :=
  if ending then .ending else if start then .start else .inter

/-- The state of a rewriter; a fresh one is `{}`. -/
structure SequenceRewriter where
  dropCount : UInt32 := 0
  maxFrame : UInt16 := 0
  dropMaxFrame : Bool := false
  maxFrameStartSeq : UInt16 := 0
  maxFrameMaxSeq : UInt16 := 0
  maxFrameEndSeen : Bool := false
  maxDropFrame : UInt16 := 0
deriving DecidableEq, Repr

namespace SequenceRewriter

def skipCadence : UInt32 := 2

/-- `_dropWhenUnsure`, which nothing sets. -/
def dropWhenUnsure : Bool := false

/-! ## The branches of `operator()` -/

def firstPacket (s : SequenceRewriter) (pkt : Pkt) : SequenceRewriter × Option UInt32 :=
  ({ s with
      maxFrame := pkt.frame
      dropMaxFrame := pkt.drop
      maxFrameStartSeq := if pkt.mark = .start then pkt.seq else pkt.seq - 1
      maxFrameMaxSeq := if pkt.mark = .ending then pkt.seq else pkt.seq + 1
      dropCount := if pkt.drop ∧ pkt.mark = .ending then 2 else s.dropCount
      maxFrameEndSeen := if pkt.mark = .ending then true else s.maxFrameEndSeen },
    if pkt.drop then none else some pkt.seq.toUInt32)

/-- `_maxFrameStartSeq` after another packet of the same frame. -/
def sameFrameStartSeq (s : SequenceRewriter) (pkt : Pkt) : UInt16 :=
  if pkt.mark = .start then pkt.seq
  else if pkt.seq = s.maxFrameStartSeq then pkt.seq - 1
  else s.maxFrameStartSeq

def sameFrame (s : SequenceRewriter) (pkt : Pkt) : SequenceRewriter × Option UInt32 :=
  let startSeq := s.sameFrameStartSeq pkt
  ({ s with
      maxFrameStartSeq := startSeq
      maxFrameMaxSeq :=
        if pkt.mark = .ending then pkt.seq
        else if s.maxFrameEndSeen then s.maxFrameMaxSeq
        else pkt.seq + 1
      dropCount :=
        if pkt.drop ∧ pkt.mark = .ending then
          s.dropCount + (pkt.seq.toUInt32 - startSeq.toUInt32 + 1)
        else s.dropCount
      maxFrameEndSeen := if pkt.mark = .ending then true else s.maxFrameEndSeen },
    if pkt.drop then none else some (pkt.seq.toUInt32 - s.dropCount))

/-- `_dropCount` after the first packet of the next frame. -/
def nextFrameDropCount (s : SequenceRewriter) (pkt : Pkt) : UInt32 :=
  if s.dropMaxFrame ∧ ¬ s.maxFrameEndSeen then
    s.dropCount +
      (if pkt.mark = .start then pkt.seq.toUInt32 - s.maxFrameStartSeq.toUInt32 else 3)
  else if pkt.drop ∧ pkt.mark = .ending then
    s.dropCount +
      (if s.maxFrameEndSeen then pkt.seq.toUInt32 - s.maxFrameMaxSeq.toUInt32 else 2)
  else s.dropCount

def nextFrame (s : SequenceRewriter) (pkt : Pkt) : SequenceRewriter × Option UInt32 :=
  let dropCount := s.nextFrameDropCount pkt
  ({ s with
      maxFrame := pkt.frame
      dropCount := dropCount
      dropMaxFrame := pkt.drop
      maxFrameStartSeq := if pkt.mark = .start then pkt.seq else pkt.seq - 1
      maxFrameMaxSeq := if pkt.mark = .ending then pkt.seq else pkt.seq + 1
      maxFrameEndSeen := decide (pkt.mark = .ending) },
    if pkt.drop then none else some (pkt.seq.toUInt32 - dropCount))

/-- `_dropCount` when frames were skipped, before the end of a dropped frame is counted. -/
def futureFrameDropCount (s : SequenceRewriter) (pkt : Pkt) : UInt32 :=
  let guessed :=
    if ¬ s.dropMaxFrame ∧ ¬ pkt.drop ∧
        skipCadence ≤ pkt.frame.toUInt32 - s.maxFrame.toUInt32 + 1 then
      s.dropCount + 2
    else s.dropCount
  if s.dropMaxFrame ∧ ¬ s.maxFrameEndSeen then
    guessed + (s.maxFrameMaxSeq.toUInt32 - s.maxFrameStartSeq.toUInt32)
  else guessed

def futureFrame (s : SequenceRewriter) (pkt : Pkt) : SequenceRewriter × Option UInt32 :=
  let dropCount := s.futureFrameDropCount pkt
  ({ s with
      maxFrame := pkt.frame
      dropMaxFrame := pkt.drop
      maxFrameStartSeq :=
        if pkt.mark = .start then pkt.seq
        else if pkt.seq = s.maxFrameStartSeq then pkt.seq - 1
        else if pkt.mark = .inter then pkt.seq - 1
        else pkt.seq - 2
      maxFrameMaxSeq := if pkt.mark = .ending then pkt.seq else pkt.seq + 1
      dropCount := if pkt.drop ∧ pkt.mark = .ending then dropCount + 2 else dropCount
      maxFrameEndSeen := decide (pkt.mark = .ending) },
    if pkt.drop then none else some (pkt.seq.toUInt32 - dropCount))

def pastFrame (s : SequenceRewriter) (pkt : Pkt) : SequenceRewriter × Option UInt32 :=
  (s,
    if pkt.drop then none
    else if pkt.frame.toNat + 1 = s.maxFrame.toNat then
      if ¬ s.dropMaxFrame then some (pkt.seq.toUInt32 - s.dropCount)
      else if ¬ s.maxFrameEndSeen then some (pkt.seq.toUInt32 - s.dropCount)
      else some (pkt.seq.toUInt32 -
        (s.dropCount - (s.maxFrameMaxSeq.toUInt32 - s.maxFrameStartSeq.toUInt32 + 1)))
    else if s.maxDropFrame < pkt.frame then some (pkt.seq.toUInt32 - s.dropCount)
    else if dropWhenUnsure then none
    else some (pkt.seq.toUInt32 - s.dropCount))

/-- Which branch of `operator()` takes the packet. -/
inductive Branch where
  | first
  | same
  | next
  | future
  | past
deriving DecidableEq, Repr

/-- The conditions of `operator()`, in its order. -/
def branch (s : SequenceRewriter) (pkt : Pkt) : Branch :=
  if 1 < pkt.frame ∧ s.maxFrame = 0 then .first
  else if pkt.frame = s.maxFrame then .same
  else if pkt.frame.toNat = s.maxFrame.toNat + 1 then .next
  else if s.maxFrame.toNat + 1 < pkt.frame.toNat then .future
  else .past

def handle (s : SequenceRewriter) (pkt : Pkt) : Branch → SequenceRewriter × Option UInt32
  | .first => s.firstPacket pkt
  | .same => s.sameFrame pkt
  | .next => s.nextFrame pkt
  | .future => s.futureFrame pkt
  | .past => s.pastFrame pkt

/-- Adjust the maximal dropped frame number. -/
def noteDrop (s : SequenceRewriter) (pkt : Pkt) : SequenceRewriter :=
  if pkt.drop then { s with maxDropFrame := max pkt.frame s.maxDropFrame } else s

/-- `operator()(const Pkt&)`: the rewritten sequence number, or nothing. -/
def call (s : SequenceRewriter) (pkt : Pkt) : SequenceRewriter × Option UInt32 :=
  if pkt.lost then (s, none)
  else
    let r := s.handle pkt (s.branch pkt)
    (r.1.noteDrop pkt, r.2)

/-- `operator()` on the fields of an AV1 dependency descriptor. -/
def callFlags (s : SequenceRewriter) (frame seq : UInt16) (startOfFrame endOfFrame drop : Bool) :
    SequenceRewriter × Option UInt32 :=
  s.call { frame, seq, mark := markFromAV1FrameFlags startOfFrame endOfFrame, drop }

/-! ## What a call does -/

section Call
variable (s : SequenceRewriter) (pkt : Pkt)

/-- What a kept packet of a past frame is reduced by. -/
def pastFrameOffset : UInt32 :=
  if pkt.frame.toNat + 1 = s.maxFrame.toNat ∧ s.dropMaxFrame ∧ s.maxFrameEndSeen then
    s.dropCount - (s.maxFrameMaxSeq.toUInt32 - s.maxFrameStartSeq.toUInt32 + 1)
  else s.dropCount

/-- What is subtracted from the sequence number of a packet that is kept. -/
def offset : UInt32 :=
  match s.branch pkt with
  | .first => 0
  | .same => s.dropCount
  | .next => s.nextFrameDropCount pkt
  | .future => s.futureFrameDropCount pkt
  | .past => s.pastFrameOffset pkt

@[simp] theorem noteDrop_dropCount : (s.noteDrop pkt).dropCount = s.dropCount := by
  unfold noteDrop; split <;> rfl

@[simp] theorem noteDrop_maxFrame : (s.noteDrop pkt).maxFrame = s.maxFrame := by
  unfold noteDrop; split <;> rfl

@[simp] theorem noteDrop_dropMaxFrame : (s.noteDrop pkt).dropMaxFrame = s.dropMaxFrame := by
  unfold noteDrop; split <;> rfl

@[simp] theorem noteDrop_maxFrameStartSeq :
    (s.noteDrop pkt).maxFrameStartSeq = s.maxFrameStartSeq := by
  unfold noteDrop; split <;> rfl

@[simp] theorem noteDrop_maxFrameMaxSeq :
    (s.noteDrop pkt).maxFrameMaxSeq = s.maxFrameMaxSeq := by
  unfold noteDrop; split <;> rfl

@[simp] theorem noteDrop_maxFrameEndSeen :
    (s.noteDrop pkt).maxFrameEndSeen = s.maxFrameEndSeen := by
  unfold noteDrop; split <;> rfl

variable {s pkt}

theorem call_lost (h : pkt.lost = true) : s.call pkt = (s, none) := by
  simp [call, h]

theorem call_of_branch {b : Branch} (hl : pkt.lost = false) (hb : s.branch pkt = b) :
    s.call pkt = ((s.handle pkt b).1.noteDrop pkt, (s.handle pkt b).2) := by
  simp [call, hl, hb]

/-- A packet that is to be dropped gets no number. -/
theorem call_dropped (hd : pkt.drop = true) : (s.call pkt).2 = none := by
  cases hl : pkt.lost with
  | true => rw [call_lost hl]
  | false =>
      rw [call_of_branch hl rfl]
      cases s.branch pkt <;>
        simp [handle, firstPacket, sameFrame, nextFrame, futureFrame, pastFrame, hd]

/-- A packet that is kept gets its own number less the offset. -/
theorem call_kept (hd : pkt.drop = false) (hl : pkt.lost = false) :
    (s.call pkt).2 = some (pkt.seq.toUInt32 - s.offset pkt) := by
  rw [call_of_branch hl rfl, offset]
  cases s.branch pkt with
  | first => simp [handle, firstPacket, hd]
  | same => simp [handle, sameFrame, hd]
  | next => simp [handle, nextFrame, hd]
  | future => simp [handle, futureFrame, hd]
  | past =>
      simp only [handle, pastFrame, pastFrameOffset, hd, dropWhenUnsure]
      by_cases h1 : pkt.frame.toNat + 1 = s.maxFrame.toNat <;>
        cases h2 : s.dropMaxFrame <;> cases h3 : s.maxFrameEndSeen <;> simp [h1]

theorem branch_of_fresh (hf : 1 < pkt.frame) (hm : s.maxFrame = 0) : s.branch pkt = .first := by
  simp [branch, hf, hm]

theorem branch_of_eq (h : pkt.frame = s.maxFrame) : s.branch pkt = .same := by
  have hn : ¬ (1 < pkt.frame ∧ s.maxFrame = 0) := by
    rintro ⟨h1, h0⟩
    rw [h, h0] at h1
    exact absurd h1 (by decide)
  rw [branch, if_neg hn, if_pos h]

theorem branch_of_succ (h : pkt.frame.toNat = s.maxFrame.toNat + 1) : s.branch pkt = .next := by
  have hn : ¬ (1 < pkt.frame ∧ s.maxFrame = 0) := by
    rintro ⟨h1, h0⟩
    rw [h0] at h
    rw [UInt16.lt_iff_toNat_lt, h] at h1
    exact absurd h1 (by decide)
  have he : pkt.frame ≠ s.maxFrame := fun he => by rw [he] at h; omega
  rw [branch, if_neg hn, if_neg he, if_pos h]

theorem branch_of_skip (hm : s.maxFrame ≠ 0) (h : s.maxFrame.toNat + 1 < pkt.frame.toNat) :
    s.branch pkt = .future := by
  have he : pkt.frame ≠ s.maxFrame := fun he => by rw [he] at h; omega
  rw [branch, if_neg fun hn => hm hn.2, if_neg he, if_neg (by omega), if_pos h]

theorem branch_of_lt (h : pkt.frame < s.maxFrame) : s.branch pkt = .past := by
  rw [UInt16.lt_iff_toNat_lt] at h
  have hm : s.maxFrame ≠ 0 := fun hm => by rw [hm] at h; exact absurd h (Nat.not_lt_zero _)
  have he : pkt.frame ≠ s.maxFrame := fun he => by rw [he] at h; omega
  rw [branch, if_neg fun hn => hm hn.2, if_neg he, if_neg (by omega), if_neg (by omega)]

/-- The five conditions of `operator()` leave no packet out. -/
theorem branch_cases (s : SequenceRewriter) (pkt : Pkt) :
    (1 < pkt.frame ∧ s.maxFrame = 0 ∧ s.branch pkt = .first) ∨
    (pkt.frame = s.maxFrame ∧ s.branch pkt = .same) ∨
    (pkt.frame.toNat = s.maxFrame.toNat + 1 ∧ s.branch pkt = .next) ∨
    (s.maxFrame ≠ 0 ∧ s.maxFrame.toNat + 1 < pkt.frame.toNat ∧ s.branch pkt = .future) ∨
    (pkt.frame < s.maxFrame ∧ s.branch pkt = .past) := by
  rcases Nat.lt_trichotomy pkt.frame.toNat s.maxFrame.toNat with h | h | h
  · exact .inr (.inr (.inr (.inr ⟨UInt16.lt_iff_toNat_lt.mpr h,
      branch_of_lt (UInt16.lt_iff_toNat_lt.mpr h)⟩)))
  · have he := UInt16.toNat_inj.mp h
    exact .inr (.inl ⟨he, branch_of_eq he⟩)
  · by_cases hs : pkt.frame.toNat = s.maxFrame.toNat + 1
    · exact .inr (.inr (.inl ⟨hs, branch_of_succ hs⟩))
    · have hk : s.maxFrame.toNat + 1 < pkt.frame.toNat := by omega
      by_cases hm : s.maxFrame = 0
      · have hf : 1 < pkt.frame := by
          rw [UInt16.lt_iff_toNat_lt]
          change 1 < pkt.frame.toNat
          omega
        exact .inl ⟨hf, hm, branch_of_fresh hf hm⟩
      · exact .inr (.inr (.inr (.inl ⟨hm, hk, branch_of_skip hm hk⟩)))

end Call

end SequenceRewriter

end Scallop
