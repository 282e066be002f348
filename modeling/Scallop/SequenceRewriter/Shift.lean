import Scallop.SequenceRewriter.InOrder

/-!
# Streams that begin at another sequence number

* `Pkt.shift` : a packet with `c` added to its sequence number;
* `Shifted` : what two rewriters have recorded of such traces; their drop counts agree modulo `2^16`;
* `Shifted.call` : one packet;
* `call_fresh` : the first packet of a frame from `1` on does not look at the recorded numbers;
* `numbers_shift` : a fresh rewriter treats a shifted trace alike.
-/

namespace Scallop

open Machine

def Pkt.shift (c : UInt16) (pkt : Pkt) : Pkt := { pkt with seq := pkt.seq + c }

namespace SequenceRewriter

/-- The recorded sequence numbers differ by `c`. -/
structure Shifted (c : UInt16) (s s' : SequenceRewriter) : Prop where
  dropCount : s'.dropCount.toUInt16 = s.dropCount.toUInt16
  maxFrame : s'.maxFrame = s.maxFrame
  dropMaxFrame : s'.dropMaxFrame = s.dropMaxFrame
  startSeq : s'.maxFrameStartSeq = s.maxFrameStartSeq + c
  maxSeq : s'.maxFrameMaxSeq = s.maxFrameMaxSeq + c
  endSeen : s'.maxFrameEndSeen = s.maxFrameEndSeen
  maxDropFrame : s'.maxDropFrame = s.maxDropFrame

section Shift
variable {c : UInt16} {s s' : SequenceRewriter} {pkt : Pkt}

theorem shift_sub (x y : UInt16) : x + c - (y + c) = x - y := by grind

theorem shift_pred (x k : UInt16) : x + c - k = x - k + c := by grind

theorem shift_succ (x k : UInt16) : x + c + k = x + k + c := by grind

theorem shift_inj {x y : UInt16} : x + c = y + c ↔ x = y := by
  constructor <;> intro h <;> grind

/-- The start that is recorded with the first packet of a frame. -/
theorem shift_startSeq : (if pkt.mark = .start then pkt.seq + c else pkt.seq + c - 1) =
    (if pkt.mark = .start then pkt.seq else pkt.seq - 1) + c := by
  split
  · rfl
  · exact shift_pred _ _

theorem shift_maxSeq : (if pkt.mark = .ending then pkt.seq + c else pkt.seq + c + 1) =
    (if pkt.mark = .ending then pkt.seq else pkt.seq + 1) + c := by
  split
  · rfl
  · exact shift_succ _ _

/-! ## The branches -/

theorem Shifted.branch (h : Shifted c s s') : s'.branch (pkt.shift c) = s.branch pkt := by
  unfold SequenceRewriter.branch
  rw [h.maxFrame]
  rfl

theorem Shifted.firstPacket (h : Shifted c s s') :
    Shifted c (s.firstPacket pkt).1 (s'.firstPacket (pkt.shift c)).1 := by
  unfold SequenceRewriter.firstPacket Pkt.shift
  dsimp only
  refine ⟨?_, rfl, rfl, shift_startSeq, shift_maxSeq, ?_, h.maxDropFrame⟩
  · dsimp only
    split_ifs
    · rfl
    · exact h.dropCount
  · rw [h.endSeen]

theorem Shifted.sameFrameStartSeq (h : Shifted c s s') :
    s'.sameFrameStartSeq (pkt.shift c) = s.sameFrameStartSeq pkt + c := by
  unfold SequenceRewriter.sameFrameStartSeq Pkt.shift
  dsimp only
  rw [h.startSeq]
  simp only [shift_inj]
  split_ifs
  · rfl
  · exact shift_pred _ _
  · rfl

theorem Shifted.sameFrame (h : Shifted c s s') :
    Shifted c (s.sameFrame pkt).1 (s'.sameFrame (pkt.shift c)).1 := by
  have hstart := @Shifted.sameFrameStartSeq c s s' pkt h
  unfold SequenceRewriter.sameFrame
  rw [hstart]
  unfold Pkt.shift
  dsimp only
  refine ⟨?_, h.maxFrame, h.dropMaxFrame, rfl, ?_, ?_, h.maxDropFrame⟩
  · dsimp only
    split_ifs
    · simp only [UInt32.toUInt16_add, UInt32.toUInt16_sub, UInt16.toUInt16_toUInt32, shift_sub,
        h.dropCount]
    · exact h.dropCount
  · dsimp only
    rw [h.endSeen, h.maxSeq]
    split_ifs
    · rfl
    · rfl
    · exact shift_succ _ _
  · rw [h.endSeen]

theorem Shifted.nextFrameDropCount (h : Shifted c s s') :
    (s'.nextFrameDropCount (pkt.shift c)).toUInt16 = (s.nextFrameDropCount pkt).toUInt16 := by
  unfold SequenceRewriter.nextFrameDropCount Pkt.shift
  dsimp only
  rw [h.dropMaxFrame, h.endSeen, h.startSeq, h.maxSeq]
  split_ifs <;> simp only [UInt32.toUInt16_add, UInt32.toUInt16_sub, UInt16.toUInt16_toUInt32,
    shift_sub, h.dropCount]

theorem Shifted.nextFrame (h : Shifted c s s') :
    Shifted c (s.nextFrame pkt).1 (s'.nextFrame (pkt.shift c)).1 := by
  have hcount := @Shifted.nextFrameDropCount c s s' pkt h
  unfold SequenceRewriter.nextFrame
  generalize s'.nextFrameDropCount (pkt.shift c) = n' at hcount ⊢
  unfold Pkt.shift
  dsimp only
  exact ⟨hcount, rfl, rfl, shift_startSeq, shift_maxSeq, rfl, h.maxDropFrame⟩

theorem Shifted.futureFrameDropCount (h : Shifted c s s') :
    (s'.futureFrameDropCount (pkt.shift c)).toUInt16 = (s.futureFrameDropCount pkt).toUInt16 := by
  unfold SequenceRewriter.futureFrameDropCount Pkt.shift
  dsimp only
  rw [h.dropMaxFrame, h.endSeen, h.startSeq, h.maxSeq, h.maxFrame]
  split_ifs <;> simp only [UInt32.toUInt16_add, UInt32.toUInt16_sub, UInt16.toUInt16_toUInt32,
    shift_sub, h.dropCount]

theorem Shifted.futureFrame (h : Shifted c s s') :
    Shifted c (s.futureFrame pkt).1 (s'.futureFrame (pkt.shift c)).1 := by
  have hcount := @Shifted.futureFrameDropCount c s s' pkt h
  unfold SequenceRewriter.futureFrame
  generalize s'.futureFrameDropCount (pkt.shift c) = n' at hcount ⊢
  unfold Pkt.shift
  dsimp only
  refine ⟨?_, rfl, rfl, ?_, shift_maxSeq, rfl, h.maxDropFrame⟩
  · dsimp only
    split_ifs
    · rw [UInt32.toUInt16_add, UInt32.toUInt16_add, hcount]
    · exact hcount
  · dsimp only
    rw [h.startSeq]
    simp only [shift_inj]
    split_ifs
    · rfl
    · exact shift_pred _ _
    · exact shift_pred _ _
    · exact shift_pred _ _

theorem Shifted.pastFrameOffset (h : Shifted c s s') :
    (s'.pastFrameOffset (pkt.shift c)).toUInt16 = (s.pastFrameOffset pkt).toUInt16 := by
  unfold SequenceRewriter.pastFrameOffset Pkt.shift
  dsimp only
  rw [h.maxFrame, h.dropMaxFrame, h.endSeen, h.startSeq, h.maxSeq]
  split_ifs
  · simp only [UInt32.toUInt16_add, UInt32.toUInt16_sub, UInt16.toUInt16_toUInt32, shift_sub,
      h.dropCount]
  · exact h.dropCount

/-! ## A packet -/

theorem Shifted.offset (h : Shifted c s s') :
    (s'.offset (pkt.shift c)).toUInt16 = (s.offset pkt).toUInt16 := by
  unfold SequenceRewriter.offset
  rw [h.branch]
  cases s.branch pkt with
  | first => rfl
  | same => exact h.dropCount
  | next => exact h.nextFrameDropCount
  | future => exact h.futureFrameDropCount
  | past => exact h.pastFrameOffset

theorem Shifted.handle (h : Shifted c s s') (b : Branch) :
    Shifted c (s.handle pkt b).1 (s'.handle (pkt.shift c) b).1 := by
  cases b with
  | first => exact h.firstPacket
  | same => exact h.sameFrame
  | next => exact h.nextFrame
  | future => exact h.futureFrame
  | past => exact h

theorem Shifted.noteDrop (h : Shifted c s s') :
    Shifted c (s.noteDrop pkt) (s'.noteDrop (pkt.shift c)) := by
  unfold SequenceRewriter.noteDrop Pkt.shift
  dsimp only
  split_ifs
  · refine ⟨h.dropCount, h.maxFrame, h.dropMaxFrame, h.startSeq, h.maxSeq, h.endSeen, ?_⟩
    rw [h.maxDropFrame]
  · exact h

theorem Shifted.call (h : Shifted c s s') :
    Shifted c (s.call pkt).1 (s'.call (pkt.shift c)).1 ∧
      (s'.call (pkt.shift c)).2.map UInt32.toUInt16 =
        ((s.call pkt).2.map UInt32.toUInt16).map (· + c) := by
  cases hl : pkt.lost with
  | true =>
      have hl' : (pkt.shift c).lost = true := hl
      rw [call_lost hl, call_lost hl']
      exact ⟨h, rfl⟩
  | false =>
      have hl' : (pkt.shift c).lost = false := hl
      constructor
      · rw [call_of_branch hl rfl, call_of_branch hl' h.branch]
        exact (h.handle _).noteDrop
      · rw [call_number hl, call_number hl', h.offset]
        change (if pkt.drop = true then none else some (pkt.seq + c - _)) = _
        split
        · rfl
        · exact congrArg some (shift_pred _ _)

/-! ## Traces -/

theorem Shifted.numbers (h : Shifted c s s') (pkts : List Pkt) :
    s'.numbers (pkts.map (Pkt.shift c)) = (s.numbers pkts).map (Option.map (· + c)) := by
  induction pkts generalizing s s' with
  | nil => rfl
  | cons pkt pkts ih =>
      rw [List.map_cons, numbers_cons, numbers_cons, List.map_cons, h.call.2, ih h.call.1]

/-- The first packet, of a frame from `1` on, does not look at the recorded numbers. -/
theorem call_fresh (hl : pkt.lost = false) (hf : 1 ≤ pkt.frame) (x y : UInt16) :
    SequenceRewriter.call {} pkt =
      SequenceRewriter.call { maxFrameStartSeq := x, maxFrameMaxSeq := y } pkt := by
  by_cases h1 : 1 < pkt.frame
  · rw [call_of_branch hl (branch_of_fresh h1 rfl), call_of_branch hl (branch_of_fresh h1 rfl)]
    rfl
  · have he (s : SequenceRewriter) (hm : s.maxFrame = 0) :
        pkt.frame.toNat = s.maxFrame.toNat + 1 := by
      rw [UInt16.lt_iff_toNat_lt] at h1
      rw [UInt16.le_iff_toNat_le] at hf
      rw [hm]
      change ¬ 1 < _ at h1
      change 1 ≤ _ at hf
      change _ = 0 + 1
      omega
    rw [call_of_branch hl (branch_of_succ (he {} rfl)), call_of_branch hl (branch_of_succ
      (he { maxFrameStartSeq := x, maxFrameMaxSeq := y } rfl))]
    simp [SequenceRewriter.handle, SequenceRewriter.nextFrame, SequenceRewriter.nextFrameDropCount]

/-- **A trace with other sequence numbers is treated alike**: the same packets are kept, and their
numbers are shifted. -/
theorem numbers_shift (c : UInt16) (pkts : List Pkt)
    (h : ∀ pkt ∈ pkts.find? (fun pkt => !pkt.lost), 1 ≤ pkt.frame) :
    numbers {} (pkts.map (Pkt.shift c)) = (numbers {} pkts).map (Option.map (· + c)) := by
  induction pkts with
  | nil => rfl
  | cons pkt pkts ih =>
      rw [List.map_cons, numbers_cons, numbers_cons, List.map_cons]
      cases hl : pkt.lost with
      | true =>
          have hl' : (pkt.shift c).lost = true := hl
          rw [List.find?_cons_of_neg (by simp [hl])] at h
          rw [call_lost hl, call_lost hl', ih h]
          rfl
      | false =>
          rw [List.find?_cons_of_pos (by simp [hl])] at h
          have hl' : (pkt.shift c).lost = false := hl
          have hfresh : Shifted c {} { maxFrameStartSeq := 0 + c, maxFrameMaxSeq := 0 + c } :=
            ⟨rfl, rfl, rfl, rfl, rfl, rfl, rfl⟩
          obtain ⟨hrest, hnumber⟩ := @Shifted.call c _ _ pkt hfresh
          rw [call_fresh hl' (h pkt rfl) (0 + c) (0 + c), hnumber, hrest.numbers]

/-- A dropped packet, and one of the next frame, whose numbers come to wrap. -/
theorem numbers_shift_wrapping :
    numbers {} ([⟨2, 9, .ending, true, false⟩, ⟨3, 10, .ending, false, false⟩].map
        (Pkt.shift 65526)) =
      (numbers {} [⟨2, 9, .ending, true, false⟩, ⟨3, 10, .ending, false, false⟩]).map
        (Option.map (· + 65526)) :=
  numbers_shift 65526 _ (by decide)

end Shift

end SequenceRewriter

end Scallop
