import Scallop.SequenceRewriter.Stream

/-!
# Lossless in-order streams

`AtBoundary` and `InFrame` say what a rewriter has recorded after the last packet of a frame and
after packet `j` of a longer one. Between two boundaries a dropped frame of `n` packets is counted
as `n + surplus n`: another packet of the frame whose sequence number meets the recorded start
moves that start back by one, which happens once in `65535` packets after the first two.

* `numbers_frame` : one frame, from a boundary; `numbers_first_frame` : the first one;
* `numbers_stream` : the numbers of a stream whose frame numbers do not wrap;
* `numbersFrom_eq_iff` : when these are the ideal ones.
-/

namespace Scallop

open Machine

namespace SequenceRewriter

theorem add_eq_sub_iff (q a k : UInt16) : q + a = q - k ↔ a + k = 0 := by
  constructor <;> intro h <;> grind

theorem sub_sub_comm (q k i : UInt16) : q - k - i = q - (k + i) := by grind

/-- From a start `k` before `q` to the packet `a` after it. -/
theorem span_eq (d q a k : UInt16) : d + (q + a - (q - k) + 1) = d + a + 1 + k := by grind

theorem step_one (d e : UInt16) : d + (e + 1 - e) = d + 1 := by grind

theorem shift_one (e n : UInt16) : e + (n + 1) = e + 1 + n := by grind

theorem shift_one' (e n : UInt16) : e + n + 1 = e + 1 + n := by grind

theorem ofNat_eq_zero_iff (n : Nat) : UInt16.ofNat n = 0 ↔ n % 65536 = 0 := by
  rw [← UInt16.toNat_inj, UInt16.toNat_ofNat']
  rfl

/-- What a kept or dropped packet is given, modulo `2^16`. -/
theorem call_number {s : SequenceRewriter} {pkt : Pkt} (hl : pkt.lost = false) :
    (s.call pkt).2.map UInt32.toUInt16 =
      if pkt.drop then none else some (pkt.seq - (s.offset pkt).toUInt16) := by
  cases hd : pkt.drop with
  | true => simp [call_dropped hd]
  | false => simp [call_kept hd hl]

theorem numbers_cons (s : SequenceRewriter) (pkt : Pkt) (pkts : List Pkt) :
    s.numbers (pkt :: pkts) = (s.call pkt).2.map UInt32.toUInt16 :: (s.call pkt).1.numbers pkts :=
  rfl

theorem numbers_append (s : SequenceRewriter) (pkts pkts' : List Pkt) :
    s.numbers (pkts ++ pkts') = s.numbers pkts ++ (final call s pkts).numbers pkts' := by
  rw [numbers, outputs_append, List.map_append, numbers, numbers]

/-- After the last packet of frame `f`, which had number `e`; `d` packets were counted. -/
structure AtBoundary (s : SequenceRewriter) (f e : UInt16) (d : Nat) : Prop where
  maxFrame : s.maxFrame = f
  endSeen : s.maxFrameEndSeen = true
  maxSeq : s.maxFrameMaxSeq = e
  dropCount : s.dropCount.toUInt16 = UInt16.ofNat d

/-- After packet `j`, not the last, of frame `f` whose first packet had number `q`. -/
structure InFrame (s : SequenceRewriter) (f q : UInt16) (d j : Nat) : Prop where
  maxFrame : s.maxFrame = f
  endSeen : s.maxFrameEndSeen = false
  startSeq : s.maxFrameStartSeq = q - UInt16.ofNat ((j - 1) / 65535)
  dropCount : s.dropCount.toUInt16 = UInt16.ofNat d

/-- The packets that a dropped frame of `n` packets is counted for beyond its own. -/
def surplus (n : Nat) : Nat := (n - 2) / 65535

theorem surplus_eq_zero {n : Nat} (h : n ≤ 65536) : surplus n = 0 := by
  unfold surplus
  omega

def counted (fr : Frame) : Nat := fr.size + surplus fr.size

variable {s : SequenceRewriter} {f q e : UInt16} {d : Nat} (fr : Frame)

/-! ## Steps within a frame -/

/-- The recorded start moves when packet `j + 1` has come round to it. -/
theorem InFrame.startSeq_next {j : Nat} (h : InFrame s f q d j) (pkt : Pkt)
    (hm : pkt.mark ≠ .start) (hq : pkt.seq = q + UInt16.ofNat (j + 1)) :
    s.sameFrameStartSeq pkt = q - UInt16.ofNat (j / 65535) := by
  rw [sameFrameStartSeq, if_neg hm, h.startSeq, hq]
  have hmeet : q + UInt16.ofNat (j + 1) = q - UInt16.ofNat ((j - 1) / 65535) ↔
      (j + 1 + (j - 1) / 65535) % 65536 = 0 := by
    rw [add_eq_sub_iff, ← UInt16.ofNat_add, ofNat_eq_zero_iff]
  by_cases hc : (j + 1 + (j - 1) / 65535) % 65536 = 0
  · rw [if_pos (hmeet.mpr hc), hmeet.mpr hc]
    have hk : j / 65535 = (j - 1) / 65535 + 1 := by omega
    rw [hk, UInt16.ofNat_add]
    exact sub_sub_comm _ _ _
  · rw [if_neg fun he => hc (hmeet.mp he)]
    have hk : j / 65535 = (j - 1) / 65535 := by omega
    rw [hk]

theorem InFrame.offset {j : Nat} (h : InFrame s f q d j) {pkt : Pkt} (hf : pkt.frame = f) :
    (s.offset pkt).toUInt16 = UInt16.ofNat d := by
  rw [SequenceRewriter.offset, branch_of_eq (hf.trans h.maxFrame.symm)]
  exact h.dropCount

theorem InFrame.inter {j : Nat} (h : InFrame s f q d j) (hj : j + 2 < fr.size) :
    InFrame (s.call (fr.packet f q (j + 1))).1 f q d (j + 1) := by
  have hm := fr.packet_mark_inter f q hj
  rw [call_of_branch rfl (branch_of_eq h.maxFrame.symm)]
  refine ⟨?_, ?_, ?_, ?_⟩
  · simpa [handle, sameFrame] using h.maxFrame
  · simpa [handle, sameFrame, hm] using h.endSeen
  · simpa [handle, sameFrame] using h.startSeq_next _ (by rw [hm]; decide) rfl
  · simpa [handle, sameFrame, hm] using h.dropCount

theorem InFrame.ending {j : Nat} (h : InFrame s f q d j) (hj : j + 2 = fr.size) :
    AtBoundary (s.call (fr.packet f q (j + 1))).1 f (q + UInt16.ofNat (j + 1))
      (if fr.drop then d + counted fr else d) := by
  have hm : (fr.packet f q (j + 1)).mark = .ending := fr.packet_mark_ending f q hj
  have hs := h.startSeq_next (fr.packet f q (j + 1)) (by rw [hm]; decide) rfl
  rw [call_of_branch rfl (branch_of_eq h.maxFrame.symm)]
  refine ⟨?_, ?_, ?_, ?_⟩
  · simpa [handle, sameFrame] using h.maxFrame
  · simp [handle, sameFrame, hm]
  · simp [handle, sameFrame, hm]
  · cases hd : fr.drop with
    | false => simpa [handle, sameFrame, hd] using h.dropCount
    | true =>
        have hc : d + counted fr = d + (j + 1) + 1 + j / 65535 := by
          rw [counted, surplus, ← hj]
          omega
        simp only [handle, sameFrame, noteDrop_dropCount, Frame.packet_drop, hd, hm, hs,
          Frame.packet_seq, and_self, if_true, UInt32.toUInt16_add, UInt32.toUInt16_sub,
          UInt16.toUInt16_toUInt32, h.dropCount]
        rw [hc, UInt16.ofNat_add (d + (j + 1) + 1), UInt16.ofNat_add (d + (j + 1)),
          UInt16.ofNat_add d]
        exact span_eq _ _ _ _

theorem InFrame.rest (n j : Nat) (h : InFrame s f q d j) (hn : j + 1 + n = fr.size) (hp : 0 < n) :
    s.numbers ((List.range' (j + 1) n).map (fr.packet f q))
        = (List.range' (j + 1) n).map (fr.number q d) ∧
      AtBoundary (final call s ((List.range' (j + 1) n).map (fr.packet f q))) f
        (q + UInt16.ofNat (fr.size - 1)) (if fr.drop then d + counted fr else d) := by
  induction n generalizing s j with
  | zero => exact absurd hp (Nat.lt_irrefl 0)
  | succ n ih =>
      have hnum : (s.call (fr.packet f q (j + 1))).2.map UInt32.toUInt16
          = fr.number q d (j + 1) := by
        rw [call_number (by rfl), h.offset (by rfl)]
        rfl
      rw [List.range'_succ, List.map_cons, List.map_cons, numbers_cons, hnum, final_cons]
      by_cases hl : n = 0
      · subst hl
        have he := h.ending fr (by omega)
        have hs : fr.size - 1 = j + 1 := by omega
        rw [hs]
        exact ⟨rfl, he⟩
      · obtain ⟨ho, hb⟩ := ih (j + 1) (h.inter fr (by omega)) (by omega) (by omega)
        rw [ho]
        exact ⟨rfl, hb⟩

/-! ## The first packet of a frame -/

/-- The first packet that a fresh rewriter sees. -/
theorem inFrame_fresh (q : UInt16) (hf : 1 < f) (hs : 1 < fr.size) :
    InFrame ((({} : SequenceRewriter).call (fr.packet f q 0)).1) f q 0 0 ∧
      (({} : SequenceRewriter).call (fr.packet f q 0)).2.map UInt32.toUInt16
        = fr.number q 0 0 := by
  have hb : ({} : SequenceRewriter).branch (fr.packet f q 0) = .first := branch_of_fresh hf rfl
  have hm := fr.packet_mark_start f q hs
  constructor
  · rw [call_of_branch rfl hb]
    refine ⟨?_, ?_, ?_, ?_⟩ <;> simp [handle, firstPacket, hm]
  · rw [call_number (by rfl), SequenceRewriter.offset, hb]
    rfl

/-- The first packet of the next frame, from a boundary. -/
theorem AtBoundary.branch (q : UInt16) (h : AtBoundary s f e d) (hn : f.toNat < 65535) (j : Nat) :
    s.branch (fr.packet (f + 1) q j) = .next := by
  refine branch_of_succ ?_
  rw [Frame.packet_frame, h.maxFrame, UInt16.toNat_add]
  exact Nat.mod_eq_of_lt (by change f.toNat + 1 < 65536; omega)

theorem AtBoundary.number (q : UInt16) (h : AtBoundary s f e d) (hn : f.toNat < 65535) :
    (s.call (fr.packet (f + 1) q 0)).2.map UInt32.toUInt16 = fr.number q d 0 := by
  rw [call_number (by rfl), SequenceRewriter.offset, h.branch fr _ hn, Frame.number]
  cases hd : fr.drop with
  | true => simp [hd]
  | false => simp [nextFrameDropCount, h.endSeen, hd, h.dropCount]

theorem AtBoundary.start (q : UInt16) (h : AtBoundary s f e d) (hn : f.toNat < 65535) (hs : 1 < fr.size) :
    InFrame (s.call (fr.packet (f + 1) q 0)).1 (f + 1) q d 0 := by
  have hm := fr.packet_mark_start (f + 1) q hs
  rw [call_of_branch rfl (h.branch fr _ hn 0)]
  refine ⟨?_, ?_, ?_, ?_⟩
  · simp [handle, nextFrame]
  · simp [handle, nextFrame, hm]
  · simp [handle, nextFrame, hm]
  · simp [handle, nextFrame, nextFrameDropCount, h.endSeen, hm, h.dropCount]

theorem AtBoundary.single (h : AtBoundary s f e d) (hn : f.toNat < 65535) (hs : fr.size = 1) :
    AtBoundary (s.call (fr.packet (f + 1) (e + 1) 0)).1 (f + 1) (e + 1)
      (if fr.drop then d + counted fr else d) := by
  have hm : (fr.packet (f + 1) (e + 1) 0).mark = .ending :=
    fr.packet_mark_ending (f + 1) (e + 1) hs.symm
  have hc : counted fr = 1 := by rw [counted, hs]; rfl
  rw [call_of_branch rfl (h.branch fr _ hn 0)]
  refine ⟨?_, ?_, ?_, ?_⟩
  · simp [handle, nextFrame]
  · simp [handle, nextFrame, hm]
  · simp [handle, nextFrame, hm]
  · cases hd : fr.drop with
    | false => simp [handle, nextFrame, nextFrameDropCount, h.endSeen, hd, h.dropCount]
    | true =>
        have he : (fr.packet (f + 1) (e + 1) 0).seq = e + 1 := by simp
        simp only [handle, nextFrame, nextFrameDropCount, noteDrop_dropCount, h.endSeen, hd, hm,
          Frame.packet_drop, he, h.maxSeq, hc, not_true, and_false, and_self, if_true, if_false]
        rw [UInt32.toUInt16_add, UInt32.toUInt16_sub, UInt16.toUInt16_toUInt32,
          UInt16.toUInt16_toUInt32, h.dropCount, step_one, UInt16.ofNat_add]
        rfl

/-! ## Frames and streams -/

theorem numbers_first_frame (q : UInt16) (hf : 1 < f) (hs : 1 < fr.size) :
    ({} : SequenceRewriter).numbers (fr.packets f q) = fr.numbers q 0 ∧
      AtBoundary (final call {} (fr.packets f q)) f (q + UInt16.ofNat (fr.size - 1))
        (if fr.drop then counted fr else 0) := by
  obtain ⟨hin, hnum⟩ := inFrame_fresh fr q hf hs
  obtain ⟨ho, hb⟩ := hin.rest fr (fr.size - 1) 0 (by omega) (by omega)
  rw [Frame.packets_eq_cons, Frame.numbers_eq_cons, numbers_cons, final_cons, hnum, ho]
  simp only [Nat.zero_add] at hb
  exact ⟨rfl, hb⟩

/-- A later frame, whose first number follows the last of the frame before. -/
theorem AtBoundary.numbers_frame (h : AtBoundary s f e d) (hn : f.toNat < 65535) :
    s.numbers (fr.packets (f + 1) (e + 1)) = fr.numbers (e + 1) d ∧
      AtBoundary (final call s (fr.packets (f + 1) (e + 1))) (f + 1)
        (e + UInt16.ofNat fr.size) (if fr.drop then d + counted fr else d) := by
  have hp := fr.size_pos
  have he : e + UInt16.ofNat fr.size = e + 1 + UInt16.ofNat (fr.size - 1) := by
    obtain ⟨n, hn⟩ := Nat.exists_eq_succ_of_ne_zero (Nat.pos_iff_ne_zero.mp hp)
    rw [hn, Nat.succ_sub_one, Nat.succ_eq_add_one, UInt16.ofNat_add]
    exact shift_one _ _
  rw [Frame.packets_eq_cons, Frame.numbers_eq_cons, numbers_cons, final_cons, h.number fr _ hn, he]
  by_cases hs : fr.size = 1
  · rw [hs]
    simpa [numbers] using h.single fr hn hs
  · obtain ⟨ho, hb⟩ := (h.start fr (e + 1) hn (by omega)).rest fr
      (fr.size - 1) 0 (by omega) (by omega)
    rw [ho]
    exact ⟨rfl, hb⟩

/-- The frames after a boundary, as long as their numbers do not wrap. -/
theorem AtBoundary.numbers_stream {frs : List Frame} (h : AtBoundary s f e d)
    (hn : f.toNat + frs.length ≤ 65535) :
    s.numbers (streamPackets (f + 1) (e + 1) frs) = numbersFrom counted (e + 1) d frs ∧
      ∃ d', AtBoundary (final call s (streamPackets (f + 1) (e + 1) frs))
        (f + UInt16.ofNat frs.length) (e + UInt16.ofNat (packetCount frs)) d' := by
  induction frs generalizing s f e d with
  | nil => exact ⟨rfl, d, by simpa [streamPackets, packetCount] using h⟩
  | cons fr frs ih =>
      rw [List.length_cons] at hn
      obtain ⟨ho, hb⟩ := h.numbers_frame fr (by omega)
      have hf : (f + 1).toNat = f.toNat + 1 := by
        rw [UInt16.toNat_add]
        exact Nat.mod_eq_of_lt (by change f.toNat + 1 < 65536; omega)
      obtain ⟨ho', d', hb'⟩ := ih hb (by omega)
      have he : e + UInt16.ofNat fr.size + 1 = e + 1 + UInt16.ofNat fr.size := shift_one' _ _
      have hl : f + UInt16.ofNat (frs.length + 1) = f + 1 + UInt16.ofNat frs.length := by
        rw [UInt16.ofNat_add]
        exact shift_one _ _
      have hc : e + UInt16.ofNat (packetCount (fr :: frs))
          = e + UInt16.ofNat fr.size + UInt16.ofNat (packetCount frs) := by
        rw [packetCount, packetCount, List.map_cons, List.sum_cons, UInt16.ofNat_add]
        exact (UInt16.add_assoc _ _ _).symm
      rw [streamPackets, numbers_append, final_append, ho, numbersFrom, ← he, ho',
        List.length_cons, hl, hc]
      exact ⟨rfl, d', hb'⟩

/-- The first packet of the frame after a boundary is taken for the next frame's iff the frame
number has not wrapped. -/
theorem AtBoundary.newer_iff (q : UInt16) (h : AtBoundary s f e d) :
    (s.call (fr.packet (f + 1) q 0)).1.maxFrame = f + 1 ↔ f.toNat < 65535 := by
  by_cases hn : f.toNat < 65535
  · rw [call_of_branch rfl (h.branch fr q hn 0)]
    simp [handle, nextFrame, hn]
  · have hf : f = 65535 := UInt16.toNat_inj.mp (by
      have := f.toNat_lt
      change f.toNat = 65535
      omega)
    have hb : s.branch (fr.packet (f + 1) q 0) = .past := by
      refine branch_of_lt ?_
      rw [Frame.packet_frame, h.maxFrame, hf]
      decide
    rw [call_of_branch rfl hb]
    simp [handle, pastFrame, h.maxFrame, hf]

end SequenceRewriter

end Scallop
