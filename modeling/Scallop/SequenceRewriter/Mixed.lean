import Scallop.SequenceRewriter.InOrder

/-!
# Frames of which some packets are dropped

The decode target may change between two packets of a frame. `MixedFrame` : every packet has a drop
flag of its own; a frame is then counted as dropped iff its last packet is.

* `countedStream` : the packets of a stream, from any frame number on, each with the number of
  packets that the rewriter has counted as dropped before it;
* `numbers_mixed` : every packet that is kept gets its own number less that count.
-/

namespace Scallop

open Machine

/-- A frame of a stream: for each of its packets, whether it is dropped. -/
structure MixedFrame where
  drops : List Bool
  drops_ne : drops ≠ []
deriving DecidableEq, Repr

namespace MixedFrame

def size (fr : MixedFrame) : Nat := fr.drops.length

/-- The frame that is dropped or kept as its last packet is. -/
def whole (fr : MixedFrame) : Frame where
  size := fr.size
  drop := fr.drops.getLast fr.drops_ne
  size_pos := List.length_pos_of_ne_nil fr.drops_ne

/-- Packet `j` of frame number `f`, whose first packet has sequence number `q`. -/
def packet (fr : MixedFrame) (f q : UInt16) (j : Nat) : Pkt :=
  { fr.whole.packet f q j with drop := fr.drops.getD j false }

def packets (fr : MixedFrame) (f q : UInt16) : List Pkt :=
  (List.range' 0 fr.size).map (fr.packet f q)

def counted (fr : MixedFrame) : Nat :=
  if fr.whole.drop then SequenceRewriter.counted fr.whole else 0

/-- What it adds as the first of a stream: a single packet is not counted as one. -/
def firstCounted (fr : MixedFrame) (f q : UInt16) : Nat :=
  if fr.whole.drop ∧ fr.size = 1 then
    if f = 0 ∧ q ≠ 0 then q.toNat + 1 else 2
  else fr.counted

end MixedFrame

/-- The packets of frames `f`, `f + 1`, ... whose first packet has number `q`. -/
def mixedPackets : UInt16 → UInt16 → List MixedFrame → List Pkt
  | _, _, [] => []
  | f, q, fr :: frs => fr.packets f q ++ mixedPackets (f + 1) (q + UInt16.ofNat fr.size) frs

/-- These packets after `d` counted ones, each with the number counted before it. -/
def countedFrom : UInt16 → UInt16 → Nat → List MixedFrame → List (Pkt × Nat)
  | _, _, _, [] => []
  | f, q, d, fr :: frs =>
      (fr.packets f q).map (fun pkt => (pkt, d)) ++
        countedFrom (f + 1) (q + UInt16.ofNat fr.size) (d + fr.counted) frs

/-- The packets of a whole stream, each with the number counted before it. -/
def countedStream (f q : UInt16) : List MixedFrame → List (Pkt × Nat)
  | [] => []
  | fr :: frs =>
      (fr.packets f q).map (fun pkt => (pkt, 0)) ++
        countedFrom (f + 1) (q + UInt16.ofNat fr.size) (fr.firstCounted f q) frs

/-- The number of a packet when `d` packets were counted before. -/
def given (d : Nat) (pkt : Pkt) : Option UInt16 :=
  if pkt.drop then none else some (pkt.seq - UInt16.ofNat d)

namespace MixedFrame

variable (fr : MixedFrame) (f q : UInt16)

theorem size_pos : 0 < fr.size := fr.whole.size_pos

@[simp] theorem whole_size : fr.whole.size = fr.size := rfl

@[simp] theorem packet_frame (j : Nat) : (fr.packet f q j).frame = f := rfl

@[simp] theorem packet_lost (j : Nat) : (fr.packet f q j).lost = false := rfl

/-- The last packet is that of the whole frame. -/
theorem packet_last {j : Nat} (h : j + 1 = fr.size) : fr.packet f q j = fr.whole.packet f q j := by
  have hl : fr.drops.getD j false = fr.whole.drop := by
    have hj : j = fr.drops.length - 1 := by
      rw [show fr.drops.length = fr.size from rfl]
      omega
    rw [hj, List.getD_eq_getElem?_getD, ← List.getLast?_eq_getElem?,
      List.getLast?_eq_some_getLast fr.drops_ne]
    rfl
  rw [packet, hl]
  rfl

theorem packets_eq_cons :
    fr.packets f q = fr.packet f q 0 :: (List.range' 1 (fr.size - 1)).map (fr.packet f q) := by
  obtain ⟨n, hn⟩ := Nat.exists_eq_succ_of_ne_zero (Nat.pos_iff_ne_zero.mp fr.size_pos)
  simp [packets, hn, List.range'_succ]

end MixedFrame

theorem countedFrom_fst (f q : UInt16) (d : Nat) (frs : List MixedFrame) :
    (countedFrom f q d frs).map Prod.fst = mixedPackets f q frs := by
  induction frs generalizing f q d with
  | nil => rfl
  | cons fr frs ih =>
      rw [countedFrom, mixedPackets, List.map_append, ih]
      simp [Function.comp_def]

theorem countedStream_fst (f q : UInt16) (frs : List MixedFrame) :
    (countedStream f q frs).map Prod.fst = mixedPackets f q frs := by
  cases frs with
  | nil => rfl
  | cons fr frs =>
      rw [countedStream, mixedPackets, List.map_append, countedFrom_fst]
      simp [Function.comp_def]

namespace SequenceRewriter

/-! ## Steps -/

section Steps
variable {s : SequenceRewriter} {f q e : UInt16} {d j : Nat} (fr : MixedFrame)

/-- Before the end of a frame only the bookkeeping of the dropped frames sees whether a packet is
dropped. -/
theorem InFrame.of_drop {pkt : Pkt} (h : InFrame (s.call pkt).1 f q d j) (hm : pkt.mark ≠ .ending)
    (hl : pkt.lost = false) (hb : s.branch pkt ≠ .future) (b : Bool) :
    InFrame (s.call { pkt with drop := b }).1 f q d j := by
  have hb' : s.branch { pkt with drop := b } = s.branch pkt := rfl
  rw [call_of_branch hl rfl] at h
  rw [@call_of_branch s { pkt with drop := b } _ hl hb']
  cases hbr : s.branch pkt with
  | future => exact absurd hbr hb
  | first =>
      rw [hbr] at h
      exact ⟨by simpa [handle, firstPacket] using h.maxFrame,
        by simpa [handle, firstPacket, hm] using h.endSeen,
        by simpa [handle, firstPacket] using h.startSeq,
        by simpa [handle, firstPacket, hm] using h.dropCount⟩
  | same =>
      rw [hbr] at h
      exact ⟨by simpa [handle, sameFrame] using h.maxFrame,
        by simpa [handle, sameFrame, hm] using h.endSeen,
        by simpa [handle, sameFrame, sameFrameStartSeq] using h.startSeq,
        by simpa [handle, sameFrame, hm] using h.dropCount⟩
  | next =>
      rw [hbr] at h
      exact ⟨by simpa [handle, nextFrame] using h.maxFrame,
        by simp [handle, nextFrame, hm],
        by simpa [handle, nextFrame] using h.startSeq,
        by simpa [handle, nextFrame, nextFrameDropCount, hm] using h.dropCount⟩
  | past =>
      rw [hbr] at h
      exact ⟨by simpa [handle, pastFrame] using h.maxFrame,
        by simpa [handle, pastFrame] using h.endSeen,
        by simpa [handle, pastFrame] using h.startSeq,
        by simpa [handle, pastFrame] using h.dropCount⟩

theorem call_given {pkt : Pkt} (hl : pkt.lost = false)
    (ho : (s.offset pkt).toUInt16 = UInt16.ofNat d) :
    (s.call pkt).2.map UInt32.toUInt16 = given d pkt := by
  rw [call_number hl, ho]
  rfl

theorem InFrame.mixed_rest (n j : Nat) (h : InFrame s f q d j) (hn : j + 1 + n = fr.size)
    (hp : 0 < n) :
    s.numbers ((List.range' (j + 1) n).map (fr.packet f q))
        = ((List.range' (j + 1) n).map (fr.packet f q)).map (given d) ∧
      AtBoundary (final call s ((List.range' (j + 1) n).map (fr.packet f q))) f
        (q + UInt16.ofNat (fr.size - 1)) (d + fr.counted) := by
  induction n generalizing s j with
  | zero => exact absurd hp (Nat.lt_irrefl 0)
  | succ n ih =>
      have hnum : (s.call (fr.packet f q (j + 1))).2.map UInt32.toUInt16
          = given d (fr.packet f q (j + 1)) := call_given rfl (h.offset rfl)
      rw [List.range'_succ, List.map_cons, List.map_cons, numbers_cons, hnum, final_cons]
      by_cases hl : n = 0
      · subst hl
        have he := h.ending fr.whole (show j + 2 = fr.size by omega)
        have hs : fr.size - 1 = j + 1 := by omega
        have hd : (if fr.whole.drop then d + SequenceRewriter.counted fr.whole else d)
            = d + fr.counted := by
          unfold MixedFrame.counted
          split <;> simp
        rw [hs, fr.packet_last f q (by omega)]
        rw [hd] at he
        exact ⟨rfl, he⟩
      · have hj : j + 2 < fr.whole.size := by
          rw [fr.whole_size]
          omega
        have hm : (fr.whole.packet f q (j + 1)).mark ≠ .ending := by
          rw [fr.whole.packet_mark_inter f q hj]
          decide
        have hb : s.branch (fr.whole.packet f q (j + 1)) ≠ .future := by
          rw [branch_of_eq h.maxFrame.symm]
          decide
        have hin : InFrame (s.call (fr.packet f q (j + 1))).1 f q d (j + 1) :=
          (h.inter fr.whole hj).of_drop hm rfl hb _
        obtain ⟨ho, hf⟩ := ih (j + 1) hin (by omega) (by omega)
        rw [ho]
        exact ⟨rfl, hf⟩

/-! ## Frames -/

/-- A frame whose first packet leaves the rewriter within it. -/
theorem mixed_frame_of_start (h : InFrame (s.call (fr.packet f q 0)).1 f q d 0)
    (hg : (s.call (fr.packet f q 0)).2.map UInt32.toUInt16 = given d (fr.packet f q 0))
    (hs : 1 < fr.size) :
    s.numbers (fr.packets f q) = (fr.packets f q).map (given d) ∧
      AtBoundary (final call s (fr.packets f q)) f (q + UInt16.ofNat (fr.size - 1))
        (d + fr.counted) := by
  obtain ⟨ho, hb⟩ := h.mixed_rest fr (fr.size - 1) 0 (by omega) (by omega)
  rw [fr.packets_eq_cons, numbers_cons, final_cons, hg, List.map_cons]
  exact ⟨congrArg _ ho, hb⟩

/-- The first packet of a longer frame after a boundary. -/
theorem AtBoundary.mixed_start (q : UInt16) (h : AtBoundary s f e d) (hn : f.toNat < 65535)
    (hs : 1 < fr.size) : InFrame (s.call (fr.packet (f + 1) q 0)).1 (f + 1) q d 0 := by
  have hm : (fr.whole.packet (f + 1) q 0).mark ≠ .ending := by
    rw [fr.whole.packet_mark_start (f + 1) q hs]
    decide
  have hb : s.branch (fr.whole.packet (f + 1) q 0) ≠ .future := by
    rw [h.branch fr.whole q hn 0]
    decide
  exact (h.start fr.whole q hn hs).of_drop hm rfl hb _

theorem AtBoundary.mixed_number (q : UInt16) (h : AtBoundary s f e d) (hn : f.toNat < 65535) :
    (s.call (fr.packet (f + 1) q 0)).2.map UInt32.toUInt16 = given d (fr.packet (f + 1) q 0) := by
  have hb : s.branch (fr.packet (f + 1) q 0) = .next := h.branch fr.whole q hn 0
  cases hd : (fr.packet (f + 1) q 0).drop with
  | true => simp [given, call_dropped, hd]
  | false =>
      apply call_given rfl
      rw [SequenceRewriter.offset, hb]
      simp [nextFrameDropCount, h.endSeen, hd, h.dropCount]

/-- A frame whose first number follows the last of the frame before. -/
theorem AtBoundary.mixed_frame (h : AtBoundary s f e d) (hn : f.toNat < 65535) :
    s.numbers (fr.packets (f + 1) (e + 1)) = (fr.packets (f + 1) (e + 1)).map (given d) ∧
      AtBoundary (final call s (fr.packets (f + 1) (e + 1))) (f + 1)
        (e + UInt16.ofNat fr.size) (d + fr.counted) := by
  have hp := fr.size_pos
  by_cases hs : fr.size = 1
  · have hc : (if fr.whole.drop then d + SequenceRewriter.counted fr.whole else d)
        = d + fr.counted := by
      unfold MixedFrame.counted
      split <;> simp
    have hb := h.single fr.whole hn hs
    rw [hc, ← fr.packet_last (f + 1) (e + 1) hs.symm] at hb
    have hl : (List.range' 1 (fr.size - 1)).map (fr.packet (f + 1) (e + 1)) = [] := by simp [hs]
    rw [fr.packets_eq_cons, hl, numbers_cons, final_cons, h.mixed_number fr _ hn, hs]
    exact ⟨rfl, hb⟩
  · have he : e + UInt16.ofNat fr.size = e + 1 + UInt16.ofNat (fr.size - 1) := by
      obtain ⟨n, hn⟩ := Nat.exists_eq_succ_of_ne_zero (Nat.pos_iff_ne_zero.mp hp)
      rw [hn, Nat.succ_sub_one, Nat.succ_eq_add_one, UInt16.ofNat_add]
      exact shift_one _ _
    rw [he]
    exact mixed_frame_of_start fr (h.mixed_start fr _ hn (by omega)) (h.mixed_number fr _ hn)
      (by omega)

/-- The frames after a boundary, as long as their numbers do not wrap. -/
theorem AtBoundary.mixed_stream {frs : List MixedFrame} (h : AtBoundary s f e d)
    (hn : f.toNat + frs.length ≤ 65535) :
    s.numbers (mixedPackets (f + 1) (e + 1) frs)
      = (countedFrom (f + 1) (e + 1) d frs).map fun p => given p.2 p.1 := by
  induction frs generalizing s f e d with
  | nil => rfl
  | cons fr frs ih =>
      rw [List.length_cons] at hn
      obtain ⟨ho, hb⟩ := h.mixed_frame fr (by omega)
      have hf : (f + 1).toNat = f.toNat + 1 := by
        rw [UInt16.toNat_add]
        exact Nat.mod_eq_of_lt (by change f.toNat + 1 < 65536; omega)
      have he : e + UInt16.ofNat fr.size + 1 = e + 1 + UInt16.ofNat fr.size := shift_one' _ _
      rw [mixedPackets, numbers_append, ho, ← he, ih hb (by omega), countedFrom, List.map_append,
        List.map_map, ← he]
      simp [Function.comp_def]

/-! ## The first frame -/

/-- A fresh rewriter takes no packet for one of a past or of a skipped frame. -/
theorem fresh_branch (pkt : Pkt) :
    (1 < pkt.frame ∧ ({} : SequenceRewriter).branch pkt = .first) ∨
    (pkt.frame = 0 ∧ ({} : SequenceRewriter).branch pkt = .same) ∨
    (pkt.frame = 1 ∧ ({} : SequenceRewriter).branch pkt = .next) := by
  rcases branch_cases {} pkt with ⟨hf, -, hb⟩ | ⟨hf, hb⟩ | ⟨hf, hb⟩ | ⟨hm, -, -⟩ | ⟨hf, -⟩
  · exact .inl ⟨hf, hb⟩
  · exact .inr (.inl ⟨hf, hb⟩)
  · exact .inr (.inr ⟨UInt16.toNat_inj.mp hf, hb⟩)
  · exact absurd rfl hm
  · rw [UInt16.lt_iff_toNat_lt] at hf
    exact absurd hf (Nat.not_lt_zero _)

theorem fresh_number {pkt : Pkt} (hl : pkt.lost = false) :
    (({} : SequenceRewriter).call pkt).2.map UInt32.toUInt16 = given 0 pkt := by
  cases hd : pkt.drop with
  | true => simp [given, call_dropped, hd]
  | false =>
      apply call_given hl
      rcases fresh_branch pkt with ⟨-, hb⟩ | ⟨-, hb⟩ | ⟨-, hb⟩
      · rw [SequenceRewriter.offset, hb]
        rfl
      · rw [SequenceRewriter.offset, hb]
        rfl
      · rw [SequenceRewriter.offset, hb]
        simp [nextFrameDropCount, hd]

/-- The first packet of a longer frame, whatever its frame number. -/
theorem fresh_start (f q : UInt16) (hs : 1 < fr.size) :
    InFrame (({} : SequenceRewriter).call (fr.packet f q 0)).1 f q 0 0 := by
  have hm : (fr.packet f q 0).mark = .start := fr.whole.packet_mark_start f q hs
  have hq : (fr.packet f q 0).seq = q + UInt16.ofNat 0 := rfl
  rcases fresh_branch (fr.packet f q 0) with ⟨hf, hb⟩ | ⟨hf, hb⟩ | ⟨hf, hb⟩
  · rw [call_of_branch rfl hb]
    refine ⟨?_, ?_, ?_, ?_⟩ <;> simp [handle, firstPacket, hm, hq]
  · have hf0 : f = 0 := hf
    subst hf0
    rw [call_of_branch rfl hb]
    refine ⟨?_, ?_, ?_, ?_⟩ <;> simp [handle, sameFrame, sameFrameStartSeq, hm, hq]
  · rw [call_of_branch rfl hb]
    refine ⟨?_, ?_, ?_, ?_⟩ <;> simp [handle, nextFrame, nextFrameDropCount, hm, hq]

theorem fresh_single (f q : UInt16) (hs : fr.size = 1) :
    AtBoundary (({} : SequenceRewriter).call (fr.packet f q 0)).1 f q (fr.firstCounted f q) := by
  have hp : fr.packet f q 0 = fr.whole.packet f q 0 := fr.packet_last f q hs.symm
  have hm : (fr.packet f q 0).mark = .ending := by
    rw [hp]
    exact fr.whole.packet_mark_ending f q hs.symm
  have hd : (fr.packet f q 0).drop = fr.whole.drop := by rw [hp, Frame.packet_drop]
  have hq : (fr.packet f q 0).seq = q := by simp [MixedFrame.packet]
  have hk : fr.whole.drop = false → fr.firstCounted f q = 0 := by
    intro hk
    simp [MixedFrame.firstCounted, MixedFrame.counted, hk]
  rcases fresh_branch (fr.packet f q 0) with ⟨hf, hb⟩ | ⟨hf, hb⟩ | ⟨hf, hb⟩
  · have hf0 : f ≠ 0 := by
      intro hf0
      rw [fr.packet_frame, hf0] at hf
      exact absurd hf (by decide)
    rw [call_of_branch rfl hb]
    refine ⟨?_, ?_, ?_, ?_⟩
    · simp [handle, firstPacket]
    · simp [handle, firstPacket, hm]
    · simp [handle, firstPacket, hm, hq]
    · cases hw : fr.whole.drop with
      | false => simp [handle, firstPacket, hd, hw, hk hw]
      | true => simp [handle, firstPacket, hm, hd, hw, MixedFrame.firstCounted, hs, hf0]
  · have hf0 : f = 0 := hf
    subst hf0
    rw [call_of_branch rfl hb]
    refine ⟨?_, ?_, ?_, ?_⟩
    · simp [handle, sameFrame]
    · simp [handle, sameFrame, hm]
    · simp [handle, sameFrame, hm, hq]
    · cases hw : fr.whole.drop with
      | false => simp [handle, sameFrame, hd, hw, hk hw]
      | true =>
          by_cases hq0 : q = 0
          · subst hq0
            simp [handle, sameFrame, sameFrameStartSeq, hm, hd, hw, hq, MixedFrame.firstCounted, hs]
            decide
          · simp [handle, sameFrame, sameFrameStartSeq, hm, hd, hw, hq, MixedFrame.firstCounted, hs,
              hq0]
  · have hf1 : f = 1 := hf
    subst hf1
    rw [call_of_branch rfl hb]
    refine ⟨?_, ?_, ?_, ?_⟩
    · simp [handle, nextFrame]
    · simp [handle, nextFrame, hm]
    · simp [handle, nextFrame, hm, hq]
    · cases hw : fr.whole.drop with
      | false => simp [handle, nextFrame, nextFrameDropCount, hd, hw, hk hw]
      | true =>
          simp [handle, nextFrame, nextFrameDropCount, hm, hd, hw, MixedFrame.firstCounted, hs]

/-- **Frames of which some packets are dropped.** Every packet that is kept gets its own number less
what was counted before. -/
theorem numbers_mixed (f q : UInt16) (frs : List MixedFrame) (hn : f.toNat + frs.length ≤ 65536) :
    ({} : SequenceRewriter).numbers (mixedPackets f q frs)
      = (countedStream f q frs).map fun p => given p.2 p.1 := by
  cases frs with
  | nil => rfl
  | cons fr frs =>
      rw [List.length_cons] at hn
      have hfirst : ({} : SequenceRewriter).numbers (fr.packets f q)
            = (fr.packets f q).map (given 0) ∧
          AtBoundary (final call {} (fr.packets f q)) f (q + UInt16.ofNat (fr.size - 1))
            (fr.firstCounted f q) := by
        have hp := fr.size_pos
        by_cases hs : fr.size = 1
        · have hl : (List.range' 1 (fr.size - 1)).map (fr.packet f q) = [] := by simp [hs]
          rw [fr.packets_eq_cons, hl, numbers_cons, final_cons, fresh_number rfl, hs]
          exact ⟨rfl, by simpa using fresh_single fr f q hs⟩
        · have hc : fr.firstCounted f q = 0 + fr.counted := by
            simp [MixedFrame.firstCounted, hs]
          rw [hc]
          exact mixed_frame_of_start fr (fresh_start fr f q (by omega)) (fresh_number rfl) (by omega)
      have hq : q + UInt16.ofNat (fr.size - 1) + 1 = q + UInt16.ofNat fr.size := by
        obtain ⟨n, hn⟩ := Nat.exists_eq_succ_of_ne_zero (Nat.pos_iff_ne_zero.mp fr.size_pos)
        rw [hn, Nat.succ_sub_one, Nat.succ_eq_add_one, UInt16.ofNat_add]
        exact UInt16.add_assoc _ _ _
      rw [mixedPackets, numbers_append, hfirst.1, ← hq, hfirst.2.mixed_stream (by omega), hq,
        countedStream, List.map_append, List.map_map]
      simp [Function.comp_def]

end Steps

end SequenceRewriter

end Scallop
