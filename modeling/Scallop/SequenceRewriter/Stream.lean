import Scallop.Lib.Machine
import Scallop.SequenceRewriter.Model

/-!
# Streams of frames, and the renumbering the rewriter is for

* `Frame` : the packets of a frame share a frame number and a drop flag and are marked as
  `markFromAV1FrameFlags` marks them; `streamPackets` : frames with consecutive numbers, packets
  with consecutive sequence numbers, both modulo `2^16`;
* `idealStep` : every forwarded packet gets its number less the packets dropped before it;
* `numbersFrom count` : the numbers of a stream when every dropped frame is counted as `count`;
  `idealNumbers_stream` : the ideal renumbering is that for `count = Frame.size`.
-/

namespace Scallop

open Machine

/-- A frame of a stream: the number of its packets, and whether it is dropped. -/
structure Frame where
  size : Nat
  drop : Bool
  size_pos : 0 < size
deriving DecidableEq, Repr

namespace Frame

/-- Packet `j` of frame number `f`, whose first packet has sequence number `q`. -/
def packet (fr : Frame) (f q : UInt16) (j : Nat) : Pkt where
  frame := f
  seq := q + UInt16.ofNat j
  mark := markFromAV1FrameFlags (j = 0) (j + 1 = fr.size)
  drop := fr.drop

def packets (fr : Frame) (f q : UInt16) : List Pkt :=
  (List.range' 0 fr.size).map (fr.packet f q)

/-- The number of packet `j` when `d` packets were dropped before. -/
def number (fr : Frame) (q : UInt16) (d j : Nat) : Option UInt16 :=
  if fr.drop then none else some (q + UInt16.ofNat j - UInt16.ofNat d)

/-- The numbers of a frame when `d` packets were dropped before. -/
def numbers (fr : Frame) (q : UInt16) (d : Nat) : List (Option UInt16) :=
  (List.range' 0 fr.size).map (fr.number q d)

end Frame

/-- The packets of frames `f`, `f + 1`, ... whose first packet has number `q`. -/
def streamPackets : UInt16 → UInt16 → List Frame → List Pkt
  | _, _, [] => []
  | f, q, fr :: frs => fr.packets f q ++ streamPackets (f + 1) (q + UInt16.ofNat fr.size) frs

/-- The number of packets in a list of frames. -/
def packetCount (frs : List Frame) : Nat := (frs.map Frame.size).sum

/-- The renumbering without gaps, from the number of packets dropped so far. -/
def idealStep (d : Nat) (pkt : Pkt) : Nat × Option UInt16 :=
  if pkt.drop then (d + 1, none) else (d, some (pkt.seq - UInt16.ofNat d))

/-- For every packet of a list, nothing if it is dropped, and otherwise its number less the number
of packets dropped before it. -/
def idealNumbers (pkts : List Pkt) : List (Option UInt16) := outputs idealStep 0 pkts

/-- What a rewriter returns for the packets of a list, modulo `2^16`. -/
def SequenceRewriter.numbers (s : SequenceRewriter) (pkts : List Pkt) : List (Option UInt16) :=
  (outputs SequenceRewriter.call s pkts).map (Option.map UInt32.toUInt16)

/-- The numbers of a stream whose dropped frames count as many packets as `count` says. -/
def numbersFrom (count : Frame → Nat) : UInt16 → Nat → List Frame → List (Option UInt16)
  | _, _, [] => []
  | q, d, fr :: frs =>
      fr.numbers q d ++
        numbersFrom count (q + UInt16.ofNat fr.size) (if fr.drop then d + count fr else d) frs

section Stream

variable (fr : Frame) (f q : UInt16)

@[simp] theorem Frame.packet_frame (j : Nat) : (fr.packet f q j).frame = f := rfl

@[simp] theorem Frame.packet_seq (j : Nat) : (fr.packet f q j).seq = q + UInt16.ofNat j := rfl

@[simp] theorem Frame.packet_drop (j : Nat) : (fr.packet f q j).drop = fr.drop := rfl

@[simp] theorem Frame.packet_lost (j : Nat) : (fr.packet f q j).lost = false := rfl

theorem Frame.packet_mark_start (h : 1 < fr.size) : (fr.packet f q 0).mark = .start := by
  simp [Frame.packet, markFromAV1FrameFlags, show ¬ 1 = fr.size by omega]

theorem Frame.packet_mark_inter {j : Nat} (h : j + 2 < fr.size) :
    (fr.packet f q (j + 1)).mark = .inter := by
  simp [Frame.packet, markFromAV1FrameFlags, show ¬ j + 1 + 1 = fr.size by omega]

theorem Frame.packet_mark_ending {j : Nat} (h : j + 1 = fr.size) :
    (fr.packet f q j).mark = .ending := by
  simp [Frame.packet, markFromAV1FrameFlags, h]

theorem Frame.packets_eq_cons :
    fr.packets f q = fr.packet f q 0 :: (List.range' 1 (fr.size - 1)).map (fr.packet f q) := by
  obtain ⟨n, hn⟩ := Nat.exists_eq_succ_of_ne_zero (Nat.pos_iff_ne_zero.mp fr.size_pos)
  simp [Frame.packets, hn, List.range'_succ]

theorem Frame.numbers_eq_cons (d : Nat) :
    fr.numbers q d = fr.number q d 0 :: (List.range' 1 (fr.size - 1)).map (fr.number q d) := by
  obtain ⟨n, hn⟩ := Nat.exists_eq_succ_of_ne_zero (Nat.pos_iff_ne_zero.mp fr.size_pos)
  simp [Frame.numbers, hn, List.range'_succ]

theorem ideal_packets (d n j : Nat) :
    outputs idealStep (if fr.drop then d + j else d) ((List.range' j n).map (fr.packet f q))
        = (List.range' j n).map (fr.number q d) ∧
      final idealStep (if fr.drop then d + j else d) ((List.range' j n).map (fr.packet f q))
        = if fr.drop then d + j + n else d := by
  induction n generalizing j with
  | zero => cases hd : fr.drop <;> simp
  | succ n ih =>
      have hstep : idealStep (if fr.drop then d + j else d) (fr.packet f q j)
          = (if fr.drop then d + (j + 1) else d, fr.number q d j) := by
        cases hd : fr.drop <;> simp [idealStep, Frame.number, hd, Nat.add_assoc]
      obtain ⟨ho, hf⟩ := ih (j + 1)
      rw [List.range'_succ, List.map_cons, outputs_cons, final_cons, hstep, ho, hf]
      refine ⟨rfl, ?_⟩
      cases hd : fr.drop
      · simp
      · simp only [if_true]
        omega

theorem idealNumbers_stream (frs : List Frame) (d : Nat) :
    outputs idealStep d (streamPackets f q frs) = numbersFrom Frame.size q d frs := by
  induction frs generalizing f q d with
  | nil => rfl
  | cons fr frs ih =>
      obtain ⟨ho, hf⟩ := ideal_packets fr f q d fr.size 0
      have hd : (if fr.drop then d + 0 else d) = d := by simp
      rw [hd] at ho hf
      rw [streamPackets, outputs_append, Frame.packets, ho, hf, ih, numbersFrom, Frame.numbers,
        Nat.add_zero]

end Stream

theorem Frame.numbers_length (fr : Frame) (q : UInt16) (d : Nat) :
    (fr.numbers q d).length = fr.size := by
  simp [Frame.numbers]

end Scallop
