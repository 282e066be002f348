import Mathlib.Data.List.ReduceOption
import Scallop.SequenceRewriter.Stream

/-!
# Streams that lose packets before the switch

* `Before` : what two packets of one stream, in this order, have to do with each other;
  `streamPackets_before` : so do the packets of a stream whose frame and sequence numbers do not
  wrap, and then those that are left of it;
* `Tracks` : the state after a packet, and the numbers given so far; `Tracks.call` is its step;
* `Overcounts` : the two ways to count more packets than can be missing;
  `increasing_under_loss` : without them the numbers increase.
-/

namespace Scallop

open Machine

/-- A packet of a stream whose sequence numbers do not wrap and whose frames have two packets. -/
structure Pkt.Inside (pkt : Pkt) : Prop where
  lost : pkt.lost = false
  first : pkt.mark ≠ .start → 0 < pkt.seq.toNat
  last : pkt.mark ≠ .ending → pkt.seq.toNat + 1 < 65536

/-- `q` comes before `p` in such a stream: between them are the rest of the frame of `q`, at least
two packets of every other frame, and the start of the frame of `p`. -/
structure Before (q p : Pkt) : Prop where
  frame_le : q.frame.toNat ≤ p.frame.toNat
  seq_lt : q.seq.toNat < p.seq.toNat
  same : q.frame = p.frame → q.drop = p.drop ∧ q.mark ≠ .ending ∧ p.mark ≠ .start
  gap : q.frame.toNat < p.frame.toNat →
    q.seq.toNat + 1 + (if q.mark = .ending then 0 else 1)
      + 2 * (p.frame.toNat - (q.frame.toNat + 1)) + (if p.mark = .start then 0 else 1)
      ≤ p.seq.toNat

/-! ## The packets of a stream -/

section Stream
variable {f q : UInt16}

theorem toNat_add_ofNat {a : UInt16} {n : Nat} (h : a.toNat + n < 65536) :
    (a + UInt16.ofNat n).toNat = a.toNat + n := by
  rw [UInt16.toNat_add, UInt16.toNat_ofNat_of_lt' (by change n < 65536; omega)]
  exact Nat.mod_eq_of_lt (by change _ < 65536; omega)

theorem Frame.packet_mark_eq (fr : Frame) (f q : UInt16) {j : Nat} (hs : 2 ≤ fr.size) :
    ((fr.packet f q j).mark = .start ↔ j = 0) ∧
      ((fr.packet f q j).mark = .ending ↔ j + 1 = fr.size) := by
  unfold Frame.packet markFromAV1FrameFlags
  by_cases he : j + 1 = fr.size
  · simp [he]
    omega
  · by_cases h0 : j = 0 <;> simp [he, h0]
    omega

theorem Frame.packets_inside {fr : Frame} (hs : 2 ≤ fr.size) (hq : q.toNat + fr.size ≤ 65536) :
    ∀ p ∈ fr.packets f q, p.Inside ∧ p.frame = f ∧
      p.seq.toNat + 1 + (if p.mark = .ending then 0 else 1) ≤ q.toNat + fr.size ∧
      q.toNat + (if p.mark = .start then 0 else 1) ≤ p.seq.toNat := by
  intro p hp
  rw [Frame.packets, List.mem_map] at hp
  obtain ⟨j, hj, rfl⟩ := hp
  rw [List.mem_range'_1] at hj
  obtain ⟨hstart, hend⟩ := fr.packet_mark_eq f q (j := j) hs
  have hseq : (fr.packet f q j).seq.toNat = q.toNat + j :=
    toNat_add_ofNat (by omega)
  refine ⟨⟨rfl, fun h => ?_, fun h => ?_⟩, rfl, ?_, ?_⟩
  · rw [Ne, hstart] at h
    omega
  · rw [Ne, hend] at h
    omega
  · rw [hseq]
    split <;> rename_i h <;> rw [hend] at h <;> omega
  · rw [hseq]
    split <;> rename_i h <;> rw [hstart] at h <;> omega

theorem Frame.packets_before {fr : Frame} (hs : 2 ≤ fr.size) (hq : q.toNat + fr.size ≤ 65536) :
    (fr.packets f q).Pairwise Before := by
  rw [Frame.packets, List.pairwise_map]
  refine List.Pairwise.imp_of_mem (R := fun i j => i < j) ?_ List.pairwise_lt_range'
  intro i j hi hj hij
  rw [List.mem_range'_1] at hi hj
  have hi' : (fr.packet f q i).seq.toNat = q.toNat + i := toNat_add_ofNat (by omega)
  have hj' : (fr.packet f q j).seq.toNat = q.toNat + j := toNat_add_ofNat (by omega)
  refine ⟨Nat.le_refl _, by omega, fun _ => ⟨rfl, fun h => ?_, fun h => ?_⟩,
    fun h => absurd h (Nat.lt_irrefl _)⟩
  · rw [(fr.packet_mark_eq f q hs).2] at h
    omega
  · rw [(fr.packet_mark_eq f q hs).1] at h
    omega

theorem streamPackets_before {frs : List Frame} (hf : f.toNat + frs.length ≤ 65536)
    (hq : q.toNat + packetCount frs ≤ 65536) (hs : ∀ fr ∈ frs, 2 ≤ fr.size) :
    (streamPackets f q frs).Pairwise Before ∧ ∀ p ∈ streamPackets f q frs, p.Inside ∧
      f.toNat ≤ p.frame.toNat ∧
      q.toNat + 2 * (p.frame.toNat - f.toNat) + (if p.mark = .start then 0 else 1)
        ≤ p.seq.toNat := by
  induction frs generalizing f q with
  | nil => exact ⟨.nil, fun p hp => absurd hp List.not_mem_nil⟩
  | cons fr frs ih =>
      rw [packetCount, List.map_cons, List.sum_cons, ← packetCount] at hq
      rw [List.length_cons] at hf
      have hsz := hs fr List.mem_cons_self
      have hin := fr.packets_inside (f := f) (q := q) hsz (by omega)
      rw [streamPackets, List.pairwise_append]
      cases frs with
      | nil =>
          refine ⟨⟨fr.packets_before hsz (by omega), .nil,
            fun _ _ _ h => absurd h List.not_mem_nil⟩, fun p hp => ?_⟩
          rw [streamPackets, List.append_nil] at hp
          obtain ⟨hi, hfr, -, hge⟩ := hin p hp
          exact ⟨hi, hfr ▸ Nat.le_refl _, by rw [hfr]; omega⟩
      | cons fr' frs' =>
          have hlen : 0 < packetCount (fr' :: frs') := by
            have := fr'.size_pos
            simp [packetCount]
            omega
          have hf1 : (f + 1).toNat = f.toNat + 1 :=
            toNat_add_ofNat (n := 1) (by rw [List.length_cons] at hf; omega)
          have hq1 : (q + UInt16.ofNat fr.size).toNat = q.toNat + fr.size :=
            toNat_add_ofNat (by omega)
          obtain ⟨hpw, hmem⟩ := ih (f := f + 1) (q := q + UInt16.ofNat fr.size) (by omega)
            (by omega) (fun x hx => hs x (List.mem_cons_of_mem _ hx))
          rw [hf1, hq1] at hmem
          refine ⟨⟨fr.packets_before hsz (by omega), hpw, fun a ha b hb => ?_⟩, fun p hp => ?_⟩
          · obtain ⟨-, hfa, hla, -⟩ := hin a ha
            obtain ⟨-, hfb, hlb⟩ := hmem b hb
            rw [← hfa] at hfb hlb
            refine ⟨by omega, ?_, fun he => ?_, fun _ => ?_⟩
            · split at hla <;> split at hlb <;> omega
            · rw [he] at hfb
              omega
            · omega
          · rcases List.mem_append.mp hp with hp | hp
            · obtain ⟨hi, hfr, -, hge⟩ := hin p hp
              exact ⟨hi, hfr ▸ Nat.le_refl _, by rw [hfr]; omega⟩
            · obtain ⟨hi, hfr, hge⟩ := hmem p hp
              exact ⟨hi, by omega, by omega⟩

end Stream

namespace SequenceRewriter

/-! ## The state after a packet -/

/-- What the state says of the last packet. -/
structure Follows (s : SequenceRewriter) (q : Pkt) : Prop where
  maxFrame : s.maxFrame = q.frame
  dropMaxFrame : s.dropMaxFrame = true → q.drop = true
  endSeen : s.maxFrameEndSeen = decide (q.mark = .ending)
  last : q.mark = .ending → s.maxFrameMaxSeq.toNat = q.seq.toNat
  opened : q.drop = true → q.mark ≠ .ending →
    s.maxFrameStartSeq.toNat ≤ q.seq.toNat ∧ s.maxFrameMaxSeq.toNat = q.seq.toNat + 1
  zero : q.frame = 0 → q.mark ≠ .ending → s.dropCount = 0

/-- Where the numbers given so far, with the dropped packets, have to end: before the start of a
dropped frame whose end was not seen, and otherwise with the last packet. -/
def room (s : SequenceRewriter) (q : Pkt) : Nat :=
  if q.drop = true ∧ q.mark ≠ .ending then s.maxFrameStartSeq.toNat else q.seq.toNat + 1

/-- After packet `q`, all numbers given are below `next`. -/
structure Tracks (s : SequenceRewriter) (q : Pkt) (next : Nat) : Prop where
  follows : s.Follows q
  below : s.dropCount.toNat + next ≤ s.room q

/-- More packets are counted than can be missing: a dropped frame whose start and end are taken to
be lost with the start of the next one had two packets, the first of which arrived; or packets of
frame `0` are forgotten, because no frame seems to have been seen. -/
def Overcounts (s : SequenceRewriter) (pkt : Pkt) : Prop :=
  (s.dropMaxFrame = true ∧ s.maxFrameEndSeen = false ∧
    pkt.frame.toNat = s.maxFrame.toNat + 1 ∧ pkt.drop = true ∧ pkt.mark = .inter ∧
    pkt.seq.toNat = s.maxFrameStartSeq.toNat + 3) ∨
  (s.maxFrame = 0 ∧ 1 < pkt.frame ∧ s.maxFrameEndSeen = true)

instance (s : SequenceRewriter) (pkt : Pkt) : Decidable (s.Overcounts pkt) := by
  unfold Overcounts
  infer_instance

/-- What a step has to do for the numbers to go on increasing. -/
structure Moves (s s' : SequenceRewriter) (pkt : Pkt) (next : Nat) : Prop where
  follows : s'.Follows pkt
  out : (s.call pkt).2 = if pkt.drop then none else some (pkt.seq.toUInt32 - s'.dropCount)
  dropped : pkt.drop = true → s'.dropCount.toNat + next ≤ s'.room pkt
  kept : pkt.drop = false → s'.dropCount.toNat + next ≤ pkt.seq.toNat

/-- The least number greater than all given ones. -/
def after (next : Nat) : Option UInt32 → Nat
  | none => next
  | some number => number.toNat + 1

theorem sub_toNat {a b : UInt16} (h : b.toNat ≤ a.toNat) :
    (a.toUInt32 - b.toUInt32).toNat = a.toNat - b.toNat := by
  rw [UInt32.toNat_sub_of_le, UInt16.toNat_toUInt32, UInt16.toNat_toUInt32]
  rw [UInt32.le_iff_toNat_le, UInt16.toNat_toUInt32, UInt16.toNat_toUInt32]
  exact h

theorem add_toNat {d x : UInt32} {n : Nat} (hx : x.toNat = n) (h : d.toNat + n < 4294967296) :
    (d + x).toNat = d.toNat + n := by
  rw [UInt32.toNat_add, hx]
  exact Nat.mod_eq_of_lt h

theorem pred_toNat {a : UInt16} (h : 0 < a.toNat) : (a - 1).toNat = a.toNat - 1 :=
  UInt16.toNat_sub_of_le _ _ (UInt16.le_iff_toNat_le.mpr h)

theorem succ_toNat {a : UInt16} (h : a.toNat + 1 < 65536) : (a + 1).toNat = a.toNat + 1 :=
  toNat_add_ofNat (n := 1) h

theorem Follows.room_le {s : SequenceRewriter} {q : Pkt} (h : s.Follows q) :
    s.room q ≤ q.seq.toNat + 1 := by
  unfold room
  split
  · rename_i hd
    exact Nat.le_succ_of_le (h.opened hd.1 hd.2).1
  · exact Nat.le_refl _

theorem Moves.tracks {s s' : SequenceRewriter} {pkt : Pkt} {next : Nat} (h : Moves s s' pkt next) :
    Tracks s' pkt (after next (s.call pkt).2) ∧ ∀ number ∈ (s.call pkt).2, next ≤ number.toNat := by
  rw [h.out]
  cases hd : pkt.drop with
  | true => exact ⟨⟨h.follows, h.dropped hd⟩, fun v hv => by simp at hv⟩
  | false =>
      have hk := h.kept hd
      have hv : (pkt.seq.toUInt32 - s'.dropCount).toNat = pkt.seq.toNat - s'.dropCount.toNat := by
        rw [UInt32.toNat_sub_of_le, UInt16.toNat_toUInt32]
        rw [UInt32.le_iff_toNat_le, UInt16.toNat_toUInt32]
        omega
      refine ⟨⟨h.follows, ?_⟩, fun v hm => ?_⟩
      · simp only [Bool.false_eq_true, if_false, after, hv, room, hd, false_and]
        omega
      · simp only [Bool.false_eq_true, if_false, Option.mem_some_iff] at hm
        rw [← hm, hv]
        omega

/-! ## One packet -/

section Step
variable {s : SequenceRewriter} {q pkt : Pkt} {next : Nat}

theorem Tracks.moves_same (h : Tracks s q next) (hb : Before q pkt) (hp : pkt.Inside)
    (he : pkt.frame = s.maxFrame) : Moves s (s.call pkt).1 pkt next := by
  have hfr : q.frame = pkt.frame := h.follows.maxFrame.symm.trans he.symm
  obtain ⟨hdrop, hq, hmark⟩ := hb.same hfr
  have hend : s.maxFrameEndSeen = false := by
    rw [h.follows.endSeen, decide_eq_false hq]
  have hlt := hb.seq_lt
  have hbelow := h.below
  have hopened : pkt.drop = true → s.room q = s.maxFrameStartSeq.toNat ∧
      s.maxFrameStartSeq.toNat ≤ q.seq.toNat ∧ s.sameFrameStartSeq pkt = s.maxFrameStartSeq := by
    intro hd
    rw [← hdrop] at hd
    have hle := (h.follows.opened hd hq).1
    have hne : pkt.seq ≠ s.maxFrameStartSeq := fun h' => by
      rw [h'] at hlt
      omega
    exact ⟨if_pos ⟨hd, hq⟩, hle, by rw [sameFrameStartSeq, if_neg hmark, if_neg hne]⟩
  rw [call_of_branch hp.lost (branch_of_eq he)]
  refine ⟨⟨?_, ?_, ?_, ?_, ?_, ?_⟩, ?_, ?_, ?_⟩
  · simp [handle, sameFrame, he]
  · simpa [handle, sameFrame, ← hdrop] using h.follows.dropMaxFrame
  · by_cases hm : pkt.mark = .ending <;> simp [handle, sameFrame, hm, hend]
  · intro hm
    simp [handle, sameFrame, hm]
  · intro hd hm
    obtain ⟨-, hle, hst⟩ := hopened hd
    have hs := succ_toNat (hp.last hm)
    refine ⟨?_, ?_⟩
    · simp only [handle, noteDrop_maxFrameStartSeq, sameFrame, hst]
      omega
    · simpa [handle, sameFrame, hm, hend] using hs
  · intro h0 hm
    simpa [handle, sameFrame, hm] using h.follows.zero (hfr.trans h0) hq
  · rw [call_of_branch hp.lost (branch_of_eq he)]
    cases hd : pkt.drop <;> simp [handle, sameFrame, hd]
  · intro hd
    obtain ⟨hroom, hle, hst⟩ := hopened hd
    by_cases hm : pkt.mark = .ending
    · have hsub : (pkt.seq.toUInt32 - s.maxFrameStartSeq.toUInt32).toNat
          = pkt.seq.toNat - s.maxFrameStartSeq.toNat := sub_toNat (by omega)
      have hx : (pkt.seq.toUInt32 - s.maxFrameStartSeq.toUInt32 + 1).toNat
          = pkt.seq.toNat - s.maxFrameStartSeq.toNat + 1 := by
        have := pkt.seq.toNat_lt
        rw [add_toNat (n := 1) rfl (by omega), hsub]
      have hadd := add_toNat (d := s.dropCount) hx (by have := pkt.seq.toNat_lt; omega)
      simp only [handle, noteDrop_dropCount, sameFrame, hst, hd, hm, room, true_and, if_true,
        hadd, ne_eq, not_true, and_false, if_false]
      omega
    · simp only [handle, noteDrop_dropCount, noteDrop_maxFrameStartSeq, sameFrame, hst, hd, hm,
        room, and_false, if_false, ne_eq, not_false_eq_true, and_self, if_true]
      omega
  · intro hd
    have := h.follows.room_le
    simp only [handle, noteDrop_dropCount, sameFrame, hd, Bool.false_eq_true, false_and, if_false]
    omega

/-- A branch that starts a new frame only has to show that it does not count too many packets. -/
theorem moves_of_opens {s' : SequenceRewriter} (hp : pkt.Inside)
    (hout : (s.call pkt).2 = if pkt.drop then none else some (pkt.seq.toUInt32 - s'.dropCount))
    (hframe : s'.maxFrame = pkt.frame) (hdrop : s'.dropMaxFrame = pkt.drop)
    (hend : s'.maxFrameEndSeen = decide (pkt.mark = .ending))
    (hmax : s'.maxFrameMaxSeq = if pkt.mark = .ending then pkt.seq else pkt.seq + 1)
    (hstart : pkt.mark ≠ .ending →
      s'.maxFrameStartSeq = if pkt.mark = .start then pkt.seq else pkt.seq - 1)
    (hzero : pkt.frame ≠ 0)
    (hkept : pkt.drop = false → s'.dropCount.toNat + next ≤ pkt.seq.toNat)
    (hended : pkt.drop = true → pkt.mark = .ending →
      s'.dropCount.toNat + next ≤ pkt.seq.toNat + 1)
    (hopen : pkt.drop = true → pkt.mark ≠ .ending →
      s'.dropCount.toNat + next + (if pkt.mark = .start then 0 else 1) ≤ pkt.seq.toNat) :
    Moves s s' pkt next := by
  have hst : pkt.mark ≠ .ending →
      s'.maxFrameStartSeq.toNat + (if pkt.mark = .start then 0 else 1) = pkt.seq.toNat := by
    intro hm
    rw [hstart hm]
    split
    · rfl
    · rename_i hs
      have hpos := hp.first hs
      rw [pred_toNat hpos]
      omega
  refine ⟨⟨hframe, fun h => hdrop ▸ h, hend, fun hm => by rw [hmax, if_pos hm],
    fun _ hm => ⟨?_, ?_⟩, fun h0 => absurd h0 hzero⟩, hout, fun hd => ?_, hkept⟩
  · have := hst hm
    omega
  · rw [hmax, if_neg hm, succ_toNat (hp.last hm)]
  · unfold room
    by_cases hm : pkt.mark = .ending
    · rw [if_neg fun h => h.2 hm]
      exact hended hd hm
    · rw [if_pos ⟨hd, hm⟩]
      have h1 := hst hm
      have h2 := hopen hd hm
      omega

theorem Tracks.moves_next (h : Tracks s q next) (hb : Before q pkt) (hp : pkt.Inside)
    (hover : ¬ s.Overcounts pkt) (hn : pkt.frame.toNat = s.maxFrame.toNat + 1) :
    Moves s (s.call pkt).1 pkt next := by
  have hbelow := h.below
  have hroom := h.follows.room_le
  have hfr := h.follows.maxFrame
  have hgap := hb.gap (by rw [← hfr]; omega)
  have hlt := pkt.seq.toNat_lt
  rw [hfr] at hn
  rw [hn, Nat.sub_self, Nat.mul_zero, Nat.add_zero] at hgap
  have hcount : (s.nextFrameDropCount pkt).toNat + next
      + (if pkt.drop = true ∧ pkt.mark ≠ .ending then (if pkt.mark = .start then 0 else 1) else 0)
      ≤ pkt.seq.toNat + (if pkt.drop = true ∧ pkt.mark = .ending then 1 else 0) := by
    unfold nextFrameDropCount
    by_cases hopen : s.dropMaxFrame = true ∧ ¬ s.maxFrameEndSeen = true
    · have hd := h.follows.dropMaxFrame hopen.1
      have hm : q.mark ≠ .ending := fun hm => hopen.2 (by rw [h.follows.endSeen, hm]; rfl)
      obtain ⟨hle, -⟩ := h.follows.opened hd hm
      rw [if_neg hm] at hgap
      rw [room, if_pos ⟨hd, hm⟩] at hbelow
      rw [if_pos hopen]
      by_cases hs : pkt.mark = .start
      · rw [if_pos hs] at hgap
        have hsub := sub_toNat (a := pkt.seq) (b := s.maxFrameStartSeq) (by omega)
        rw [if_pos hs, add_toNat hsub (by omega)]
        simp only [hs, if_true, ite_self]
        omega
      · rw [if_neg hs] at hgap
        rw [if_neg hs, add_toNat (n := 3) rfl (by omega)]
        by_cases hov : pkt.drop = true ∧ pkt.mark ≠ .ending
        · have hi : pkt.mark = .inter := by
            cases hmark : pkt.mark with
            | start => exact absurd hmark hs
            | inter => rfl
            | ending => exact absurd hmark hov.2
          have hne : ¬ pkt.seq.toNat = s.maxFrameStartSeq.toNat + 3 := fun he =>
            hover (.inl ⟨hopen.1, by simpa using hopen.2, by rw [hfr, hn], hov.1, hi, he⟩)
          rw [if_pos hov, if_neg hs, if_neg fun h' => hov.2 h'.2]
          omega
        · rw [if_neg hov]
          omega
    · rw [if_neg hopen]
      by_cases hde : pkt.drop = true ∧ pkt.mark = .ending
      · have hs : pkt.mark ≠ .start := by rw [hde.2]; exact fun h' => nomatch h'
        rw [if_neg hs] at hgap
        have hno : ¬ (pkt.drop = true ∧ pkt.mark ≠ .ending) := fun h' => h'.2 hde.2
        rw [if_pos hde, if_pos hde, if_neg hno]
        by_cases hm : q.mark = .ending
        · have hl := h.follows.last hm
          have hsub := sub_toNat (a := pkt.seq) (b := s.maxFrameMaxSeq) (by omega)
          rw [if_pos (by rw [h.follows.endSeen, hm]; rfl), add_toNat hsub (by omega)]
          omega
        · rw [if_neg hm] at hgap
          rw [if_neg (by rw [h.follows.endSeen]; simpa using hm), add_toNat (n := 2) rfl (by omega)]
          omega
      · rw [if_neg hde, if_neg hde]
        split <;> omega
  rw [← hfr] at hn
  rw [call_of_branch hp.lost (branch_of_succ hn)]
  have hzero : pkt.frame ≠ 0 := fun h0 => by
    rw [h0] at hn
    exact absurd hn (by simp)
  refine moves_of_opens hp ?_ ?_ ?_ ?_ ?_ ?_ hzero ?_ ?_ ?_
  · rw [call_of_branch hp.lost (branch_of_succ hn)]
    simp [handle, nextFrame]
  · simp [handle, nextFrame]
  · simp [handle, nextFrame]
  · simp [handle, nextFrame]
  · simp [handle, nextFrame]
  · intro _
    simp [handle, nextFrame]
  · intro hd
    simpa [handle, nextFrame, hd] using hcount
  · intro hd hm
    simpa [handle, nextFrame, hd, hm] using hcount
  · intro hd hm
    simpa [handle, nextFrame, hd, hm] using hcount

theorem Tracks.moves_future (h : Tracks s q next) (hb : Before q pkt) (hp : pkt.Inside)
    (hm : s.maxFrame ≠ 0) (hf : s.maxFrame.toNat + 1 < pkt.frame.toNat) :
    Moves s (s.call pkt).1 pkt next := by
  have hbelow := h.below
  have hroom := h.follows.room_le
  have hfr := h.follows.maxFrame
  have hlt := pkt.seq.toNat_lt
  have hgap : q.seq.toNat + 3 + (if pkt.mark = .start then 0 else 1) ≤ pkt.seq.toNat := by
    have := hb.gap (by rw [← hfr]; omega)
    rw [← hfr] at this
    omega
  have hcount : (s.futureFrameDropCount pkt).toNat + next
      ≤ q.seq.toNat + 1 + (if pkt.drop = true then 0 else 2) := by
    unfold futureFrameDropCount
    by_cases hdm : s.dropMaxFrame = true
    · have hd := h.follows.dropMaxFrame hdm
      by_cases hq : q.mark = .ending
      · have he : s.maxFrameEndSeen = true := by rw [h.follows.endSeen, hq]; rfl
        simp only [hdm, he, not_true, false_and, and_false, if_false]
        omega
      · have he : s.maxFrameEndSeen = false := by rw [h.follows.endSeen, decide_eq_false hq]
        obtain ⟨hle, hmax⟩ := h.follows.opened hd hq
        rw [room, if_pos ⟨hd, hq⟩] at hbelow
        have hsub := sub_toNat (a := s.maxFrameMaxSeq) (b := s.maxFrameStartSeq) (by omega)
        have hadd := add_toNat (d := s.dropCount) hsub (by omega)
        simp only [hdm, he, not_true, false_and, if_false, Bool.false_eq_true, not_false_eq_true,
          and_self, if_true, hadd]
        omega
    · have hnot : ¬ (s.dropMaxFrame = true ∧ ¬ s.maxFrameEndSeen = true) := fun h' => hdm h'.1
      rw [if_neg hnot]
      split
      · rename_i hg
        rw [add_toNat (n := 2) rfl (by omega), if_neg hg.2.1]
        omega
      · omega
  have hzero : pkt.frame ≠ 0 := fun h0 => by
    rw [h0] at hf
    exact absurd hf (by simp)
  rw [call_of_branch hp.lost (branch_of_skip hm hf)]
  refine moves_of_opens hp ?_ ?_ ?_ ?_ ?_ ?_ hzero ?_ ?_ ?_
  · rw [call_of_branch hp.lost (branch_of_skip hm hf)]
    cases hd : pkt.drop <;> simp [handle, futureFrame, hd]
  · simp [handle, futureFrame]
  · simp [handle, futureFrame]
  · simp [handle, futureFrame]
  · simp [handle, futureFrame]
  · intro he
    cases hmark : pkt.mark with
    | start => simp [handle, futureFrame, hmark]
    | inter => simp [handle, futureFrame, hmark]
    | ending => exact absurd hmark he
  · intro hd
    simp only [handle, noteDrop_dropCount, futureFrame, hd, Bool.false_eq_true, false_and, if_false]
    rw [hd, if_neg Bool.false_ne_true] at hcount
    omega
  · intro hd he
    rw [if_pos hd] at hcount
    simp only [handle, noteDrop_dropCount, futureFrame, hd, he, and_self, if_true]
    rw [add_toNat (n := 2) rfl (by omega)]
    omega
  · intro hd he
    rw [if_pos hd] at hcount
    simp only [handle, noteDrop_dropCount, futureFrame, hd, he, and_false, if_false]
    omega

/-- The first packet of all, or the first one after packets of frame `0` that were not counted. -/
theorem moves_first (hp : pkt.Inside) (hf : 1 < pkt.frame) (hm : s.maxFrame = 0)
    (hend : s.maxFrameEndSeen = false) (hcount : s.dropCount = 0)
    (hnext : next + (if pkt.mark = .start then 0 else 1) ≤ pkt.seq.toNat) :
    Moves s (s.call pkt).1 pkt next := by
  have hzero : pkt.frame ≠ 0 := fun h0 => by
    rw [h0] at hf
    exact absurd hf (by decide)
  rw [call_of_branch hp.lost (branch_of_fresh hf hm)]
  refine moves_of_opens hp ?_ ?_ ?_ ?_ ?_ ?_ hzero ?_ ?_ ?_
  · rw [call_of_branch hp.lost (branch_of_fresh hf hm)]
    cases hd : pkt.drop <;> simp [handle, firstPacket, hd, hcount]
  · simp [handle, firstPacket]
  · simp [handle, firstPacket]
  · by_cases he : pkt.mark = .ending <;> simp [handle, firstPacket, he, hend]
  · simp [handle, firstPacket]
  · intro _
    simp [handle, firstPacket]
  · intro hd
    simp only [handle, noteDrop_dropCount, firstPacket, hd, Bool.false_eq_true, false_and, if_false,
      hcount, UInt32.toNat_zero]
    omega
  · intro hd he
    rw [he, if_neg (by decide)] at hnext
    simp only [handle, noteDrop_dropCount, firstPacket, hd, he, and_self, if_true]
    change 2 + next ≤ _
    omega
  · intro hd he
    simp only [handle, noteDrop_dropCount, firstPacket, hd, he, and_false, if_false, hcount,
      UInt32.toNat_zero]
    omega

theorem Tracks.call (h : Tracks s q next) (hb : Before q pkt) (hp : pkt.Inside)
    (hover : ¬ s.Overcounts pkt) : Moves s (s.call pkt).1 pkt next := by
  rcases branch_cases s pkt with ⟨hf, hm, -⟩ | ⟨he, -⟩ | ⟨hn, -⟩ | ⟨hm, hf, -⟩ | ⟨hlt, -⟩
  · have hend : s.maxFrameEndSeen = false := by
      cases he : s.maxFrameEndSeen with
      | false => rfl
      | true => exact absurd (.inr ⟨hm, hf, he⟩) hover
    have hq : q.mark ≠ .ending := by
      rw [h.follows.endSeen, decide_eq_false_iff_not] at hend
      exact hend
    have h0 : q.frame = 0 := h.follows.maxFrame.symm.trans hm
    have hgap := hb.gap (by
      rw [h0]
      exact Nat.lt_trans (by decide) (UInt16.lt_iff_toNat_lt.mp hf))
    have hbelow := h.below
    have hroom := h.follows.room_le
    rw [if_neg hq] at hgap
    exact moves_first hp hf hm hend (h.follows.zero h0 hq) (by omega)
  · exact h.moves_same hb hp he
  · exact h.moves_next hb hp hover hn
  · exact h.moves_future hb hp hm hf
  · have := hb.frame_le
    rw [h.follows.maxFrame, UInt16.lt_iff_toNat_lt] at hlt
    omega

theorem fresh_call (hp : pkt.Inside) : Moves {} (({} : SequenceRewriter).call pkt).1 pkt 0 := by
  have hnext : 0 + (if pkt.mark = .start then 0 else 1) ≤ pkt.seq.toNat := by
    split
    · exact Nat.zero_le _
    · rename_i hs
      exact hp.first hs
  rcases branch_cases {} pkt with ⟨hf, hm, -⟩ | ⟨he, hb⟩ | ⟨hn, hb⟩ | ⟨hm, -⟩ | ⟨hlt, -⟩
  · exact moves_first hp hf hm rfl rfl hnext
  · rw [call_of_branch hp.lost hb]
    have hne : pkt.mark ≠ .start → pkt.seq ≠ 0 := fun hs h0 => by
      have := hp.first hs
      rw [h0] at this
      exact absurd this (by decide)
    refine ⟨⟨?_, ?_, ?_, ?_, ?_, ?_⟩, ?_, ?_, ?_⟩
    · simp [handle, sameFrame, he]
    · simp [handle, sameFrame]
    · simp [handle, sameFrame]
    · intro hm
      simp [handle, sameFrame, hm]
    · intro _ hm
      refine ⟨?_, ?_⟩
      · by_cases hs : pkt.mark = .start
        · simp [handle, sameFrame, sameFrameStartSeq, hs]
        · simp [handle, sameFrame, sameFrameStartSeq, hs, hne hs]
      · simpa [handle, sameFrame, hm] using succ_toNat (hp.last hm)
    · intro _ hm
      simp [handle, sameFrame, hm]
    · rw [call_of_branch hp.lost hb]
      cases hd : pkt.drop <;> simp [handle, sameFrame, hd]
    · intro hd
      by_cases hm : pkt.mark = .ending
      · have hs : pkt.mark ≠ .start := by rw [hm]; decide
        have hlt := pkt.seq.toNat_lt
        have hsub := sub_toNat (a := pkt.seq) (b := 0) (Nat.zero_le _)
        have hst : sameFrameStartSeq {} pkt = 0 := by simp [sameFrameStartSeq, hs, hne hs]
        have hx : (pkt.seq.toUInt32 - (0 : UInt16).toUInt32 + 1).toNat = pkt.seq.toNat + 1 := by
          rw [add_toNat (n := 1) rfl (by rw [hsub]; omega), hsub]
          rfl
        simp only [handle, noteDrop_dropCount, sameFrame, hst, hd, hm, and_self, if_true, room,
          ne_eq, not_true, and_false, if_false]
        rw [add_toNat hx (by change 0 + _ < _; omega)]
        exact Nat.le_of_eq (by simp)
      · simp [handle, sameFrame, hd, hm]
    · intro hd
      simp [handle, sameFrame, hd]
  · have hzero : pkt.frame ≠ 0 := fun h0 => by
      rw [h0] at hn
      exact absurd hn (by decide)
    rw [call_of_branch hp.lost hb]
    refine moves_of_opens hp ?_ ?_ ?_ ?_ ?_ ?_ hzero ?_ ?_ ?_
    · rw [call_of_branch hp.lost hb]
      simp [handle, nextFrame]
    · simp [handle, nextFrame]
    · simp [handle, nextFrame]
    · simp [handle, nextFrame]
    · simp [handle, nextFrame]
    · intro _
      simp [handle, nextFrame]
    · intro hd
      simp [handle, nextFrame, nextFrameDropCount, hd]
    · intro hd hm
      rw [hm, if_neg (by decide)] at hnext
      simpa [handle, nextFrame, nextFrameDropCount, hd, hm] using hnext
    · intro hd hm
      simpa [handle, nextFrame, nextFrameDropCount, hd, hm] using hnext
  · exact absurd rfl hm
  · exact absurd hlt (by simp)

end Step

/-! ## Runs -/

/-- The numbers given increase and are at least `next`. -/
def Increases (next : Nat) (numbers : List (Option UInt32)) : Prop :=
  (∀ number ∈ numbers.reduceOption, next ≤ number.toNat) ∧
    numbers.reduceOption.Pairwise fun a b => a < b

theorem increases_cons {next : Nat} {out : Option UInt32} {numbers : List (Option UInt32)}
    (hout : ∀ number ∈ out, next ≤ number.toNat) (h : Increases (after next out) numbers) :
    Increases next (out :: numbers) := by
  cases out with
  | none =>
      rw [Increases, List.reduceOption_cons_of_none]
      exact h
  | some v =>
      obtain ⟨hge, hpw⟩ := h
      have hv := hout v rfl
      rw [Increases, List.reduceOption_cons_of_some, List.pairwise_cons]
      refine ⟨fun w hw => ?_, fun w hw => UInt32.lt_iff_toNat_lt.mpr (hge w hw), hpw⟩
      rcases List.mem_cons.mp hw with rfl | hw
      · exact hv
      · have := hge w hw
        rw [after] at this
        omega

theorem Tracks.increases {s : SequenceRewriter} {q : Pkt} {next : Nat} (h : Tracks s q next)
    {pkts : List Pkt} (hpw : (q :: pkts).Pairwise Before) (hin : ∀ p ∈ pkts, p.Inside)
    (hrun : Along (fun s p => ¬ s.Overcounts p) SequenceRewriter.call s pkts) :
    Increases next (outputs SequenceRewriter.call s pkts) := by
  induction pkts generalizing s q next with
  | nil => exact ⟨fun v hv => absurd hv List.not_mem_nil, .nil⟩
  | cons p pkts ih =>
      rw [List.pairwise_cons] at hpw
      obtain ⟨ht, hout⟩ := (h.call (hpw.1 p List.mem_cons_self) (hin p List.mem_cons_self)
        hrun.1).tracks
      exact increases_cons hout
        (ih ht hpw.2 (fun x hx => hin x (List.mem_cons_of_mem _ hx)) hrun.2)

/-- **Streams that lose packets before the switch.** Whatever is lost, the numbers of the forwarded
packets increase, as long as no step counts more packets than can be missing. -/
theorem increasing_under_loss {f₀ q₀ : UInt16} {frs : List Frame}
    (hf : f₀.toNat + frs.length ≤ 65536) (hq : q₀.toNat + packetCount frs ≤ 65536)
    (hs : ∀ fr ∈ frs, 2 ≤ fr.size) {pkts : List Pkt}
    (hsub : pkts.Sublist (streamPackets f₀ q₀ frs))
    (hrun : Along (fun s p => ¬ s.Overcounts p) call {} pkts) :
    (outputs call {} pkts).reduceOption.Pairwise fun a b => a < b := by
  obtain ⟨hpw, hmem⟩ := streamPackets_before hf hq hs
  have hpw' := hpw.sublist hsub
  have hin : ∀ p ∈ pkts, p.Inside := fun p hp => (hmem p (hsub.subset hp)).1
  cases pkts with
  | nil => exact .nil
  | cons p pkts =>
      obtain ⟨ht, hout⟩ := (fresh_call (hin p List.mem_cons_self)).tracks
      have hrest := ht.increases hpw' (fun x hx => hin x (List.mem_cons_of_mem _ hx)) hrun.2
      exact (increases_cons hout hrest).2

/-- The end of a dropped frame and the start of the next, kept one are lost. -/
theorem increasing_under_loss_lost_end :
    (outputs call {} [⟨3, 10, .start, false, false⟩, ⟨3, 11, .ending, false, false⟩,
      ⟨4, 12, .start, true, false⟩, ⟨5, 15, .ending, false, false⟩]).reduceOption.Pairwise
        fun a b => a < b :=
  @increasing_under_loss 3 10
    [⟨2, false, by decide⟩, ⟨2, true, by decide⟩, ⟨2, false, by decide⟩]
    (by decide) (by decide) (by decide) _ (by decide) (by decide)

/-- Frames `4` and `5` are dropped; of the two packets of `4` the second is lost, and of the three
of `5` the first. Six packets are counted instead of five, and the number `11` is given twice. -/
theorem duplicate_under_loss :
    ¬ ∀ (f₀ q₀ : UInt16) (frs : List Frame), f₀.toNat + frs.length ≤ 65536 →
      q₀.toNat + packetCount frs ≤ 65536 → (∀ fr ∈ frs, 2 ≤ fr.size) →
      ∀ pkts : List Pkt, pkts.Sublist (streamPackets f₀ q₀ frs) →
        (outputs call {} pkts).reduceOption.Pairwise fun a b => a < b := by
  intro h
  have hdup := h 3 10 [⟨2, false, by decide⟩, ⟨2, true, by decide⟩, ⟨3, true, by decide⟩,
      ⟨2, false, by decide⟩] (by decide) (by decide) (by decide)
    [⟨3, 10, .start, false, false⟩, ⟨3, 11, .ending, false, false⟩, ⟨4, 12, .start, true, false⟩,
      ⟨5, 15, .inter, true, false⟩, ⟨5, 16, .ending, true, false⟩, ⟨6, 17, .start, false, false⟩]
    (by decide)
  exact absurd hdup (by decide)

end SequenceRewriter

end Scallop
