import Scallop.SequenceRewriter.Exact

/-!
# Reordering between adjacent frames

* `Sent`, `sentInOrder` : the packets of a stream and the order in which they are sent; `Arrival` : the orders in which
  late packets of a kept frame are mixed with those of the next frame, `arrival_sentInOrder`;
* `Newest` : the newest frame that has arrived; `Arrival.next_cases` : where the next packet can come from;
* `Front` : what a rewriter has recorded about the newest frame, with one lemma for each way the next packet can come:
  `front_fresh`, `Front.same`, `Front.next`, `Front.past`;
* `reordered_exact` : every forwarded packet gets its number less the packets dropped in the frames before its own.
-/

namespace Scallop

open Machine

/-! ## Sent packets and the orders in which they arrive -/

/-- A packet of a stream, by its frame and its place in the frame. -/
structure Sent (frs : List Frame) where
  frame : Fin frs.length
  index : Fin (frs.get frame).size
deriving DecidableEq, Repr

/-- The packets sent before frame `k`. -/
def sentBefore (frs : List Frame) (k : Nat) : Nat := packetCount (frs.take k)

/-- The packets of dropped frames sent before frame `k`. -/
def droppedBefore (frs : List Frame) (k : Nat) : Nat := packetCount ((frs.take k).filter Frame.drop)

def sentInOrder (frs : List Frame) : List (Sent frs) :=
  (List.finRange frs.length).flatMap fun k => (List.finRange (frs.get k).size).map (Sent.mk k)

namespace Sent
variable {frs : List Frame}

def of (p : Sent frs) : Frame := frs.get p.frame

/-- The packet itself, in a stream that starts with frame number `f` and sequence number `q`. -/
def packet (f q : UInt16) (p : Sent frs) : Pkt :=
  p.of.packet (f + UInt16.ofNat p.frame) (q + UInt16.ofNat (sentBefore frs p.frame)) p.index

/-- Its number less the packets dropped in the frames before its own; nothing if it is dropped. -/
def number (q : UInt16) (p : Sent frs) : Option UInt16 :=
  p.of.number (q + UInt16.ofNat (sentBefore frs p.frame)) (droppedBefore frs p.frame) p.index

end Sent

/-- Orders in which the packets of a stream arrive. -/
structure Arrival {frs : List Frame} (order : List (Sent frs)) : Prop where
  /-- No packet is lost, none comes twice. -/
  perm : order.Perm (sentInOrder frs)
  /-- A packet that comes after one of a later frame is of the frame before that one, and this frame is kept. -/
  late : order.Pairwise fun p p' =>
    p'.frame < p.frame → p'.frame.val + 1 = p.frame.val ∧ p'.of.drop = false
  /-- The packets of a dropped frame come in order. -/
  inOrder : order.Pairwise fun p p' =>
    p'.frame = p.frame → p.of.drop = true → p.index.val < p'.index.val
  /-- The first packet of a frame to arrive is not late: the next frame does not come before it. -/
  opens : ∀ i (hi : i < order.length), order[i].frame.val ≠ 0 →
    ∃ p ∈ order.take i, p.frame.val + 1 = order[i].frame.val

theorem mem_sentInOrder {frs : List Frame} (p : Sent frs) : p ∈ sentInOrder frs :=
  List.mem_flatMap.mpr ⟨p.frame, List.mem_finRange _, List.mem_map.mpr ⟨p.index, List.mem_finRange _, rfl⟩⟩

theorem packetCount_append (frs frs' : List Frame) :
    packetCount (frs ++ frs') = packetCount frs + packetCount frs' := by
  simp [packetCount]

section Before
variable {frs : List Frame} {k : Nat} (hk : k < frs.length)

theorem droppedBefore_succ :
    droppedBefore frs (k + 1) = droppedBefore frs k + if frs[k].drop then frs[k].size else 0 := by
  rw [droppedBefore, List.take_succ_eq_append_getElem hk, List.filter_append, packetCount_append, droppedBefore]
  cases hd : frs[k].drop <;> simp [packetCount, hd]

end Before

/-! ## What has arrived -/

/-- The newest frame among the packets of `l`; if it is dropped, `p` is the packet of it that came last. -/
structure Newest {frs : List Frame} (l : List (Sent frs)) (p : Sent frs) : Prop where
  mem : p ∈ l
  top : ∀ x ∈ l, x.frame ≤ p.frame
  last : p.of.drop = true → ∀ x ∈ l, x.frame = p.frame → x.index.val ≤ p.index.val

section Arrived
variable {frs : List Frame} {order l r : List (Sent frs)} {p x : Sent frs}

theorem Sent.of_mem (p : Sent frs) : p.of ∈ frs := List.get_mem frs p.frame

theorem Arrival.complete (h : Arrival order) (he : order = l ++ x :: r) (p : Sent frs) : p ∈ l ∨ p = x ∨ p ∈ r := by
  have hp := h.perm.mem_iff.mpr (mem_sentInOrder p)
  rwa [he, List.mem_append, List.mem_cons] at hp

theorem Arrival.opened (h : Arrival order) (he : order = l ++ x :: r) (hx : x.frame.val ≠ 0) :
    ∃ p ∈ l, p.frame.val + 1 = x.frame.val := by
  subst he
  have ho := h.opens l.length (by simp)
  simp only [List.getElem_append_right (Nat.le_refl _), Nat.sub_self, List.getElem_cons_zero,
    List.take_left] at ho
  exact ho hx

/-- The first packet to arrive of a dropped frame is its first. -/
theorem Arrival.index_eq_zero (h : Arrival order) (he : order = l ++ x :: r) (hl : ∀ p ∈ l, p.frame ≠ x.frame)
    (hd : x.of.drop = true) : x.index.val = 0 := by
  by_contra hi
  have hin := h.inOrder
  rw [he, List.pairwise_append, List.pairwise_cons] at hin
  obtain hm | hm | hm := h.complete he ⟨x.frame, ⟨0, (frs.get x.frame).size_pos⟩⟩
  · exact hl _ hm rfl
  · exact hi (congrArg (fun y : Sent frs => y.index.val) hm).symm
  · exact absurd (hin.2.1.1 _ hm rfl hd) (Nat.not_lt_zero _)

/-- When a packet of a later frame comes, the newest frame has ended if it is dropped. -/
theorem Arrival.ended (h : Arrival order) (he : order = l ++ x :: r) (hn : Newest l p) (hlt : p.frame < x.frame)
    (hd : p.of.drop = true) : p.index.val + 1 = p.of.size := by
  have hlate := h.late
  rw [he, List.pairwise_append, List.pairwise_cons] at hlate
  have hpos := (frs.get p.frame).size_pos
  have hp := p.index.isLt
  have hof : p.of.size = (frs.get p.frame).size := rfl
  obtain hm | hm | hm := h.complete he ⟨p.frame, ⟨(frs.get p.frame).size - 1, by omega⟩⟩
  · have := hn.last hd _ hm rfl
    simp only at this
    omega
  · have hf := congrArg Sent.frame hm
    simp only at hf
    rw [hf] at hlt
    exact absurd hlt (lt_irrefl _)
  · have hk := (hlate.2.1.1 _ hm hlt).2
    exact absurd (hk.symm.trans hd) Bool.false_ne_true

/-- The packet that comes next is late, of the newest frame, or the first of the frame after it. -/
theorem Arrival.next_cases (h : Arrival order) (he : order = l ++ x :: r) (hn : Newest l p) :
    (x.frame.val + 1 = p.frame.val ∧ x.of.drop = false) ∨
    (x.frame = p.frame ∧ (p.of.drop = true → p.index.val < x.index.val)) ∨
    (x.frame.val = p.frame.val + 1 ∧ ∀ y ∈ l, y.frame ≠ x.frame) := by
  have hlate := h.late
  have hin := h.inOrder
  rw [he, List.pairwise_append] at hlate hin
  obtain hlt | heq | hgt := lt_trichotomy x.frame p.frame
  · exact .inl (hlate.2.2 p hn.mem x List.mem_cons_self hlt)
  · exact .inr (.inl ⟨heq, hin.2.2 p hn.mem x List.mem_cons_self heq⟩)
  · rw [Fin.lt_def] at hgt
    obtain ⟨y, hy, hyx⟩ := h.opened he (by omega)
    have hyp := hn.top y hy
    rw [Fin.le_def] at hyp
    refine .inr (.inr ⟨by omega, ?_⟩)
    intro z hz hzx
    have := hn.top z hz
    rw [hzx, Fin.le_def] at this
    omega

/-- Which packet is the newest after the next one. -/
theorem Newest.push (hn : Newest l p) (hle : p.frame ≤ x.frame)
    (hlast : x.frame = p.frame → p.of.drop = true → p.index.val < x.index.val) : Newest (l ++ [x]) x := by
  constructor
  · simp
  · intro y hy
    rw [List.mem_append, List.mem_singleton] at hy
    obtain hy | rfl := hy
    · exact (hn.top y hy).trans hle
    · exact le_refl _
  · intro hd y hy hyx
    rw [List.mem_append, List.mem_singleton] at hy
    obtain hy | rfl := hy
    · have htop := hn.top y hy
      rw [hyx] at htop
      have hxp : x.frame = p.frame := le_antisymm htop hle
      have hdp : p.of.drop = true := by rwa [Sent.of, ← hxp]
      exact (hn.last hdp y hy (hyx.trans hxp)).trans (le_of_lt (hlast hxp hdp))
    · exact le_refl _

theorem Newest.push_late (hn : Newest l p) (hlt : x.frame < p.frame) : Newest (l ++ [x]) p := by
  constructor
  · exact List.mem_append_left _ hn.mem
  · intro y hy
    rw [List.mem_append, List.mem_singleton] at hy
    obtain hy | rfl := hy
    · exact hn.top y hy
    · exact le_of_lt hlt
  · intro hd y hy hyp
    rw [List.mem_append, List.mem_singleton] at hy
    obtain hy | rfl := hy
    · exact hn.last hd y hy hyp
    · rw [hyp] at hlt
      exact absurd hlt (lt_irrefl _)

end Arrived

/-! ## In order -/

section InOrder
variable {frs : List Frame}

theorem sentInOrder_sorted (frs : List Frame) : (sentInOrder frs).Pairwise fun p p' =>
    p.frame < p'.frame ∨ p.frame = p'.frame ∧ p.index.val < p'.index.val := by
  rw [sentInOrder, List.pairwise_flatMap]
  constructor
  · intro k _
    rw [List.pairwise_map]
    exact (List.pairwise_lt_finRange _).imp fun hlt => .inr ⟨rfl, hlt⟩
  · apply (List.pairwise_lt_finRange _).imp
    intro k k' hlt p hp p' hp'
    obtain ⟨j, -, rfl⟩ := List.mem_map.mp hp
    obtain ⟨j', -, rfl⟩ := List.mem_map.mp hp'
    exact .inl hlt

/-- The order in which packets are sent is one in which they can arrive. -/
theorem arrival_sentInOrder (frs : List Frame) : Arrival (sentInOrder frs) := by
  have hsorted := sentInOrder_sorted frs
  constructor
  · exact List.Perm.refl _
  · apply hsorted.imp
    intro p p' h hlt
    obtain h | ⟨h, -⟩ := h
    · exact absurd (hlt.trans h) (lt_irrefl _)
    · rw [h] at hlt
      exact absurd hlt (lt_irrefl _)
  · apply hsorted.imp
    intro p p' h hf _
    obtain h | ⟨-, h⟩ := h
    · rw [hf] at h
      exact absurd h (lt_irrefl _)
    · exact h
  · intro i hi hne
    obtain ⟨k, hk⟩ := Nat.exists_eq_succ_of_ne_zero hne
    have hlt := (sentInOrder frs)[i].frame.isLt
    let p : Sent frs := ⟨⟨k, by omega⟩, ⟨0, (frs.get ⟨k, by omega⟩).size_pos⟩⟩
    obtain ⟨j, hj, he⟩ := List.getElem_of_mem (mem_sentInOrder p)
    refine ⟨p, List.mem_take_iff_getElem.mpr ⟨j, ?_, he⟩, hk.symm⟩
    by_contra hij
    have hle : i ≤ j := by omega
    obtain rfl | hlt' := hle.eq_or_lt
    · rw [he] at hk
      simp [p] at hk
    · have := List.pairwise_iff_getElem.mp hsorted i j hi hj hlt'
      rw [he, Fin.lt_def, Fin.ext_iff] at this
      simp only [p] at this
      omega

/-- A packet of the frames after the first, in the stream with the first. -/
def Sent.succ {fr : Frame} (p : Sent frs) : Sent (fr :: frs) := ⟨p.frame.succ, p.index⟩

theorem sentInOrder_cons (fr : Frame) : sentInOrder (fr :: frs) =
    (List.finRange ((fr :: frs).get 0).size).map (Sent.mk 0) ++ (sentInOrder frs).map Sent.succ := by
  have h : List.finRange (fr :: frs).length = 0 :: (List.finRange frs.length).map Fin.succ := List.finRange_succ
  rw [sentInOrder, h, List.flatMap_cons, List.flatMap_map, sentInOrder, List.map_flatMap]
  simp only [List.map_map]
  rfl

theorem map_finRange {β : Type} (n : Nat) (g : Nat → β) :
    (List.finRange n).map (fun j => g j.val) = (List.range' 0 n).map g := by
  rw [← List.range_eq_range', ← List.map_coe_finRange_eq_range, List.map_map]
  rfl

theorem sentBefore_cons (fr : Frame) (k : Nat) : sentBefore (fr :: frs) (k + 1) = fr.size + sentBefore frs k := by
  simp [sentBefore, packetCount]

theorem droppedBefore_cons (fr : Frame) (k : Nat) :
    droppedBefore (fr :: frs) (k + 1) = (if fr.drop then fr.size else 0) + droppedBefore frs k := by
  cases hd : fr.drop <;> simp [droppedBefore, packetCount, hd]

theorem Sent.packet_succ (f q : UInt16) (fr : Frame) (p : Sent frs) :
    (p.succ : Sent (fr :: frs)).packet f q = p.packet (f + 1) (q + UInt16.ofNat fr.size) := by
  show p.of.packet (f + UInt16.ofNat (p.frame.val + 1)) (q + UInt16.ofNat (sentBefore (fr :: frs) (p.frame + 1))) _
    = p.of.packet (f + 1 + UInt16.ofNat p.frame) _ _
  rw [Nat.add_comm p.frame.val 1, UInt16.ofNat_add 1, ← UInt16.add_assoc, Nat.add_comm 1, sentBefore_cons,
    UInt16.ofNat_add, ← UInt16.add_assoc]
  rfl

/-- In the order in which they are sent, the packets are those of the stream. -/
theorem sentInOrder_packets (f q : UInt16) (frs : List Frame) :
    (sentInOrder frs).map (Sent.packet f q) = streamPackets f q frs := by
  induction frs generalizing f q with
  | nil => rfl
  | cons fr frs ih =>
      rw [sentInOrder_cons, List.map_append, List.map_map, List.map_map, streamPackets, ← ih, Frame.packets,
        ← map_finRange]
      congr 1
      · apply List.map_congr_left
        intro j _
        show fr.packet (f + 0) (q + 0) j = fr.packet f q j
        rw [UInt16.add_zero, UInt16.add_zero]
      · apply List.map_congr_left
        intro p _
        exact p.packet_succ f q fr

theorem sentInOrder_numbers (f q : UInt16) (frs : List Frame) :
    (sentInOrder frs).map (Sent.number q) = idealNumbers (streamPackets f q frs) := by
  have hfrom : ∀ d, (sentInOrder frs).map (fun p => p.of.number (q + UInt16.ofNat (sentBefore frs p.frame))
      (d + droppedBefore frs p.frame) p.index) = numbersFrom Frame.size q d frs := by
    induction frs generalizing q with
    | nil => exact fun _ => rfl
    | cons fr frs ih =>
        intro d
        rw [sentInOrder_cons, List.map_append, List.map_map, List.map_map, numbersFrom, ← ih, Frame.numbers,
          ← map_finRange]
        congr 1
        · apply List.map_congr_left
          intro j _
          show fr.number (q + 0) d j = fr.number q d j
          rw [UInt16.add_zero]
        · apply List.map_congr_left
          intro p _
          show p.of.number (q + UInt16.ofNat (sentBefore (fr :: frs) (p.frame.val + 1)))
            (d + droppedBefore (fr :: frs) (p.frame.val + 1)) p.index = _
          rw [sentBefore_cons, droppedBefore_cons, UInt16.ofNat_add, ← UInt16.add_assoc, ← Nat.add_assoc]
          cases fr.drop <;> rfl
  rw [idealNumbers, idealNumbers_stream, ← hfrom 0]
  simp only [Nat.zero_add]
  rfl

end InOrder

namespace Frame
variable (fr : Frame) (f q : UInt16) (i : Nat)

theorem packet_mark_ne_start (h : i ≠ 0) : (fr.packet f q i).mark ≠ .start := by
  by_cases he : i + 1 = fr.size <;> simp [packet, markFromAV1FrameFlags, h, he]

theorem packet_mark_ending_iff : (fr.packet f q i).mark = .ending ↔ i + 1 = fr.size := by
  by_cases he : i + 1 = fr.size
  · simp [packet, markFromAV1FrameFlags, he]
  · by_cases h0 : i = 0 <;> simp [packet, markFromAV1FrameFlags, he, h0]

end Frame

namespace SequenceRewriter

/-! ## One packet -/

/-- After packet `j` of frame `fr`, the newest; it has number `f`, its first packet has sequence number `q`, and `d`
packets were dropped before it. For a frame that is kept, the recorded bounds do not matter. -/
structure Front (s : SequenceRewriter) (fr : Frame) (f q : UInt16) (d j : Nat) : Prop where
  maxFrame : s.maxFrame = f
  dropMaxFrame : s.dropMaxFrame = fr.drop
  startSeq : fr.drop = true → s.maxFrameStartSeq = q
  endSeen : fr.drop = true → s.maxFrameEndSeen = decide (j + 1 = fr.size)
  maxSeq : fr.drop = true → j + 1 = fr.size → s.maxFrameMaxSeq = q + UInt16.ofNat j
  dropCount : s.dropCount.toUInt16 =
    UInt16.ofNat (if fr.drop = true ∧ j + 1 = fr.size then d + fr.size else d)

variable {s : SequenceRewriter} {fr fr' : Frame} {f f' q q' : UInt16} {d j i : Nat}

theorem call_packet_number (h : fr.drop = false → (s.offset (fr.packet f q j)).toUInt16 = UInt16.ofNat d) :
    (s.call (fr.packet f q j)).2.map UInt32.toUInt16 = fr.number q d j := by
  rw [call_number (by rfl), Frame.number]
  cases hd : fr.drop with
  | true => simp [hd]
  | false => simp [hd, h hd]

theorem front_fresh (hf : 1 < f) (hs : 2 ≤ fr.size) (hj : fr.drop = true → j = 0) :
    Front (({} : SequenceRewriter).call (fr.packet f q j)).1 fr f q 0 j ∧
      (({} : SequenceRewriter).call (fr.packet f q j)).2.map UInt32.toUInt16 = fr.number q 0 j := by
  have hb : ({} : SequenceRewriter).branch (fr.packet f q j) = .first := branch_of_fresh hf rfl
  constructor
  · rw [call_of_branch rfl hb]
    cases hd : fr.drop with
    | false => constructor <;> simp [handle, firstPacket, hd]
    | true =>
        obtain rfl := hj hd
        have hm := fr.packet_mark_start f q hs
        have hne : ¬ 1 = fr.size := by omega
        constructor <;> simp [handle, firstPacket, hd, hm, hne]
  · apply call_packet_number
    intro _
    rw [SequenceRewriter.offset, hb]
    rfl

theorem Front.same (h : Front s fr f q d j) (hi : i < fr.size) (hsize : fr.drop = true → fr.size ≤ 65536)
    (hj : fr.drop = true → j < i) :
    Front (s.call (fr.packet f q i)).1 fr f q d i ∧
      (s.call (fr.packet f q i)).2.map UInt32.toUInt16 = fr.number q d i := by
  have hb : s.branch (fr.packet f q i) = .same := branch_of_eq h.maxFrame.symm
  constructor
  · rw [call_of_branch rfl hb]
    cases hd : fr.drop with
    | false =>
        have hm := h.dropMaxFrame
        have hc := h.dropCount
        rw [hd] at hm
        simp only [hd, Bool.false_eq_true, false_and, if_false] at hc
        constructor <;> simp [handle, sameFrame, hd, hm, hc, h.maxFrame]
    | true =>
        have hlt := hj hd
        have hle := hsize hd
        have hne : ¬ j + 1 = fr.size := by omega
        have hmark : (fr.packet f q i).mark ≠ .start := fr.packet_mark_ne_start f q i (by omega)
        have hend : (fr.packet f q i).mark = .ending ↔ i + 1 = fr.size :=
          fr.packet_mark_ending_iff f q i
        have hseen : s.maxFrameEndSeen = false := by rw [h.endSeen hd]; simp [hne]
        have hc : s.dropCount.toUInt16 = UInt16.ofNat d := by rw [h.dropCount, if_neg fun hh => hne hh.2]
        have hmeet : ¬ q + UInt16.ofNat i = q := by
          intro he
          have h0 : UInt16.ofNat i = 0 := by
            have := (add_eq_sub_iff q (UInt16.ofNat i) 0).mp (by simpa using he)
            simpa using this
          rw [ofNat_eq_zero_iff] at h0
          omega
        have hstart : s.sameFrameStartSeq (fr.packet f q i) = q := by
          rw [sameFrameStartSeq, if_neg hmark, h.startSeq hd, Frame.packet_seq, if_neg hmeet]
        constructor
        · simpa [handle, sameFrame] using h.maxFrame
        · simpa [handle, sameFrame] using h.dropMaxFrame
        · intro _
          simpa [handle, sameFrame] using hstart
        · intro _
          simp [handle, sameFrame, hend, hseen]
        · intro _ he
          simp [handle, sameFrame, hend.mpr he]
        · by_cases he : i + 1 = fr.size
          · have hsz : d + fr.size = d + i + 1 := by omega
            simp only [handle, sameFrame, noteDrop_dropCount, Frame.packet_drop, hd, hend, he, and_self, if_true,
              hstart, Frame.packet_seq, UInt32.toUInt16_add, UInt32.toUInt16_sub, UInt16.toUInt16_toUInt32, hc]
            rw [hsz, UInt16.ofNat_add (d + i), UInt16.ofNat_add d]
            have hspan := span_eq (UInt16.ofNat d) q (UInt16.ofNat i) 0
            rw [UInt16.sub_zero, UInt16.add_zero] at hspan
            exact hspan
          · simp [handle, sameFrame, hd, hend, he, hc]
  · apply call_packet_number
    intro hd
    rw [SequenceRewriter.offset, hb]
    show s.dropCount.toUInt16 = UInt16.ofNat d
    rw [h.dropCount, if_neg (by simp [hd])]

/-- The first packet to arrive of the next frame, when the newest frame is kept or has ended. -/
theorem Front.next (h : Front s fr f q d j) (hend : fr.drop = true → j + 1 = fr.size) (hf : f.toNat < 65535)
    (hs : 2 ≤ fr'.size) (hi : fr'.drop = true → i = 0) :
    Front (s.call (fr'.packet (f + 1) q' i)).1 fr' (f + 1) q' (d + if fr.drop then fr.size else 0) i ∧
      (s.call (fr'.packet (f + 1) q' i)).2.map UInt32.toUInt16
        = fr'.number q' (d + if fr.drop then fr.size else 0) i := by
  have hb : s.branch (fr'.packet (f + 1) q' i) = .next := by
    apply branch_of_succ
    rw [Frame.packet_frame, h.maxFrame, UInt16.toNat_add]
    exact Nat.mod_eq_of_lt (by show f.toNat + 1 < 65536; omega)
  have hc : s.dropCount.toUInt16 = UInt16.ofNat (d + if fr.drop then fr.size else 0) := by
    rw [h.dropCount]
    cases hd : fr.drop with
    | false => simp
    | true => simp [hend hd]
  have hseen : ¬ (s.dropMaxFrame ∧ ¬ s.maxFrameEndSeen) := by
    rintro ⟨hm, he⟩
    rw [h.dropMaxFrame] at hm
    rw [h.endSeen hm, hend hm] at he
    simp at he
  have hmark : fr'.drop = true → (fr'.packet (f + 1) q' i).mark = .start := by
    intro hd
    obtain rfl := hi hd
    exact fr'.packet_mark_start (f + 1) q' hs
  have hcount : s.nextFrameDropCount (fr'.packet (f + 1) q' i) = s.dropCount := by
    rw [nextFrameDropCount, if_neg hseen, if_neg]
    rintro ⟨hd, he⟩
    rw [hmark hd] at he
    cases he
  constructor
  · rw [call_of_branch rfl hb]
    cases hd : fr'.drop with
    | false => constructor <;> simp [handle, nextFrame, hd, hcount, hc]
    | true =>
        obtain rfl := hi hd
        have hne : ¬ 1 = fr'.size := by omega
        constructor <;> simp [handle, nextFrame, hd, hmark hd, hcount, hc, hne]
  · apply call_packet_number
    intro _
    rw [SequenceRewriter.offset, hb]
    show (s.nextFrameDropCount _).toUInt16 = _
    rw [hcount, hc]

/-- A late packet of the kept frame before the newest. -/
theorem Front.past (h : Front s fr f q d j) (hk : fr'.drop = false) (hf : f'.toNat + 1 = f.toNat) :
    (s.call (fr'.packet f' q' i)).1 = s ∧
      (s.call (fr'.packet f' q' i)).2.map UInt32.toUInt16 = fr'.number q' d i := by
  have hb : s.branch (fr'.packet f' q' i) = .past := by
    apply branch_of_lt
    rw [Frame.packet_frame, h.maxFrame, UInt16.lt_iff_toNat_lt]
    omega
  constructor
  · rw [call_of_branch rfl hb]
    simp [handle, pastFrame, noteDrop, hk]
  · apply call_packet_number
    intro _
    rw [SequenceRewriter.offset, hb]
    show (s.pastFrameOffset _).toUInt16 = _
    have hadj : (fr'.packet f' q' i).frame.toNat + 1 = s.maxFrame.toNat := by
      rw [Frame.packet_frame, h.maxFrame, hf]
    rw [pastFrameOffset, h.dropMaxFrame]
    cases hd : fr.drop with
    | false =>
        have hc := h.dropCount
        simp only [hd, Bool.false_eq_true, false_and, if_false] at hc
        simp [hc]
    | true =>
        rw [h.endSeen hd]
        by_cases he : j + 1 = fr.size
        · have hsz : d + fr.size = d + j + 1 := by omega
          simp only [hadj, he, decide_true, and_self, if_true, UInt32.toUInt16_sub, UInt32.toUInt16_add,
            UInt16.toUInt16_toUInt32, h.dropCount, h.maxSeq hd he, h.startSeq hd, hd]
          rw [hsz, UInt16.ofNat_add (d + j), UInt16.ofNat_add d]
          have hspan := span_eq 0 q (UInt16.ofNat j) 0
          rw [UInt16.sub_zero, UInt16.add_zero, UInt16.zero_add, UInt16.zero_add] at hspan
          show UInt16.ofNat d + UInt16.ofNat j + 1 - (q + UInt16.ofNat j - q + 1) = _
          rw [hspan]
          grind
        · have hc := h.dropCount
          simp only [he, and_false, if_false] at hc
          simp [he, hc]

/-! ## A run -/

/-- `Front` for a packet of a stream that starts with frame number `f` and sequence number `q`. -/
def FrontAt {frs : List Frame} (s : SequenceRewriter) (f q : UInt16) (p : Sent frs) : Prop :=
  Front s p.of (f + UInt16.ofNat p.frame) (q + UInt16.ofNat (sentBefore frs p.frame))
    (droppedBefore frs p.frame) p.index

section Run
variable {frs : List Frame} {order l r : List (Sent frs)} {p x : Sent frs}
  (hn : f.toNat + frs.length ≤ 65536) (hsize : ∀ fr ∈ frs, 2 ≤ fr.size)
  (hdrop : ∀ fr ∈ frs, fr.drop = true → fr.size ≤ 65536)
include hn

theorem frame_toNat (k : Fin frs.length) : (f + UInt16.ofNat k).toNat = f.toNat + k := by
  have hk := k.isLt
  rw [UInt16.toNat_add, UInt16.toNat_ofNat_of_lt' (by show (k : Nat) < 65536; omega)]
  exact Nat.mod_eq_of_lt (by show _ < 65536; omega)

include hsize hdrop

theorem FrontAt.arrive (h : FrontAt s f q p) (ha : Arrival order) (he : order = l ++ x :: r) (hp : Newest l p) :
    ∃ p', Newest (l ++ [x]) p' ∧ FrontAt (s.call (x.packet f q)).1 f q p' ∧
      (s.call (x.packet f q)).2.map UInt32.toUInt16 = x.number q := by
  obtain ⟨hlate, hk⟩ | ⟨hf, hi⟩ | ⟨hnext, hnew⟩ := ha.next_cases he hp
  · have hd : droppedBefore frs p.frame = droppedBefore frs x.frame := by
      have hk' : frs[x.frame.val].drop = false := hk
      rw [← hlate, droppedBefore_succ x.frame.isLt]
      simp [hk']
    have hpast : (s.call (x.packet f q)).1 = s ∧ (s.call (x.packet f q)).2.map UInt32.toUInt16
        = x.of.number (q + UInt16.ofNat (sentBefore frs x.frame)) (droppedBefore frs p.frame) x.index :=
      Front.past h hk (by rw [frame_toNat hn, frame_toNat hn]; omega)
    rw [hd] at hpast
    refine ⟨p, hp.push_late (by rw [Fin.lt_def]; omega), ?_, hpast.2⟩
    rw [hpast.1]
    exact h
  · refine ⟨x, hp.push (le_of_eq hf.symm) fun _ => hi, ?_⟩
    obtain ⟨k, j⟩ := p
    obtain ⟨k', i⟩ := x
    obtain rfl : k' = k := hf
    exact Front.same h i.isLt (hdrop _ (List.get_mem frs k')) hi
  · have hlt : p.frame < x.frame := by rw [Fin.lt_def]; omega
    have hne : x.frame ≠ p.frame := ne_of_gt hlt
    refine ⟨x, hp.push (le_of_lt hlt) fun hx => absurd hx hne, ?_⟩
    have hd : droppedBefore frs x.frame = droppedBefore frs p.frame + if p.of.drop then p.of.size else 0 := by
      rw [hnext, droppedBefore_succ p.frame.isLt]
      rfl
    have hfn : f + UInt16.ofNat x.frame = f + UInt16.ofNat p.frame + 1 := by
      rw [hnext, UInt16.ofNat_add]
      exact (UInt16.add_assoc _ _ _).symm
    have hlt' : (f + UInt16.ofNat p.frame).toNat < 65535 := by
      have := x.frame.isLt
      rw [frame_toNat hn]
      omega
    rw [FrontAt, Sent.packet, Sent.number, hd, hfn]
    exact Front.next h (ha.ended he hp hlt) hlt' (hsize _ x.of_mem) (ha.index_eq_zero he hnew)

theorem FrontAt.run (r : List (Sent frs)) : ∀ {s : SequenceRewriter} {l : List (Sent frs)} {p : Sent frs},
    FrontAt s f q p → Arrival order → order = l ++ r → Newest l p →
    s.numbers (r.map (Sent.packet f q)) = r.map (Sent.number q) := by
  induction r with
  | nil =>
      intro s l p _ _ _ _
      rfl
  | cons x r ih =>
      intro s l p h ha he hp
      obtain ⟨p', hp', h', hnum⟩ := h.arrive hn hsize hdrop ha he hp
      have hrest := ih h' ha (by rw [he, List.append_assoc, List.singleton_append]) hp'
      rw [List.map_cons, numbers_cons, hnum, hrest, List.map_cons]

/-- **Reordering between adjacent frames is harmless.** However the packets of a kept frame other than its first to
arrive are mixed with those of the next frame, each forwarded packet gets its number less the packets dropped in the
frames before its own. -/
theorem reordered_exact (hf : 2 ≤ f) (ha : Arrival order) :
    ({} : SequenceRewriter).numbers (order.map (Sent.packet f q)) = order.map (Sent.number q) := by
  cases horder : order with
  | nil => rfl
  | cons x r =>
      have he : order = [] ++ x :: r := horder
      have hx : x.frame.val = 0 := by
        by_contra hx
        obtain ⟨y, hy, -⟩ := ha.opened he hx
        cases hy
      have hf' : 1 < f + UInt16.ofNat x.frame := by
        rw [UInt16.le_iff_toNat_le] at hf
        rw [UInt16.lt_iff_toNat_lt, frame_toNat hn, hx]
        exact hf
      have hfresh := front_fresh (q := q + UInt16.ofNat (sentBefore frs x.frame)) (j := x.index) hf'
        (hsize _ x.of_mem) (ha.index_eq_zero he (by simp))
      have hd : droppedBefore frs x.frame = 0 := by rw [hx]; rfl
      have hfront : FrontAt (({} : SequenceRewriter).call (x.packet f q)).1 f q x := by
        rw [FrontAt, hd]
        exact hfresh.1
      have hnum : (({} : SequenceRewriter).call (x.packet f q)).2.map UInt32.toUInt16 = x.number q := by
        rw [Sent.number, hd]
        exact hfresh.2
      have hnewest : Newest [x] x := by
        constructor <;> simp
      rw [List.map_cons, numbers_cons, hnum, hfront.run hn hsize hdrop r ha horder hnewest, List.map_cons]

end Run

/-- Two kept frames around a dropped one, and a fourth. -/
def mixedFrames : List Frame :=
  [⟨3, false, by decide⟩, ⟨2, true, Nat.two_pos⟩, ⟨2, false, Nat.two_pos⟩, ⟨2, false, Nat.two_pos⟩]

/-- Late packets before and after the last packet of the dropped frame, and two kept frames mixed. -/
def mixedOrder : List (Sent mixedFrames) :=
  [1, 3, 0, 4, 2, 6, 7, 5, 8].filterMap fun i => (sentInOrder mixedFrames)[i]?

theorem reordered_exact_mixed :
    ({} : SequenceRewriter).numbers (mixedOrder.map (Sent.packet 7 65533)) = mixedOrder.map (Sent.number 65533) :=
  reordered_exact (by decide) (by decide) (by decide) (by decide)
    ⟨by decide, by decide, by decide, by decide⟩

/-- A dropped frame of `2^16 + 1` packets is counted as one packet more, also when nothing is late. -/
theorem large_frame_not_reordered_exact :
    let frs : List Frame := [⟨2, false, by decide⟩, ⟨65537, true, by decide⟩, ⟨2, false, by decide⟩]
    (2 : UInt16) ≤ 2 ∧ (2 : UInt16).toNat + frs.length ≤ 65536 ∧ (∀ fr ∈ frs, 2 ≤ fr.size) ∧
      Arrival (sentInOrder frs) ∧
      ¬ ({} : SequenceRewriter).numbers ((sentInOrder frs).map (Sent.packet 2 0))
        = (sentInOrder frs).map (Sent.number 0) := by
  intro frs
  refine ⟨by decide, by decide, by decide, arrival_sentInOrder frs, ?_⟩
  rw [sentInOrder_packets, sentInOrder_numbers 2, numbers_eq_ideal_iff 0 (by decide) (by decide) (by decide)]
  intro h
  have h1 := h [⟨2, false, by decide⟩, ⟨65537, true, by decide⟩] ⟨2, false, by decide⟩ [] rfl rfl
  have hs : surplusOf [⟨2, false, by decide⟩, ⟨65537, true, by decide⟩] = 1 := by
    simp [surplusOf, surplus]
  rw [hs] at h1
  exact absurd h1 (by decide)

end SequenceRewriter

end Scallop
