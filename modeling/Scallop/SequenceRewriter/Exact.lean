import Mathlib.Data.List.ReduceOption
import Scallop.SequenceRewriter.InOrder

/-!
# When the renumbering is exact

* `numbers_eq_ideal_iff` : without wrap of the frame number, the rewriter renumbers a lossless
  in-order stream ideally iff no forwarded frame comes after dropped frames with a surplus;
* `numbers_exact` : in particular if no dropped frame has more than `2^16` packets, and then the
  forwarded packets have consecutive numbers;
* `exact_and_newer_iff` : frame numbers that wrap are not survived.
-/

namespace Scallop

open Machine

/-! ## Consecutive numbers -/

/-- Sequence numbers `q`, `q + 1`, ... -/
def Consecutive : UInt16 → List Pkt → Prop
  | _, [] => True
  | q, pkt :: pkts => pkt.seq = q ∧ Consecutive (q + 1) pkts

theorem consecutive_append (q : UInt16) (xs ys : List Pkt) :
    Consecutive q (xs ++ ys) ↔
      Consecutive q xs ∧ Consecutive (q + UInt16.ofNat xs.length) ys := by
  induction xs generalizing q with
  | nil => simp [Consecutive]
  | cons x xs ih =>
      have hq : q + 1 + UInt16.ofNat xs.length = q + UInt16.ofNat (xs.length + 1) := by
        rw [UInt16.ofNat_add]
        exact (SequenceRewriter.shift_one _ _).symm
      rw [List.cons_append, Consecutive, ih, Consecutive, hq, List.length_cons, and_assoc]

theorem Frame.consecutive_packets (fr : Frame) (f q : UInt16) (j n : Nat) :
    Consecutive (q + UInt16.ofNat j) ((List.range' j n).map (fr.packet f q)) := by
  induction n generalizing j with
  | zero => trivial
  | succ n ih =>
      have hj : q + UInt16.ofNat j + 1 = q + UInt16.ofNat (j + 1) := by
        rw [UInt16.ofNat_add, SequenceRewriter.shift_one']
        exact (SequenceRewriter.shift_one' _ _).symm.trans (UInt16.add_assoc _ _ _)
      rw [List.range'_succ, List.map_cons, Consecutive, hj]
      exact ⟨rfl, ih (j + 1)⟩

theorem streamPackets_consecutive (f q : UInt16) (frs : List Frame) :
    Consecutive q (streamPackets f q frs) := by
  induction frs generalizing f q with
  | nil => trivial
  | cons fr frs ih =>
      rw [streamPackets, consecutive_append]
      refine ⟨?_, ?_⟩
      · have h := fr.consecutive_packets f q 0 fr.size
        rwa [show q + UInt16.ofNat 0 = q from UInt16.add_zero q] at h
      · have hl : (fr.packets f q).length = fr.size := by simp [Frame.packets]
        rw [hl]
        exact ih _ _

theorem ideal_consecutive (q : UInt16) (d : Nat) (pkts : List Pkt) (h : Consecutive q pkts) :
    (outputs idealStep d pkts).reduceOption =
      (List.range' 0 (pkts.countP fun pkt => !pkt.drop)).map
        fun i => q - UInt16.ofNat d + UInt16.ofNat i := by
  induction pkts generalizing q d with
  | nil => rfl
  | cons pkt pkts ih =>
      obtain ⟨hq, hc⟩ := h
      rw [outputs_cons]
      cases hd : pkt.drop with
      | true =>
          have hs : idealStep d pkt = (d + 1, none) := by simp [idealStep, hd]
          have he : q + 1 - UInt16.ofNat (d + 1) = q - UInt16.ofNat d := by
            rw [UInt16.ofNat_add]
            change q + 1 - (UInt16.ofNat d + 1) = q - UInt16.ofNat d
            grind
          rw [hs, List.reduceOption_cons_of_none, ih (q + 1) (d + 1) hc, he,
            List.countP_cons_of_neg (by simp [hd])]
      | false =>
          have hs : idealStep d pkt = (d, some (pkt.seq - UInt16.ofNat d)) := by
            simp [idealStep, hd]
          rw [hs, List.reduceOption_cons_of_some, ih (q + 1) d hc, hq,
            List.countP_cons_of_pos (by simp [hd]), List.range'_succ, List.map_cons]
          congr 1
          · simp
          · rw [List.range'_succ_left, List.map_map]
            refine List.map_congr_left fun i _ => ?_
            rw [Function.comp_apply, UInt16.ofNat_add]
            change q + 1 - UInt16.ofNat d + UInt16.ofNat i
              = q - UInt16.ofNat d + (UInt16.ofNat i + 1)
            grind

namespace SequenceRewriter

/-! ## Surplus -/

/-- The surplus of the dropped frames of a list. -/
def surplusOf (frs : List Frame) : Nat := ((frs.filter Frame.drop).map fun fr => surplus fr.size).sum

/-- Before every forwarded frame the surplus is a multiple of `2^16`. -/
def SurplusFree (frs : List Frame) : Prop :=
  ∀ pre fr post, frs = pre ++ fr :: post → fr.drop = false → 65536 ∣ surplusOf pre

theorem surplusOf_cons (fr : Frame) (frs : List Frame) :
    surplusOf (fr :: frs) = (if fr.drop then surplus fr.size else 0) + surplusOf frs := by
  cases hd : fr.drop <;> simp [surplusOf, hd]

theorem surplusOf_eq_zero {frs : List Frame} (h : ∀ fr ∈ frs, fr.drop = true → fr.size ≤ 65536) :
    surplusOf frs = 0 := by
  induction frs with
  | nil => rfl
  | cons fr frs ih =>
      rw [surplusOf_cons, ih fun x hx => h x (List.mem_cons_of_mem _ hx), Nat.add_zero]
      split
      · next hd => exact surplus_eq_zero (h fr List.mem_cons_self hd)
      · rfl

theorem surplusFree_of_size {frs : List Frame}
    (h : ∀ fr ∈ frs, fr.drop = true → fr.size ≤ 65536) : SurplusFree frs := by
  intro pre fr post he _
  rw [surplusOf_eq_zero fun x hx => h x (he ▸ List.mem_append_left _ hx)]
  exact Nat.dvd_zero _

/-- Every way to split a nonempty list around one of its members. -/
theorem forall_split_cons {α : Type*} {x : α} {xs : List α} {A : List α → α → Prop} :
    (∀ pre y post, x :: xs = pre ++ y :: post → A pre y) ↔
      A [] x ∧ ∀ pre y post, xs = pre ++ y :: post → A (x :: pre) y := by
  constructor
  · intro h
    refine ⟨h [] x xs rfl, fun pre y post he => h (x :: pre) y post ?_⟩
    rw [he, List.cons_append]
  · rintro ⟨h0, h1⟩ pre y post he
    cases pre with
    | nil =>
        rw [List.nil_append, List.cons.injEq] at he
        exact he.1 ▸ h0
    | cons z pre =>
        rw [List.cons_append, List.cons.injEq] at he
        exact he.1 ▸ h1 pre y post he.2

/-- The numbers of one frame with `x` packets too many counted. -/
theorem frame_numbers_eq_iff (fr : Frame) (q : UInt16) (d x : Nat) :
    fr.numbers q (d + x) = fr.numbers q d ↔ (fr.drop = false → x % 65536 = 0) := by
  cases hd : fr.drop with
  | true => simp [Frame.numbers, Frame.number, hd]
  | false =>
      have hx : ∀ j, fr.number q (d + x) j = fr.number q d j ↔ x % 65536 = 0 := by
        intro j
        rw [Frame.number, Frame.number, hd, if_neg Bool.false_ne_true, if_neg Bool.false_ne_true,
          Option.some_inj, UInt16.ofNat_add, ← ofNat_eq_zero_iff]
        constructor <;> intro h <;> grind
      rw [Frame.numbers_eq_cons, Frame.numbers_eq_cons, List.cons.injEq, hx 0]
      constructor
      · rintro ⟨h, -⟩ -
        exact h
      · intro h
        exact ⟨h rfl, List.map_congr_left fun j _ => (hx j).mpr (h rfl)⟩

/-- The numbers of a stream with `x` packets too many counted before it. -/
theorem numbersFrom_eq_iff (q : UInt16) (d x : Nat) (frs : List Frame) :
    numbersFrom counted q (d + x) frs = numbersFrom Frame.size q d frs ↔
      ∀ pre fr post, frs = pre ++ fr :: post → fr.drop = false →
        (x + surplusOf pre) % 65536 = 0 := by
  induction frs generalizing q d x with
  | nil => simp [numbersFrom]
  | cons fr frs ih =>
      have hcount : (if fr.drop then d + x + counted fr else d + x)
          = (if fr.drop then d + fr.size else d) + (x + if fr.drop then surplus fr.size else 0) := by
        cases hd : fr.drop with
        | false => simp
        | true =>
            simp only [if_true, counted]
            omega
      rw [forall_split_cons, numbersFrom, numbersFrom, hcount]
      have happ : ∀ a b c e : List (Option UInt16), a.length = c.length →
          (a ++ b = c ++ e ↔ a = c ∧ b = e) := fun a b c e hl =>
        ⟨fun h => List.append_inj h hl, fun h => by rw [h.1, h.2]⟩
      rw [happ _ _ _ _ (by rw [Frame.numbers_length, Frame.numbers_length]),
        frame_numbers_eq_iff, ih]
      refine and_congr (by simp [surplusOf]) ?_
      refine forall_congr' fun pre => forall_congr' fun y => forall_congr' fun post => ?_
      rw [surplusOf_cons, Nat.add_assoc]

/-! ## Exactness -/

section Exact
variable {f₀ : UInt16} (q₀ : UInt16) {first : Frame} {rest : List Frame}

/-- A stream whose frame numbers do not wrap. -/
theorem numbers_stream (hf : 2 ≤ f₀) (hn : f₀.toNat + rest.length ≤ 65535)
    (hs : 2 ≤ first.size) :
    ({} : SequenceRewriter).numbers (streamPackets f₀ q₀ (first :: rest))
        = numbersFrom counted q₀ 0 (first :: rest) ∧
      ∃ e d, AtBoundary (final call {} (streamPackets f₀ q₀ (first :: rest)))
        (f₀ + UInt16.ofNat rest.length) e d := by
  have hf' : 1 < f₀ := by
    rw [UInt16.le_iff_toNat_le] at hf
    rw [UInt16.lt_iff_toNat_lt]
    exact hf
  obtain ⟨ho, hb⟩ := numbers_first_frame first q₀ hf' hs
  obtain ⟨ho', d, hm⟩ := hb.numbers_stream hn
  have hq : q₀ + UInt16.ofNat (first.size - 1) + 1 = q₀ + UInt16.ofNat first.size := by
    obtain ⟨n, hn⟩ := Nat.exists_eq_succ_of_ne_zero (Nat.pos_iff_ne_zero.mp first.size_pos)
    rw [hn, Nat.succ_sub_one, Nat.succ_eq_add_one, UInt16.ofNat_add]
    exact UInt16.add_assoc _ _ _
  rw [hq] at ho' hm
  rw [streamPackets, numbers_append, final_append, ho, ho', numbersFrom, Nat.zero_add]
  exact ⟨rfl, _, d, hm⟩

theorem numbers_eq_ideal_iff (hf : 2 ≤ f₀) (hn : f₀.toNat + rest.length ≤ 65535)
    (hs : 2 ≤ first.size) :
    ({} : SequenceRewriter).numbers (streamPackets f₀ q₀ (first :: rest))
        = idealNumbers (streamPackets f₀ q₀ (first :: rest)) ↔ SurplusFree (first :: rest) := by
  rw [(numbers_stream q₀ hf hn hs).1, idealNumbers, idealNumbers_stream]
  have h := numbersFrom_eq_iff q₀ 0 0 (first :: rest)
  simp only [Nat.zero_add, ← Nat.dvd_iff_mod_eq_zero] at h
  exact h

/-- **Lossless in-order streams are renumbered exactly**, and the forwarded packets then have
consecutive numbers. -/
theorem lossless_in_order_exact (hf : 2 ≤ f₀) (hn : f₀.toNat + rest.length ≤ 65535)
    (hs : 2 ≤ first.size) (hd : ∀ fr ∈ first :: rest, fr.drop = true → fr.size ≤ 65536) :
    ({} : SequenceRewriter).numbers (streamPackets f₀ q₀ (first :: rest))
        = idealNumbers (streamPackets f₀ q₀ (first :: rest)) ∧
      (({} : SequenceRewriter).numbers (streamPackets f₀ q₀ (first :: rest))).reduceOption
        = (List.range' 0
            ((streamPackets f₀ q₀ (first :: rest)).countP fun pkt => !pkt.drop)).map
          fun i => q₀ + UInt16.ofNat i := by
  have he := (numbers_eq_ideal_iff q₀ hf hn hs).mpr (surplusFree_of_size hd)
  refine ⟨he, ?_⟩
  rw [he, idealNumbers, ideal_consecutive q₀ 0 _ (streamPackets_consecutive f₀ q₀ _)]
  exact List.map_congr_left fun i _ => by rw [show UInt16.ofNat 0 = 0 from rfl, UInt16.sub_zero]

theorem lossless_in_order_exact_wrapping :
    ({} : SequenceRewriter).numbers
        (streamPackets 2 65534 [⟨2, false, by decide⟩, ⟨1, true, by decide⟩, ⟨3, false, by decide⟩])
        = idealNumbers (streamPackets 2 65534
            [⟨2, false, by decide⟩, ⟨1, true, by decide⟩, ⟨3, false, by decide⟩]) ∧
      (({} : SequenceRewriter).numbers (streamPackets 2 65534
          [⟨2, false, by decide⟩, ⟨1, true, by decide⟩, ⟨3, false, by decide⟩])).reduceOption
        = (List.range' 0 ((streamPackets 2 65534
            [⟨2, false, by decide⟩, ⟨1, true, by decide⟩, ⟨3, false, by decide⟩]).countP
              fun pkt => !pkt.drop)).map fun i => 65534 + UInt16.ofNat i :=
  lossless_in_order_exact 65534 (by decide) (by decide) (by decide) (by decide)

/-- A dropped frame of `2^16 + 1` packets is counted as one packet more. -/
theorem large_frame_not_exact :
    ¬ ({} : SequenceRewriter).numbers
        (streamPackets 2 0 [⟨2, false, by decide⟩, ⟨65537, true, by decide⟩, ⟨1, false, by decide⟩])
      = idealNumbers (streamPackets 2 0
        [⟨2, false, by decide⟩, ⟨65537, true, by decide⟩, ⟨1, false, by decide⟩]) := by
  rw [numbers_eq_ideal_iff 0 (by decide) (by decide) (by decide)]
  intro h
  have h1 := h [⟨2, false, by decide⟩, ⟨65537, true, by decide⟩] ⟨1, false, by decide⟩ [] rfl rfl
  have hs : surplusOf [⟨2, false, by decide⟩, ⟨65537, true, by decide⟩] = 1 := by
    simp [surplusOf, surplus]
  rw [hs] at h1
  exact absurd h1 (by decide)

/-! ## Wrap of the frame number -/

/-- The first packet of every frame is handled as one of a newer frame. -/
def HandledAsNewer (f₀ q₀ : UInt16) (frs : List Frame) : Prop :=
  ∀ pre fr post, frs = pre ++ fr :: post →
    (final call {} (streamPackets f₀ q₀ pre ++
      [fr.packet (f₀ + UInt16.ofNat pre.length) (q₀ + UInt16.ofNat (packetCount pre)) 0])).maxFrame
        = f₀ + UInt16.ofNat pre.length

/-- From the second frame on: as long as the frame before it is not number `65535`. -/
theorem newer_iff (hf : 2 ≤ f₀) (hs : 2 ≤ first.size) (q : UInt16) (pre : List Frame)
    (fr : Frame) (hn : f₀.toNat + pre.length ≤ 65535) :
    (final call {} (streamPackets f₀ q₀ (first :: pre) ++
        [fr.packet (f₀ + UInt16.ofNat (pre.length + 1)) q 0])).maxFrame
        = f₀ + UInt16.ofNat (pre.length + 1) ↔ f₀.toNat + pre.length < 65535 := by
  obtain ⟨-, e, d, hb⟩ := numbers_stream q₀ hf hn hs
  have hl : f₀ + UInt16.ofNat (pre.length + 1) = f₀ + UInt16.ofNat pre.length + 1 := by
    rw [UInt16.ofNat_add]
    exact (UInt16.add_assoc _ _ _).symm
  have hv : (f₀ + UInt16.ofNat pre.length).toNat = f₀.toNat + pre.length := by
    rw [UInt16.toNat_add, UInt16.toNat_ofNat_of_lt' (by change pre.length < 65536; omega)]
    exact Nat.mod_eq_of_lt (by change _ < 65536; omega)
  rw [final_append, hl, final_cons, final_nil, hb.newer_iff fr q, hv]

/-- **Wrap of the frame number.** Every forwarded packet of a lossless in-order stream gets its
number less the packets dropped before it, and every frame is handled as newer than the one before,
iff the frame numbers stay below `2^16` and no surplus is counted. -/
theorem exact_and_newer_iff (hf : 2 ≤ f₀) (hs : 2 ≤ first.size) :
    (({} : SequenceRewriter).numbers (streamPackets f₀ q₀ (first :: rest))
        = idealNumbers (streamPackets f₀ q₀ (first :: rest)) ∧
      HandledAsNewer f₀ q₀ (first :: rest)) ↔
    (f₀.toNat + rest.length ≤ 65535 ∧ SurplusFree (first :: rest)) := by
  constructor
  · rintro ⟨he, hnew⟩
    have hn : f₀.toNat + rest.length ≤ 65535 := by
      by_contra hwrap
      have hlt := f₀.toNat_lt
      have hk : 65535 - f₀.toNat < rest.length := by omega
      have hsplit : first :: rest = (first :: rest.take (65535 - f₀.toNat)) ++
          rest[65535 - f₀.toNat] :: rest.drop (65535 - f₀.toNat + 1) := by
        rw [List.cons_append, ← List.drop_eq_getElem_cons hk, List.take_append_drop]
      have hlen : (rest.take (65535 - f₀.toNat)).length = 65535 - f₀.toNat := by
        rw [List.length_take]
        omega
      have h := hnew _ _ _ hsplit
      rw [List.length_cons, newer_iff q₀ hf hs _ _ _ (by rw [hlen]; omega), hlen] at h
      omega
    exact ⟨hn, (numbers_eq_ideal_iff q₀ hf hn hs).mp he⟩
  · rintro ⟨hn, hfree⟩
    refine ⟨(numbers_eq_ideal_iff q₀ hf hn hs).mpr hfree, ?_⟩
    intro pre fr post he
    cases pre with
    | nil =>
        rw [List.nil_append, List.cons.injEq] at he
        have hf' : 1 < f₀ := by
          rw [UInt16.le_iff_toNat_le] at hf
          rw [UInt16.lt_iff_toNat_lt]
          exact hf
        have h := (inFrame_fresh fr (q₀ + UInt16.ofNat 0) hf' (by rw [← he.1]; exact hs)).1.maxFrame
        simpa [streamPackets, packetCount] using h
    | cons x pre =>
        rw [List.cons_append, List.cons.injEq] at he
        have hl : rest.length = pre.length + (post.length + 1) := by
          rw [he.2, List.length_append, List.length_cons]
        rw [← he.1, List.length_cons, newer_iff q₀ hf hs _ _ _ (by omega)]
        omega

theorem exact_and_newer_iff_short :
    (({} : SequenceRewriter).numbers
        (streamPackets 65534 7 [⟨2, false, by decide⟩, ⟨2, true, by decide⟩])
        = idealNumbers (streamPackets 65534 7 [⟨2, false, by decide⟩, ⟨2, true, by decide⟩]) ∧
      HandledAsNewer 65534 7 [⟨2, false, by decide⟩, ⟨2, true, by decide⟩]) ↔
    ((65534 : UInt16).toNat + 1 ≤ 65535 ∧
      SurplusFree [⟨2, false, by decide⟩, ⟨2, true, by decide⟩]) :=
  exact_and_newer_iff 7 (by decide) (by decide)

/-- After frame `65535`, frame `0` is dropped but not counted: frame `1` keeps its numbers. -/
theorem wrap_not_exact :
    ¬ ({} : SequenceRewriter).numbers
        (streamPackets 65535 10 [⟨2, false, by decide⟩, ⟨2, true, by decide⟩, ⟨2, false, by decide⟩])
      = idealNumbers (streamPackets 65535 10
        [⟨2, false, by decide⟩, ⟨2, true, by decide⟩, ⟨2, false, by decide⟩]) := by
  decide

end Exact

end SequenceRewriter

end Scallop
