import Scallop.DataPlane.TemplateStructure

/-!
# Reading bits

`util::extractBits` of `lib/util.h`, on 32-bit numbers, and `Bitstream` of `lib/bitstream.cc`.

* `orLoop` : a number that is put together bit by bit; `orLoop_toNat`;
* `fillBits` : a bit vector that is written bit by bit; `fillBits_eq`;
* `extractBits`, `Bitstream.extract`; `readers_agree` : they reject the same ranges and read the same numbers.
-/

namespace Scallop

open Av1 (bitsToNat)

namespace Util

/-! ## Loops over bits -/

/-- `a |= bit << (top - k)`, for `n` bits. -/
def orLoop (bit : Nat → Bool) (top n : Nat) : UInt32 :=
  (List.range n).foldl (fun a k => a ||| (UInt32.ofNat (bit k).toNat <<< UInt32.ofNat (top - k))) 0

/-- `util::extractBits`; the end of the range is computed in 32 bits. -/
def extractBits (bits : List Bool) (start len : UInt32) : Except Fault UInt32 :=
  if (start + len).toNat > bits.length then
    .error (.invalidArgument "util:extractBits: requested range outside of bit vector")
  else if len > 32 ∨ len < 1 then
    .error (.invalidArgument "util:extractBits: len must be > 0 and <= 32")
  else .ok (orLoop (fun k => bits.getD (start.toNat + k) false) (len.toNat - 1) ((start + len).toNat - start.toNat))

/-- The bits of every byte, from the highest one on, written where `index` says. -/
def fillBits (index : Nat → Nat → Nat) (buf : Buf) (bits : List Bool) : List Bool :=
  (List.range buf.length).foldl (fun bits i => [7, 6, 5, 4, 3, 2, 1, 0].foldl (fun bits j =>
    bits.set (index i j) ((buf.getD i 0 >>> UInt8.ofNat j) &&& 1 = 1)) bits) bits

/-- `DependencyDescriptor::_bit_vector_from_bytes`, with its writes; the size is computed in 32 bits. -/
def bitVectorWrites (buf : Buf) : List Bool :=
  fillBits (fun i j => (i + 1) * 8 - j - 1) buf (List.replicate (buf.length * 8 % 2 ^ 32) false)

end Util

structure Bitstream where
  data : List Bool

namespace Bitstream

def ofBytes (buf : Buf) : Bitstream where
  data := Util.fillBits (fun byteIndex bitIndex => byteIndex * 8 + (8 - bitIndex) - 1) buf
    (List.replicate (buf.length * 8) false)

def isValidIdx (s : Bitstream) (idx : Nat) : Bool := idx < s.data.length

def extract (s : Bitstream) (idxFrom n : Nat) : Except Fault UInt32 :=
  if 0 < n ∧ n ≤ 32 ∧ s.isValidIdx idxFrom ∧ s.isValidIdx (idxFrom + n - 1) then
    .ok (Util.orLoop (fun i => s.data.getD (idxFrom + i) false) (n - 1) n)
  else .error (.invalidArgument "Bitstream: extract: index out of range")

end Bitstream

namespace Util

/-! ## Numbers -/

theorem bitsToNat_append_singleton (bits : List Bool) (b : Bool) :
    bitsToNat (bits ++ [b]) = 2 * bitsToNat bits + b.toNat := by
  unfold Av1.bitsToNat
  rw [List.foldl_append]
  rfl

theorem bitsToNat_lt (bits : List Bool) : bitsToNat bits < 2 ^ bits.length := by
  induction bits using List.reverseRecOn with
  | nil => decide
  | append_singleton bits b ih =>
      have hb := b.toNat_lt
      rw [bitsToNat_append_singleton, List.length_append, List.length_singleton, Nat.pow_succ]
      omega

theorem or_shift {a : UInt32} {b : Bool} {j x : Nat} (ha : a.toNat = x * 2 ^ (j + 1)) (hj : j < 32) :
    (a ||| (UInt32.ofNat b.toNat <<< UInt32.ofNat j)).toNat = (2 * x + b.toNat) * 2 ^ j := by
  have hb := b.toNat_lt
  have hpow : 2 ^ j ≤ 2 ^ 31 := Nat.pow_le_pow_right (by decide) (by omega)
  have hsmall : b.toNat * 2 ^ j < 2 ^ (j + 1) := by
    rw [Nat.pow_succ, Nat.mul_comm (2 ^ j) 2]
    exact Nat.mul_lt_mul_of_pos_right hb (Nat.two_pow_pos j)
  have hbit : (UInt32.ofNat b.toNat <<< UInt32.ofNat j).toNat = b.toNat * 2 ^ j := by
    have hb' : b.toNat < 2 ^ 32 := by omega
    have hj' : j < 2 ^ 32 := by omega
    have hfits : b.toNat * 2 ^ j < 2 ^ 32 :=
      lt_of_lt_of_le hsmall (Nat.pow_le_pow_right (by decide) (by omega))
    rw [UInt32.toNat_shiftLeft, UInt32.toNat_ofNat', UInt32.toNat_ofNat', Nat.mod_eq_of_lt hb', Nat.mod_eq_of_lt hj',
      Nat.mod_eq_of_lt hj, Nat.shiftLeft_eq, Nat.mod_eq_of_lt hfits]
  rw [UInt32.toNat_or, hbit, ha, ← Nat.shiftLeft_eq, ← Nat.shiftLeft_add_eq_or_of_lt hsmall, Nat.shiftLeft_eq]
  ring

/-- The loop reads its bits as a number, the first one being the most significant. -/
theorem orLoop_toNat {bits : List Bool} (h : bits.length ≤ 32) {bit : Nat → Bool}
    (hbit : ∀ k < bits.length, bit k = bits.getD k false) :
    (orLoop bit (bits.length - 1) bits.length).toNat = bitsToNat bits := by
  have hprefix (n : Nat) (hn : n ≤ bits.length) :
      (orLoop bit (bits.length - 1) n).toNat = bitsToNat (bits.take n) * 2 ^ (bits.length - n) := by
    induction n with
    | zero => simp [orLoop, Av1.bitsToNat]
    | succ n ih =>
        have hlt : n < bits.length := by omega
        have hpow : bits.length - n = bits.length - 1 - n + 1 := by omega
        have hget : bit n = bits[n] := by
          rw [hbit n hlt, List.getD_eq_getElem?_getD, List.getElem?_eq_getElem hlt]
          rfl
        unfold orLoop at *
        rw [List.range_succ, List.foldl_append, List.foldl_cons, List.foldl_nil, hget,
          or_shift ((ih (by omega)).trans (by rw [hpow])) (by omega), List.take_succ_eq_append_getElem hlt,
          bitsToNat_append_singleton]
        congr 2
        omega
  have hall := hprefix bits.length (Nat.le_refl _)
  rw [List.take_length, Nat.sub_self, Nat.pow_zero, Nat.mul_one] at hall
  exact hall

theorem orLoop_range {bits : List Bool} {start n : Nat} (h : start + n ≤ bits.length) (hn : n ≤ 32) :
    (orLoop (fun k => bits.getD (start + k) false) (n - 1) n).toNat = bitsToNat ((bits.drop start).take n) := by
  have hlength : ((bits.drop start).take n).length = n := by
    rw [List.length_take, List.length_drop]
    omega
  have hbit : ∀ k < ((bits.drop start).take n).length,
      bits.getD (start + k) false = ((bits.drop start).take n).getD k false := by
    intro k hk
    rw [List.getD_eq_getElem?_getD, List.getD_eq_getElem?_getD, List.getElem?_take_of_lt (by omega),
      List.getElem?_drop]
  have hloop := orLoop_toNat (by omega) hbit
  rw [hlength] at hloop
  exact hloop

/-- Where the end of the range fits in 32 bits, the bits are read that were meant. -/
theorem extractBits_eq (bits : List Bool) {start len : UInt32} (h : start.toNat + len.toNat < 2 ^ 32) :
    (extractBits bits start len).map UInt32.toNat = Av1.extractBits bits start.toNat len.toNat := by
  have hend : (start + len).toNat = start.toNat + len.toNat := by
    rw [UInt32.toNat_add, Nat.mod_eq_of_lt h]
  unfold extractBits Av1.extractBits
  rw [hend]
  by_cases hrange : start.toNat + len.toNat > bits.length
  · rw [if_pos hrange, if_pos hrange]
    rfl
  have hlen : (len > 32 ∨ len < 1) ↔ (len.toNat > 32 ∨ len.toNat < 1) := by
    rw [gt_iff_lt, UInt32.lt_iff_toNat_lt, UInt32.lt_iff_toNat_lt]
    rfl
  rw [if_neg hrange, if_neg hrange]
  by_cases hsize : len > 32 ∨ len < 1
  · rw [if_pos hsize, if_pos (hlen.mp hsize)]
    rfl
  have hsize' := mt hlen.mpr hsize
  rw [if_neg hsize, if_neg hsize', Nat.add_sub_cancel_left]
  exact congrArg Except.ok (orLoop_range (by omega) (by omega))

/-! ## Bit vectors -/

theorem bitVectorFromBytes_append (buf : Buf) (b : UInt8) : Av1.bitVectorFromBytes (buf ++ [b]) =
    Av1.bitVectorFromBytes buf ++ [7, 6, 5, 4, 3, 2, 1, 0].map fun j => decide ((b >>> j) &&& 1 = 1) := by
  unfold Av1.bitVectorFromBytes
  rw [List.flatMap_append, List.flatMap_singleton]

theorem fill_byte {before after : List Bool} {i : Nat} {b : UInt8} {index : Nat → Nat}
    (hbefore : before.length = 8 * i) (hindex : ∀ j ≤ 7, index j = 8 * i + (7 - j)) :
    [7, 6, 5, 4, 3, 2, 1, 0].foldl (fun bits j => bits.set (index j) (decide ((b >>> UInt8.ofNat j) &&& 1 = 1)))
      (before ++ List.replicate 8 false ++ after) =
      before ++ [7, 6, 5, 4, 3, 2, 1, 0].map (fun j => decide ((b >>> j) &&& 1 = 1)) ++ after := by
  have hset (j : Nat) (hj : j ≤ 7) (bits : List Bool) (hbits : bits.length = 8) (v : Bool) :
      (before ++ bits ++ after).set (index j) v = before ++ bits.set (7 - j) v ++ after := by
    rw [hindex j hj, List.append_assoc, List.set_append_right _ _ (by omega), hbefore, Nat.add_sub_cancel_left,
      List.set_append_left _ _ (by omega), List.append_assoc]
  simp only [List.foldl_cons, List.foldl_nil]
  rw [hset 7 (by decide) _ rfl, hset 6 (by decide) _ rfl, hset 5 (by decide) _ rfl, hset 4 (by decide) _ rfl,
    hset 3 (by decide) _ rfl, hset 2 (by decide) _ rfl, hset 1 (by decide) _ rfl, hset 0 (by decide) _ rfl]
  rfl

/-- All bytes are written, each where it stands. -/
theorem fillBits_eq {buf : Buf} {index : Nat → Nat → Nat} (hindex : ∀ i, ∀ j ≤ 7, index i j = 8 * i + (7 - j)) :
    fillBits index buf (List.replicate (buf.length * 8) false) = Av1.bitVectorFromBytes buf := by
  have hprefix (n : Nat) (hn : n ≤ buf.length) :
      (List.range n).foldl (fun bits i => [7, 6, 5, 4, 3, 2, 1, 0].foldl (fun bits j =>
        bits.set (index i j) (decide ((buf.getD i 0 >>> UInt8.ofNat j) &&& 1 = 1))) bits)
        (List.replicate (buf.length * 8) false) =
        Av1.bitVectorFromBytes (buf.take n) ++ List.replicate ((buf.length - n) * 8) false := by
    induction n with
    | zero => simp [Av1.bitVectorFromBytes]
    | succ n ih =>
        have hlt : n < buf.length := by omega
        have hrest : List.replicate ((buf.length - n) * 8) false =
            List.replicate 8 false ++ List.replicate ((buf.length - (n + 1)) * 8) false := by
          rw [List.replicate_append_replicate]
          congr 1
          omega
        have hbefore : (Av1.bitVectorFromBytes (buf.take n)).length = 8 * n := by
          rw [Av1.bitVectorFromBytes_length, List.length_take, Nat.min_eq_left (by omega)]
        rw [List.range_succ, List.foldl_append, ih (by omega), hrest, List.foldl_cons, List.foldl_nil,
          ← List.append_assoc, fill_byte hbefore (hindex n), List.take_succ_eq_append_getElem hlt,
          bitVectorFromBytes_append, List.getD_eq_getElem?_getD, List.getElem?_eq_getElem hlt, Option.getD_some]
  have hall := hprefix buf.length (Nat.le_refl _)
  rw [List.take_length, Nat.sub_self, Nat.zero_mul] at hall
  exact hall.trans (List.append_nil _)

theorem bitVectorWrites_eq {buf : Buf} (h : buf.length < 2 ^ 28) :
    bitVectorWrites buf = Av1.bitVectorFromBytes buf := by
  unfold bitVectorWrites
  rw [Nat.mod_eq_of_lt (by omega)]
  exact fillBits_eq fun i j hj => by omega

theorem data_ofBytes (buf : Buf) : (Bitstream.ofBytes buf).data = Av1.bitVectorFromBytes buf :=
  fillBits_eq fun i j hj => by omega

/-! ## Two readers -/

theorem extract_eq {s : Bitstream} {idxFrom n : Nat} :
    (s.extract idxFrom n).map UInt32.toNat =
      if 0 < n ∧ n ≤ 32 ∧ idxFrom + n ≤ s.data.length then .ok (bitsToNat ((s.data.drop idxFrom).take n))
      else .error (.invalidArgument "Bitstream: extract: index out of range") := by
  have hguard : (0 < n ∧ n ≤ 32 ∧ s.isValidIdx idxFrom = true ∧ s.isValidIdx (idxFrom + n - 1) = true) ↔
      (0 < n ∧ n ≤ 32 ∧ idxFrom + n ≤ s.data.length) := by
    unfold Bitstream.isValidIdx
    rw [decide_eq_true_iff, decide_eq_true_iff]
    omega
  unfold Bitstream.extract
  by_cases h : 0 < n ∧ n ≤ 32 ∧ idxFrom + n ≤ s.data.length
  · rw [if_pos (hguard.mpr h), if_pos h]
    exact congrArg Except.ok (orLoop_range h.2.2 h.2.1)
  · rw [if_neg (mt hguard.mp h), if_neg h]
    rfl

/-- The `i`-th bit of a buffer, the highest one of every byte first. -/
def bitOf (buf : Buf) (i : Nat) : Bool := (buf.getD (i / 8) 0).toNat.testBit (7 - i % 8)

/-- The big-endian value of some bits of a buffer. -/
def bitsValue (buf : Buf) (start len : Nat) : Nat := bitsToNat ((List.range' start len).map (bitOf buf))

theorem testBit_byte (b : UInt8) {j : Nat} (hj : j < 8) :
    decide ((b >>> UInt8.ofNat j) &&& 1 = 1) = b.toNat.testBit j := by
  have hbit : ((b >>> UInt8.ofNat j) &&& 1).toNat = b.toNat / 2 ^ j % 2 := by
    rw [UInt8.toNat_and, UInt8.toNat_shiftRight, UInt8.toNat_ofNat', Nat.mod_eq_of_lt (by omega : j < 2 ^ 8),
      Nat.mod_eq_of_lt hj, Nat.shiftRight_eq_div_pow, UInt8.toNat_one, Nat.and_one_is_mod]
  rw [Nat.testBit_eq_decide_div_mod_eq, ← hbit]
  congr 1
  exact propext UInt8.toNat_inj.symm

theorem bitVectorFromBytes_eq_map (buf : Buf) :
    Av1.bitVectorFromBytes buf = (List.range (buf.length * 8)).map (bitOf buf) := by
  have hrange (n : Nat) (hn : n ≤ buf.length) :
      Av1.bitVectorFromBytes (buf.take n) = (List.range (n * 8)).map (bitOf buf) := by
    induction n with
    | zero => rfl
    | succ n ih =>
        have hlt : n < buf.length := by omega
        have hbits : [7, 6, 5, 4, 3, 2, 1, 0].map (fun j => decide ((buf[n] >>> j) &&& 1 = 1)) =
            (List.range 8).map fun k => bitOf buf (n * 8 + k) := by
          have hbit (k : Nat) (hk : k < 8) :
              bitOf buf (n * 8 + k) = decide ((buf[n] >>> UInt8.ofNat (7 - k)) &&& 1 = 1) := by
            unfold bitOf
            rw [testBit_byte _ (by omega), show (n * 8 + k) / 8 = n by omega, show (n * 8 + k) % 8 = k by omega,
              List.getD_eq_getElem?_getD, List.getElem?_eq_getElem hlt, Option.getD_some]
          rw [List.map_congr_left fun k hk => hbit k (List.mem_range.mp hk)]
          rfl
        rw [List.take_succ_eq_append_getElem hlt, bitVectorFromBytes_append, ih (by omega), hbits, Nat.succ_mul,
          List.range_add, List.map_append, List.map_map]
        rfl
  have hall := hrange buf.length (Nat.le_refl _)
  rw [List.take_length] at hall
  exact hall

theorem bitsToNat_range {buf : Buf} {start len : Nat} (h : start + len ≤ (Av1.bitVectorFromBytes buf).length) :
    bitsToNat (((Av1.bitVectorFromBytes buf).drop start).take len) = bitsValue buf start len := by
  rw [Av1.bitVectorFromBytes_length] at h
  unfold bitsValue
  rw [bitVectorFromBytes_eq_map, ← List.map_drop, ← List.map_take, List.range_eq_range', List.drop_range',
    List.take_range'_of_length_ge (by omega), Nat.mul_one, Nat.zero_add]

/-- The two readers accept the same ranges of a buffer, and read the same number. -/
theorem readers_agree {buf : Buf} (hbuf : buf.length < 2 ^ 28) {start len : UInt32}
    (h : start.toNat + len.toNat < 2 ^ 32) :
    ((∃ v, (Bitstream.ofBytes buf).extract start.toNat len.toNat = .ok v) ↔
      ∃ v, extractBits (bitVectorWrites buf) start len = .ok v) ∧
    (∀ v, (Bitstream.ofBytes buf).extract start.toNat len.toNat = .ok v →
      v.toNat = bitsValue buf start.toNat len.toNat) ∧
    ∀ v, extractBits (bitVectorWrites buf) start len = .ok v → v.toNat = bitsValue buf start.toNat len.toNat := by
  have hstream := @extract_eq (Bitstream.ofBytes buf) start.toNat len.toNat
  have hvector := extractBits_eq (bitVectorWrites buf) h
  rw [data_ofBytes] at hstream
  rw [bitVectorWrites_eq hbuf] at hvector ⊢
  unfold Av1.extractBits at hvector
  by_cases hrange : 0 < len.toNat ∧ len.toNat ≤ 32 ∧ start.toNat + len.toNat ≤ (Av1.bitVectorFromBytes buf).length
  · rw [if_pos hrange, bitsToNat_range hrange.2.2] at hstream
    rw [if_neg (by omega), if_neg (by omega), bitsToNat_range hrange.2.2] at hvector
    obtain ⟨v, hv, hvalue⟩ := Except.of_map_ok hstream
    obtain ⟨v', hv', hvalue'⟩ := Except.of_map_ok hvector
    refine ⟨⟨fun _ => ⟨v', hv'⟩, fun _ => ⟨v, hv⟩⟩, ?_, ?_⟩
    · intro w hw
      obtain rfl := Except.ok.inj (hv.symm.trans hw)
      exact hvalue
    · intro w hw
      obtain rfl := Except.ok.inj (hv'.symm.trans hw)
      exact hvalue'
  · have hreject (v : UInt32) : (Bitstream.ofBytes buf).extract start.toNat len.toNat ≠ .ok v := by
      intro hv
      rw [if_neg hrange, hv] at hstream
      exact nomatch hstream
    have hreject' (v : UInt32) : extractBits (Av1.bitVectorFromBytes buf) start len ≠ .ok v := by
      intro hv
      rw [hv] at hvector
      split at hvector
      · exact nomatch hvector
      · split at hvector
        · exact nomatch hvector
        · exact hrange ⟨by omega, by omega, by omega⟩
    refine ⟨⟨?_, ?_⟩, fun v hv => absurd hv (hreject v), fun v hv => absurd hv (hreject' v)⟩
    · intro ⟨v, hv⟩
      exact absurd hv (hreject v)
    · intro ⟨v, hv⟩
      exact absurd hv (hreject' v)

theorem readers_agree_byte :
    ((∃ v, (Bitstream.ofBytes [0xa5]).extract 2 4 = .ok v) ↔ ∃ v, extractBits (bitVectorWrites [0xa5]) 2 4 = .ok v) ∧
    (∀ v, (Bitstream.ofBytes [0xa5]).extract 2 4 = .ok v → v.toNat = bitsValue [0xa5] 2 4) ∧
    ∀ v, extractBits (bitVectorWrites [0xa5]) 2 4 = .ok v → v.toNat = bitsValue [0xa5] 2 4 :=
  @readers_agree [0xa5] (by decide) 2 4 (by decide)

end Util

end Scallop
