import Mathlib.Data.Nat.Size
import Scallop.Util.Bits

/-!
# Non-symmetric numbers

`util::extractNonSymmetric` of `lib/util.h`.

* `ns` : the code of AV1 for numbers below `n`;
* `extractNonSymmetric_eq` : what is read of the bits; `extractNonSymmetric_one` : for one number nothing is;
* `extractNonSymmetric_decodes_iff` : codes are decoded just when `n` is not 1, and nothing else is.
-/

namespace Scallop

open Av1 (bitsToNat natBits)

namespace Util

/-- The loop of `util::extractNonSymmetric`: how often `x` is shifted until nothing is left. -/
def shifts (x : Nat) : Nat := if x = 0 then 0 else shifts (x / 2) + 1
decreasing_by omega

/-- `util::extractNonSymmetric`: the number, and how many bits it takes. -/
def extractNonSymmetric (bits : List Bool) (start n : UInt32) : Except Fault (UInt32 × UInt32) := do
  let w := UInt32.ofNat (shifts n.toNat)
  let m := (1 <<< w) - n
  let v ← extractBits bits start (w - 1)
  if v < m then return (v, w - 1)
  else do
    let extraBit ← extractBits bits (start + w - 1) 1
    return ((v <<< 1) - m + extraBit, w)

/-- How many numbers have the shorter codes. -/
def shortCodes (n : Nat) : Nat := 2 ^ n.size - n

/-- The code `ns(n)` of AV1 for a number below `n`. -/
def ns (n v : Nat) : List Bool :=
  if v < shortCodes n then natBits (n.size - 1) v else natBits n.size (v + shortCodes n)

def TooShort (n : Nat) (bits : List Bool) : Prop := ∀ v < n, ¬ ns n v <+: bits

theorem shifts_eq_size (x : Nat) : shifts x = x.size := by
  induction x using shifts.induct with
  | case1 => simp [shifts]
  | case2 x hx ih =>
      rw [shifts, if_neg hx, ih]
      conv_rhs => rw [← Nat.bit_bodd_div2 x]
      rw [Nat.size_bit]
      · rw [Nat.div2_val]
      · rw [Nat.bit_bodd_div2]
        exact hx

/-! ## What is read -/

section NonSymmetric
variable {bits : List Bool} {start len n : UInt32} {i k v : Nat}

theorem extractBits_of_le (h : start.toNat + len.toNat ≤ bits.length) (hsum : start.toNat + len.toNat < 2 ^ 32)
    (hpos : 0 < len.toNat) (hlen : len.toNat ≤ 32) :
    extractBits bits start len = .ok (.ofNat (Av1.bitsAt bits start.toNat len.toNat)) := by
  have heq := extractBits_eq bits hsum
  rw [Av1.extractBits_of_le h hpos hlen] at heq
  obtain ⟨v, hv, hvalue⟩ := Except.of_map_ok heq
  rw [hv, ← hvalue, UInt32.ofNat_toNat]

theorem extractBits_of_lt (h : bits.length < start.toNat + len.toNat) (hsum : start.toNat + len.toNat < 2 ^ 32) :
    ∃ e, extractBits bits start len = .error e := by
  unfold extractBits
  rw [if_pos]
  · exact ⟨_, rfl⟩
  · rw [UInt32.toNat_add, Nat.mod_eq_of_lt hsum]
    exact h

theorem extractBits_zero (bits : List Bool) (start : UInt32) : ∃ e, extractBits bits start 0 = .error e := by
  unfold extractBits
  split
  · exact ⟨_, rfl⟩
  · rw [if_pos (.inr (by decide))]
    exact ⟨_, rfl⟩

theorem bitsAt_succ (bits : List Bool) (i k : Nat) (h : i + k + 1 ≤ bits.length) :
    Av1.bitsAt bits i (k + 1) = 2 * Av1.bitsAt bits i k + Av1.bitsAt bits (i + k) 1 := by
  have hlt : k < (bits.drop i).length := by
    rw [List.length_drop]
    omega
  have hone : (bits.drop (i + k)).take 1 = [(bits.drop i)[k]] := by
    rw [← List.drop_drop, List.drop_eq_getElem_cons hlt]
    rfl
  unfold Av1.bitsAt
  rw [List.take_succ_eq_append_getElem hlt, bitsToNat_append_singleton, hone]
  simp [Av1.bitsToNat]

theorem bitsAt_lt (bits : List Bool) (i k : Nat) : Av1.bitsAt bits i k < 2 ^ k := by
  apply lt_of_lt_of_le (bitsToNat_lt _)
  rw [List.length_take]
  exact Nat.pow_le_pow_right (by decide) (Nat.min_le_left _ _)

theorem bitsAt_of_prefix {code : List Bool} (h : code <+: bits.drop i) :
    i + code.length ≤ bits.length ∨ code = [] := by
  have hle := h.length_le
  rw [List.length_drop] at hle
  by_cases hcode : code = []
  · exact .inr hcode
  · have hpos := List.length_pos_of_ne_nil hcode
    exact .inl (by omega)

/-- The width of `n`, for at least two numbers. -/
structure TwoOrMore (n : Nat) : Prop where
  size : 2 ≤ n.size ∧ n.size ≤ 31
  above : n < 2 ^ n.size
  below : 2 ^ n.size ≤ 2 * n
  half : 2 ^ n.size = 2 * 2 ^ (n.size - 1)

theorem twoOrMore {n : Nat} (h : 2 ≤ n) (hn : n < 2 ^ 31) : TwoOrMore n := by
  have hsize : 2 ≤ n.size := Nat.lt_size.mpr h
  have hhalf : 2 ^ n.size = 2 * 2 ^ (n.size - 1) := by
    conv_lhs => rw [show n.size = n.size - 1 + 1 by omega, Nat.pow_succ']
  have hbelow : 2 ^ (n.size - 1) ≤ n := Nat.lt_size.mp (by omega)
  exact ⟨⟨hsize, Nat.size_le.mpr hn⟩, Nat.lt_size_self n, by omega, hhalf⟩

theorem widths (h : TwoOrMore n.toNat) (hstart : start.toNat + 32 ≤ 2 ^ 32) :
    ((1 <<< UInt32.ofNat n.toNat.size) - n).toNat = shortCodes n.toNat ∧
    (UInt32.ofNat n.toNat.size - 1).toNat = n.toNat.size - 1 ∧
    (start + UInt32.ofNat n.toNat.size - 1).toNat = start.toNat + (n.toNat.size - 1) := by
  obtain ⟨hsize, habove, -, -⟩ := h
  have hw : (UInt32.ofNat n.toNat.size).toNat = n.toNat.size := by
    rw [UInt32.toNat_ofNat', Nat.mod_eq_of_lt (by omega)]
  have hpow : 2 ^ n.toNat.size ≤ 2 ^ 31 := Nat.pow_le_pow_right (by decide) hsize.2
  have hone : ((1 : UInt32) <<< UInt32.ofNat n.toNat.size).toNat = 2 ^ n.toNat.size := by
    have hw32 : n.toNat.size < 32 := by omega
    have hfits : 2 ^ n.toNat.size < 2 ^ 32 := by omega
    rw [UInt32.toNat_shiftLeft, hw, Nat.mod_eq_of_lt hw32, UInt32.toNat_one, Nat.shiftLeft_eq, Nat.one_mul,
      Nat.mod_eq_of_lt hfits]
  have hsum : (start + UInt32.ofNat n.toNat.size).toNat = start.toNat + n.toNat.size := by
    rw [UInt32.toNat_add, hw, Nat.mod_eq_of_lt (by omega)]
  refine ⟨?_, ?_, ?_⟩
  · rw [UInt32.toNat_sub_of_le, hone]
    · rfl
    · rw [UInt32.le_iff_toNat_le, hone]
      omega
  · rw [UInt32.toNat_sub_of_le, hw]
    · rfl
    · rw [UInt32.le_iff_toNat_le, hw]
      exact Nat.le_trans (by decide) hsize.1
  · rw [UInt32.toNat_sub_of_le, hsum]
    · show start.toNat + n.toNat.size - 1 = _
      omega
    · rw [UInt32.le_iff_toNat_le, hsum]
      show 1 ≤ _
      omega

theorem extractNonSymmetric_eq (bits : List Bool) (h : TwoOrMore n.toNat) (hstart : start.toNat + 32 ≤ 2 ^ 32) :
    (bits.length < start.toNat + (n.toNat.size - 1) → ∃ e, extractNonSymmetric bits start n = .error e) ∧
    (start.toNat + (n.toNat.size - 1) ≤ bits.length →
      Av1.bitsAt bits start.toNat (n.toNat.size - 1) < shortCodes n.toNat →
        extractNonSymmetric bits start n =
          .ok (.ofNat (Av1.bitsAt bits start.toNat (n.toNat.size - 1)), .ofNat (n.toNat.size - 1))) ∧
    (shortCodes n.toNat ≤ Av1.bitsAt bits start.toNat (n.toNat.size - 1) →
      bits.length < start.toNat + n.toNat.size → ∃ e, extractNonSymmetric bits start n = .error e) ∧
    (shortCodes n.toNat ≤ Av1.bitsAt bits start.toNat (n.toNat.size - 1) →
      start.toNat + n.toNat.size ≤ bits.length → extractNonSymmetric bits start n =
        .ok (.ofNat (Av1.bitsAt bits start.toNat n.toNat.size - shortCodes n.toNat), .ofNat n.toNat.size)) := by
  obtain ⟨hm, hw, hnext⟩ := widths h hstart
  obtain ⟨hsize, habove, hbelow, hhalf⟩ := h
  generalize hv : Av1.bitsAt bits start.toNat (n.toNat.size - 1) = v
  have hlt : v < 2 ^ (n.toNat.size - 1) := hv ▸ bitsAt_lt _ _ _
  have hpow : 2 ^ (n.toNat.size - 1) ≤ 2 ^ 30 := Nat.pow_le_pow_right (by decide) (by omega)
  have hvtoNat : (UInt32.ofNat v).toNat = v := by
    rw [UInt32.toNat_ofNat', Nat.mod_eq_of_lt (by omega)]
  have hwidth : UInt32.ofNat n.toNat.size - 1 = UInt32.ofNat (n.toNat.size - 1) := by
    rw [← hw, UInt32.ofNat_toNat]
  have hshort (hle : start.toNat + (n.toNat.size - 1) ≤ bits.length) :
      extractBits bits start (UInt32.ofNat n.toNat.size - 1) = .ok (.ofNat v) := by
    rw [extractBits_of_le (by rw [hw]; exact hle) (by omega) (by omega) (by omega), hw, hv]
  have hrefuse (hlength : bits.length < start.toNat + (n.toNat.size - 1)) :
      ∃ e, extractBits bits start (UInt32.ofNat n.toNat.size - 1) = .error e := by
    apply extractBits_of_lt <;> rw [hw] <;> omega
  have hcompare : UInt32.ofNat v < (1 <<< UInt32.ofNat n.toNat.size) - n ↔ v < shortCodes n.toNat := by
    rw [UInt32.lt_iff_toNat_lt, hvtoNat, hm]
  unfold extractNonSymmetric
  dsimp only
  rw [shifts_eq_size]
  refine ⟨fun hlength => ?_, fun hle hsmall => ?_, fun hlarge hlength => ?_, fun hlarge hle => ?_⟩
  · obtain ⟨e, he⟩ := hrefuse hlength
    rw [he]
    exact ⟨e, rfl⟩
  · rw [hshort hle, Except.bind_ok, if_pos (hcompare.mpr hsmall), hwidth]
    rfl
  · by_cases hle : start.toNat + (n.toNat.size - 1) ≤ bits.length
    · have hone : ∃ e, extractBits bits (start + UInt32.ofNat n.toNat.size - 1) 1 = .error e := by
        apply extractBits_of_lt <;> rw [hnext, UInt32.toNat_one] <;> omega
      obtain ⟨e, he⟩ := hone
      rw [hshort hle, Except.bind_ok, if_neg (mt hcompare.mp (Nat.not_lt.mpr hlarge)), he]
      exact ⟨e, rfl⟩
    · obtain ⟨e, he⟩ := hrefuse (Nat.lt_of_not_le hle)
      rw [he]
      exact ⟨e, rfl⟩
  · have hextra : extractBits bits (start + UInt32.ofNat n.toNat.size - 1) 1 =
        .ok (.ofNat (Av1.bitsAt bits (start.toNat + (n.toNat.size - 1)) 1)) := by
      rw [extractBits_of_le, hnext]
      · rfl
      · rw [hnext, UInt32.toNat_one]
        omega
      · rw [hnext, UInt32.toNat_one]
        omega
      · decide
      · decide
    have hlast := bitsAt_lt bits (start.toNat + (n.toNat.size - 1)) 1
    have hall := bitsAt_succ bits start.toNat (n.toNat.size - 1) (by omega)
    rw [Nat.sub_add_cancel (by omega), hv] at hall
    rw [hshort (by omega), Except.bind_ok, if_neg (mt hcompare.mp (Nat.not_lt.mpr hlarge)), hextra, Except.bind_ok,
      hall]
    generalize Av1.bitsAt bits (start.toNat + (n.toNat.size - 1)) 1 = b at hlast
    refine congrArg (fun x => Except.ok (x, UInt32.ofNat n.toNat.size)) (UInt32.toNat_inj.mp ?_)
    have hdouble : (UInt32.ofNat v <<< 1).toNat = 2 * v := by
      have hone : v * 2 ^ (1 % 32) = 2 * v := by
        show v * 2 = 2 * v
        omega
      rw [UInt32.toNat_shiftLeft, hvtoNat, Nat.shiftLeft_eq, UInt32.toNat_one, hone, Nat.mod_eq_of_lt (by omega)]
    have hb : (UInt32.ofNat b).toNat = b := by
      rw [UInt32.toNat_ofNat', Nat.mod_eq_of_lt (by omega)]
    have hsub :
        (UInt32.ofNat v <<< 1 - ((1 <<< UInt32.ofNat n.toNat.size) - n)).toNat = 2 * v - shortCodes n.toNat := by
      rw [UInt32.toNat_sub_of_le, hdouble, hm]
      rw [UInt32.le_iff_toNat_le, hdouble, hm]
      omega
    rw [UInt32.toNat_add, hsub, hb, UInt32.toNat_ofNat', Nat.mod_eq_of_lt (by omega), Nat.mod_eq_of_lt (by omega)]
    omega

/-- For one number there is nothing to read, which `extractBits` refuses. -/
theorem extractNonSymmetric_one (bits : List Bool) (start : UInt32) :
    ∃ e, extractNonSymmetric bits start 1 = .error e := by
  have hshifts : shifts 1 = 1 := by
    rw [shifts_eq_size]
    rfl
  obtain ⟨e, he⟩ := extractBits_zero bits start
  unfold extractNonSymmetric
  dsimp only
  rw [show (1 : UInt32).toNat = 1 from rfl, hshifts, show UInt32.ofNat 1 - 1 = 0 from rfl, he]
  exact ⟨e, rfl⟩

/-! ## Codes -/

theorem natBits_bitsToNat (bits : List Bool) : natBits bits.length (bitsToNat bits) = bits := by
  have hinj {xs ys : List Bool} (hlength : xs.length = ys.length) (h : bitsToNat xs = bitsToNat ys) : xs = ys := by
    induction xs using List.reverseRecOn generalizing ys with
    | nil => exact (List.length_eq_zero_iff.mp hlength.symm).symm
    | append_singleton xs x ih =>
        cases ys using List.reverseRecOn with
        | nil => simp at hlength
        | append_singleton ys y =>
            rw [bitsToNat_append_singleton, bitsToNat_append_singleton] at h
            simp only [List.length_append, List.length_singleton] at hlength
            have hx := x.toNat_lt
            have hy := y.toNat_lt
            have hxy : x = y := by
              cases x <;> cases y <;> simp only [Bool.toNat_true, Bool.toNat_false] at h <;> first | rfl | omega
            subst hxy
            have htail : xs = ys := ih (by omega) (by omega)
            rw [htail]
  exact hinj (Av1.natBits_length _ _) (Av1.bitsToNat_natBits (bitsToNat_lt bits))

theorem bitsAt_of_natBits {w x : Nat} (h : natBits w x <+: bits.drop i) (hx : x < 2 ^ w) : Av1.bitsAt bits i w = x := by
  have htake := (List.prefix_iff_eq_take.mp h).symm
  rw [Av1.natBits_length] at htake
  unfold Av1.bitsAt
  rw [htake]
  exact Av1.bitsToNat_natBits hx

/-- What is read is a code that stands there. -/
theorem natBits_prefix (h : i + k ≤ bits.length) : natBits k (Av1.bitsAt bits i k) <+: bits.drop i := by
  have hlength : ((bits.drop i).take k).length = k := by
    rw [List.length_take, List.length_drop]
    omega
  have hcode := natBits_bitsToNat ((bits.drop i).take k)
  rw [hlength] at hcode
  unfold Av1.bitsAt
  rw [hcode]
  exact List.take_prefix _ _

theorem extractNonSymmetric_of_ns (h : TwoOrMore n.toNat) (hstart : start.toNat + 32 ≤ 2 ^ 32) (hv : v < n.toNat)
    (hcode : ns n.toNat v <+: bits.drop start.toNat) :
    extractNonSymmetric bits start n = .ok (.ofNat v, .ofNat (ns n.toNat v).length) := by
  obtain ⟨-, hsmall, -, hlarge⟩ := extractNonSymmetric_eq bits h hstart
  obtain ⟨hsize, habove, hbelow, hhalf⟩ := h
  have hcodes : shortCodes n.toNat = 2 ^ n.toNat.size - n.toNat := rfl
  have hle := bitsAt_of_prefix hcode
  by_cases hshort : v < shortCodes n.toNat
  · have hns : ns n.toNat v = natBits (n.toNat.size - 1) v := if_pos hshort
    rw [hns] at hcode hle ⊢
    have hread := bitsAt_of_natBits hcode (by omega)
    rw [← List.length_eq_zero_iff, Av1.natBits_length] at hle
    rw [hsmall (by omega) (by rw [hread]; exact hshort), hread, Av1.natBits_length]
  · have hns : ns n.toNat v = natBits n.toNat.size (v + shortCodes n.toNat) := if_neg hshort
    rw [hns] at hcode hle ⊢
    have hread := bitsAt_of_natBits hcode (by omega)
    rw [← List.length_eq_zero_iff, Av1.natBits_length] at hle
    have hall := bitsAt_succ bits start.toNat (n.toNat.size - 1) (by omega)
    have hlast := bitsAt_lt bits (start.toNat + (n.toNat.size - 1)) 1
    rw [Nat.sub_add_cancel (by omega), hread] at hall
    rw [hlarge (by omega) (by omega), hread, Nat.add_sub_cancel, Av1.natBits_length]

theorem extractNonSymmetric_of_tooShort (h : TwoOrMore n.toNat) (hstart : start.toNat + 32 ≤ 2 ^ 32)
    (hshort : TooShort n.toNat (bits.drop start.toNat)) : ∃ e, extractNonSymmetric bits start n = .error e := by
  obtain ⟨hnone, -, hmiddle, -⟩ := extractNonSymmetric_eq bits h hstart
  obtain ⟨hsize, habove, hbelow, hhalf⟩ := h
  have hcodes : shortCodes n.toNat = 2 ^ n.toNat.size - n.toNat := rfl
  by_cases hle : start.toNat + (n.toNat.size - 1) ≤ bits.length
  · generalize hv : Av1.bitsAt bits start.toNat (n.toNat.size - 1) = v at hmiddle
    have hlarge : shortCodes n.toNat ≤ v := by
      by_contra hsmall
      have hns : ns n.toNat v = natBits (n.toNat.size - 1) v := if_pos (Nat.lt_of_not_le hsmall)
      refine hshort v (by omega) ?_
      rw [hns, ← hv]
      exact natBits_prefix hle
    by_cases hall : start.toNat + n.toNat.size ≤ bits.length
    · have hread := bitsAt_succ bits start.toNat (n.toNat.size - 1) (by omega)
      have hlt := bitsAt_lt bits start.toNat n.toNat.size
      rw [Nat.sub_add_cancel (by omega), hv] at hread
      have hns : ns n.toNat (Av1.bitsAt bits start.toNat n.toNat.size - shortCodes n.toNat) =
          natBits n.toNat.size (Av1.bitsAt bits start.toNat n.toNat.size) := by
        unfold ns
        rw [if_neg (by omega), Nat.sub_add_cancel (by omega)]
      refine absurd ?_ (hshort _ (show Av1.bitsAt bits start.toNat n.toNat.size - shortCodes n.toNat < _ by omega))
      rw [hns]
      exact natBits_prefix hall
    · exact hmiddle hlarge (by omega)
  · exact hnone (by omega)

/-- Every code is decoded, with its length, if there is more than one number; and where there is no code, nothing is
decoded. -/
theorem extractNonSymmetric_decodes_iff (hpos : 1 ≤ n.toNat) (hn : n.toNat < 2 ^ 31) :
    (∀ v < n.toNat, ∀ before after : List Bool, before.length + 32 ≤ 2 ^ 32 →
      (extractNonSymmetric (before ++ ns n.toNat v ++ after) (.ofNat before.length) n =
        .ok (.ofNat v, .ofNat (ns n.toNat v).length) ↔ n ≠ 1)) ∧
    ∀ bits (start : UInt32), start.toNat + 32 ≤ 2 ^ 32 → TooShort n.toNat (bits.drop start.toNat) →
      ∃ e, extractNonSymmetric bits start n = .error e := by
  have hone : n = 1 ↔ n.toNat = 1 := UInt32.toNat_inj.symm
  constructor
  · intro v hv before after hbefore
    constructor
    · rintro hread rfl
      obtain ⟨e, he⟩ := extractNonSymmetric_one (before ++ ns 1 v ++ after) (.ofNat before.length)
      exact nomatch he.symm.trans hread
    · intro hne
      have hfits : before.length < 2 ^ 32 := by omega
      have hstart : (UInt32.ofNat before.length).toNat = before.length := by
        rw [UInt32.toNat_ofNat', Nat.mod_eq_of_lt hfits]
      have hmany : n.toNat ≠ 1 := mt hone.mpr hne
      apply extractNonSymmetric_of_ns (twoOrMore (by omega) hn) (by rw [hstart]; exact hbefore) hv
      rw [hstart, List.append_assoc, List.drop_left]
      exact List.prefix_append _ _
  · intro bits start hstart hshort
    by_cases hsingle : n.toNat = 1
    · refine absurd ?_ (hshort 0 (by omega))
      rw [hsingle]
      exact List.nil_prefix
    · exact extractNonSymmetric_of_tooShort (twoOrMore (by omega) hn) hstart hshort

end NonSymmetric

theorem extractNonSymmetric_decodes_five :
    (∀ v < 5, ∀ before after : List Bool, before.length + 32 ≤ 2 ^ 32 →
      (extractNonSymmetric (before ++ ns 5 v ++ after) (.ofNat before.length) 5 =
        .ok (.ofNat v, .ofNat (ns 5 v).length) ↔ (5 : UInt32) ≠ 1)) ∧
    ∀ bits (start : UInt32), start.toNat + 32 ≤ 2 ^ 32 → TooShort 5 (bits.drop start.toNat) →
      ∃ e, extractNonSymmetric bits start 5 = .error e :=
  @extractNonSymmetric_decodes_iff 5 (by decide) (by decide)

/-- The only number below 1 takes no bits, and is not decoded. -/
theorem extractNonSymmetric_one_throws : ns 1 0 = [] ∧
    extractNonSymmetric (ns 1 0 ++ [true]) 0 1 =
      .error (.invalidArgument "util:extractBits: len must be > 0 and <= 32") := by
  have hshifts : shifts 1 = 1 := by
    rw [shifts_eq_size]
    rfl
  constructor
  · decide
  · unfold extractNonSymmetric
    dsimp only
    rw [show (1 : UInt32).toNat = 1 from rfl, hshifts]
    rfl

end Util

end Scallop
