import Chatflow.Number.Shortest
import Chatflow.Proofs.Number.Scale
import Mathlib.Data.List.TakeWhile

/-!
# Decimal numbers and the numbers nearest to them

The bounds beyond which no power of ten is computed do not show: a decimal number far outside the range of double
precision is rounded there as its ratio is (`nearest_eq_ofRatio`).  Zeros at the end of the coefficient go into the
scale (`nearestUnits_shift`).

The shortest decimal number is rounded to the magnitude (`nearestUnits_shortest`), and so are its digits with the power
of ten of the first one (`nearestUnits_ofLeading_digits`).
-/

namespace Chatflow

open Binary64 (one limit)

namespace Decimal

/-! ## Digits -/

theorem ofDigits_eq (ds : List Char) : ofDigits ds = Nat.ofDigitChars 10 ds 0 := rfl

theorem ofDigits_append (xs ys : List Char) : ofDigits (xs ++ ys) = ofDigits xs * 10 ^ ys.length + ofDigits ys := by
  rw [ofDigits_eq, Nat.ofDigitChars_append, Nat.ofDigitChars_eq_ofDigitChars_zero, Nat.mul_comm]
  rfl

theorem ofDigits_zeros (k : Nat) : ofDigits (List.replicate k '0') = 0 := by
  rw [ofDigits_eq, Nat.ofDigitChars_replicate_zero, Nat.mul_zero]

theorem ofDigits_toDigits (n : Nat) : ofDigits (Nat.toDigits 10 n) = n :=
  Nat.ofDigitChars_ten_toDigits

theorem width_pos (n : Nat) : 0 < width n := Nat.length_toDigits_pos

theorem lt_pow_width (n : Nat) : n < 10 ^ width n :=
  (Nat.length_toDigits_le_iff (by decide) (width_pos n)).mp (Nat.le_refl _)

theorem pow_width_le {n : Nat} (hn : 0 < n) : 10 ^ (width n - 1) ≤ n := by
  rcases Nat.lt_or_ge 1 (width n) with hlong | hshort
  · by_contra hsmall
    have hle := (Nat.length_toDigits_le_iff (b := 10) (by decide) (by omega)).mpr (Nat.lt_of_not_le hsmall)
    have hwidth : width n ≤ width n - 1 := hle
    omega
  · have hzero : width n - 1 = 0 := by omega
    rw [hzero]
    exact hn

/-- The integers that have too many digits for a text. -/
theorem isLong_iff (n : Int) : isLong n = true ↔ 10 ^ longest ≤ n.natAbs := by
  rw [isLong, decide_eq_true_iff, ← Nat.not_le, width, Nat.length_toDigits_le_iff (by decide) (by decide), Nat.not_lt]

/-! ## Nearest numbers -/

theorem ratio_pos (d : Decimal) : 0 < d.ratio.2 := Nat.pow_pos (by decide)

theorem pow_mul_ratio_le {d : Decimal} {k : Nat} (hpos : 0 < d.coefficient)
    (h : (k : Int) < width d.coefficient + d.scale) : 10 ^ k * d.ratio.2 ≤ d.ratio.1 := by
  have hexponent : k + (-d.scale).toNat ≤ width d.coefficient - 1 + d.scale.toNat := by
    have hwidth := width_pos d.coefficient
    omega
  calc 10 ^ k * d.ratio.2 = 10 ^ (k + (-d.scale).toNat) := (Nat.pow_add 10 k _).symm
    _ ≤ 10 ^ (width d.coefficient - 1 + d.scale.toNat) := Nat.pow_le_pow_right (by decide) hexponent
    _ = 10 ^ (width d.coefficient - 1) * 10 ^ d.scale.toNat := Nat.pow_add 10 _ _
    _ ≤ d.ratio.1 := Nat.mul_le_mul_right _ (pow_width_le hpos)

theorem ratio_mul_pow_lt {d : Decimal} {k : Nat} (h : (width d.coefficient : Int) + d.scale + k ≤ 0) :
    d.ratio.1 * 10 ^ k < d.ratio.2 := by
  have hscale : d.scale.toNat = 0 := by omega
  have hexponent : width d.coefficient + k ≤ (-d.scale).toNat := by omega
  have hnum : d.ratio.1 = d.coefficient := by
    rw [ratio, hscale]
    exact Nat.mul_one _
  rw [hnum]
  calc d.coefficient * 10 ^ k < 10 ^ width d.coefficient * 10 ^ k :=
        Nat.mul_lt_mul_of_pos_right (lt_pow_width _) (Nat.pow_pos (by decide))
    _ = 10 ^ (width d.coefficient + k) := (Nat.pow_add 10 _ _).symm
    _ ≤ d.ratio.2 := Nat.pow_le_pow_right (by decide) hexponent

theorem two_pow_le_ten_pow {m k : Nat} (h : m ≤ 3 * k) : 2 ^ m ≤ 10 ^ k := by
  refine (Nat.pow_le_pow_right (by decide) h).trans ?_
  rw [Nat.pow_mul]
  exact Nat.pow_le_pow_left (by decide) k

/-- The bounds lie far outside the range of double precision. -/
theorem limit_le : limit ≤ 10 ^ 400 * one := by
  have hpow : 2 ^ 1024 ≤ 10 ^ 400 := two_pow_le_ten_pow (by decide)
  rw [Binary64.limit_eq, pow_add, ← Binary64.one_eq, Nat.mul_comm]
  exact Nat.mul_le_mul_right one hpow

theorem two_mul_one_le : 2 * one ≤ 10 ^ 400 := by
  rw [Binary64.one_eq, ← Nat.pow_succ']
  exact two_pow_le_ten_pow (by decide)

/-- **A decimal number is rounded as its ratio is.** -/
theorem nearest_eq_ofRatio (negative : Bool) (d : Decimal) :
    nearest negative d = .ofRatio negative d.ratio.1 d.ratio.2 := by
  unfold nearest
  dsimp only
  split_ifs with hzero hlarge hsmall
  · have hnum : d.ratio.1 = 0 := by rw [ratio, hzero, Nat.zero_mul]
    rw [hnum, Binary64.ofRatio, Nat.zero_mul]
    exact (Binary64.ofUnits_of_nearest negative Binary64.onGrid_zero (Binary64.nearest_zero _)).symm
  · -- at least `10 ^ 400`, which lies beyond the limit
    have hratio := pow_mul_ratio_le (k := 400) (Nat.pos_of_ne_zero hzero) hlarge
    have hbound : limit ≤ d.ratio.1 * one / d.ratio.2 := by
      refine (Nat.le_div_iff_mul_le d.ratio_pos).mpr ?_
      calc limit * d.ratio.2 ≤ 10 ^ 400 * one * d.ratio.2 := Nat.mul_le_mul_right _ limit_le
        _ = 10 ^ 400 * d.ratio.2 * one := Nat.mul_right_comm _ _ _
        _ ≤ d.ratio.1 * one := Nat.mul_le_mul_right _ hratio
    refine (Binary64.ofUnits_of_not_lt negative ?_).symm
    rw [Binary64.limit_eq] at hbound ⊢
    exact Nat.not_lt.mpr (Binary64.pow_le_nearest hbound)
  · -- below `10 ^ -400`, which is less than half a unit
    have hratio := ratio_mul_pow_lt (d := d) (k := 400) (by omega)
    refine (Binary64.ofUnits_of_nearest negative Binary64.onGrid_zero ?_).symm
    rw [Binary64.nearest_eq_zero_iff d.ratio_pos]
    calc 2 * (d.ratio.1 * one) = d.ratio.1 * (2 * one) := Nat.mul_left_comm _ _ _
      _ ≤ d.ratio.1 * 10 ^ 400 := Nat.mul_le_mul_left _ two_mul_one_le
      _ ≤ d.ratio.2 := Nat.le_of_lt hratio
  · rfl

theorem nearestUnits_shift (c k : Nat) (s : Int) : nearestUnits ⟨c * 10 ^ k, s⟩ = nearestUnits ⟨c, s + k⟩ := by
  refine Binary64.nearest_congr (ratio_pos _) (ratio_pos _) ?_
  have hexponents : k + s.toNat + (-(s + k)).toNat = (s + k).toNat + (-s).toNat := by omega
  have hpowers : 10 ^ k * 10 ^ s.toNat * 10 ^ (-(s + k)).toNat = 10 ^ (s + k).toNat * 10 ^ (-s).toNat := by
    rw [← Nat.pow_add, ← Nat.pow_add, ← Nat.pow_add, hexponents]
  simp only [ratio, Nat.pow_eq]
  calc c * 10 ^ k * 10 ^ s.toNat * one * 10 ^ (-(s + k)).toNat
      = c * (10 ^ k * 10 ^ s.toNat * 10 ^ (-(s + k)).toNat) * one := by ring
    _ = c * 10 ^ (s + k).toNat * one * 10 ^ (-s).toNat := by
      rw [hpowers]
      ring

/-! ## The digits of a decimal number -/

/-- The number with these digits, the first of which counts the power of ten `first`. -/
def ofLeading (ds : List Char) (first : Int) : Decimal := ⟨ofDigits ds, first + 1 - ds.length⟩

/-- All digits are those that are kept and zeros behind them. -/
theorem exists_digits_append (d : Decimal) :
    ∃ k, Nat.toDigits 10 d.coefficient = d.digits.1 ++ List.replicate k '0' := by
  let all := Nat.toDigits 10 d.coefficient
  have hsplit : all.reverse.takeWhile (· == '0') ++ all.reverse.dropWhile (· == '0') = all.reverse :=
    List.takeWhile_append_dropWhile
  have hzeros : all.reverse.takeWhile (· == '0') =
      List.replicate (all.reverse.takeWhile (· == '0')).length '0' :=
    List.eq_replicate_of_mem fun c hc => beq_iff_eq.mp (List.mem_takeWhile_imp (p := fun c => c == '0') hc)
  refine ⟨(all.reverse.takeWhile (· == '0')).length, ?_⟩
  have hreverse := congrArg List.reverse hsplit
  rw [hzeros, List.reverse_append, List.reverse_replicate, List.reverse_reverse] at hreverse
  exact hreverse.symm

theorem isDigit_of_mem_digits {d : Decimal} {c : Char} (h : c ∈ d.digits.1) : c.isDigit = true := by
  obtain ⟨k, hk⟩ := d.exists_digits_append
  refine Nat.isDigit_of_mem_toDigits (b := 10) (n := d.coefficient) (by decide) (by decide) ?_
  rw [hk]
  exact List.mem_append_left _ h

theorem digits_ne_nil {d : Decimal} (h : d.coefficient ≠ 0) : d.digits.1 ≠ [] := by
  intro hnil
  obtain ⟨k, hk⟩ := d.exists_digits_append
  rw [hnil, List.nil_append] at hk
  refine h ?_
  rw [← ofDigits_toDigits d.coefficient, hk, ofDigits_zeros]

/-- Its digits stand for a number that is rounded as it is. -/
theorem nearestUnits_ofLeading_digits (d : Decimal) :
    nearestUnits (ofLeading d.digits.1 d.digits.2) = d.nearestUnits := by
  obtain ⟨k, hk⟩ := d.exists_digits_append
  have hcoefficient : d.coefficient = ofDigits d.digits.1 * 10 ^ k := by
    rw [← ofDigits_toDigits d.coefficient, hk, ofDigits_append, List.length_replicate, ofDigits_zeros, Nat.add_zero]
  have hscale : d.digits.2 + 1 - d.digits.1.length = d.scale + k := by
    have hlength := congrArg List.length hk
    rw [List.length_append, List.length_replicate] at hlength
    have hfirst : d.digits.2 = d.scale + (Nat.toDigits 10 d.coefficient).length - 1 := rfl
    omega
  rw [ofLeading, hscale, ← nearestUnits_shift, ← hcoefficient]

/-! ## The shortest decimal number -/

/-- A binary fraction written out in full is rounded as it is. -/
theorem nearestUnits_binary (u m : Nat) :
    nearestUnits ⟨u * Nat.pow 5 m, -m⟩ = Binary64.nearest (u * one) (2 ^ m) := by
  have hscale : (-(m : Int)).toNat = 0 := by omega
  have hscale' : (-(-(m : Int))).toNat = m := by omega
  have hpow : 2 ^ m * 5 ^ m = 10 ^ m := (Nat.mul_pow 2 5 m).symm
  rw [← Binary64.nearest_mul_mul _ _ (Nat.pow_pos (by decide) : 0 < 5 ^ m)]
  simp only [nearestUnits, ratio, hscale, hscale', Nat.pow_eq, pow_zero, Nat.mul_one, hpow]
  rw [Nat.mul_right_comm]

theorem nearestUnits_full {u : Nat} (h : Binary64.gap u ∣ u) : (full u).nearestUnits = u := by
  have hscale := Binary64.nearest_mul_mul u 1 Binary64.one_pos
  rw [Nat.one_mul, Binary64.nearest_of_dvd h] at hscale
  rw [full, nearestUnits_binary, ← Binary64.one_eq, hscale]

/-- **The shortest decimal number is rounded to the magnitude.** -/
theorem nearestUnits_shortest {u : Nat} (h : Binary64.gap u ∣ u) : (shortest u).nearestUnits = u := by
  rcases shortest_reads_back u with hread | hfull
  · exact hread
  · rw [hfull, nearestUnits_full h]

theorem nearestUnits_zero {d : Decimal} (h : d.coefficient = 0) : d.nearestUnits = 0 := by
  rw [nearestUnits, ratio, h, Nat.zero_mul, Nat.zero_mul, Binary64.nearest_zero]

theorem coefficient_shortest_ne_zero {u : Nat} (h : Binary64.gap u ∣ u) (hu : u ≠ 0) :
    (shortest u).coefficient ≠ 0 :=
  fun hzero => hu ((nearestUnits_shortest h).symm.trans (nearestUnits_zero hzero))

end Decimal

end Chatflow
