import Chatflow.Proofs.Number.Nearest

/-!
# Hundredths of numbers

Rounding keeps powers of two as bounds (`pow_le_nearest`, `nearest_le_pow`), so that the hundredth of a ratio is at most
one up to a hundred, and more than one from the next number behind a hundred on (`nearest_hundredth_le_one`,
`one_lt_nearest_hundredth`).  No number on the grid lies between the two (`next_of_hundred_lt`).
-/

namespace Chatflow.Binary64

/-! ## Powers of two as bounds -/

theorem gap_eq (u : Nat) : gap u = 2 ^ (u.log2 - 52) := rfl

theorem pow_le_nearest {num den k : Nat} (h : 2 ^ k ≤ num / den) : 2 ^ k ≤ nearest num den := by
  have hpos : num / den ≠ 0 := Nat.ne_of_gt (Nat.lt_of_lt_of_le (Nat.two_pow_pos k) h)
  have hk : k ≤ (num / den).log2 := (Nat.le_log2 hpos).mpr h
  have hgap : gap (num / den) ∣ 2 ^ (num / den).log2 := by
    rw [gap_eq]
    exact Nat.pow_dvd_pow 2 (Nat.sub_le _ _)
  have hfloor : 2 ^ (num / den).log2 ≤ num / den / gap (num / den) * gap (num / den) := by
    have hsteps := Nat.div_le_div_right (c := gap (num / den)) (Nat.log2_self_le hpos)
    have hmul := Nat.mul_le_mul_right (gap (num / den)) hsteps
    rwa [Nat.div_mul_cancel hgap] at hmul
  have hround : num / den / gap (num / den) ≤ roundHalfEven num (den * gap (num / den)) := by
    rw [Nat.div_div_eq_div_mul]
    exact div_le_roundHalfEven _ _
  calc 2 ^ k ≤ 2 ^ (num / den).log2 := Nat.pow_le_pow_right (by decide) hk
    _ ≤ num / den / gap (num / den) * gap (num / den) := hfloor
    _ ≤ nearest num den := Nat.mul_le_mul_right _ hround

theorem nearest_le_pow {num den k : Nat} (h : num / den < 2 ^ k) : nearest num den ≤ 2 ^ k := by
  have hgap : gap (num / den) ∣ 2 ^ k := by
    rw [gap_eq]
    refine Nat.pow_dvd_pow 2 ?_
    rcases Nat.eq_zero_or_pos (num / den) with hzero | hpos
    · rw [hzero]
      exact Nat.zero_le _
    · have hlog := (Nat.log2_lt (Nat.ne_of_gt hpos)).mpr h
      omega
  have hround : roundHalfEven num (den * gap (num / den)) ≤ 2 ^ k / gap (num / den) := by
    have hsteps : num / den / gap (num / den) < 2 ^ k / gap (num / den) :=
      Nat.div_lt_div_of_lt_of_dvd hgap h
    rw [Nat.div_div_eq_div_mul] at hsteps
    exact (roundHalfEven_le _ _).trans hsteps
  calc nearest num den ≤ 2 ^ k / gap (num / den) * gap (num / den) := Nat.mul_le_mul_right _ hround
    _ = 2 ^ k := Nat.div_mul_cancel hgap

/-! ## Hundredths -/

theorem one_eq : one = 2 ^ places := by
  unfold one
  simp only [Nat.pow_eq]

theorem limit_eq : limit = 2 ^ (places + 1024) := by
  unfold limit
  simp only [Nat.pow_eq]

theorem gap_one : gap one = 2 ^ (places - 52) := by
  rw [gap_eq, one_eq, Nat.log2_two_pow]

theorem one_eq_mul_gap : one = 2 ^ 52 * gap one := by
  rw [gap_one, ← Nat.pow_add, Nat.add_sub_cancel' (by decide), one_eq]

theorem nearest_hundredth_le_one {num : Nat} (h : num ≤ 100 * one) : nearest num 100 ≤ one := by
  rcases Nat.lt_or_eq_of_le h with hlt | heq
  · have hdiv : num / 100 < 2 ^ places := by
      rw [← one_eq]
      exact Nat.div_lt_of_lt_mul hlt
    rw [one_eq]
    exact nearest_le_pow hdiv
  · have hscale : nearest (one * 100) (1 * 100) = nearest one 1 := nearest_mul_mul one 1 (by decide)
    have hone : nearest one 1 = one := nearest_of_dvd ⟨2 ^ 52, by rw [Nat.mul_comm, ← one_eq_mul_gap]⟩
    rw [heq, Nat.mul_comm 100 one]
    exact Nat.le_of_eq (hscale.trans hone)

/-- The distance between numbers just above a hundred. -/
def hundredGap : Nat := 64 * gap one

theorem hundredGap_eq : hundredGap = 2 ^ (places - 46) := by
  have hsix : (64 : Nat) = 2 ^ 6 := by decide
  have hplaces : 6 + (places - 52) = places - 46 := by decide
  rw [hundredGap, gap_one, hsix, ← Nat.pow_add, hplaces]

/-- From there on a hundredth is not rounded to one, as it is further away from one than half of the gap above it. -/
theorem one_lt_nearest_hundredth {num : Nat} (h : 100 * one + hundredGap ≤ num) : one < nearest num 100 := by
  have hgap := gap_pos one
  have hone := one_eq_mul_gap
  have hfloor : one ≤ num / 100 := (Nat.le_div_iff_mul_le (by decide)).mpr (by omega)
  by_cases hfar : 2 ^ (places + 1) ≤ num / 100
  · have hpow := pow_le_nearest hfar
    have hlt : one < 2 ^ (places + 1) := by
      rw [one_eq]
      exact Nat.pow_lt_pow_right (by decide) (Nat.lt_succ_self _)
    omega
  · have hlog : (num / 100).log2 = places := by
      have hpos : num / 100 ≠ 0 := Nat.ne_of_gt (Nat.lt_of_lt_of_le one_pos hfloor)
      have hlow : places ≤ (num / 100).log2 := (Nat.le_log2 hpos).mpr (by rwa [← one_eq])
      have hhigh : (num / 100).log2 < places + 1 := (Nat.log2_lt hpos).mpr (Nat.lt_of_not_le hfar)
      omega
    have hsame : gap (num / 100) = gap one := by rw [gap_eq, hlog, gap_one]
    have hround : 2 ^ 52 < roundHalfEven num (100 * gap one) := by
      have hsteps : 2 ^ 52 ≤ num / (100 * gap one) := (Nat.le_div_iff_mul_le (by omega)).mpr (by omega)
      rcases roundHalfEven_cases num (100 * gap one) with ⟨hround, hrest⟩ | ⟨hround, -⟩
      · by_contra hlow
        have hfloor : num / (100 * gap one) = 2 ^ 52 := by omega
        have hsplit := Nat.div_add_mod num (100 * gap one)
        rw [hfloor] at hsplit
        unfold hundredGap at h
        omega
      · omega
    unfold nearest
    rw [hsame]
    have hmul := Nat.mul_lt_mul_of_pos_right hround hgap
    rwa [← hone] at hmul

/-- Just above a hundred, the next number on the grid is a gap away. -/
theorem next_of_hundred_lt {u : Nat} (hgrid : OnGrid u) (h : 100 * one < u) : 100 * one + hundredGap ≤ u := by
  have hlog : places + 6 ≤ u.log2 := by
    refine (Nat.le_log2 (by omega)).mpr ?_
    rw [Nat.pow_add, ← one_eq]
    omega
  have hdvd : hundredGap ∣ u := by
    refine Nat.dvd_trans ?_ hgrid.2
    rw [hundredGap_eq, gap_eq]
    exact Nat.pow_dvd_pow 2 (by omega)
  have hhundred : hundredGap ∣ 100 * one := ⟨100 * 2 ^ 46, by rw [hundredGap]; have := one_eq_mul_gap; omega⟩
  have hrest : hundredGap ∣ u - 100 * one := Nat.dvd_sub hdvd hhundred
  have hle := Nat.le_of_dvd (by omega) hrest
  omega

theorem nearest_hundredth_le_one_iff {u : Nat} (hgrid : OnGrid u) : nearest u 100 ≤ one ↔ u ≤ 100 * one := by
  constructor
  · intro h
    by_contra hfar
    have hlt := one_lt_nearest_hundredth (next_of_hundred_lt hgrid (Nat.lt_of_not_le hfar))
    omega
  · exact nearest_hundredth_le_one

/-! ## Between zero and one -/

/-- A number from zero to one. -/
def InUnit (x : Binary64) : Prop := ∃ p, x.position = some p ∧ 0 ≤ p ∧ p ≤ one

theorem hundred_lt_limit : 100 * one < limit := by
  have hone := one_pos
  calc 100 * one < 2 ^ 7 * one := by omega
    _ = 2 ^ (7 + places) := by rw [one_eq, ← Nat.pow_add]
    _ ≤ limit := by
      rw [limit_eq]
      exact Nat.pow_le_pow_right (by decide) (by decide)

theorem not_inUnit_infinite (negative : Bool) : ¬(infinite negative).InUnit := by
  have hlimit := hundred_lt_limit
  rintro ⟨p, hp, hlow, hhigh⟩
  rw [position_infinite, Option.some_inj, place] at hp
  split_ifs at hp <;> omega

theorem inUnit_finite_iff {negative : Bool} {units : Nat} {onGrid : OnGrid units} :
    (finite negative units onGrid).InUnit ↔ units ≤ one ∧ (negative = true → units = 0) := by
  unfold InUnit
  rw [position_finite]
  simp only [Option.some_inj, exists_eq_left', place]
  cases negative
  · simp only [Bool.false_eq_true, ↓reduceIte, false_imp_iff, and_true]
    omega
  · simp only [↓reduceIte, true_imp_iff]
    omega

theorem inUnit_ofUnits_iff (negative : Bool) (num den : Nat) :
    (ofUnits negative num den).InUnit ↔ nearest num den ≤ one ∧ (negative = true → nearest num den = 0) := by
  by_cases hlt : nearest num den < limit
  · rw [ofUnits_of_lt _ hlt, inUnit_finite_iff]
  · rw [ofUnits_of_not_lt _ hlt]
    have hlimit := hundred_lt_limit
    exact iff_of_false (not_inUnit_infinite negative) fun h => by omega

/-- **The hundredth of a number lies between zero and one** when the number lies between zero and a hundred, or so
little below zero that its hundredth is a zero. -/
theorem inUnit_divNat_iff (x : Binary64) :
    (x.divNat 100).InUnit ↔ ∃ p, x.position = some p ∧ -50 ≤ p ∧ p ≤ 100 * one := by
  have hlimit := hundred_lt_limit
  have hone := one_pos
  cases x with
  | nan => exact iff_of_false (fun ⟨_, h, _⟩ => nomatch h) (fun ⟨_, h, _⟩ => nomatch h)
  | infinite negative =>
    refine iff_of_false (not_inUnit_infinite negative) ?_
    rintro ⟨p, hp, hlow, hhigh⟩
    rw [position_infinite, Option.some_inj, place] at hp
    split_ifs at hp <;> omega
  | finite negative units onGrid =>
    rw [divNat, inUnit_ofUnits_iff, nearest_hundredth_le_one_iff onGrid, nearest_eq_zero_iff (by decide),
      position_finite]
    simp only [Option.some_inj, exists_eq_left', place]
    cases negative
    · simp only [Bool.false_eq_true, ↓reduceIte, false_imp_iff, and_true]
      omega
    · simp only [↓reduceIte, true_imp_iff]
      omega

/-- The hundredth of an integer lies between zero and one just when the integer lies between zero and a hundred. -/
theorem inUnit_hundredth_iff (n : Int) : (ofRatio (decide (n < 0)) n.natAbs 100).InUnit ↔ 0 ≤ n ∧ n ≤ 100 := by
  have hone := one_pos
  rw [ofRatio, inUnit_ofUnits_iff, nearest_eq_zero_iff (by decide)]
  constructor
  · rintro ⟨hle, hzero⟩
    have hhigh : n.natAbs ≤ 100 := by
      by_contra hfar
      have hnext : 101 * one ≤ n.natAbs * one := Nat.mul_le_mul_right one (by omega)
      have hgap : hundredGap ≤ one := by
        unfold hundredGap
        have := one_eq_mul_gap
        omega
      have hlt : one < nearest (n.natAbs * one) 100 := one_lt_nearest_hundredth (by omega)
      omega
    refine ⟨?_, by omega⟩
    by_contra hneg
    have hsmall := hzero (decide_eq_true (by omega))
    have hlarge : 1 * one ≤ n.natAbs * one := Nat.mul_le_mul_right one (by omega)
    have hgap := gap_pos one
    have heq := one_eq_mul_gap
    omega
  · rintro ⟨hlow, hhigh⟩
    refine ⟨nearest_hundredth_le_one (Nat.mul_le_mul_right one (by omega)), fun hneg => ?_⟩
    have hneg := of_decide_eq_true hneg
    omega

end Chatflow.Binary64
