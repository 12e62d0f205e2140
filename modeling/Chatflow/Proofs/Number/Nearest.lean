import Chatflow.Number.Binary64
import Mathlib.Data.Nat.Log
import Mathlib.Tactic.Ring

/-!
# Rounding to the nearest magnitude

`nearest num den` depends on the ratio only (`nearest_mul_mul`), leaves the magnitudes on the grid as they are
(`nearest_of_dvd`), is at least half of the ratio (`div_le_two_mul_nearest`), and is zero up to half a unit
(`nearest_eq_zero_iff`).

An integer that a number is equal to is rounded to a number at the same place (`position_ofInt?`).
-/

namespace Chatflow.Binary64

/-! ## Rounding to an integer -/

theorem roundHalfEven_cases (num den : Nat) :
    (roundHalfEven num den = num / den ∧ 2 * (num % den) ≤ den) ∨
      (roundHalfEven num den = num / den + 1 ∧ den ≤ 2 * (num % den)) := by
  unfold roundHalfEven
  dsimp only
  split_ifs with hlow hhigh heven
  · exact Or.inl ⟨rfl, by omega⟩
  · exact Or.inr ⟨rfl, by omega⟩
  · exact Or.inl ⟨rfl, by omega⟩
  · exact Or.inr ⟨rfl, by omega⟩

theorem div_le_roundHalfEven (num den : Nat) : num / den ≤ roundHalfEven num den := by
  rcases roundHalfEven_cases num den with ⟨h, -⟩ | ⟨h, -⟩ <;> omega

theorem roundHalfEven_of_dvd {num den : Nat} (hden : 0 < den) (h : den ∣ num) : roundHalfEven num den = num / den := by
  have hrest : num % den = 0 := Nat.mod_eq_zero_of_dvd h
  unfold roundHalfEven
  dsimp only
  rw [hrest, if_pos (by omega)]

theorem roundHalfEven_mul_mul (num den : Nat) {k : Nat} (hk : 0 < k) :
    roundHalfEven (num * k) (den * k) = roundHalfEven num den := by
  have hlow : 2 * (num % den * k) < den * k ↔ 2 * (num % den) < den := by
    rw [← Nat.mul_assoc]
    exact Nat.mul_lt_mul_right hk
  have hhigh : den * k < 2 * (num % den * k) ↔ den < 2 * (num % den) := by
    rw [← Nat.mul_assoc]
    exact Nat.mul_lt_mul_right hk
  unfold roundHalfEven
  dsimp only
  rw [Nat.mul_div_mul_right _ _ hk, Nat.mul_mod_mul_right]
  simp only [hlow, hhigh]

/-! ## The nearest magnitude -/

/-- **The nearest magnitude depends on the ratio only.** -/
theorem nearest_mul_mul (num den : Nat) {k : Nat} (hk : 0 < k) : nearest (num * k) (den * k) = nearest num den := by
  unfold nearest
  rw [Nat.mul_div_mul_right _ _ hk, Nat.mul_right_comm den k, roundHalfEven_mul_mul _ _ hk]

theorem nearest_congr {num den num' den' : Nat} (hden : 0 < den) (hden' : 0 < den') (h : num * den' = num' * den) :
    nearest num den = nearest num' den' := by
  rw [← nearest_mul_mul num den hden', h, Nat.mul_comm den den', nearest_mul_mul num' den' hden]

/-- **A magnitude on the grid is the nearest to itself.** -/
theorem nearest_of_dvd {u : Nat} (h : gap u ∣ u) : nearest u 1 = u := by
  unfold nearest
  rw [Nat.div_one, Nat.one_mul, roundHalfEven_of_dvd (gap_pos u) h, Nat.div_mul_cancel h]

theorem nearest_zero (den : Nat) : nearest 0 den = 0 := by
  unfold nearest
  rw [Nat.zero_div]
  rcases roundHalfEven_cases 0 (den * gap 0) with ⟨h, -⟩ | ⟨h, hrest⟩
  · rw [h, Nat.zero_div, Nat.zero_mul]
  · have hden : den * gap 0 = 0 := by simpa using hrest
    rw [hden]
    rfl

theorem gap_le {u : Nat} (hu : 0 < u) : gap u ≤ u :=
  (Nat.pow_le_pow_right (by decide) (Nat.sub_le _ _)).trans (Nat.log2_self_le (Nat.ne_of_gt hu))

/-- Rounding takes away less than half. -/
theorem div_le_two_mul_nearest (num den : Nat) : num / den ≤ 2 * nearest num den := by
  rcases Nat.eq_zero_or_pos (num / den) with hzero | hpos
  · omega
  have hfloor : num / den / gap (num / den) ≤ roundHalfEven num (den * gap (num / den)) := by
    rw [Nat.div_div_eq_div_mul]
    exact div_le_roundHalfEven _ _
  have hnearest : num / den / gap (num / den) * gap (num / den) ≤ nearest num den :=
    Nat.mul_le_mul_right _ hfloor
  have hgap := gap_pos (num / den)
  have hone : 1 ≤ num / den / gap (num / den) := (Nat.one_le_div_iff hgap).mpr (gap_le hpos)
  have hsteps : gap (num / den) ≤ num / den / gap (num / den) * gap (num / den) := Nat.le_mul_of_pos_left _ hone
  have hsplit := Nat.div_add_mod (num / den) (gap (num / den))
  have hrest := Nat.mod_lt (num / den) hgap
  rw [Nat.mul_comm] at hsplit
  omega

/-- Up to half a unit the nearest magnitude is zero. -/
theorem nearest_eq_zero_iff {num den : Nat} (hden : 0 < den) : nearest num den = 0 ↔ 2 * num ≤ den := by
  constructor
  · intro h
    have hfloor : num / den = 0 := by
      have hhalf := div_le_two_mul_nearest num den
      rw [h] at hhalf
      exact Nat.le_zero.mp hhalf
    have hnum : num < den := (Nat.div_eq_zero_iff_lt hden).mp hfloor
    have hround : roundHalfEven num den = 0 := by
      unfold nearest at h
      rw [hfloor] at h
      simpa [gap] using h
    rcases roundHalfEven_cases num den with ⟨-, hle⟩ | ⟨hup, -⟩
    · rwa [Nat.mod_eq_of_lt hnum] at hle
    · omega
  · intro h
    have hnum : num < den := by omega
    have hfloor : num / den = 0 := Nat.div_eq_of_lt hnum
    have hround : roundHalfEven num den = 0 := by
      unfold roundHalfEven
      dsimp only
      rw [hfloor, Nat.mod_eq_of_lt hnum]
      split_ifs <;> omega
    unfold nearest
    rw [hfloor]
    simp [gap, hround]

/-! ## Integers -/

/-- Where a sign and a magnitude lie on the line. -/
def place (negative : Bool) (units : Nat) : Int := if negative then -(units : Int) else units

theorem natAbs_place (negative : Bool) (units : Nat) : (place negative units).natAbs = units := by
  unfold place
  split <;> omega

theorem position_finite (negative : Bool) (units : Nat) (onGrid : OnGrid units) :
    (finite negative units onGrid).position = some (place negative units) := by
  cases negative <;> rfl

theorem position_infinite (negative : Bool) : (infinite negative).position = some (place negative limit) := by
  cases negative <;> rfl

theorem place_natAbs (n : Int) (k : Nat) : place (decide (n < 0)) (n.natAbs * k) = n * k := by
  unfold place
  rw [Int.natCast_mul]
  by_cases hn : n < 0
  · rw [if_pos (decide_eq_true hn), ← Int.neg_mul, show -(n.natAbs : Int) = n by omega]
  · rw [if_neg (by simpa using hn), show (n.natAbs : Int) = n by omega]

theorem onGrid_nearest {num den : Nat} (h : nearest num den < limit) : OnGrid (nearest num den) :=
  ⟨h, gap_dvd_nearest num den⟩

theorem ofUnits_of_lt (negative : Bool) {num den : Nat} (h : nearest num den < limit) :
    ofUnits negative num den = .finite negative (nearest num den) (onGrid_nearest h) :=
  dif_pos h

theorem ofUnits_of_not_lt (negative : Bool) {num den : Nat} (h : ¬nearest num den < limit) :
    ofUnits negative num den = .infinite negative :=
  dif_neg h

theorem isNan_ofUnits (negative : Bool) (num den : Nat) : (ofUnits negative num den).isNan = false := by
  unfold ofUnits
  split_ifs <;> rfl

theorem finite_congr (negative : Bool) {units more : Nat} (hu : OnGrid units) (hm : OnGrid more) (h : units = more) :
    finite negative units hu = finite negative more hm := by
  subst h
  rfl

theorem ofUnits_of_nearest (negative : Bool) {num den units : Nat} (h : OnGrid units)
    (hnearest : nearest num den = units) : ofUnits negative num den = .finite negative units h := by
  have hlt : nearest num den < limit := by
    rw [hnearest]
    exact h.1
  exact (ofUnits_of_lt negative hlt).trans (finite_congr negative _ h hnearest)

/-- A number is on the grid itself, so that nothing is lost when it is rounded. -/
theorem ofUnits_of_onGrid (negative : Bool) {units : Nat} (h : OnGrid units) :
    ofUnits negative units 1 = .finite negative units h :=
  ofUnits_of_nearest negative h (nearest_of_dvd h.2)

theorem ofInt?_eq_some_iff {n : Int} {x : Binary64} :
    ofInt? n = some x ↔ x = ofRatio (decide (n < 0)) n.natAbs 1 ∧ nearest (n.natAbs * one) 1 < limit := by
  by_cases h : nearest (n.natAbs * one) 1 < limit
  · have hsome : ofInt? n = some (ofRatio (decide (n < 0)) n.natAbs 1) := by
      rw [ofInt?, ofRatio, ofUnits_of_lt _ h]
      rfl
    rw [hsome, Option.some_inj]
    exact ⟨fun hx => ⟨hx.symm, h⟩, fun hx => hx.1.symm⟩
  · have hnone : ofInt? n = none := by
      rw [ofInt?, ofRatio, ofUnits_of_not_lt _ h]
      rfl
    rw [hnone]
    exact ⟨nofun, fun hx => absurd hx.2 h⟩

/-- What `sameInt` says of a finite number. -/
theorem sameInt_finite_iff {negative : Bool} {units : Nat} {onGrid : OnGrid units} {n : Int} :
    (finite negative units onGrid).sameInt n = true ↔ place negative units = n * one := by
  cases negative
  · rw [sameInt, beq_iff_eq, place, if_neg Bool.false_ne_true]
  · rw [sameInt, beq_iff_eq, place, if_pos rfl]

theorem position_ofRatio {x : Binary64} {n : Int} (h : x.sameInt n = true) :
    (ofRatio (decide (n < 0)) n.natAbs 1).position = x.position := by
  cases x with
  | nan | infinite => cases h
  | finite negative units onGrid =>
    have hplace := sameInt_finite_iff.mp h
    have hunits : n.natAbs * one = units := by
      have habs := congrArg Int.natAbs hplace
      rw [Int.natAbs_mul, Int.natAbs_natCast] at habs
      rw [← habs, natAbs_place]
    have hgrid : OnGrid (n.natAbs * one) := hunits ▸ onGrid
    rw [ofRatio, ofUnits_of_onGrid _ hgrid, position_finite, position_finite, hplace, place_natAbs]

/-- **An integer that is equal to a number is rounded to one at the same place.** -/
theorem position_ofInt? {x y : Binary64} {n : Int} (h : x.sameInt n = true) (hy : ofInt? n = some y) :
    y.position = x.position := by
  rw [(ofInt?_eq_some_iff.mp hy).1, position_ofRatio h]

/-- An integral number is equal to the integer that it is. -/
theorem sameInt_truncate {x : Binary64} (h : x.isInteger = true) : x.sameInt x.truncate = true := by
  cases x with
  | nan | infinite => cases h
  | finite negative units onGrid =>
    have hwhole : units / one * one = units := Nat.div_mul_cancel (Nat.dvd_of_mod_eq_zero (beq_iff_eq.mp h))
    have hcast : ((units / one : Nat) : Int) * one = units := by rw [← Int.natCast_mul, hwhole]
    rw [sameInt_finite_iff]
    cases negative with
    | false => exact hcast.symm
    | true =>
      rw [truncate, Int.neg_mul, hcast]
      rfl

end Chatflow.Binary64
