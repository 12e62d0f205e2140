/-!
# Double-precision numbers

A finite number is a sign and a magnitude counted in units of the smallest positive number, `2 ^ -1074`.  Order and
equality of two numbers, and of a number and an integer, are then those of integers, with no rounding in between.

* `OnGrid u`: the magnitude `u` has at most 53 significant bits and lies below `2 ^ 1024`.
* `nearest num den`: the magnitude nearest to `num / den`, a tie going to the even neighbour; `gap_dvd_nearest` says
  that it has at most 53 significant bits.
* `ofRatio`, `ofInt?`, `divNat`, `mulNat`: arithmetic that rounds once.
* `position`: where a number lies on the line, `none` for the one that is no number; `same` and `below` compare
  positions.
-/

namespace Chatflow

namespace Binary64

/-! ## Magnitudes -/

/-- How many binary places the unit of magnitudes lies behind the point. -/
def places : Nat := 1074

/-- One, in units of `2 ^ -1074`. -/
def one : Nat := Nat.pow 2 places

/-- One past the largest magnitude, `2 ^ 1024`, in units. -/
def limit : Nat := Nat.pow 2 (places + 1024)

/-- The distance of a magnitude from its upper neighbour. -/
def gap (u : Nat) : Nat := Nat.pow 2 (u.log2 - 52)

/-- A magnitude of at most 53 significant bits below the limit. -/
def OnGrid (u : Nat) : Prop := u < limit ∧ gap u ∣ u

instance (u : Nat) : Decidable (OnGrid u) := inferInstanceAs (Decidable (_ ∧ _))

theorem pow_two_pos (k : Nat) : 0 < Nat.pow 2 k := Nat.two_pow_pos k

theorem gap_pos (u : Nat) : 0 < gap u := pow_two_pos _

theorem one_pos : 0 < one := by
  unfold one
  exact pow_two_pos places

theorem limit_pos : 0 < limit := by
  unfold limit
  exact pow_two_pos (places + 1024)

theorem onGrid_zero : OnGrid 0 := ⟨limit_pos, Nat.dvd_zero _⟩

/-- The integer nearest to `num / den`, a tie going to the even one. -/
def roundHalfEven (num den : Nat) : Nat :=
  let floor := num / den
  let rest := num % den
  if 2 * rest < den then floor
  else if den < 2 * rest then floor + 1
  else if floor % 2 = 0 then floor else floor + 1

theorem roundHalfEven_le (num den : Nat) : roundHalfEven num den ≤ num / den + 1 := by
  simp only [roundHalfEven]
  grind

/-- The magnitude nearest to `num / den`, a tie going to the even neighbour. -/
def nearest (num den : Nat) : Nat :=
  roundHalfEven num (den * gap (num / den)) * gap (num / den)

/-- At most `2 ^ 53` steps are counted. -/
theorem roundHalfEven_gap_le (num den : Nat) : roundHalfEven num (den * gap (num / den)) ≤ Nat.pow 2 53 := by
  refine Nat.le_trans (roundHalfEven_le _ _) ?_
  rw [← Nat.div_div_eq_div_mul]
  have h : num / den / gap (num / den) < Nat.pow 2 53 := by
    refine Nat.div_lt_of_lt_mul ?_
    simp only [gap, Nat.pow_eq]
    rw [← Nat.pow_add]
    exact Nat.lt_of_lt_of_le Nat.lt_log2_self (Nat.pow_le_pow_right (by decide) (by omega))
  exact h

theorem gap_dvd_mul {m : Nat} (k : Nat) (h : m ≤ Nat.pow 2 53) : gap (m * Nat.pow 2 k) ∣ m * Nat.pow 2 k := by
  simp only [gap, Nat.pow_eq] at h ⊢
  rcases Nat.eq_zero_or_pos m with rfl | hm
  · simp
  rcases Nat.lt_or_eq_of_le h with h | rfl
  · have hne := Nat.mul_ne_zero (Nat.ne_of_gt hm) (Nat.ne_of_gt (Nat.two_pow_pos k))
    have hlog := (Nat.log2_lt hne).2 (Nat.lt_of_lt_of_eq (Nat.mul_lt_mul_of_pos_right h (Nat.two_pow_pos k))
      (Nat.pow_add 2 53 k).symm)
    exact Nat.dvd_trans (Nat.pow_dvd_pow 2 (by omega)) (Nat.dvd_mul_left _ _)
  · rw [← Nat.pow_add, Nat.log2_two_pow]
    exact Nat.pow_dvd_pow 2 (by omega)

theorem gap_dvd_nearest (num den : Nat) : gap (nearest num den) ∣ nearest num den :=
  gap_dvd_mul _ (roundHalfEven_gap_le num den)

end Binary64

/-! ## Numbers -/

/-- A double-precision number: the one that is no number, an infinity, or a sign with a magnitude. -/
inductive Binary64 where
  | nan
  | infinite (negative : Bool)
  | finite (negative : Bool) (units : Nat) (onGrid : Binary64.OnGrid units)
  deriving DecidableEq

namespace Binary64

/-- Zero with a sign. -/
def zero (negative : Bool) : Binary64 := .finite negative 0 onGrid_zero

instance : Inhabited Binary64 := ⟨zero false⟩

/-- The number whose magnitude is nearest to `num / den` units; an infinity when that is too large. -/
def ofUnits (negative : Bool) (num den : Nat) : Binary64 :=
  if h : nearest num den < limit then .finite negative (nearest num den) ⟨h, gap_dvd_nearest num den⟩
  else .infinite negative

/-- The number nearest to `num / den`. -/
def ofRatio (negative : Bool) (num den : Nat) : Binary64 := ofUnits negative (num * one) den

/-- It, unless it is an infinity. -/
def bounded? : Binary64 → Option Binary64
  | .infinite _ => none
  | x => some x

/-- The number nearest to an integer, unless that is too large for any. -/
def ofInt? (n : Int) : Option Binary64 := (ofRatio (decide (n < 0)) n.natAbs 1).bounded?

/-- The number nearest to a quotient by a positive integer that is itself a number. -/
def divNat (x : Binary64) (d : Nat) : Binary64 :=
  match x with
  | .finite negative u _ => ofUnits negative u d
  | x => x

/-- The number nearest to a product by a positive integer that is itself a number. -/
def mulNat (x : Binary64) (k : Nat) : Binary64 :=
  match x with
  | .finite negative u _ => ofUnits negative (u * k) 1
  | x => x

/-- Whether it is the one that is no number. -/
def isNan : Binary64 → Bool
  | .nan => true
  | _ => false

/-- Whether it is one of the two zeros. -/
def isZero : Binary64 → Bool
  | .finite _ u _ => u == 0
  | _ => false

/-- Whether it is finite and has no fraction. -/
def isInteger : Binary64 → Bool
  | .finite _ u _ => u % one == 0
  | _ => false

/-- The integer left when the fraction is dropped; zero for what is not finite. -/
def truncate : Binary64 → Int
  | .finite true u _ => -(u / one : Nat)
  | .finite false u _ => (u / one : Nat)
  | _ => 0

/-- The part behind the point, with the sign. -/
def fraction : Binary64 → Binary64
  | .finite negative u _ => ofUnits negative (u % one) 1
  | x => x

/-- The nearest integer, a tie going to the even one; zero for what is not finite. -/
def round : Binary64 → Int
  | .finite true u _ => -(roundHalfEven u one : Nat)
  | .finite false u _ => (roundHalfEven u one : Nat)
  | _ => 0

/-- The least integer that is not smaller; zero for what is not finite. -/
def ceil : Binary64 → Int
  | .finite true u _ => -(u / one : Nat)
  | .finite false u _ => ((u + (one - 1)) / one : Nat)
  | _ => 0

/-! ## Order -/

/-- Where it lies on the line, in units; the infinities lie just outside the finite numbers. -/
def position : Binary64 → Option Int
  | .nan => none
  | .infinite true => some (-(limit : Int))
  | .infinite false => some limit
  | .finite true u _ => some (-(u : Int))
  | .finite false u _ => some u

/-- Equality of positions: the two zeros are the same, and what is no number is not even the same as itself. -/
def same (x y : Binary64) : Bool :=
  match x.position, y.position with
  | some p, some q => p == q
  | _, _ => false

/-- Strict order of positions; what is no number is below and above nothing. -/
def below (x y : Binary64) : Bool :=
  match x.position, y.position with
  | some p, some q => decide (p < q)
  | _, _ => false

/-- Equality with an integer, with no rounding. -/
def sameInt : Binary64 → Int → Bool
  | .finite true u _, n => -(u : Int) == n * one
  | .finite false u _, n => (u : Int) == n * one
  | _, _ => false

theorem same_comm (x y : Binary64) : x.same y = y.same x := by
  unfold same
  cases x.position <;> cases y.position <;> simp [Bool.beq_comm]

end Binary64

end Chatflow
