import Chatflow.Number.Decimal

/-!
# Shortest decimal text

The text of a number has the fewest digits that read back as the same number, and of these the digits nearest to it.
For 1, 2, … 17 digits the two neighbours of the number on that decimal grid are tried, the nearer one first; each is
accepted because it reads back (`shortest_reads_back`).

* `shortest`: the decimal number chosen for a magnitude.
* `Layout`: where positional notation ends and how the special numbers are spelled.
* `Binary64.text`: the text in a layout.
-/

namespace Chatflow

namespace Decimal

/-- The power of ten of the first digit of a positive magnitude. -/
def leading (units : Nat) : Int := (width (units * Nat.pow 10 400 / Binary64.one) : Int) - 401

/-- The two neighbours of a magnitude among the multiples of `10 ^ scale`, the nearer one first, in a tie the even. -/
def neighbours (units : Nat) (scale : Int) : List Decimal :=
  let num := units * Nat.pow 10 (-scale).toNat
  let den := Binary64.one * Nat.pow 10 scale.toNat
  let low := num / den
  let rest := num % den
  if 2 * rest < den || (2 * rest == den && low % 2 == 0) then [⟨low, scale⟩, ⟨low + 1, scale⟩]
  else [⟨low + 1, scale⟩, ⟨low, scale⟩]

/-- The magnitude written out in full. -/
def full (units : Nat) : Decimal := ⟨units * Nat.pow 5 Binary64.places, -Binary64.places⟩

/-- The neighbours of a magnitude on the grids of 1, 2, … 17 digits. -/
def candidates (units : Nat) : List Decimal :=
  (List.range 17).flatMap fun (n : Nat) => neighbours units (leading units - n)

/-- The first candidate that reads back as the magnitude. -/
def shortest (units : Nat) : Decimal :=
  ((candidates units).find? fun d => d.nearestUnits == units).getD (full units)

/-- What is chosen reads back, or is the magnitude written out in full. -/
theorem shortest_reads_back (units : Nat) : (shortest units).nearestUnits = units ∨ shortest units = full units := by
  unfold shortest
  cases h : (candidates units).find? fun d => d.nearestUnits == units with
  | none => exact .inr rfl
  | some d => exact .inl (by simpa using List.find?_some h)

/-- The digits without the zeros at the end, and the power of ten of the first one. -/
def digits (d : Decimal) : List Char × Int :=
  let all := Nat.toDigits 10 d.coefficient
  ((all.reverse.dropWhile (· == '0')).reverse, d.scale + all.length - 1)

end Decimal

/-- How numbers are laid out: positional notation from the power of ten `low` of the first digit up to, but not
including, `high`; the spelling of the special numbers. -/
structure Layout where
  low : Int
  high : Int
  nan : String
  infinity : String

namespace Layout

/-- Digits in positional notation; a whole number ends in `.0`. -/
def positional (ds : List Char) (first : Int) : List Char :=
  if first < 0 then '0' :: '.' :: List.replicate (-first - 1).toNat '0' ++ ds
  else
    let whole := (first + 1).toNat
    let body := ds.drop whole
    ds.take whole ++ List.replicate (whole - ds.length) '0' ++ '.' :: (if body.isEmpty then ['0'] else body)

/-- Digits with a power of ten of at least two digits. -/
def scientific (ds : List Char) (first : Int) : List Char :=
  let power := Nat.toDigits 10 first.natAbs
  ds.take 1 ++ (if ds.length ≤ 1 then [] else '.' :: ds.drop 1) ++
    ['e', if first < 0 then '-' else '+'] ++ List.replicate (2 - power.length) '0' ++ power

/-- The text of a magnitude. -/
def magnitude (layout : Layout) (units : Nat) : List Char :=
  if units = 0 then ['0', '.', '0']
  else
    let (ds, first) := (Decimal.shortest units).digits
    if layout.low ≤ first ∧ first < layout.high then positional ds first else scientific ds first

end Layout

namespace Binary64

/-- The text of a number in a layout. -/
def text (layout : Layout) : Binary64 → String
  | .nan => layout.nan
  | .infinite negative => (if negative then "-" else "") ++ layout.infinity
  | .finite negative units _ => (if negative then "-" else "") ++ String.ofList (layout.magnitude units)

end Binary64

end Chatflow
