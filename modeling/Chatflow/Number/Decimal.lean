import Chatflow.Number.Binary64

/-!
# Decimal numbers

A decimal number is a coefficient and a power of ten.  `Decimal.nearest` is its double-precision number, rounded once;
`Decimal.read?` takes the notation `12.5e-3`, in ASCII digits, with nothing around it.
-/

namespace Chatflow

/-- The number `coefficient * 10 ^ scale`. -/
structure Decimal where
  coefficient : Nat
  scale : Int
  deriving DecidableEq, Repr

namespace Decimal

/-- How many decimal digits an integer has. -/
def width (n : Nat) : Nat := (Nat.toDigits 10 n).length

/-- How many digits an integer may have that is read from a text or written as one. -/
def longest : Nat := 4300

/-- Whether an integer has too many digits for a text. -/
def isLong (n : Int) : Bool := longest < width n.natAbs

/-- The ratio of two integers that it is. -/
def ratio (d : Decimal) : Nat × Nat :=
  (d.coefficient * Nat.pow 10 d.scale.toNat, Nat.pow 10 (-d.scale).toNat)

/-- The magnitude nearest to it. -/
def nearestUnits (d : Decimal) : Nat := Binary64.nearest (d.ratio.1 * Binary64.one) d.ratio.2

/-- The number nearest to it.  Far outside the range of double precision no power of ten is computed. -/
def nearest (negative : Bool) (d : Decimal) : Binary64 :=
  let top := (width d.coefficient : Int) + d.scale
  if d.coefficient = 0 then .zero negative
  else if 400 < top then .infinite negative
  else if top < -400 then .zero negative
  else .ofRatio negative d.ratio.1 d.ratio.2

/-! ## Reading -/

/-- The value of a list of digits. -/
def ofDigits (ds : List Char) : Nat := ds.foldl (fun n c => 10 * n + (c.toNat - '0'.toNat)) 0

/-- A sign is taken off; the flag tells a minus. -/
def takeSign : List Char → Bool × List Char
  | '-' :: cs => (true, cs)
  | '+' :: cs => (false, cs)
  | cs => (false, cs)

/-- What may follow the digits of a number: nothing, or a power of ten. -/
def readExponent? : List Char → Option Int
  | [] => some 0
  | c :: cs =>
    let (negative, ds) := takeSign cs
    if (c == 'e' || c == 'E') && !ds.isEmpty && ds.all Char.isDigit then
      some (if negative then -(ofDigits ds : Int) else ofDigits ds)
    else none

/-- A fraction is taken off: the digits behind a point, when there is one. -/
def takeFraction : List Char → List Char × List Char
  | '.' :: cs => (cs.takeWhile Char.isDigit, cs.dropWhile Char.isDigit)
  | cs => ([], cs)

/-- Reads digits with an optional point and power of ten; at least one digit stands before the power of ten. -/
def read? (cs : List Char) : Option Decimal :=
  let whole := cs.takeWhile Char.isDigit
  let (fraction, rest) := takeFraction (cs.dropWhile Char.isDigit)
  if whole.isEmpty && fraction.isEmpty then none
  else (readExponent? rest).map fun e => ⟨ofDigits (whole ++ fraction), e - fraction.length⟩

end Decimal

namespace Binary64

/-- The letters of a text in lower case, for words of ASCII letters. -/
def wordOf (cs : List Char) : String := String.ofList (cs.map Char.toLower)

/-- Reads a number: a sign, then a decimal number or one of the words `inf`, `infinity` and `nan` in any case. -/
def read? (cs : List Char) : Option Binary64 :=
  let (negative, body) := Decimal.takeSign cs
  let word := wordOf body
  if word = "inf" ∨ word = "infinity" then some (.infinite negative)
  else if word = "nan" then some .nan
  else (Decimal.read? body).map (Decimal.nearest negative)

end Binary64

end Chatflow
