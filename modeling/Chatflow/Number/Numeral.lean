import Chatflow.Number.Decimal
import Chatflow.Text.Blank
import Chatflow.Text.Digit

/-!
# Numerals that people type

A numeral may have blanks around it, digits of any script and single underscores between digits: `plain?` brings it
into the plain notation.  The separators U+001C to U+001F are no blanks here.

* `Binary64.typed?`: a double-precision number.
* `typedInt?`: an integer.
-/

namespace Chatflow.Numeral

/-- Whether a character may stand around a numeral. -/
def isMargin (c : Char) : Bool := Text.isBlank c && !(0x1c ≤ c.toNat && c.toNat ≤ 0x1f)

/-- A text without its underscores, when each of them stands between two digits; `previous` is the character before
the text. -/
def withoutUnderscores? (previous : Char) : List Char → Option (List Char)
  | [] => if previous = '_' then none else some []
  | c :: cs =>
    if c = '_' then if previous.isDigit then withoutUnderscores? c cs else none
    else if previous = '_' && !c.isDigit then none
    else (withoutUnderscores? c cs).map (c :: ·)

/-- A numeral in plain notation. -/
def plain? (cs : List Char) : Option (List Char) :=
  withoutUnderscores? ' ' (Text.trimBy isMargin (cs.map Text.asciiDigit))

/-- The double-precision number of a numeral. -/
def real? (cs : List Char) : Option Binary64 := (plain? cs).bind Binary64.read?

/-- The integer of a numeral. -/
def int? (cs : List Char) : Option Int :=
  (plain? cs).bind fun plain =>
    let (negative, ds) := Decimal.takeSign plain
    if ds.isEmpty || !ds.all Char.isDigit then none
    else some (if negative then -(Decimal.ofDigits ds : Int) else Decimal.ofDigits ds)

end Chatflow.Numeral
