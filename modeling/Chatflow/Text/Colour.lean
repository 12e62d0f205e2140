import Chatflow.Text.Search

/-!
# Colour sequences

Terminals read an escape character, an opening bracket, numbers with semicolons between them and an `m` as a change of
colour.  `uncoloured` leaves such sequences out, from left to right and in one pass.
-/

namespace Chatflow.Text

/-- The character that begins a colour sequence. -/
def escape : Char := '\x1b'

/-- Whether a character may stand among the numbers of a colour sequence. -/
def isColourNumber (c : Char) : Bool := c.isDigit || c == ';'

/-- How many characters a colour sequence at the start of a text has. -/
def colourSequence : List Char → Option Nat
  | c :: '[' :: rest =>
    if c = escape then
      match rest.dropWhile isColourNumber with
      | 'm' :: _ => some ((rest.takeWhile isColourNumber).length + 3)
      | _ => none
    else none
  | _ => none

/-- A text without its colour sequences. -/
def uncoloured (s : String) : String := String.ofList (replaceAll colourSequence [] s.toList)

end Chatflow.Text
