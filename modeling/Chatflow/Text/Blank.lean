/-!
# Blank characters

The white space of Unicode together with the four separators U+001C to U+001F, and the texts without it at their ends.
-/

namespace Chatflow.Text

/-- Ranges of blank code points. -/
def blanks : List (Nat × Nat) :=
  [(0x9, 0xd), (0x1c, 0x20), (0x85, 0x85), (0xa0, 0xa0), (0x1680, 0x1680), (0x2000, 0x200a), (0x2028, 0x2029),
   (0x202f, 0x202f), (0x205f, 0x205f), (0x3000, 0x3000)]

/-- Whether a character is blank. -/
def isBlank (c : Char) : Bool := blanks.any fun (first, last) => first ≤ c.toNat && c.toNat ≤ last

/-- A text without the characters of a class at its start. -/
def trimStart (p : Char → Bool) (cs : List Char) : List Char := cs.dropWhile p

/-- A text without the characters of a class at its end. -/
def trimEnd (p : Char → Bool) (cs : List Char) : List Char := (cs.reverse.dropWhile p).reverse

/-- A text without the characters of a class at its ends. -/
def trimBy (p : Char → Bool) (cs : List Char) : List Char := trimEnd p (trimStart p cs)

/-- A text without blanks at its ends. -/
def trim (cs : List Char) : List Char := trimBy isBlank cs

end Chatflow.Text
