import Chatflow.Number.Shortest
import Chatflow.Text.Quoted
import Chatflow.Value.Basic

/-!
# Writing JSON

A value as a JSON text, on one line or indented, with or without characters beyond ASCII.  Tuples are written as lists.
A key that is a number, a truth value or null is written as its text; a tuple has none, so a dictionary with such a key
is not written at all (`write`).

* `escaped`: one character inside quotes.
* `print?`: the text of a value in a style.
-/

namespace Chatflow.Json

/-- How a text is laid out: whether other characters than ASCII are escaped, and by how many blanks each level is
indented, if it is not all on one line. -/
structure Style where
  ascii : Bool
  indent : Option Nat

/-- One line, with all characters. -/
def Style.plain : Style := ⟨false, none⟩

/-- One line of ASCII. -/
def Style.line : Style := ⟨true, none⟩

/-- ASCII, two blanks a level. -/
def Style.page : Style := ⟨true, some 2⟩

/-- Numbers in JSON. -/
def number : Layout := ⟨-4, 16, "NaN", "Infinity"⟩

/-- A code point up to U+FFFF as an escape. -/
def unitEscape (n : Nat) : List Char := '\\' :: 'u' :: Text.hex 4 n

/-- A character as one escape, or as two when it lies beyond U+FFFF. -/
def charEscape (c : Char) : List Char :=
  if c.toNat < 0x10000 then unitEscape c.toNat
  else unitEscape (0xd800 + (c.toNat - 0x10000) / 0x400) ++ unitEscape (0xdc00 + (c.toNat - 0x10000) % 0x400)

/-- A character inside quotes. -/
def escaped (ascii : Bool) (c : Char) : List Char :=
  if c = '"' ∨ c = '\\' then ['\\', c]
  else if c = '\n' then ['\\', 'n']
  else if c = '\r' then ['\\', 'r']
  else if c = '\t' then ['\\', 't']
  else if c.toNat = 0x8 then ['\\', 'b']
  else if c.toNat = 0xc then ['\\', 'f']
  else if c.toNat < 0x20 ∨ (ascii ∧ 0x7e < c.toNat) then charEscape c
  else [c]

/-- A text in quotes. -/
def quoted (ascii : Bool) (cs : List Char) : List Char := '"' :: cs.flatMap (escaped ascii) ++ ['"']

/-- The text that stands for a key. -/
def keyText? : Value → Option (List Char)
  | .null => some "null".toList
  | .bool b => some (toString b).toList
  | .int n => some (toString n).toList
  | .real x => some (x.text number).toList
  | .text s => some s.toList
  | _ => none

/-- What separates the items at a level. -/
def Style.lineBreak (style : Style) (depth : Nat) : List Char :=
  match style.indent with
  | none => []
  | some n => '\n' :: List.replicate (n * depth) ' '

/-- Items between two brackets at a level. -/
def Style.enclose (style : Style) (depth : Nat) (first last : Char) (items : List (List Char)) : List Char :=
  let gap := if style.indent.isNone then [' '] else style.lineBreak (depth + 1)
  if items.isEmpty then [first, last]
  else first :: style.lineBreak (depth + 1) ++ List.intercalate (',' :: gap) items ++ style.lineBreak depth ++ [last]

mutual

/-- A value at a level. -/
def write (style : Style) (depth : Nat) : Value → Option (List Char)
  | .null => some "null".toList
  | .bool b => some (toString b).toList
  | .int n => some (toString n).toList
  | .real x => some (x.text number).toList
  | .text s => some (quoted style.ascii s.toList)
  | .list items => (writeItems style (depth + 1) items).map (style.enclose depth '[' ']')
  | .tuple items => (writeItems style (depth + 1) items).map (style.enclose depth '[' ']')
  | .dictionary entries => (writeEntries style (depth + 1) entries).map (style.enclose depth '{' '}')

/-- The items of a list. -/
def writeItems (style : Style) (depth : Nat) : List Value → Option (List (List Char))
  | [] => some []
  | item :: items =>
    match write style depth item, writeItems style depth items with
    | some t, some ts => some (t :: ts)
    | _, _ => none

/-- The entries of a dictionary. -/
def writeEntries (style : Style) (depth : Nat) : List (Value × Value) → Option (List (List Char))
  | [] => some []
  | (k, v) :: entries =>
    match keyText? k, write style depth v, writeEntries style depth entries with
    | some key, some t, some ts => some ((quoted style.ascii key ++ ':' :: ' ' :: t) :: ts)
    | _, _, _ => none

end

/-- A value as a text; nothing when a dictionary in it has a tuple for a key. -/
def print? (style : Style) (v : Value) : Option String := (write style 0 v).map String.ofList

end Chatflow.Json
