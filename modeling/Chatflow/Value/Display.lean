import Chatflow.Number.Shortest
import Chatflow.Text.Quoted
import Chatflow.Value.Basic

/-!
# Displayed values

The text that diagnostics show for a value: a text as it is, all else in the notation `{'a': [1, 2.5, None]}`, in which
texts are quoted and a tuple of one item keeps its comma.
-/

namespace Chatflow.Value

/-- Displayed numbers: positional from 0.0001 up to 10^16. -/
def displayedNumber : Layout := ⟨-4, 16, "nan", "inf"⟩

/-- Texts with commas between them. -/
def commas (texts : List String) : String := String.intercalate ", " texts

mutual

/-- A value in the notation in which texts are quoted. -/
def literal : Value → String
  | null => "None"
  | bool b => if b then "True" else "False"
  | int n => toString n
  | real x => x.text displayedNumber
  | text s => Text.quote s
  | list items => "[" ++ commas (literals items) ++ "]"
  | tuple [item] => "(" ++ literal item ++ ",)"
  | tuple items => "(" ++ commas (literals items) ++ ")"
  | dictionary entries => "\x7b" ++ commas (entryLiterals entries) ++ "\x7d"

/-- The items of a list. -/
def literals : List Value → List String
  | [] => []
  | item :: items => literal item :: literals items

/-- The entries of a dictionary. -/
def entryLiterals : List (Value × Value) → List String
  | [] => []
  | (k, v) :: entries => (literal k ++ ": " ++ literal v) :: entryLiterals entries

end

/-- The displayed text of a value. -/
def display : Value → String
  | text s => s
  | v => v.literal

/-- How diagnostics call the type of a value. -/
def typeName : Value → String
  | null => "NoneType"
  | bool _ => "bool"
  | int _ => "int"
  | real _ => "float"
  | text _ => "str"
  | list _ => "list"
  | tuple _ => "tuple"
  | dictionary _ => "dict"

/-- The displayed text of a text that may be missing. -/
def displayText? : Option String → String
  | some s => s
  | none => display null

end Chatflow.Value
