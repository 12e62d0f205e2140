import Chatflow.Json.Printer
import Chatflow.Number.Numeral
import Chatflow.Value.Display

/-!
# Rendered values

How a value appears inside a text, and which number it stands for in a comparison.  Null appears as nothing, a truth
value in small letters, an integral number without a fraction and a container as JSON (`rendered`).

`Value.Fault` names what a value may lack: a dictionary with a tuple for a key has no JSON, an integer may be too large
for double precision or have too many digits for a text, and values may lie too deep inside each other.  How deep they
may lie in a text depends on where it is written; it is told (`room`).

* `flaw?`: the first fault at which writing a value stops.
* `rendered`: the text of a value.
-/

namespace Chatflow.Value

/-- What can go wrong when a value is rendered, written or taken as a number. -/
inductive Fault where
  | tupleKey
  | tooLarge
  | tooDeep
  | tooLong
  | tooNested
  deriving DecidableEq, Repr

/-- The wording of a fault. -/
def Fault.message : Fault → String
  | .tupleKey => "keys must be str, int, float, bool or None, not tuple"
  | .tooLarge => "int too large to convert to float"
  | .tooDeep => "Maximum serialization depth exceeded"
  | .tooLong =>
    "Exceeds the limit (4300 digits) for integer string conversion; use sys.set_int_max_str_digits() to increase the limit"
  | .tooNested => "maximum recursion depth exceeded while encoding a JSON object"

/-- What is wrong with an integer in a text. -/
def intFlaw? (n : Int) : Option Fault := if Decimal.isLong n then some .tooLong else none

/-- What is wrong with a key. -/
def keyFlaw? : Value → Option Fault
  | int n => intFlaw? n
  | list _ | tuple _ | dictionary _ => some .tupleKey
  | _ => none

mutual

/-- The first fault at which writing a value stops; `room` tells how many containers may lie inside each other. -/
def flaw? : Nat → Value → Option Fault
  | _, int n => intFlaw? n
  | 0, list _ | 0, tuple _ | 0, dictionary _ => some .tooNested
  | room + 1, list items => itemsFlaw? room items
  | room + 1, tuple items => itemsFlaw? room items
  | room + 1, dictionary entries => entriesFlaw? room entries
  | _, _ => none

/-- The first fault in the items of a list. -/
def itemsFlaw? (room : Nat) : List Value → Option Fault
  | [] => none
  | item :: items => (flaw? room item).or (itemsFlaw? room items)

/-- The first fault in the entries of a dictionary, a key before its value. -/
def entriesFlaw? (room : Nat) : List (Value × Value) → Option Fault
  | [] => none
  | (k, v) :: entries => (keyFlaw? k).or ((flaw? room v).or (entriesFlaw? room entries))

end

/-- The JSON of a value in a style. -/
def json (style : Json.Style) (room : Nat) (v : Value) : Except Fault String :=
  match v.flaw? room, Json.print? style v with
  | some fault, _ => .error fault
  | none, some s => .ok s
  | none, none => .error .tupleKey

/-- A value as it appears inside a text. -/
def rendered (room : Nat) : Value → Except Fault String
  | null => .ok ""
  | bool b => .ok (toString b)
  | int n => (intFlaw? n).elim (.ok (toString n)) .error
  | real x => .ok (if x.isInteger then toString x.truncate else x.text displayedNumber)
  | text s => .ok s
  | v => v.json .plain room

/-- The number that a value stands for in a comparison: a blank text is zero, and what is no number gives the one that
is not a number. -/
def number : Value → Except Fault Binary64
  | bool b => .ok (Binary64.ofRatio false (if b then 1 else 0) 1)
  | int n => (Binary64.ofInt? n).elim (.error .tooLarge) .ok
  | real x => .ok x
  | text s =>
    let body := Text.trim s.toList
    .ok (if body.isEmpty then .zero false else (Numeral.real? body).getD .nan)
  | _ => .ok .nan

/-- Whether a value is a number or a truth value. -/
def isNumeric : Value → Bool
  | bool _ | int _ | real _ => true
  | _ => false

end Chatflow.Value
