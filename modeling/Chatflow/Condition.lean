import Chatflow.Journal.Record
import Chatflow.Text.Case
import Chatflow.Text.Search
import Chatflow.Value.Rendered

/-!
# Conditions

Two kinds of conditions choose a branch.

* A phrase names a variable and a literal: `topic contains 'refund'` looks for the literal in the variable's text and
  ignores case; `status equals 'open'` asks for that very text.  The variable may stand in braces and the literal in
  quotes; braces and quotes are dropped wherever they are (`Phrase.ofText?`).
* A comparison applies an operator to a variable's value and another value (`Operator.holds`).

What cannot be understood does not hold, and is logged.  As in `Value.rendered`, `room` tells how deep values may lie
inside each other.
-/

namespace Chatflow

/-! ## Comparisons -/

/-- Whether the text of a value occurs in the text of another one, in any case. -/
def Value.contains (room : Nat) (whole part : Value) : Except Value.Fault Bool := do
  let part ← part.rendered room
  let whole ← whole.rendered room
  return Text.occurs (Text.lower part.toList) (Text.lower whole.toList)

/-- Equality that lets a number equal its text: values that are the same are equal; when one of them is a number and
both stand for numbers, these decide; else their texts do.  Null equals only itself. -/
def Value.looselyEqual (room : Nat) (left right : Value) : Except Value.Fault Bool := do
  match left, right with
  | .null, .null => return true
  | .null, _ | _, .null => return false
  | _, _ =>
    if left.same right then return true
    if left.isNumeric || right.isNumeric then
      let x ← left.number
      let y ← right.number
      if !x.isNan && !y.isNan then return x.same y
    let s ← left.rendered room
    let t ← right.rendered room
    return s == t

/-- Whether the number of a value lies below the number of another one. -/
def Value.lessThan (left right : Value) : Except Value.Fault Bool := do
  let x ← left.number
  let y ← right.number
  return x.below y

/-- Whether the number of a value lies above the number of another one. -/
def Value.greaterThan (left right : Value) : Except Value.Fault Bool := do
  let x ← left.number
  let y ← right.number
  return y.below x

/-- How two values are compared. -/
inductive Operator where
  | equals
  | notEquals
  | greaterThan
  | lessThan
  | contains
  deriving DecidableEq, Repr

namespace Operator

/-- The operator of a name or sign. -/
def ofName? : String → Option Operator
  | "equals" | "==" => some .equals
  | "not_equals" | "!=" => some .notEquals
  | "greater_than" | ">" => some .greaterThan
  | "less_than" | "<" => some .lessThan
  | "contains" => some .contains
  | _ => none

/-- Whether a comparison holds. -/
def holds (room : Nat) (op : Operator) (left right : Value) : Except Value.Fault Bool :=
  match op with
  | .equals => left.looselyEqual room right
  | .notEquals => (left.looselyEqual room right).map not
  | .greaterThan => left.greaterThan right
  | .lessThan => left.lessThan right
  | .contains => left.contains room right

end Operator

/-- The part of the library that logs conditions. -/
def Condition.source : String := "autoflow.graph.conditions"

/-- Applies the operator of a name; one that is unknown never holds. -/
def Value.compare (room : Nat) (left : Value) (name : String) (right : Value) : Logged (Except Value.Fault Bool) :=
  match Operator.ofName? name with
  | some op => ⟨op.holds room left right, []⟩
  | none =>
    ⟨.ok false, [.info Condition.source s!"Unknown comparison operator '{name}', evaluating to false"
      "condition_unknown_operator"]⟩

/-! ## Phrases -/

/-- What a phrase asks of the variable. -/
inductive Keyword where
  | contains
  | equals
  deriving DecidableEq, Repr

/-- The word of a keyword. -/
def Keyword.word : Keyword → List Char
  | .contains => "contains".toList
  | .equals => "equals".toList

/-- A condition on a variable. -/
structure Phrase where
  keyword : Keyword
  variableName : String
  literal : String
  deriving DecidableEq, Repr

namespace Phrase

/-- A text without some characters, and without blanks at its ends before that. -/
def bare (dropped text : List Char) : String := String.ofList ((Text.trim text).filter fun c => !dropped.contains c)

/-- The phrase around a keyword, when the text has it: the variable stands before the first one, the literal between
the first and the second or the end. -/
def around? (keyword : Keyword) (text : List Char) : Option Phrase :=
  (Text.cutAt? keyword.word text).map fun (left, right) =>
    ⟨keyword, bare ['{', '}'] left, bare ['\'', '"'] (Text.before keyword.word right)⟩

/-- The phrase of a text: the keyword `contains` goes before `equals`, wherever they stand. -/
def ofText? (text : String) : Option Phrase :=
  (around? .contains text.toList).or (around? .equals text.toList)

/-- Whether a phrase holds among variables; one that is missing counts as null. -/
def holds (room : Nat) (phrase : Phrase) (vars : Fields) : Except Value.Fault Bool := do
  let v := (vars.get? phrase.variableName).getD .null
  match phrase.keyword with
  | .contains => v.contains room (.text phrase.literal)
  | .equals => return (← v.rendered room) == phrase.literal

end Phrase

/-- Evaluates a condition in words; one that is no phrase does not hold. -/
def Condition.evaluate (room : Nat) (text : String) (vars : Fields) : Logged (Except Value.Fault Bool) :=
  match Phrase.ofText? text with
  | some phrase => ⟨phrase.holds room vars, []⟩
  | none =>
    ⟨.ok false, [.info Condition.source s!"Condition '{text}' matches no supported phrase, evaluating to false"
      "condition_unparsed"]⟩

end Chatflow
