import Chatflow.Value.Rendered

/-!
# Values on the wire

What is left of a value when it is written as plain JSON data: numbers that are not finite become null, tuples become
lists and keys become texts, of which the last one with a text counts.  A value in which too many others lie inside
each other is not written (`Value.onWire`).
-/

namespace Chatflow.Value

/-- The text of a key. -/
def keyText : Value → String
  | bool b => toString b
  | tuple items => String.intercalate "," (keyTexts items)
  | v => v.display
where
  keyTexts : List Value → List String
    | [] => []
    | item :: items => keyText item :: keyTexts items

mutual

/-- A value as plain JSON data. -/
def wire : Value → Value
  | real (.finite negative units onGrid) => real (.finite negative units onGrid)
  | real _ => null
  | list items => list (wires items)
  | tuple items => list (wires items)
  | dictionary entries => ofFields (wireEntries [] entries)
  | v => v

/-- The items of a list as plain JSON data. -/
def wires : List Value → List Value
  | [] => []
  | item :: items => wire item :: wires items

/-- The entries of a dictionary as plain JSON data, put behind those already written. -/
def wireEntries (written : Fields) : List (Value × Value) → Fields
  | [] => written
  | (k, v) :: entries => wireEntries (written.set (keyText k) (wire v)) entries

end

mutual

/-- How many values lie inside each other at most, the value itself among them. -/
def depth : Value → Nat
  | list items => depths items + 1
  | tuple items => depths items + 1
  | dictionary entries => entryDepths entries + 1
  | _ => 1

/-- The greatest depth of some values. -/
def depths : List Value → Nat
  | [] => 0
  | item :: items => Nat.max (depth item) (depths items)

/-- The greatest depth of the values of some entries. -/
def entryDepths : List (Value × Value) → Nat
  | [] => 0
  | (_, v) :: entries => Nat.max (depth v) (entryDepths entries)

end

/-- How many values may lie inside each other on the wire. -/
def maxDepth : Nat := 255

/-- A value as plain JSON data, unless it is too deep. -/
def onWire (v : Value) : Except Fault Value := if maxDepth < v.depth then .error .tooDeep else .ok v.wire

end Chatflow.Value

namespace Chatflow

/-- Named values as plain JSON data, unless one of them is too deep. -/
def Fields.onWire (fields : Fields) : Except Value.Fault Fields :=
  fields.mapM fun (k, v) => return (k, ← v.onWire)

end Chatflow
