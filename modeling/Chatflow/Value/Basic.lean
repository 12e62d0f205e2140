import Chatflow.Keyed
import Chatflow.Number.Binary64

/-!
# Values

The data that workflows carry: what a document in JSON can hold, with whole numbers of any size apart from
double-precision ones, and tuples.  A dictionary keeps the order in which its keys came.

Values are told by what they hold, not by where they lie: a not-a-number is not the same as any other one, also inside
containers, where a program that looks at places first may take one and the same for equal.

* `Value.truthy`: whether a value counts as true.
* `Value.same`: equality in which `true`, `1` and `1.0` are one value, whole numbers and double-precision ones compare
  exactly, and the order of a dictionary does not matter.
* `Fields`: a dictionary whose keys are texts.
-/

namespace Chatflow

/-- A piece of data. -/
inductive Value where
  | null
  | bool (b : Bool)
  | int (n : Int)
  | real (x : Binary64)
  | text (s : String)
  | list (items : List Value)
  | tuple (items : List Value)
  | dictionary (entries : List (Value × Value))

instance : Inhabited Value := ⟨.null⟩

/-- A dictionary whose keys are texts, in the order in which they came. -/
abbrev Fields := Keyed Value

namespace Value

/-- Whether a value counts as true: it is not null, zero or empty. -/
def truthy : Value → Bool
  | null => false
  | bool b => b
  | int n => n != 0
  | real x => !x.isZero
  | text s => !s.isEmpty
  | list items => !items.isEmpty
  | tuple items => !items.isEmpty
  | dictionary entries => !entries.isEmpty

/-- A value, or another one when it does not count as true. -/
def orElse (v other : Value) : Value := if v.truthy then v else other

/-- A text or null. -/
def ofText? : Option String → Value
  | some s => text s
  | none => null

/-- A dictionary with texts for keys. -/
def ofFields (fields : Fields) : Value := dictionary (fields.map fun (k, v) => (text k, v))

/-! ## Equality -/

/-- The whole number that a whole number or a truth value stands for. -/
def whole? : Value → Option Int
  | bool b => some (if b then 1 else 0)
  | int n => some n
  | _ => none

/-- Equality of numbers, whole or not; false for other values. -/
def sameNumber (v w : Value) : Bool :=
  match v.whole?, w.whole?, v, w with
  | some m, some n, _, _ => m == n
  | some m, none, _, real y => y.sameInt m
  | none, some n, real x, _ => x.sameInt n
  | none, none, real x, real y => x.same y
  | _, _, _, _ => false

mutual

/-- Equality of values. -/
def same : Value → Value → Bool
  | null, null => true
  | text s, text t => s == t
  | list xs, list ys => sameItems xs ys
  | tuple xs, tuple ys => sameItems xs ys
  | dictionary xs, dictionary ys => xs.length == ys.length && sameEntries xs ys
  | v, w => sameNumber v w

/-- Equality item by item. -/
def sameItems : List Value → List Value → Bool
  | [], [] => true
  | x :: xs, y :: ys => same x y && sameItems xs ys
  | _, _ => false

/-- Whether every entry has an equal one among others. -/
def sameEntries : List (Value × Value) → List (Value × Value) → Bool
  | [], _ => true
  | (k, v) :: xs, ys => ys.any (fun entry => same k entry.1 && same v entry.2) && sameEntries xs ys

end

/-- Whether a value may be looked up in a set: lists and dictionaries may not, nor tuples that hold one. -/
def isLookupKey : Value → Bool
  | list _ => false
  | dictionary _ => false
  | tuple items => areLookupKeys items
  | _ => true
where
  areLookupKeys : List Value → Bool
    | [] => true
    | item :: items => isLookupKey item && areLookupKeys items

/-! ## Looking up -/

/-- The value under a text key. -/
def find? (entries : List (Value × Value)) (name : String) : Option Value :=
  (entries.find? fun (k, _) => match k with | text s => s == name | _ => false).map (·.2)

/-- The value under a text key of a dictionary; nothing in other values. -/
def field? (v : Value) (name : String) : Option Value :=
  match v with
  | dictionary entries => find? entries name
  | _ => none

end Value

end Chatflow
