import Chatflow.Value.Display

/-!
# Problems with data

What may be wrong with a piece of data that is read as a record, and where.  A problem has a path of keys and positions
from the outside in; a report collects all problems of one piece of data in the order in which they were met.
-/

namespace Chatflow.Schema

/-- What is wrong with a piece of data. -/
inductive Flaw where
  | missing
  | notText
  | notDictionary
  | notList
  | notRecord (title : String)
  | notOneOf (names : List String)
  | notChoice (names : List String)
  | notInteger
  | fractional
  | notFinite
  | integerTooLarge
  | notNumber
  | unreadableNumber
  | tooSmall (least : Nat)
  | tooLarge (greatest : Nat)
  | keyNotText
  deriving DecidableEq, Repr

/-- Names in quotes, the last one after `or`. -/
def alternatives : List String → String
  | [] => ""
  | [name] => s!"'{name}'"
  | [name, last] => s!"'{name}' or '{last}'"
  | name :: names => s!"'{name}', " ++ alternatives names

namespace Flaw

/-- The code of a flaw. -/
def code : Flaw → String
  | missing => "missing"
  | notText => "string_type"
  | notDictionary => "dict_type"
  | notList => "list_type"
  | notRecord _ => "model_type"
  | notOneOf _ => "enum"
  | notChoice _ => "literal_error"
  | notInteger => "int_type"
  | fractional => "int_from_float"
  | notFinite => "finite_number"
  | integerTooLarge => "int_parsing_size"
  | notNumber => "float_type"
  | unreadableNumber => "float_parsing"
  | tooSmall _ => "greater_than_equal"
  | tooLarge _ => "less_than_equal"
  | keyNotText => "invalid_key"

/-- The wording of a flaw. -/
def message : Flaw → String
  | missing => "Field required"
  | notText => "Input should be a valid string"
  | notDictionary => "Input should be a valid dictionary"
  | notList => "Input should be a valid list"
  | notRecord title => "Input should be a valid dictionary or instance of " ++ title
  | notOneOf names => "Input should be " ++ alternatives names
  | notChoice names => "Input should be " ++ alternatives names
  | notInteger => "Input should be a valid integer"
  | fractional => "Input should be a valid integer, got a number with a fractional part"
  | notFinite => "Input should be a finite number"
  | integerTooLarge => "Unable to parse input string as an integer, exceeded maximum size"
  | notNumber => "Input should be a valid number"
  | unreadableNumber => "Input should be a valid number, unable to parse string as a number"
  | tooSmall least => s!"Input should be greater than or equal to {least}"
  | tooLarge greatest => s!"Input should be less than or equal to {greatest}"
  | keyNotText => "Keys should be strings"

end Flaw

/-- A flaw and its path. -/
structure Problem where
  path : List String
  flaw : Flaw
  deriving DecidableEq, Repr

/-- A problem seen from one level further out. -/
def Problem.under (key : String) (p : Problem) : Problem := { p with path := key :: p.path }

/-- A flaw of the whole piece of data. -/
def Problem.here (flaw : Flaw) : Problem := ⟨[], flaw⟩

/-- A problem in one line: its path, or `data` when it concerns everything, and its wording. -/
def Problem.describe (p : Problem) : String :=
  (if p.path.isEmpty then "data" else String.intercalate "." p.path) ++ ": " ++ p.flaw.message

/-- All problems of a piece of data that was read as a record of the given title. -/
structure Report where
  title : String
  problems : List Problem
  deriving DecidableEq, Repr

/-- The problems in one line. -/
def Report.describe (r : Report) : String := String.intercalate "; " (r.problems.map Problem.describe)

/-- How many problems there are. -/
def Report.headline (r : Report) : String :=
  let n := r.problems.length
  s!"{n} validation error" ++ (if n = 1 then "" else "s") ++ s!" for {r.title}"

end Chatflow.Schema
