import Chatflow.Number.Decimal
import Chatflow.Value.Basic

/-!
# Reading JSON

The reader takes the words `NaN`, `Infinity` and `-Infinity` besides the notation of JSON, keeps the last value of a
key that comes more than once, in the place of its first one, and refuses whole numbers of more than 4300 digits and
containers that lie too deep inside each other.  How deep they may lie depends on where the reader is called; it is told.

Texts are sequences of characters.  Half of a surrogate pair is no character: where one is written out alone, the
replacement character is read, so texts that differ in nothing else are read as one.

Its state is what is left of the text.  A mistake is noted together with the rest at which it shows, from which its
line, column and position are counted (`Mistake.ofRest`).

* `read`: the value of a text.
* `Mistake.message`, `Limit.message`: the wording of what is wrong with one.
-/

namespace Chatflow.Json

/-! ## Mistakes -/

/-- What is wrong at some place of a text. -/
inductive Problem where
  | byteOrderMark
  | value
  | propertyName
  | colon
  | comma
  | extra
  | unterminated
  | control
  | escape
  | codePoint
  deriving DecidableEq, Repr

/-- The wording of a problem. -/
def Problem.message : Problem → String
  | .byteOrderMark => "Unexpected UTF-8 BOM (decode using utf-8-sig)"
  | .value => "Expecting value"
  | .propertyName => "Expecting property name enclosed in double quotes"
  | .colon => "Expecting ':' delimiter"
  | .comma => "Expecting ',' delimiter"
  | .extra => "Extra data"
  | .unterminated => "Unterminated string starting at"
  | .control => "Invalid control character at"
  | .escape => "Invalid \\escape"
  | .codePoint => "Invalid \\uXXXX escape"

/-- A problem and its place; lines and columns are counted from one, positions from zero. -/
structure Mistake where
  problem : Problem
  line : Nat
  column : Nat
  position : Nat
  deriving DecidableEq, Repr

/-- The place in a text at which a given rest of it begins. -/
def Mistake.ofRest (text : List Char) (problem : Problem) (rest : List Char) : Mistake :=
  let position := text.length - rest.length
  let before := text.take position
  ⟨problem, before.count '\n' + 1, (before.reverse.takeWhile (· != '\n')).length + 1, position⟩

/-- What has parts. -/
inductive Container where
  | array
  | object
  deriving DecidableEq, Repr

/-- The name of a container. -/
def Container.name : Container → String
  | .array => "array"
  | .object => "object"

/-- The limits of the reader: how many digits a whole number has that is too long, and what lies too deep. -/
inductive Limit where
  | digits (n : Nat)
  | depth (container : Container)
  deriving DecidableEq, Repr

/-- The wording of a limit. -/
def Limit.message : Limit → String
  | .digits n =>
    "Exceeds the limit (4300 digits) for integer string conversion: value has " ++ toString n ++
      " digits; use sys.set_int_max_str_digits() to increase the limit"
  | .depth container =>
    s!"maximum recursion depth exceeded while decoding a JSON {container.name} from a unicode string"

/-- Why a text has no value. -/
inductive Fault where
  | malformed (mistake : Mistake)
  | beyond (limit : Limit)
  deriving DecidableEq, Repr

/-- The wording of a mistake. -/
def Mistake.message (m : Mistake) : String :=
  s!"{m.problem.message}: line {m.line} column {m.column} (char {m.position})"

/-- Why reading stopped: a problem at the beginning of a rest, or a limit. -/
inductive Stop where
  | at (problem : Problem) (rest : List Char)
  | beyond (limit : Limit)

/-- What was read, and the rest of the text. -/
abbrev Reading (α : Type) := Except Stop (α × List Char)

/-! ## Texts -/

/-- Blanks between the parts of a text. -/
def isSpace (c : Char) : Bool := c == ' ' || c == '\t' || c == '\n' || c == '\r'

/-- A text without the blanks at its start. -/
def skip (cs : List Char) : List Char := cs.dropWhile isSpace

/-- The value of a hexadecimal digit. -/
def hexValue? (c : Char) : Option Nat :=
  if '0' ≤ c ∧ c ≤ '9' then some (c.toNat - '0'.toNat)
  else if 'a' ≤ c ∧ c ≤ 'f' then some (c.toNat - 'a'.toNat + 10)
  else if 'A' ≤ c ∧ c ≤ 'F' then some (c.toNat - 'A'.toNat + 10)
  else none

/-- What a letter behind a backslash stands for. -/
def escapeValue? : Char → Option Nat
  | '"' => some '"'.toNat
  | '\\' => some '\\'.toNat
  | '/' => some '/'.toNat
  | 'b' => some 0x8
  | 'f' => some 0xc
  | 'n' => some '\n'.toNat
  | 'r' => some '\r'.toNat
  | 't' => some '\t'.toNat
  | _ => none

/-- Where the reader stands inside quotes: between characters, behind a backslash that begins at `start`, or behind
some digits of a code point whose `u` begins at `start`. -/
inductive Mode where
  | plain
  | escape (start : List Char)
  | code (digits value : Nat) (start : List Char)

/-- The codes of a text up to its closing quote; its opening quote begins at `opening`, and `done` holds the codes
before, the nearest first.  Four digits of a code point must not end the text. -/
def readCodes (opening : List Char) : Mode → List Nat → List Char → Reading (List Nat)
  | .code _ _ start, _, [] => .error (.at .codePoint start)
  | _, _, [] => .error (.at .unterminated opening)
  | .plain, done, c :: cs =>
    if c = '"' then .ok (done.reverse, cs)
    else if c = '\\' then readCodes opening (.escape (c :: cs)) done cs
    else if c.toNat < 0x20 then .error (.at .control (c :: cs))
    else readCodes opening .plain (c.toNat :: done) cs
  | .escape start, done, c :: cs =>
    if c = 'u' then readCodes opening (.code 0 0 (c :: cs)) done cs
    else
      match escapeValue? c with
      | some n => readCodes opening .plain (n :: done) cs
      | none => .error (.at .escape start)
  | .code digits value start, done, c :: cs =>
    match hexValue? c with
    | none => .error (.at .codePoint start)
    | some d =>
      if digits < 3 then readCodes opening (.code (digits + 1) (16 * value + d) start) done cs
      else if cs.isEmpty then .error (.at .codePoint start)
      else readCodes opening .plain ((16 * value + d) :: done) cs

/-- The character of a code; half of a surrogate pair has none and gives the replacement character. -/
def charOf (n : Nat) : Char := if 0xd800 ≤ n ∧ n < 0xe000 then Char.ofNat 0xfffd else Char.ofNat n

/-- Codes as characters: the two halves of a surrogate pair make one. -/
def joined : List Nat → List Char
  | [] => []
  | [n] => [charOf n]
  | high :: low :: rest =>
    if 0xd800 ≤ high ∧ high < 0xdc00 ∧ 0xdc00 ≤ low ∧ low < 0xe000 then
      Char.ofNat (0x10000 + (high - 0xd800) * 0x400 + (low - 0xdc00)) :: joined rest
    else charOf high :: joined (low :: rest)

/-- A text behind its opening quote, which begins at `opening`. -/
def readText (opening cs : List Char) : Except Stop (String × List Char) :=
  (readCodes opening .plain [] cs).map fun (ns, rest) => (String.ofList (joined ns), rest)

/-! ## Numbers -/

/-- The digits of a whole number: one zero, or digits that do not begin with one. -/
def takeWhole : List Char → List Char × List Char
  | '0' :: cs => (['0'], cs)
  | cs => (cs.takeWhile Char.isDigit, cs.dropWhile Char.isDigit)

/-- A fraction with at least one digit, point included. -/
def takePlaces : List Char → List Char × List Char
  | '.' :: cs =>
    if (cs.takeWhile Char.isDigit).isEmpty then ([], '.' :: cs)
    else ('.' :: cs.takeWhile Char.isDigit, cs.dropWhile Char.isDigit)
  | cs => ([], cs)

/-- The sign of a power of ten. -/
def takePowerSign : List Char → List Char × List Char
  | '-' :: cs => (['-'], cs)
  | '+' :: cs => (['+'], cs)
  | cs => ([], cs)

/-- A power of ten with at least one digit, its letter included. -/
def takePower (cs : List Char) : List Char × List Char :=
  match cs with
  | c :: rest =>
    let (sign, ds) := takePowerSign rest
    if (c = 'e' ∨ c = 'E') ∧ !(ds.takeWhile Char.isDigit).isEmpty then
      (c :: sign ++ ds.takeWhile Char.isDigit, ds.dropWhile Char.isDigit)
    else ([], cs)
  | [] => ([], [])

/-- A number that begins at `start`, whose sign has been taken off. -/
def readNumber (negative : Bool) (start cs : List Char) : Reading Value :=
  let (whole, rest) := takeWhole cs
  let (places, rest) := takePlaces rest
  let (power, rest) := takePower rest
  if whole.isEmpty then .error (.at .value start)
  else if places.isEmpty && power.isEmpty then
    if Decimal.longest < whole.length then .error (.beyond (.digits whole.length))
    else
      let n := Decimal.ofDigits whole
      .ok (.int (if negative then -(n : Int) else n), rest)
  else
    match Decimal.read? (whole ++ places ++ power) with
    | some d => .ok (.real (d.nearest negative), rest)
    | none => .error (.at .value start)

/-! ## Values -/

/-- Words that stand for values. -/
def words : List (List Char × Value) :=
  [("null".toList, .null), ("true".toList, .bool true), ("false".toList, .bool false), ("NaN".toList, .real .nan),
   ("Infinity".toList, .real (.infinite false)), ("-Infinity".toList, .real (.infinite true))]

/-- A value that has no parts. -/
def readScalar (cs : List Char) : Reading Value :=
  match words.find? fun (w, _) => w.isPrefixOf cs with
  | some (w, v) => .ok (v, cs.drop w.length)
  | none =>
    match cs with
    | '-' :: rest => readNumber true cs rest
    | _ => readNumber false cs cs

mutual

/-- A value; the first argument bounds the number of steps, the second one tells how many more containers may lie
inside each other. -/
def readValue : Nat → Nat → List Char → Except Stop (Value × List Char)
  | 0, _, cs => .error (.at .value cs)
  | _ + 1, _, '"' :: cs => (readText ('"' :: cs) cs).map fun (s, rest) => (.text s, rest)
  | _ + 1, 0, '[' :: _ => .error (.beyond (.depth .array))
  | fuel + 1, room + 1, '[' :: cs =>
    match skip cs with
    | ']' :: rest => .ok (.list [], rest)
    | rest => (readItems fuel room rest).map fun (items, rest) => (.list items, rest)
  | _ + 1, 0, '{' :: _ => .error (.beyond (.depth .object))
  | fuel + 1, room + 1, '{' :: cs =>
    match skip cs with
    | '}' :: rest => .ok (.dictionary [], rest)
    | rest => (readEntries fuel room [] rest).map fun (fields, rest) => (.ofFields fields, rest)
  | _ + 1, _, cs => readScalar cs

/-- The items of a list up to its closing bracket. -/
def readItems : Nat → Nat → List Char → Except Stop (List Value × List Char)
  | 0, _, cs => .error (.at .value cs)
  | fuel + 1, room, cs => do
    let (item, rest) ← readValue fuel room cs
    match skip rest with
    | ']' :: rest => .ok ([item], rest)
    | ',' :: rest =>
      let (items, rest) ← readItems fuel room (skip rest)
      .ok (item :: items, rest)
    | rest => .error (.at .comma rest)

/-- The entries of a dictionary up to its closing brace, put behind those already read. -/
def readEntries : Nat → Nat → Fields → List Char → Except Stop (Fields × List Char)
  | 0, _, _, cs => .error (.at .value cs)
  | fuel + 1, room, fields, '"' :: cs => do
    let (key, rest) ← readText ('"' :: cs) cs
    match skip rest with
    | ':' :: rest =>
      let (v, rest) ← readValue fuel room (skip rest)
      match skip rest with
      | '}' :: rest => .ok (fields.set key v, rest)
      | ',' :: rest => readEntries fuel room (fields.set key v) (skip rest)
      | rest => .error (.at .comma rest)
    | rest => .error (.at .colon rest)
  | _ + 1, _, _, cs => .error (.at .propertyName cs)

end

/-- A text that holds one value and blanks around it. -/
def readDocument (room : Nat) (text : List Char) : Except Stop Value := do
  if text.head? = some (Char.ofNat 0xfeff) then throw (.at .byteOrderMark text)
  let (v, rest) ← readValue (2 * text.length + 2) room (skip text)
  match skip rest with
  | [] => return v
  | rest => throw (.at .extra rest)

/-- The value of a text; `room` tells how many containers may lie inside each other. -/
def read (room : Nat) (text : String) : Except Fault Value :=
  match readDocument room text.toList with
  | .ok v => .ok v
  | .error (.at problem rest) => .error (.malformed (.ofRest text.toList problem rest))
  | .error (.beyond limit) => .error (.beyond limit)

end Chatflow.Json
