import Chatflow.Number.Numeral
import Chatflow.Text.Quoted
import Chatflow.Value.Basic

/-!
# Grammars of command lines

A command line is a list of words.  Its grammar has flags, which are named, and either places, which are filled in
their order, or commands with grammars of their own.
-/

namespace Chatflow.Command

/-- What the value of a flag is. -/
inductive Kind where
  | text
  | whole
  | real
  | oneOf (choices : List String)

/-- What a flag takes. -/
inductive Argument where
  | help
  | nothing
  | value (placeholder : String) (kind : Kind)

/-- A named part of a command line.  The letter is a short name; flags that take a value have none. -/
structure Flag where
  name : String
  letter : Option Char := none
  key : String
  argument : Argument
  help : String

/-- A part of a command line that is told by where it stands. -/
structure Place where
  name : String
  help : String

/-- What words make a command line. -/
structure Grammar where
  program : String
  description : String := ""
  flags : List Flag
  places : List Place := []
  commands : Keyed String := []

/-- Why a command line is not followed: it asks for help, or it is wrong. -/
inductive Halt where
  | help
  | misuse (message : String)
  deriving DecidableEq, Repr

/-! ## Values -/

/-- Texts in quotes, with commas between them. -/
def choices (names : List String) : String := String.intercalate ", " (names.map Text.quote)

/-- What is wrong with a word that is not among the choices. -/
def noChoice (s : String) (names : List String) : String :=
  s!"invalid choice: {Text.quote s} (choose from {choices names})"

/-- How many digits an integer on a command line may have. -/
def maxDigits : Nat := 4300

/-- Reads the value of a flag, or tells what is wrong with it. -/
def Kind.read (s : String) : Kind → Except String Value
  | .text => .ok (.text s)
  | .whole =>
    if maxDigits < (s.toList.map Text.asciiDigit).countP Char.isDigit then .error s!"invalid int value: {Text.quote s}"
    else
      match Numeral.int? s.toList with
      | some n => .ok (.int n)
      | none => .error s!"invalid int value: {Text.quote s}"
  | .real =>
    match Numeral.real? s.toList with
    | some x => .ok (.real x)
    | none => .error s!"invalid float value: {Text.quote s}"
  | .oneOf names => if names.contains s then .ok (.text s) else .error (noChoice s names)

/-! ## Flags -/

namespace Flag

/-- The names of a flag, the short one first. -/
def names (flag : Flag) : List String :=
  match flag.letter with
  | some c => [String.ofList ['-', c], flag.name]
  | none => [flag.name]

/-- A misuse of a flag. -/
def misuse (flag : Flag) (what : String) : Halt :=
  .misuse ("argument " ++ String.intercalate "/" flag.names ++ ": " ++ what)

/-- The flag that shows help. -/
def helpFlag : Flag :=
  { name := "--help", letter := some 'h', key := "help", argument := .help, help := "show this help message and exit" }

end Flag

/-- All names of flags with their flags. -/
def Grammar.named (g : Grammar) : Keyed Flag := g.flags.flatMap fun flag => flag.names.map (·, flag)

end Chatflow.Command
