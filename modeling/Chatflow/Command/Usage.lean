import Chatflow.Command.Grammar

/-!
# Usage and help

A usage tells in short what words a command line has; help tells what they mean.  Both are laid out for lines of 78
characters: what does not fit into a line of the usage goes to the next one, under the first word behind the program.
-/

namespace Chatflow.Command

/-- How many characters a line has. -/
def lineWidth : Nat := 78

/-- Up to which column the meaning of a word begins on its line. -/
def maxColumn : Nat := 24

/-- Blanks. -/
def blanks (n : Nat) : String := "".pushn ' ' n

/-- Commands in braces. -/
def braced (names : List String) : String := "\x7b" ++ String.intercalate "," names ++ "\x7d"

/-! ## Usage -/

/-- A flag in brackets. -/
def Flag.usage (flag : Flag) : String :=
  let name := (flag.names.head?).getD flag.name
  match flag.argument with
  | .value placeholder _ => s!"[{name} {placeholder}]"
  | _ => s!"[{name}]"

/-- The parts of a command line that have no names. -/
def Grammar.unnamed (g : Grammar) : List String :=
  g.places.map Place.name ++ (if g.commands.isEmpty then [] else [braced g.commands.keys, "..."])

/-- Lines of words behind a first part of a width; `used` characters of the current line are taken. -/
def wrap (width : Nat) : Nat → List String → List String → List (List String)
  | _, line, [] => if line.isEmpty then [] else [line]
  | used, line, word :: words =>
    if lineWidth < width + used + 1 + word.length && !line.isEmpty then
      line :: wrap width word.length [word] words
    else wrap width (used + (if line.isEmpty then 0 else 1) + word.length) (line ++ [word]) words

/-- The usage of a program. -/
def Grammar.usage (g : Grammar) : String :=
  let lead := "usage: " ++ g.program
  let words := g.flags.map Flag.usage ++ g.unnamed
  let short := String.intercalate " " (lead :: words)
  if short.length ≤ lineWidth then short ++ "\n"
  else
    let lines := wrap (lead.length + 1) 0 [] (g.flags.map Flag.usage) ++ wrap (lead.length + 1) 0 [] g.unnamed
    let gap := "\n" ++ blanks (lead.length + 1)
    lead ++ " " ++ String.intercalate gap (lines.map (String.intercalate " ")) ++ "\n"

/-! ## Help -/

/-- An entry of the help: how far it is moved to the right, a word, and its meaning. -/
structure HelpEntry where
  indent : Nat := 2
  word : String
  meaning : String := ""

/-- A flag with what it takes. -/
def Flag.shown (flag : Flag) : String :=
  let taken := match flag.argument with
    | .value placeholder _ => " " ++ placeholder
    | _ => ""
  String.intercalate ", " (flag.names.map (· ++ taken))

/-- The entries for the parts without names. -/
def Grammar.unnamedEntries (g : Grammar) : List HelpEntry :=
  g.places.map (fun place => { word := place.name, meaning := place.help }) ++
    (if g.commands.isEmpty then []
      else { word := braced g.commands.keys } ::
        g.commands.map fun (name, help) => { indent := 4, word := name, meaning := help })

/-- The entries for the flags. -/
def Grammar.flagEntries (g : Grammar) : List HelpEntry :=
  g.flags.map fun flag => { word := flag.shown, meaning := flag.help }

/-- The column at which meanings begin: behind the longest word, unless that is too far. -/
def Grammar.column (g : Grammar) : Nat :=
  let ends := g.places.map (·.name.length) ++ g.flags.map (·.shown.length) ++
    (if g.commands.isEmpty then [] else (braced g.commands.keys).length :: g.commands.map (·.1.length))
  Nat.min (ends.foldl Nat.max 0 + 4) maxColumn

/-- An entry with its meaning at a column, on its own line when the word is too long. -/
def HelpEntry.text (column : Nat) (entry : HelpEntry) : String :=
  let head := blanks entry.indent ++ entry.word
  if entry.meaning.isEmpty then head ++ "\n"
  else if head.length + 2 ≤ column then head ++ blanks (column - head.length) ++ entry.meaning ++ "\n"
  else head ++ "\n" ++ blanks column ++ entry.meaning ++ "\n"

/-- Entries under a title; nothing when there are none. -/
def titled (title : String) (column : Nat) (entries : List HelpEntry) : List String :=
  if entries.isEmpty then [] else [title ++ ":\n" ++ String.join (entries.map (HelpEntry.text column))]

/-- The help of a program. -/
def Grammar.help (g : Grammar) : String :=
  String.intercalate "\n" (g.usage :: (if g.description.isEmpty then [] else [g.description ++ "\n"]) ++
    titled "positional arguments" g.column g.unnamedEntries ++ titled "options" g.column g.flagEntries)

end Chatflow.Command
