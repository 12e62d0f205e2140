import Chatflow.Command.Grammar
import Chatflow.Text.Search

/-!
# Reading a command line

First each word is classified (`Grammar.classify`): a word that begins with a dash is a flag, unless it is a negative
number or has a blank in it; a flag may be shortened as long as one name fits.  Behind a separator all words are plain.
Then the words are followed one after the other (`Grammar.step`): plain words fill the places, and words for which there
is no use are kept.
-/

namespace Chatflow.Command

/-! ## Classes of words -/

/-- What stands behind the name of a flag in the same word: behind an equals sign, or behind a letter. -/
inductive Joined where
  | nothing
  | equals (text : List Char)
  | letters (text : List Char)

/-- A word that names a flag. -/
structure Sense where
  flag : Flag
  name : String
  joined : Joined

/-- A word of a command line; a flag without a sense is not known. -/
inductive Word where
  | plain (text : String)
  | separator
  | flag (text : String) (sense : Option Sense)

/-- The word that ends the flags. -/
def separator : String := "--"

/-- The text of a word. -/
def Word.text : Word → String
  | .plain s => s
  | .separator => Command.separator
  | .flag s _ => s

/-- Whether a text is a negative number without an exponent; a line break may follow. -/
def isNegative : List Char → Bool
  | '-' :: cs =>
    let ds := cs.map Text.asciiDigit
    let body := if ds.getLast? = some '\n' then ds.dropLast else ds
    match body.dropWhile Char.isDigit with
    | [] => !body.isEmpty
    | '.' :: fraction => !fraction.isEmpty && fraction.all Char.isDigit
    | _ => false
  | _ => false

/-- The flags that a word may mean when it is no whole name: with two dashes, those whose name it begins; with one, the
flag with its letter. -/
def Grammar.candidates (g : Grammar) (cs : List Char) : List Sense :=
  match cs with
  | '-' :: '-' :: _ =>
    let (start, joined) := match Text.cutAt? ['='] cs with
      | some (start, behind) => (start, Joined.equals behind)
      | none => (cs, .nothing)
    g.named.filterMap fun (name, flag) =>
      if start.isPrefixOf name.toList then some ⟨flag, name, joined⟩ else none
  | _ =>
    g.named.filterMap fun (name, flag) =>
      if name.toList = cs.take 2 then some ⟨flag, name, .letters (cs.drop 2)⟩
      else if cs.isPrefixOf name.toList then some ⟨flag, name, .nothing⟩
      else none

/-- What a word with a whole name in it means. -/
def Grammar.exact? (g : Grammar) (word : String) : Option Sense :=
  match g.named.get? word with
  | some flag => some ⟨flag, word, .nothing⟩
  | none =>
    match Text.cutAt? ['='] word.toList with
    | some (start, behind) =>
      (g.named.get? (String.ofList start)).map (⟨·, String.ofList start, .equals behind⟩)
    | none => none

/-- The class of a word before the separator. -/
def Grammar.classify (g : Grammar) (word : String) : Except Halt Word :=
  let cs := word.toList
  if cs.head? ≠ some '-' ∨ cs.length = 1 then .ok (.plain word)
  else
    match g.exact? word with
    | some sense => .ok (.flag word (some sense))
    | none =>
      match g.candidates cs with
      | [sense] => .ok (.flag word (some sense))
      | [] => .ok (if isNegative cs || cs.contains ' ' then .plain word else .flag word none)
      | senses =>
        let names := String.intercalate ", " (senses.map Sense.name)
        .error (.misuse s!"ambiguous option: {word} could match {names}")

/-- The classes of the words of a command line. -/
def Grammar.classes (g : Grammar) : List String → Except Halt (List Word)
  | [] => .ok []
  | word :: words =>
    if word = separator then .ok (.separator :: words.map .plain)
    else do
      let first ← g.classify word
      let more ← g.classes words
      return first :: more

/-! ## Following the words -/

/-- What the last word was, as far as the next one depends on it. -/
inductive Mode where
  | free
  | behindPlace
  | behindSeparator
  | awaiting (flag : Flag)
  | inCommand

/-- What is known of a command line: the values of its flags, of its places, the command with the words behind it, the
words without use, and the places that are not filled. -/
structure Parsed where
  flags : Keyed Value := []
  places : Keyed Value := []
  command : Option (String × List String) := none
  rest : List String := []
  left : List Place
  mode : Mode := .free

namespace Parsed

/-- The value that a flag was given last. -/
def value? (p : Parsed) (key : String) : Option Value := (p.flags.findRev? (·.1 == key)).map (·.2)

/-- The values that a flag was given. -/
def values (p : Parsed) (key : String) : List Value := (p.flags.filter (·.1 == key)).map (·.2)

/-- The value of a place. -/
def place (p : Parsed) (name : String) : Value := (p.places.get? name).getD .null

/-- Puts the value of a flag. -/
def give (p : Parsed) (flag : Flag) (v : Value) : Parsed :=
  { p with flags := p.flags ++ [(flag.key, v)], mode := .free }

/-- Keeps a word for which there is no use. -/
def keep (p : Parsed) (word : String) : Parsed := { p with rest := p.rest ++ [word], mode := .free }

/-- Puts the value that a word is for a flag; the separator is left out, so that the value is an empty list. -/
def read (p : Parsed) (flag : Flag) (kind : Kind) (word : String) : Except Halt Parsed :=
  if word = separator then .ok (p.give flag (.list []))
  else
    match kind.read word with
    | .ok v => .ok (p.give flag v)
    | .error what => .error (flag.misuse what)

/-- Follows a flag to which nothing is joined. -/
def meet (p : Parsed) (flag : Flag) : Except Halt Parsed :=
  match flag.argument with
  | .help => .error .help
  | .nothing => .ok (p.give flag (.bool true))
  | .value _ _ => .ok { p with mode := .awaiting flag }

end Parsed

/-- What is wrong with a text that is joined to a flag without a value. -/
def ignored (flag : Flag) (text : List Char) : Halt :=
  flag.misuse s!"ignored explicit argument {Text.quote (String.ofList text)}"

/-- A flag and those whose letters are joined to it. -/
def Grammar.letters (g : Grammar) (flag : Flag) : List Char → Except Halt (List Flag)
  | [] => .ok [flag]
  | c :: cs =>
    match g.named.get? (String.ofList ['-', c]) with
    | none => .error (ignored flag (c :: cs))
    | some next => (g.letters next cs).map (flag :: ·)

/-- Whether a name is a dash and a letter. -/
def isLetterName (name : String) : Bool := !("--".toList).isPrefixOf name.toList

/-- Follows a flag.  A text that is joined to the letter of a flag without a value holds more letters. -/
def Grammar.meet (g : Grammar) (p : Parsed) (sense : Sense) : Except Halt Parsed :=
  match sense.joined, sense.flag.argument with
  | .nothing, _ => p.meet sense.flag
  | .equals text, .value _ kind | .letters text, .value _ kind => p.read sense.flag kind (String.ofList text)
  | .equals text, _ | .letters text, _ =>
    if isLetterName sense.name && !text.isEmpty then do (← g.letters sense.flag text).foldlM Parsed.meet p
    else .error (ignored sense.flag text)

/-- The value of a place.  A word that looks like the separator is left out unless the separator stands before it. -/
def placeValue (behindSeparator : Bool) (word : String) : Value :=
  if word = separator ∧ !behindSeparator then .list [] else .text word

/-- Follows a plain word. -/
def Grammar.fill (g : Grammar) (p : Parsed) (behindSeparator : Bool) (word : String) : Except Halt Parsed :=
  match p.left with
  | place :: left =>
    .ok { p with places := p.places ++ [(place.name, placeValue behindSeparator word)], left, mode := .behindPlace }
  | [] =>
    if g.commands.isEmpty then .ok (p.keep word)
    else
      let name := if behindSeparator then separator else word
      if g.commands.has name then .ok { p with command := some (name, []), mode := .inCommand }
      else .error (.misuse s!"argument command: {noChoice name g.commands.keys}")

/-- Follows a word. -/
def Grammar.step (g : Grammar) (p : Parsed) (word : Word) : Except Halt Parsed :=
  match p.mode, word with
  | .inCommand, word => .ok { p with command := p.command.map fun (name, words) => (name, words ++ [word.text]) }
  | .awaiting flag, .plain s =>
    match flag.argument with
    | .value _ kind => p.read flag kind s
    | _ => p.meet flag
  | .awaiting flag, _ => .error (flag.misuse "expected one argument")
  | _, .flag _ (some sense) => g.meet p sense
  | _, .flag s none => .ok (p.keep s)
  | .behindPlace, .separator => .ok { p with mode := .free }
  | _, .separator =>
    if p.left.isEmpty && g.commands.isEmpty then .ok (p.keep separator) else .ok { p with mode := .behindSeparator }
  | .behindSeparator, .plain s => g.fill p true s
  | _, .plain s => g.fill p false s

/-- The parts that a command line lacks. -/
def Grammar.missing (g : Grammar) (p : Parsed) : List String :=
  p.left.map Place.name ++ (if g.commands.isEmpty || p.command.isSome then [] else ["command"])

/-- Reads a command line. -/
def Grammar.parse (g : Grammar) (words : List String) : Except Halt Parsed := do
  let p ← (← g.classes words).foldlM g.step { left := g.places }
  match p.mode with
  | .awaiting flag => throw (flag.misuse "expected one argument")
  | _ =>
    if (g.missing p).isEmpty then return p
    else throw (.misuse ("the following arguments are required: " ++ String.intercalate ", " (g.missing p)))

end Chatflow.Command
