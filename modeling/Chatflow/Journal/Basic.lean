import Chatflow.Journal.Line

/-!
# The journal

The journal writes the entries from a level on.  Before it is set up it writes nothing; settings choose the level and
the form, and variables decide when a setting leaves the form open (`Journal.format`).
-/

namespace Chatflow

/-- Where entries go: the variables around it, from which level on entries are written, and how; `room` tells how deep
the values in a line may lie. -/
structure Journal where
  vars : Keyed String := []
  room : Nat
  level : Int := Record.warning
  form : Option Form := none

namespace Journal

/-- Whether a variable has a value, in letters of any case. -/
def tells (journal : Journal) (name word : String) : Bool :=
  match journal.vars.get? name with
  | some s => String.ofList (Text.lower s.toList) == word
  | none => false

/-- The format that a setting asks for; the automatic one is for programs where a variable wants that or where the
program is in production. -/
def format (journal : Journal) : Value → Value
  | .text "auto" =>
    .text (if journal.tells "LOG_FORMAT" "json" || journal.tells "ENV" "production" then "json" else "human")
  | v => v

/-- The form of a format: what is not known is for people. -/
def formOf : Value → Form
  | .text "json" => .structured
  | _ => .readable

/-- A journal in a form.  Beside the structured form nobody else may write colours. -/
def inForm (journal : Journal) (form : Form) : Journal :=
  { journal with
    form := some form,
    vars := match form with
      | .structured => journal.vars.set "NO_COLOR" "1"
      | .readable => journal.vars }

/-- Sets a journal up.  A level that is not known is a fault; the form is changed nevertheless, the level stays. -/
def configure (journal : Journal) (level format : Value) : Journal × Except Fault Unit :=
  let journal := journal.inForm (formOf (journal.format format))
  match Record.levelOf level with
  | .ok level => ({ journal with level }, .ok ())
  | .error fault => (journal, .error fault)

/-- Whether records of a level are written. -/
def writes (journal : Journal) (level : Int) : Bool := 0 < level && journal.level ≤ level

/-- What is written for an entry; one that has no line is left out. -/
def written (journal : Journal) (now : Moment) (entry : Entry) : String :=
  match journal.form with
  | some form =>
    if journal.writes entry.record.level then
      match entry.line journal.room now form with
      | .ok line => line ++ "\n"
      | .error _ => ""
    else ""
  | none => ""

/-- What is written when a caller logs an entry with details under some names.  A name that is taken is a fault, which
shows only where the entry would be written. -/
def log (journal : Journal) (now : Moment) (entry : Entry) (names : List String) : Except Fault String :=
  match if journal.writes entry.record.level then names.find? Record.takenNames.contains else none with
  | some name => .error (.takenName name)
  | none => .ok (journal.written now entry)

/-- What is written for some entries, each of which was made at a moment of its own. -/
def writtenAll (journal : Journal) (made : Nat → Moment) (entries : List Entry) : String :=
  String.join (entries.zipIdx.map fun (entry, n) => journal.written (made n) entry)

end Journal

end Chatflow
