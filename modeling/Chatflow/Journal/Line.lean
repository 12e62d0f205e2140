import Chatflow.Clock
import Chatflow.Journal.Entry
import Chatflow.Text.Colour

/-!
# Lines of the journal

An entry becomes a line in one of two forms: a JSON object for programs, without colours (`Entry.structured`), or a
coloured line for people (`Entry.readable`).  A fault is told behind the message.
-/

namespace Chatflow

/-- The form in which entries are written. -/
inductive Form where
  | structured
  | readable
  deriving DecidableEq, Repr

namespace Entry

/-! ## For programs -/

/-- A detail without colours; other values than texts have none. -/
def plainDetail : Value → Value
  | .text s => .text (Text.uncoloured s)
  | v => v

/-- The details of a record, under the names that they have in the structured form; null stands for no detail. -/
def details (r : Record) : Fields :=
  [("event", r.event), ("node_id", r.node), ("model", r.model)].filterMap fun (name, v) =>
    match v with
    | .null => none
    | v => some (name, plainDetail v)

/-- The members of the structured form.  The trace goes over the head of the entry and the details go over both. -/
def members (now : Moment) (entry : Entry) : Fields :=
  let r := entry.record
  let head : Fields :=
    [("timestamp", .text now.throughSeconds.zoned),
      ("level", .text (String.ofList (Text.lower (Record.levelName r.level).toList))), ("logger", .text r.source),
      ("message", .text (Text.uncoloured r.message))]
  let all := (head.merge entry.trace).merge (details r)
  match r.fault with
  | some fault => all.set "exception" (.text (Text.uncoloured fault.shown))
  | none => all

/-- An entry as a JSON object on one line; `room` tells how deep the values in it may lie. -/
def structured (room : Nat) (now : Moment) (entry : Entry) : Except Fault String :=
  match (Value.ofFields (entry.members now)).json .line room with
  | .ok s => .ok s
  | .error fault => .error (.value fault)

/-! ## For people -/

/-- The colour sequence with a number. -/
def colour (n : String) : String := String.ofList [Text.escape, '['] ++ n ++ "m"

/-- The colours of the levels. -/
def colours : List (Int × String) :=
  [(Record.debugging, "36"), (Record.informing, "32"), (Record.warning, "33"), (Record.failing, "31"),
    (Record.critical, "35")]

/-- The colour of a level; those without a name have none. -/
def levelColour (level : Int) : String :=
  match colours.find? fun (n, _) => n == level with
  | some (_, number) => colour number
  | none => ""

/-- A text with blanks behind it up to a width. -/
def padded (width : Nat) (s : String) : String := s.pushn ' ' (width - s.length)

/-- The last characters of a text. -/
def ending (n : Nat) (s : String) : String := String.ofList (s.toList.drop (s.length - n))

/-- A part of the trace under a short label; what does not count as true is not shown. -/
def tracePart (trace : Trace) (name label : String) (shorten : String → String) : Option String :=
  match trace.get? name with
  | some v => if v.truthy then some (label ++ ":" ++ shorten v.display) else none
  | none => none

/-- The trace as people see it: of the run's id, the last eight characters. -/
def traceParts (trace : Trace) : List String :=
  [tracePart trace "workflow_id" "wf" id, tracePart trace "execution_id" "exec" (ending 8),
    tracePart trace "node_id" "node" id].filterMap id

/-- The trace in brackets, if there is anything to show. -/
def bracketed (trace : Trace) : List String :=
  if (traceParts trace).isEmpty then [] else ["[" ++ String.intercalate " | " (traceParts trace) ++ "]"]

/-- The level of a record in its colour. -/
def levelMark (level : Int) : String :=
  levelColour level ++ "[" ++ padded 8 (Record.levelName level) ++ "]" ++ colour "0"

/-- The event of a record in brackets, if it has one. -/
def eventMark : Value → List String
  | .null => []
  | event => ["[" ++ event.display ++ "]"]

/-- An entry as a line for people. -/
def readable (entry : Entry) : String :=
  let r := entry.record
  String.intercalate " " (levelMark r.level :: bracketed entry.trace ++ r.message :: eventMark r.event) ++
    (match r.fault with
      | some fault => "\n" ++ fault.shown
      | none => "")

/-- An entry in a form. -/
def line (room : Nat) (now : Moment) (entry : Entry) : Form → Except Fault String
  | .structured => entry.structured room now
  | .readable => .ok entry.readable

end Entry

end Chatflow
