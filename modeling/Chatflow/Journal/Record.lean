import Chatflow.Fault

/-!
# Log records

A record says what happened: a level, the part of the library that speaks, a message, and up to three details that
tell an event by its name, the node concerned and the model asked.  A record of something that went wrong may hold the
fault.
-/

namespace Chatflow

/-- What is logged. -/
structure Record where
  level : Int
  source : String
  message : String
  event : Value := .null
  node : Value := .null
  model : Value := .null
  fault : Option Fault := none

namespace Record

/-! ## Levels -/

/-- The level of details for the curious. -/
def debugging : Int := 10

/-- The level of normal progress. -/
def informing : Int := 20

/-- The level of surprises. -/
def warning : Int := 30

/-- The level of failures. -/
def failing : Int := 40

/-- The level of the worst. -/
def critical : Int := 50

/-- The names of the levels. -/
def levelNames : List (Int × String) :=
  [(50, "CRITICAL"), (40, "ERROR"), (30, "WARNING"), (20, "INFO"), (10, "DEBUG"), (0, "NOTSET")]

/-- The name of a level; one that has none is called by its number. -/
def levelName (level : Int) : String :=
  match levelNames.find? fun (n, _) => n == level with
  | some (_, name) => name
  | none => "Level " ++ toString level

/-- The numbers of the levels under all their names. -/
def levelNumbers : Keyed Int :=
  levelNames.map (fun (n, name) => (name, n)) ++ [("WARN", warning), ("FATAL", critical)]

/-- The level that a setting names, in letters of any case. -/
def levelOf : Value → Except Fault Int
  | .text s =>
    let name := String.ofList (Text.upper s.toList)
    match levelNumbers.get? name with
    | some level => .ok level
    | none => .error (.unknownLevel name)
  | v => .error (.noAttribute s!"'{v.typeName}' object has no attribute 'upper'")

/-! ## Records of callers -/

/-- The names that records use themselves, so that a caller's details may not have them. -/
def takenNames : List String :=
  ["message", "asctime", "name", "msg", "args", "levelname", "levelno", "pathname", "filename", "module", "exc_info",
   "exc_text", "stack_info", "lineno", "funcName", "created", "msecs", "relativeCreated", "thread", "threadName",
   "processName", "process"]

/-! ## Records of the library -/

/-- A record of progress with a named event. -/
def info (source message event : String) : Record := { level := informing, source, message, event := .text event }

/-- A record about a node. -/
def about (r : Record) (node : String) : Record := { r with node := .text node }

end Record

/-- A result together with what was logged on the way to it. -/
structure Logged (α : Type) where
  result : α
  records : List Record := []

end Chatflow
