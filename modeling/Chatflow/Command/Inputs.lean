import Chatflow.Conversation
import Chatflow.Fault

/-!
# What commands read

Workflows and histories come from files, variables from the command line.

* `loadWorkflow`: a workflow that gives no id gets the name of its file.
* `loadHistory`: the messages before a turn.
* `parseVariables`: a JSON object and pairs `KEY=VALUE`, which go over it.

For all of them `room` tells how deep values may lie inside each other in what is read.
-/

namespace Chatflow.Command

open Schema

/-- The value in a file; the reason why a file cannot be read is told apart from other faults. -/
def readValue (room : Nat) (files : Files) (path : String) : Except Fault (Except ReadFault Value) :=
  if path.toList.contains (Char.ofNat 0) then .error .nullInPath
  else
    match files.read path with
    | .error fault => .ok (.error (.file fault path))
    | .ok bytes =>
      match Files.decode? bytes with
      | none => .error .undecodable
      | some text =>
        match Json.read room text with
        | .ok v => .ok (.ok v)
        | .error (.malformed mistake) => .ok (.error (.json mistake))
        | .error (.beyond limit) => .error (.beyond limit)

/-- Entries with an id; the id is put at the end unless there is one. -/
def withId (entries : List (Value × Value)) (id : String) : Value :=
  .dictionary (if (Value.find? entries "id").isSome then entries else entries ++ [(.text "id", .text id)])

/-- A path in its normal form. -/
def pathOf : Value → Except Fault String
  | .text path => .ok (Path.normalized path)
  | v => .error (.mistyped s!"expected str, bytes or os.PathLike object, not {v.typeName}")

/-- The workflow in a file. -/
def loadWorkflow (room : Nat) (files : Files) (path : Value) : Except Fault Workflow := do
  let path ← pathOf path
  match ← readValue room files path with
  | .error why => throw (.workflowUnreadable path why)
  | .ok (.dictionary entries) =>
    match (Workflow.read (withId entries (Path.stem path))).report Workflow.title with
    | .ok workflow => return workflow
    | .error report => throw (.workflowInvalid path report)
  | .ok _ => throw (.workflowNoObject path)

/-- The title of histories in reports. -/
def historyTitle : String := "list[ChatMessage]"

/-- The messages in a file; those that have no ids or times get them from a clock. -/
def loadHistory (room : Nat) (files : Files) (clock : Clock) (path : Value) : Except Fault (List Message) := do
  match ← readValue room files (← pathOf path) with
  | .error why => throw (.historyUnreadable path.display why)
  | .ok v =>
    match (Message.readAll clock v).report historyTitle with
    | .ok messages => return messages
    | .error report => throw (.historyInvalid path.display report)

/-- The variables in a JSON object; none when the text is missing or empty. -/
def inputVariables (room : Nat) : Value → Except Fault Fields
  | .text text =>
    if text.isEmpty then .ok []
    else
      match Json.read room text with
      | .ok (.dictionary entries) =>
        .ok (entries.filterMap fun (k, v) => match k with | .text s => some (s, v) | _ => none)
      | .ok _ => .error .inputNoObject
      | .error (.malformed mistake) => .error (.inputMalformed mistake)
      | .error (.beyond limit) => .error (.beyond limit)
  | v =>
    if v.truthy then .error (.mistyped s!"the JSON object must be str, bytes or bytearray, not {v.typeName}")
    else .ok []

/-- A pair: what stands before the first equals sign and what stands behind it; the key is not empty. -/
def parsePair : Value → Except Fault (String × Value)
  | .text pair =>
    let cs := pair.toList
    let key := cs.takeWhile (· != '=')
    match cs.dropWhile (· != '=') with
    | _ :: value =>
      if key.isEmpty then .error (.noPair pair) else .ok (String.ofList key, .text (String.ofList value))
    | [] => .error (.noPair pair)
  | v => .error (.noAttribute s!"'{v.typeName}' object has no attribute 'partition'")

/-- Puts pairs over variables, one after the other. -/
def putPairs : List Value → Fields → Except Fault Fields
  | [], vars => .ok vars
  | pair :: pairs, vars => do
    let (key, value) ← parsePair pair
    putPairs pairs (vars.set key value)

/-- The variables of a run. -/
def parseVariables (room : Nat) (pairs : List Value) (input : Value) : Except Fault Fields := do
  putPairs pairs (← inputVariables room input)

end Chatflow.Command
