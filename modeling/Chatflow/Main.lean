import Chatflow.Command.Program
import Std.Time.DateTime

/-!
# The program at a terminal

Gathers what the program finds around it, asks for the outcome and writes it.  Neither a backend nor a network is
connected here: texts come from the flag for fixed answers.
-/

namespace Chatflow.Terminal

open Command

/-- The variables that the program looks at. -/
def watched : List String :=
  ["AUTOFLOW_CONFIG", "HOME", "LOG_FORMAT", "ENV", "NO_COLOR", Environment.keyVariable]

/-- The variables that have a value. -/
def vars (names : List String) : IO (Keyed String) :=
  names.filterMapM fun name => return (← IO.getEnv name).map (name, ·)

/-- What is under a path, in normal form. -/
def fileAt (path : String) : IO (Keyed (Option ByteArray)) := do
  let path := Path.normalized path
  try
    return [(path, some (← IO.FS.readBinFile path))]
  catch
    | .inappropriateType _ _ _ => return [(path, none)]
    | _ => return []

/-- The moment that the clock shows when the program begins; it counts for all of a run. -/
def now : IO Moment := return ⟨(← Std.Time.Timestamp.now).toNanosecondsSinceUnixEpoch.val / 1000⟩

/-- The lines of a file; none when it cannot be read. -/
def linesOf (path : String) : IO (List String) := do
  try
    return (← IO.FS.readFile path).splitOn "\n"
  catch _ => return []

/-- The users that are registered: their names, their numbers and their directories. -/
def registered : IO (List (String × String × String)) := do
  return (← linesOf "/etc/passwd").filterMap fun line =>
    match line.splitOn ":" with
    | [name, _, number, _, _, directory, _] => some (name, number, directory)
    | _ => none

/-- The number of the user who runs the program. -/
def userNumber : IO (Option String) := do
  return ((← linesOf "/proc/self/status").find? (·.startsWith "Uid:")).bind fun line => (line.splitOn "\t")[1]?

/-- A random number of 128 bits. -/
def seed : IO Nat := return (← IO.getRandomBytes 16).foldl (fun n b => 256 * n + b.toNat) 0

/-- The readings that the program gets: the moment at which it began, and ids which step through all numbers of 128
bits from a random one on. -/
def clock (moment : Moment) (seed : Nat) : Clock := fun n =>
  let id := (seed + n * 0x9e3779b97f4a7c15f39cc0605cedc835) % Nat.pow 2 128
  { moment, token := String.ofList (Text.hex 32 id) }

/-- How deep values may lie inside each other, wherever they are read or written. -/
def rooms : Rooms :=
  let room := 900
  ⟨room, room, room, room, room, room, room⟩

/-- What the program finds around it, the files of a command line among it. -/
def surroundings (words : List String) : IO Surroundings := do
  let names ← vars watched
  let users ← registered
  let number ← userNumber
  let account := (users.find? fun (_, n, _) => some n = number).map fun (_, _, directory) => directory
  let bare : Environment := {
    vars := names
    home := ((names.get? "HOME").or account).getD "/"
    account
    accounts := users.map fun (name, _, directory) => (name, directory)
    rooms }
  let settingsFile ← match bare.settingsPath with
    | .ok path => fileAt path
    | .error _ => pure []
  let configured := { bare with files := ⟨settingsFile⟩ }
  let key ← match configured.keyName with
    | .ok name => vars [name]
    | .error _ => pure []
  let taskFiles ← match Invocation.read words with
    | .ok invocation => (invocation.task.paths).mapM fileAt
    | .error _ => pure []
  let moment ← now
  return {
    clock := clock moment (← seed)
    recorded := fun _ => moment
    environment := { configured with vars := names.merge key, files := ⟨settingsFile ++ taskFiles.flatten⟩ }
    backend := fun _ _ => .error (.outside .plain "no backend is connected")
    client := .faithful
    network := fun _ _ => .broken "no network is connected" }

end Chatflow.Terminal

/-- The program. -/
def main (words : List String) : IO UInt32 := do
  let outcome := (← Chatflow.Terminal.surroundings words).outcome words
  IO.print outcome.output
  IO.eprint outcome.errors
  match outcome.exit with
  | .ok code => return code.toUInt32
  | .error fault =>
    IO.eprintln fault.shown
    return 1
