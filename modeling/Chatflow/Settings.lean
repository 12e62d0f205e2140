import Chatflow.Fault
import Chatflow.Generation.Gateway
import Chatflow.Handler.Standard

/-!
# Settings

Settings come from a file whose path an environment variable may give.  A file that is missing or holds no JSON object
means defaults; so does a section that is no object.  The values themselves are taken as they are.

A path may begin with `~`, for the directory of the user or of another one that is known.  How deep values may lie
inside each other depends on where a text is read or written (`Rooms`).

* `Environment.settingsPath`: where the file is.
* `Environment.settings`: all settings.
-/

namespace Chatflow

/-- How many values may lie inside each other: in the settings, in a workflow, in a history, in the variables of a
command line, in the texts of a run, in a line of the journal and in a page that is put out. -/
structure Rooms where
  settings : Nat
  workflow : Nat
  history : Nat
  input : Nat
  text : Nat
  line : Nat
  page : Nat

/-- What a program finds around it: variables, files, the directory that it took for the user's when it began, the
directory that is registered for the user, those of other users under their names, and how much room there is. -/
structure Environment where
  vars : Keyed String := []
  files : Files := {}
  home : String
  account : Option String := none
  accounts : Keyed String := []
  rooms : Rooms

/-- The settings of a program. -/
structure Settings where
  model : Value := .text Tools.defaultModel
  maxTokens : Value := .int Gateway.defaultMaxTokens
  apiKey : Value := .null
  apiBase : Value := .null
  maxExecutions : Value := .int 50
  webhookUrl : Value := .null
  webhookTimeout : Value := .real (.ofRatio false 10 1)
  logLevel : Value := .text "INFO"
  logFormat : Value := .text "auto"

namespace Environment

/-- The value of a variable. -/
def lookup? (env : Environment) (name : String) : Option String := env.vars.get? name

/-- The directory of a user: of the one with a name, or, when the name is empty, of the user around, whom a variable may
move. -/
def homeOf? (env : Environment) (name : String) : Option String :=
  if name.isEmpty then (env.lookup? "HOME").or env.account else env.accounts.get? name

/-- A directory without slashes at its end; the root when nothing is left. -/
def bareDirectory (path : String) : String :=
  let cs := Text.trimEnd (· == '/') path.toList
  if cs.isEmpty then "/" else String.ofList cs

/-- A path in which a leading `~`, with or without the name of a user, is replaced by a directory; one that is not known
is a fault, and so is one that begins with `~` itself. -/
def expand (env : Environment) (path : String) : Except Fault String :=
  let path := Path.normalized path
  match path.splitOn "/" with
  | [] => .ok path
  | first :: rest =>
    if !first.startsWith "~" then .ok path
    else
      match env.homeOf? (String.ofList (first.toList.drop 1)) with
      | none => .error .noHome
      | some home =>
        let home := bareDirectory home
        if home.startsWith "~" then .error .noHome
        else .ok (Path.normalized ((if home = "/" then "" else home) ++ "/" ++ String.intercalate "/" rest))

/-- Where the settings are. -/
def settingsPath (env : Environment) : Except Fault String :=
  match env.lookup? "AUTOFLOW_CONFIG" with
  | some path => if path.isEmpty then .ok standard else env.expand path
  | none => .ok standard
where
  /-- Where the settings are unless a variable says so. -/
  standard : String := Path.normalized (env.home ++ "/.autoflow/configuration.json")

/-- The bytes of the mark that may stand at the start of a text. -/
def mark : List UInt8 := [0xef, 0xbb, 0xbf]

/-- Bytes as a text without the mark at its start; a part of the mark alone counts as no text at all. -/
def unmarked? (bytes : ByteArray) : Option String :=
  let given := bytes.toList
  if given.isPrefixOf mark then some ""
  else if mark.isPrefixOf given then Files.decode? ⟨(given.drop mark.length).toArray⟩
  else Files.decode? bytes

/-- What the file of the settings holds; a path that is too long, bytes that are no text and what lies beyond the limits
of the reader are faults. -/
def document (env : Environment) : Except Fault Fields := do
  let path ← env.settingsPath
  match env.files.read path with
  | .error .tooLong => throw (.unreachable .tooLong path)
  | .error _ => return []
  | .ok bytes =>
    match unmarked? bytes with
    | none => throw .undecodable
    | some text =>
      match Json.read env.rooms.settings text with
      | .ok (.dictionary entries) =>
        return entries.filterMap fun (k, v) => match k with | .text s => some (s, v) | _ => none
      | .ok _ => return []
      | .error (.malformed _) => return []
      | .error (.beyond limit) => throw (.beyond limit)

/-- A setting in a section, or another value when it is missing. -/
def setting (env : Environment) (part name : String) (other : Value) : Except Fault Value := do
  match (← env.document).get? part with
  | some v => return (v.field? name).getD other
  | none => return other

/-- The model that answers when an assistant names none. -/
def model (env : Environment) : Except Fault Value := do
  return (← env.setting "llm" "model" .null).orElse (.text Tools.defaultModel)

/-- How long answers may get. -/
def maxTokens (env : Environment) : Except Fault Value :=
  env.setting "llm" "max_tokens" (.int Gateway.defaultMaxTokens)

/-- The name of the variable that holds the key of the gateway unless a setting names one. -/
def keyVariable : String := "OPENAI_API_KEY"

/-- The name of the variable that holds the key of the gateway. -/
def keyName (env : Environment) : Except Fault String := do
  match (← env.setting "llm" "api_key_env_var" .null).orElse (.text keyVariable) with
  | .text name => return name
  | v => throw (.mistyped s!"str expected, not {v.typeName}")

/-- The key of the gateway. -/
def apiKey (env : Environment) : Except Fault Value := return .ofText? (env.lookup? (← env.keyName))

/-- The address of the gateway. -/
def apiBase (env : Environment) : Except Fault Value := env.setting "llm" "api_base" .null

/-- How many nodes a walk may visit. -/
def maxExecutions (env : Environment) : Except Fault Value := env.setting "execution" "max_executions" (.int 50)

/-- Where webhooks go unless a node says so. -/
def webhookUrl (env : Environment) : Except Fault Value := env.setting "webhook" "url" .null

/-- A value as a number of seconds. -/
def seconds : Value → Except Fault Value
  | .text s =>
    match Numeral.real? s.toList with
    | some x => .ok (.real x)
    | none => .error (.noNumber s)
  | v =>
    if v.isNumeric then
      match v.number with
      | .ok x => .ok (.real x)
      | .error fault => .error (.value fault)
    else .error (.mistyped s!"float() argument must be a string or a real number, not '{v.typeName}'")

/-- How many seconds a webhook may take. -/
def webhookTimeout (env : Environment) : Except Fault Value := do
  seconds (← env.setting "webhook" "timeout" (.real (.ofRatio false 10 1)))

/-- From which level on records are logged. -/
def logLevel (env : Environment) : Except Fault Value := env.setting "logging" "level" (.text "INFO")

/-- How records are logged. -/
def logFormat (env : Environment) : Except Fault Value := env.setting "logging" "format" (.text "auto")

/-- A gateway as it is set up; a key that is missing is taken from the variable that usually holds it. -/
def withKey (env : Environment) (gateway : Gateway) : Gateway :=
  { gateway with apiKey := gateway.apiKey.orElse (.ofText? (env.lookup? keyVariable)) }

/-- All settings. -/
def settings (env : Environment) : Except Fault Settings := do
  let model ← env.model
  let maxTokens ← env.maxTokens
  let apiKey ← env.apiKey
  let apiBase ← env.apiBase
  let maxExecutions ← env.maxExecutions
  let webhookUrl ← env.webhookUrl
  let webhookTimeout ← env.webhookTimeout
  let logLevel ← env.logLevel
  let logFormat ← env.logFormat
  return { model, maxTokens, apiKey, apiBase, maxExecutions, webhookUrl, webhookTimeout, logLevel, logFormat }

end Environment

end Chatflow
