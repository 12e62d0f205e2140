import Chatflow.Proofs.Host.Document
import Chatflow.Proofs.Host.Rounds
import Chatflow.Proofs.Json.RoundTrip

/-!
# Settings and their types

A document of settings is taken as it is, but for two entries: the name of the variable that holds the key has to be a
text, and the seconds that a webhook may take are converted (`Convertible`).  So a setting is of its declared type just
when its entry is (`WellTyped`), and a cap that is no number ends each run in a fault.

Halves of characters, which an escape in a file may leave alone, stand in texts as one character for all of them.  What
the system says of a variable with such a name is not told, so it must be spelled without that character (`Spelled`).

* `settings_eq_ok_iff`: the settings of a document.
* `settings_typed_iff`: when settings are given, when they are of their types, and when runs under them have no fault.
-/

namespace Chatflow

/-! ## Types -/

namespace Settings

/-- The types of settings. -/
inductive Kind where
  | text
  | textOrNull
  | whole
  | real

/-- Whether a value is of a type; a truth value counts as a whole number. -/
def Kind.has : Kind → Value → Bool
  | .text, .text _ => true
  | .textOrNull, .text _ | .textOrNull, .null => true
  | .whole, v => v.whole?.isSome
  | .real, .real _ => true
  | _, _ => false

/-- Every setting is of its type. -/
structure Typed (settings : Settings) : Prop where
  model : Kind.text.has settings.model = true
  maxTokens : Kind.whole.has settings.maxTokens = true
  apiKey : Kind.textOrNull.has settings.apiKey = true
  apiBase : Kind.textOrNull.has settings.apiBase = true
  maxExecutions : Kind.whole.has settings.maxExecutions = true
  webhookUrl : Kind.textOrNull.has settings.webhookUrl = true
  webhookTimeout : Kind.real.has settings.webhookTimeout = true
  logLevel : Kind.text.has settings.logLevel = true
  logFormat : Kind.text.has settings.logFormat = true

theorem Kind.text_has_iff {v : Value} : Kind.text.has v = true ↔ ∃ s, v = .text s := by
  cases v with
  | text s => exact iff_of_true rfl ⟨s, rfl⟩
  | _ => exact iff_of_false nofun nofun

theorem Kind.has_ofText? (text : Option String) : Kind.textOrNull.has (.ofText? text) = true := by
  cases text <;> rfl

/-! ## Entries -/

/-- What a document says of a setting: nothing, or a value. -/
def said? (doc : Fields) (part name : String) : Option Value := (doc.get? part).bind (·.field? name)

/-- A document says nothing of a setting, or a value that will do. -/
def Fits (doc : Fields) (part name : String) (will : Value → Bool) : Prop :=
  ∀ v ∈ said? doc part name, will v = true

instance (doc : Fields) (part name : String) (will : Value → Bool) : Decidable (Fits doc part name will) :=
  inferInstanceAs (Decidable (∀ v ∈ said? doc part name, will v = true))

/-- The values that will do where one that does not count as true means the default. -/
def Kind.loose (kind : Kind) (v : Value) : Bool := !v.truthy || kind.has v

/-- The values that can be converted to seconds: numerals, and numbers that are not too large. -/
def isSeconds : Value → Bool
  | .text s => (Numeral.real? s.toList).isSome
  | v => v.isNumeric && v.number.isOk

/-- What is converted when the settings of a document are read can be converted. -/
structure Convertible (doc : Fields) : Prop where
  key : Fits doc "llm" "api_key_env_var" Kind.text.loose
  timeout : Fits doc "webhook" "timeout" isSeconds

/-- The name of the variable that holds the key, where a document has one, is spelled in whole characters. -/
def Spelled (doc : Fields) : Prop :=
  Fits doc "llm" "api_key_env_var" fun v => match v with
    | .text name => !name.toList.contains (Char.ofNat 0xfffd)
    | _ => true

/-- The values that a cap may be: numbers, but not the one that is never reached. -/
def isCountable : Value → Bool
  | .real (.infinite false) => false
  | v => v.isNumeric

/-- What a document says of every setting will do. -/
structure WellTyped (doc : Fields) : Prop extends Convertible doc where
  model : Fits doc "llm" "model" Kind.text.loose
  maxTokens : Fits doc "llm" "max_tokens" Kind.whole.has
  apiBase : Fits doc "llm" "api_base" Kind.textOrNull.has
  maxExecutions : Fits doc "execution" "max_executions" Kind.whole.has
  webhookUrl : Fits doc "webhook" "url" Kind.textOrNull.has
  logLevel : Fits doc "logging" "level" Kind.text.has
  logFormat : Fits doc "logging" "format" Kind.text.has

section Entry

variable {doc : Fields} {part name : String}

theorem fits_iff_getD {will : Value → Bool} {other : Value} (h : will other = true) :
    Fits doc part name will ↔ will ((said? doc part name).getD other) = true := by
  unfold Fits
  cases said? doc part name <;> simp [h]

theorem fits_iff_orElse {kind : Kind} {other : Value} (h : kind.has other = true) :
    Fits doc part name kind.loose ↔ kind.has (((said? doc part name).getD .null).orElse other) = true := by
  rw [fits_iff_getD (show kind.loose .null = true from rfl)]
  unfold Kind.loose Value.orElse
  cases ((said? doc part name).getD .null).truthy <;> simp [h]

theorem exists_seconds_iff {v : Value} : (∃ x, Environment.seconds v = .ok x) ↔ isSeconds v = true := by
  cases v with
  | bool _ | real _ => exact iff_of_true ⟨_, rfl⟩ rfl
  | text s =>
    unfold Environment.seconds isSeconds
    dsimp only
    cases Numeral.real? s.toList <;> simp
  | int n =>
    unfold Environment.seconds isSeconds
    dsimp only
    cases (Value.int n).number <;> simp [Value.isNumeric, Except.isOk, Except.toBool]
  | _ => exact iff_of_false (fun ⟨_, h⟩ => nomatch h) nofun

theorem real_of_seconds {v x : Value} (h : Environment.seconds v = .ok x) : Kind.real.has x = true := by
  unfold Environment.seconds at h
  split at h
  · split at h <;> cases h
    rfl
  · split at h
    · split at h <;> cases h
      rfl
    · cases h

end Entry

/-! ## Reading -/

/-- What is converted to the name of the variable that holds the key. -/
def keyEntry (doc : Fields) : Value :=
  ((said? doc "llm" "api_key_env_var").getD .null).orElse (.text Environment.keyVariable)

/-- What is converted to the seconds that a webhook may take. -/
def timeoutEntry (doc : Fields) : Value := (said? doc "webhook" "timeout").getD (.real (.ofRatio false 10 1))

/-- The settings of a document, with a key and with the seconds that a webhook may take. -/
def ofDocument (doc : Fields) (apiKey webhookTimeout : Value) : Settings where
  model := ((said? doc "llm" "model").getD .null).orElse (.text Tools.defaultModel)
  maxTokens := (said? doc "llm" "max_tokens").getD (.int Gateway.defaultMaxTokens)
  apiKey
  apiBase := (said? doc "llm" "api_base").getD .null
  maxExecutions := (said? doc "execution" "max_executions").getD (.int 50)
  webhookUrl := (said? doc "webhook" "url").getD .null
  webhookTimeout
  logLevel := (said? doc "logging" "level").getD (.text "INFO")
  logFormat := (said? doc "logging" "format").getD (.text "auto")

end Settings

namespace Environment

open Settings

variable {env : Environment} {doc : Fields} (hdoc : env.document = .ok doc)

include hdoc

theorem setting_of_document (part name : String) (other : Value) :
    env.setting part name other = .ok ((said? doc part name).getD other) := by
  unfold setting said?
  rw [hdoc]
  dsimp only [bind, Except.bind]
  cases doc.get? part <;> rfl

theorem keyName_of_document : env.keyName =
    match keyEntry doc with
    | .text name => .ok name
    | v => .error (.mistyped s!"str expected, not {v.typeName}") := by
  unfold keyName
  rw [setting_of_document hdoc]
  rfl

theorem keyName_eq_ok_iff {name : String} : env.keyName = .ok name ↔ keyEntry doc = .text name := by
  rw [keyName_of_document hdoc]
  cases keyEntry doc <;> simp

/-- **The settings of a document**: its entries or the defaults, once the name of the key is a text and the seconds are
converted. -/
theorem settings_eq_ok_iff {settings : Settings} : env.settings = .ok settings ↔
    ∃ name timeout, keyEntry doc = .text name ∧ seconds (timeoutEntry doc) = .ok timeout ∧
      settings = ofDocument doc (.ofText? (env.lookup? name)) timeout := by
  have hpure : ∀ {α : Type} {a b : α}, (pure a : Except Fault α) = .ok b ↔ b = a := fun {_ _ _} =>
    ⟨fun h => (Except.ok.inj h).symm, fun h => h ▸ rfl⟩
  simp only [Environment.settings, model, maxTokens, apiKey, apiBase, maxExecutions, webhookUrl, webhookTimeout, logLevel,
    logFormat, setting_of_document hdoc, bind_eq_ok_iff, keyName_eq_ok_iff hdoc, hpure, Except.ok.injEq, exists_eq_left',
    exists_eq_left]
  constructor
  · rintro ⟨_, ⟨name, hname, rfl⟩, timeout, htimeout, rfl⟩
    exact ⟨name, timeout, hname, htimeout, rfl⟩
  · rintro ⟨name, timeout, hname, htimeout, rfl⟩
    exact ⟨_, ⟨name, hname, rfl⟩, timeout, htimeout, rfl⟩

/-- The settings of a document can be read just when what is converted can be. -/
theorem exists_settings_iff : (∃ settings, env.settings = .ok settings) ↔ Convertible doc := by
  have hkey : Fits doc "llm" "api_key_env_var" Kind.text.loose ↔ ∃ name, keyEntry doc = .text name :=
    (fits_iff_orElse rfl).trans Kind.text_has_iff
  have htimeout : Fits doc "webhook" "timeout" isSeconds ↔ ∃ timeout, seconds (timeoutEntry doc) = .ok timeout :=
    (fits_iff_getD rfl).trans exists_seconds_iff.symm
  simp only [settings_eq_ok_iff hdoc]
  constructor
  · rintro ⟨_, name, timeout, hname, hseconds, -⟩
    exact ⟨hkey.mpr ⟨name, hname⟩, htimeout.mpr ⟨timeout, hseconds⟩⟩
  · intro h
    obtain ⟨name, hname⟩ := hkey.mp h.key
    obtain ⟨timeout, hseconds⟩ := htimeout.mp h.timeout
    exact ⟨_, name, timeout, hname, hseconds, rfl⟩

/-- The settings of a document are of their types just when all that it says of them will do. -/
theorem typed_iff {settings : Settings} (h : env.settings = .ok settings) : settings.Typed ↔ WellTyped doc := by
  have hconvertible : Convertible doc := (exists_settings_iff hdoc).mp ⟨settings, h⟩
  obtain ⟨name, timeout, -, hseconds, rfl⟩ := (settings_eq_ok_iff hdoc).mp h
  constructor
  · intro htyped
    exact ⟨hconvertible, (fits_iff_orElse rfl).mpr htyped.model, (fits_iff_getD rfl).mpr htyped.maxTokens,
      (fits_iff_getD rfl).mpr htyped.apiBase, (fits_iff_getD rfl).mpr htyped.maxExecutions,
      (fits_iff_getD rfl).mpr htyped.webhookUrl, (fits_iff_getD rfl).mpr htyped.logLevel,
      (fits_iff_getD rfl).mpr htyped.logFormat⟩
  · intro hfits
    exact ⟨(fits_iff_orElse rfl).mp hfits.model, (fits_iff_getD rfl).mp hfits.maxTokens, Kind.has_ofText? _,
      (fits_iff_getD rfl).mp hfits.apiBase, (fits_iff_getD rfl).mp hfits.maxExecutions,
      (fits_iff_getD rfl).mp hfits.webhookUrl, real_of_seconds hseconds, (fits_iff_getD rfl).mp hfits.logLevel,
      (fits_iff_getD rfl).mp hfits.logFormat⟩

omit hdoc

/-- Where settings are given there is a document. -/
theorem exists_document_of_settings {env : Environment} {settings : Settings} (h : env.settings = .ok settings) :
    ∃ doc, env.document = .ok doc := by
  obtain ⟨model, hmodel, -⟩ := bind_eq_ok_iff.mp h
  obtain ⟨v, hv, -⟩ := bind_eq_ok_iff.mp hmodel
  obtain ⟨doc, hdoc, -⟩ := bind_eq_ok_iff.mp hv
  exact ⟨doc, hdoc⟩

/-- No integer that a document says is too long for a text. -/
theorem short_of_said {env : Environment} {doc : Fields} (hdoc : env.document = .ok doc) {part name : String} {n : Int}
    (h : said? doc part name = some (.int n)) : Decimal.isLong n = false := by
  obtain ⟨object, hobject, hfield⟩ := Option.bind_eq_some_iff.mp h
  obtain ⟨e, he, rfl⟩ := Option.map_eq_some_iff.mp hobject
  obtain ⟨room, hroom⟩ := env.renders_of_document hdoc e (List.mem_of_find?_eq_some he)
  unfold Value.field? at hfield
  split at hfield
  · next entries hentries =>
    obtain ⟨entry, hentry, hn⟩ := Option.map_eq_some_iff.mp hfield
    rw [hentries] at hroom
    cases hroom with
    | dictionary keys each =>
      have hvalue := each entry (List.mem_of_find?_eq_some hentry)
      rw [hn] at hvalue
      exact Value.renders_int_iff.mp hvalue
  · cases hfield

/-- Without a word on the settings they are the defaults. -/
theorem settings_of_nothing {env : Environment} (hdoc : env.document = .ok []) :
    env.settings = .ok { apiKey := .ofText? (env.lookup? keyVariable) } :=
  (settings_eq_ok_iff hdoc).mpr ⟨keyVariable, _, rfl, rfl, rfl⟩

/-- What a document says of the cap is what the cap is, unless it says nothing. -/
theorem fits_cap_iff {env : Environment} {settings : Settings} (h : env.settings = .ok settings) {will : Value → Bool}
    (hdefault : will (.int 50) = true) :
    (∃ doc, env.document = .ok doc ∧ Fits doc "execution" "max_executions" will) ↔
      will settings.maxExecutions = true := by
  obtain ⟨doc, hdoc⟩ := exists_document_of_settings h
  obtain ⟨name, timeout, -, -, rfl⟩ := (settings_eq_ok_iff hdoc).mp h
  have hcap : Fits doc "execution" "max_executions" will ↔
      will (ofDocument doc (.ofText? (env.lookup? name)) timeout).maxExecutions = true := fits_iff_getD hdefault
  rw [← hcap]
  exact ⟨fun ⟨other, hother, hfits⟩ => Except.ok.inj (hother.symm.trans hdoc) ▸ hfits, fun hfits => ⟨doc, hdoc, hfits⟩⟩

/-! ## Runs -/

/-- A run ends in the fault of a cap that cannot be compared just when its cap is no number and it has somewhere to
begin. -/
theorem run_uncompared_iff (host : Host) (w : Workflow) (trace : Trace) (start : String) (context : Context)
    (services : Services) :
    (host.run w trace start context services).fault = some (.mistyped "the cap cannot be compared") ↔
      start ≠ "" ∧ host.settings.maxExecutions.isNumeric = false := by
  rw [← Cap.isSome_ofValue?]
  cases h : Cap.ofValue? host.settings.maxExecutions with
  | none =>
    by_cases hstart : start = ""
    · subst hstart
      have hnone : (host.run w trace "" context services).fault = none := rfl
      exact iff_of_false (by rw [hnone]; nofun) fun hno => hno.1 rfl
    · have hbegins : ¬start.isEmpty = true := by simpa using hstart
      refine iff_of_true ?_ ⟨hstart, rfl⟩
      unfold Host.run Walker.run
      rw [if_neg hbegins, show Cap.ofValue? (host.setup w services).cap = none from h]
  | some cap =>
    refine iff_of_false (fun hfault => ?_) (fun hno => nomatch hno.2)
    rcases Host.fault_run_cases h w trace start context services with hnone | hescape
    · cases hfault.symm.trans hnone
    · rcases Cap.escape?_reached h with hn | ⟨-, hn⟩ | ⟨-, hn, -⟩ <;> cases hfault.symm.trans (hescape.trans hn)

/-- A cap that a document gives, and that can be counted to, may be reached. -/
theorem reached_of_countable {env : Environment} {settings : Settings} (h : env.settings = .ok settings)
    (hcount : isCountable settings.maxExecutions = true) :
    ∃ cap, Cap.ofValue? settings.maxExecutions = some cap ∧ cap.reached.escape? = none := by
  obtain ⟨doc, hdoc⟩ := exists_document_of_settings h
  obtain ⟨name, timeout, -, -, rfl⟩ := (settings_eq_ok_iff hdoc).mp h
  have hnumeric : ∀ v, isCountable v = true → v.isNumeric = true := by
    intro v hv
    unfold isCountable at hv
    split at hv
    · cases hv
    · exact hv
  obtain ⟨cap, hcap⟩ := Option.isSome_iff_exists.mp ((Cap.isSome_ofValue? _).trans (hnumeric _ hcount))
  refine ⟨cap, hcap, ?_⟩
  rcases Cap.escape?_reached hcap with hn | ⟨hinfinite, -⟩ | ⟨-, -, n, hint, hlong⟩
  · exact hn
  · rw [hinfinite] at hcount
    cases hcount
  · -- The cap is the default, or was read, and then its digits are not too many.
    have hshort : Decimal.isLong n = false := by
      cases hsaid : said? doc "execution" "max_executions" with
      | none =>
        simp only [ofDocument, hsaid, Option.getD_none] at hint
        obtain rfl := Value.int.inj hint
        decide +kernel
      | some v =>
        simp only [ofDocument, hsaid, Option.getD_some] at hint
        exact short_of_said hdoc (hint ▸ hsaid)
    cases hshort.symm.trans hlong

/-- **When settings are given, and when they are of their types.**  Whatever is in the file and in the environment:
there is a document just when the file can be found and read.  Where the name of the variable for the key is spelled in
whole characters, settings are given just when, besides, what is converted can be; and they are of their types just when
all that the document says of them will do.  A file without settings means defaults, which are of their types.

A run under settings ends in a fault of its cap just when what the document says of the cap is no number and the run has
somewhere to begin.  Under a whole number, and any other that can be counted to, it has no fault at all. -/
theorem settings_typed_iff (env : Environment) :
    ((∃ doc, env.document = .ok doc) ↔ env.Legible) ∧
    ((∀ doc, env.document = .ok doc → Spelled doc) →
      ((∃ settings, env.settings = .ok settings) ↔ ∃ doc, env.document = .ok doc ∧ Convertible doc) ∧
      ((∃ settings, env.settings = .ok settings ∧ settings.Typed) ↔ ∃ doc, env.document = .ok doc ∧ WellTyped doc)) ∧
    (∀ path, env.settingsPath = .ok path → env.files.Void env.rooms.settings path →
      let defaults : Settings := { apiKey := .ofText? (env.lookup? keyVariable) }
      env.settings = .ok defaults ∧ defaults.Typed) ∧
    ∀ host : Host, env.settings = .ok host.settings → ∀ workflow trace start context services,
      let run := host.run workflow trace start context services
      (run.fault = some (.mistyped "the cap cannot be compared") ↔ start ≠ "" ∧
        ¬∃ doc, env.document = .ok doc ∧ Fits doc "execution" "max_executions" Value.isNumeric) ∧
      ((∃ doc, env.document = .ok doc ∧ Fits doc "execution" "max_executions" isCountable) → run.fault = none) := by
  refine ⟨env.exists_document_iff, fun _ => ⟨⟨fun ⟨settings, h⟩ => ?_, fun ⟨doc, hdoc, hconvertible⟩ => ?_⟩,
    ⟨fun ⟨settings, h, htyped⟩ => ?_, fun ⟨doc, hdoc, hfits⟩ => ?_⟩⟩,
    fun path hpath hvoid => ?_, fun host h workflow trace start context services => ⟨?_, fun hcount => ?_⟩⟩
  · obtain ⟨doc, hdoc⟩ := exists_document_of_settings h
    exact ⟨doc, hdoc, (exists_settings_iff hdoc).mp ⟨settings, h⟩⟩
  · exact (exists_settings_iff hdoc).mpr hconvertible
  · obtain ⟨doc, hdoc⟩ := exists_document_of_settings h
    exact ⟨doc, hdoc, (typed_iff hdoc h).mp htyped⟩
  · obtain ⟨settings, h⟩ := (exists_settings_iff hdoc).mpr hfits.toConvertible
    exact ⟨settings, h, (typed_iff hdoc h).mpr hfits⟩
  · exact ⟨settings_of_nothing (env.document_of_void hpath hvoid),
      ⟨rfl, rfl, Kind.has_ofText? _, rfl, rfl, rfl, rfl, rfl, rfl⟩⟩
  · rw [run_uncompared_iff, fits_cap_iff h rfl, Bool.not_eq_true]
  · obtain ⟨cap, hcap, hreached⟩ := reached_of_countable h ((fits_cap_iff h rfl).mp hcount)
    exact Host.fault_run hcap hreached workflow trace start context services

/-! ## Files that break the program -/

/-- An environment in which the settings are in a file. -/
def settingsIn (bytes : ByteArray) : Environment where
  vars := [("AUTOFLOW_CONFIG", "w")]
  files := { entries := [("w", some bytes)] }
  home := "/home/u"
  rooms := ⟨900, 900, 900, 900, 900, 900, 900⟩

theorem settingsPath_in (bytes : ByteArray) : (settingsIn bytes).settingsPath = .ok "w" := by
  show (settingsIn bytes).expand "w" = .ok "w"
  unfold expand
  rw [Command.normalized_w]
  dsimp only
  rw [Command.splitOn_w]
  simp

/-- A file in which the cap is null. -/
def nullCap : String := "\x7b\"execution\": \x7b\"max_executions\": null\x7d\x7d"

theorem unmarked?_nullCap : unmarked? nullCap.toUTF8 = some nullCap := by
  unfold unmarked?
  dsimp only
  rw [toList_eq_data, if_neg (by decide +kernel), if_neg (by decide +kernel), Files.decode?_toUTF8]
  decide +kernel

theorem read_nullCap :
    Json.read 900 nullCap = .ok (.ofFields [("execution", .ofFields [("max_executions", .null)])]) := by
  have hcap : (Value.ofFields [("max_executions", .null)]).IsJson :=
    .object (by decide) (List.forall_mem_singleton.mpr .null)
  have hjson : (Value.ofFields [("execution", .ofFields [("max_executions", .null)])]).IsJson :=
    .object (by decide) (List.forall_mem_singleton.mpr hcap)
  have hline : String.ofList (Json.line (.ofFields [("execution", .ofFields [("max_executions", .null)])])) =
      nullCap := by decide +kernel
  rw [← hline]
  exact (Json.read_line hjson 900).1 ((Value.flaw?_eq_none_iff 900 _).mp (by decide +kernel))

theorem document_nullCap :
    (settingsIn nullCap.toUTF8).document = .ok [("execution", .ofFields [("max_executions", .null)])] :=
  document_of_object (settingsPath_in _) rfl unmarked?_nullCap read_nullCap

/-- **A bad file breaks the program.**  A stray byte leaves the settings unread.  A null for the cap is taken as it is,
though the cap is declared as a whole number, and each run that has somewhere to begin ends in a fault. -/
theorem badFile_breaks :
    (settingsIn ⟨#[0xff]⟩).settings = .error .undecodable ∧
      ∃ settings, (settingsIn nullCap.toUTF8).settings = .ok settings ∧ ¬settings.Typed ∧
        ∀ host : Host, host.settings = settings → ∀ workflow trace context services,
          (host.run workflow trace "t" context services).fault = some (.mistyped "the cap cannot be compared") := by
  constructor
  · have hstray : unmarked? ⟨#[0xff]⟩ = none := by
      rw [← Option.isNone_iff_eq_none, ← Option.not_isSome, Bool.not_eq_true', Bool.eq_false_iff, ne_eq,
        isSome_unmarked?_iff, toList_eq_data]
      decide
    unfold Environment.settings Environment.model setting
    rw [document_of_stray (settingsPath_in _) rfl hstray]
    rfl
  · obtain ⟨settings, h⟩ := (exists_settings_iff document_nullCap).mpr ⟨by decide, by decide⟩
    obtain ⟨name, timeout, -, -, hsettings⟩ := (settings_eq_ok_iff document_nullCap).mp h
    have hcap : settings.maxExecutions = .null := by rw [hsettings]; rfl
    refine ⟨settings, h, fun htyped => ?_, fun host hhost workflow trace context services => ?_⟩
    · have hwhole := htyped.maxExecutions
      rw [hcap] at hwhole
      cases hwhole
    · rw [run_uncompared_iff, hhost, hcap]
      exact ⟨by decide, rfl⟩

end Environment

end Chatflow
