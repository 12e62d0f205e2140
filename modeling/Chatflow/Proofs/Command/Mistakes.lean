import Chatflow.Command.Program
import Chatflow.Proofs.Generation.Replies
import Chatflow.Proofs.Handler.Completion
import Chatflow.Proofs.Schema.Reading
import Chatflow.Proofs.Walk.Trail

/-!
# Mistakes end a command before it begins

A command tells its user only of faults that it finds before it does anything: a file that cannot be used, variables
that cannot be read, a run that has nowhere to begin (`Mistake`).  What happens from then on, in runs, in the provider
or on the network, ends in no such fault (`Unreported`).

* `perform_of_mistake`: a mistake ends a command at once.
* `exit_perform_of_sound`: without one, a command does not end with the exit code for errors.
* `outcome_mistaken_iff`: which command lines end with it.
-/

namespace Chatflow

variable {α β : Type}

/-- A result that is not a fault of which a command tells its user. -/
def Unreported (x : Except Fault α) : Prop := ∀ fault, x = .error fault → fault.isReported = false

namespace Unreported

@[simp] theorem ok (a : α) : Unreported (.ok a) := nofun

theorem error {fault : Fault} (h : fault.isReported = false) : Unreported (.error fault : Except Fault α) := by
  rintro _ ⟨⟩
  exact h

theorem bind {x : Except Fault α} {f : α → Except Fault β} (hx : Unreported x) (hf : ∀ a, Unreported (f a)) :
    Unreported (x >>= f) := by
  cases x with
  | error fault => exact .error (hx fault rfl)
  | ok a => exact hf a

theorem map {x : Except Fault α} (hx : Unreported x) (f : α → β) : Unreported (x.map f) := by
  cases x with
  | error fault => exact .error (hx fault rfl)
  | ok a => exact .ok (f a)

end Unreported

/-! ## Runs -/

/-- What comes of reaching a cap is no fault of which a command tells. -/
theorem Cap.unreported_reached {v : Value} {cap : Cap} (h : Cap.ofValue? v = some cap) :
    ∀ fault ∈ cap.reached.escape?, fault.isReported = false := by
  rcases Cap.escape?_reached h with hn | ⟨-, hn⟩ | ⟨-, hn, -⟩ <;> rw [hn]
  · exact nofun
  · rintro _ ⟨⟩
    rfl
  · rintro _ ⟨⟩
    rfl

namespace Host

/-- **A run ends in no fault of which a command tells**: all that it may have is the fault of its cap. -/
theorem unreported_run (host : Host) (w : Workflow) (trace : Trace) (start : String) (context : Context)
    (services : Services) : ∀ fault ∈ (host.run w trace start context services).fault, fault.isReported = false := by
  have hkept : ∀ n, ((host.walker w).walk n start context (services.later 1)).ending.escape? = none := fun n =>
    (host.walker w).escape_of_willing (fun node context state => Tools.refusal_visit host.tools node context state) n
      ⟨start, context, services.later 1⟩
  unfold run Walker.run
  split
  · rintro _ ⟨⟩
    rfl
  · next cap hcap =>
    obtain ⟨v, hv⟩ : ∃ v, Cap.ofValue? v = some cap := by
      split at hcap
      · exact ⟨.int 0, hcap⟩
      · exact ⟨_, hcap⟩
    dsimp only
    rw [Walk.under]
    split
    · exact Cap.unreported_reached hv
    · rw [hkept]
      intro fault h
      cases h

theorem unreported_freshContext (vars : Value) (messages : List Message) (user assistant : Value) :
    Unreported (freshContext vars messages user assistant) := by
  unfold freshContext
  dsimp only
  split
  · exact .ok _
  · exact .error rfl

variable (host : Host)

theorem unreported_message (services : Services) (role : Role) (content : Value) :
    Unreported (host.message services role content) := by
  unfold message
  split
  · exact .ok _
  · exact .error rfl

/-- **A manual run that has somewhere to begin ends in no fault of which a command tells.** -/
theorem unreported_runManual {workflow : Workflow} {trigger vars user : Value} {node : Node} {context : Context}
    (h : prepare workflow trigger vars user = .ok (node, context)) (trace : Trace) (services : Services) :
    Unreported (host.runManual workflow trigger vars user trace services).result := by
  have hrun := host.unreported_run workflow trace node.id context services
  unfold runManual
  rw [h]
  dsimp only
  split
  · next fault hfault => exact .error (hrun fault hfault)
  · exact .ok _

/-! ## Chat turns -/

theorem unreported_hundredth (v : Value) : Unreported (hundredth v) := by
  unfold hundredth
  split
  · exact .ok _
  · cases (Binary64.ofRatio _ _ 100).bounded? with
    | none => exact .error rfl
    | some x => exact .ok _
  · exact .error rfl

theorem unreported_askDirectly {provider : Provider} (hprovider : host.provider = some provider)
    (hgenerate : ∀ earlier prompt, Unreported (provider.generate earlier prompt).result) (conversation : List Message)
    (assistant : Assistant) (trace : Trace) (services : Services) :
    Unreported (host.askDirectly conversation assistant trace services).result := by
  have hprompt : Unreported (host.directPrompt conversation assistant) :=
    (unreported_hundredth _).bind fun _ => .ok _
  unfold askDirectly
  rw [hprovider]
  cases h : host.directPrompt conversation assistant with
  | error fault => exact .error (hprompt fault h)
  | ok prompt =>
    dsimp only
    split
    · exact host.unreported_message _ _ _
    · next fault hfault =>
      split
      · exact .ok _
      · exact .error (hgenerate _ _ fault hfault)

variable (conversation : List Message) (user : Value) (assistant : Assistant)

theorem unreported_tryTriggers (workflow : Workflow) (nodes : List Node) (trace : Trace) (services : Services) :
    Unreported (host.tryTriggers workflow conversation user assistant nodes trace services).result := by
  induction nodes generalizing trace services with
  | nil => exact .ok _
  | cons node nodes ih =>
    have hcontext := unreported_freshContext (.dictionary []) conversation user assistant.id
    unfold tryTriggers
    split
    · next fault hfault => exact .error (hcontext fault hfault)
    · next context hcontext =>
      have hrun := host.unreported_run workflow trace node.id context services
      dsimp only
      split
      · next fault hfault => exact .error (hrun fault hfault)
      · exact .ok _
      · exact ih _ _

theorem unreported_tryWorkflows (workflows : List Workflow) (trace : Trace) (services : Services) :
    Unreported (host.tryWorkflows conversation user assistant workflows trace services).result := by
  induction workflows generalizing trace services with
  | nil => exact .ok _
  | cons workflow workflows ih =>
    unfold tryWorkflows
    split
    · exact ih _ _
    · split
      · exact .error rfl
      · dsimp only
        split
        · exact ih _ _
        · exact host.unreported_tryTriggers conversation user assistant workflow _ _ _

/-- **A chat turn ends in no fault of which a command tells**, when its provider gives none. -/
theorem unreported_respond {provider : Provider} (hprovider : host.provider = some provider)
    (hgenerate : ∀ earlier prompt, Unreported (provider.generate earlier prompt).result) (workflows : List Workflow)
    (history : List Message) (text : Value) (trace : Trace) (services : Services) :
    Unreported (host.respond workflows history text assistant user trace services).result := by
  have hsaid := host.unreported_message services .user text
  unfold respond
  split
  · next fault hfault => exact .error (hsaid fault hfault)
  · next said _ =>
    have htried := host.unreported_tryWorkflows (history ++ [said]) user assistant workflows trace
      (services.later Message.pace)
    dsimp only
    split
    · next fault hfault => exact .error (htried fault hfault)
    · exact .ok _
    · exact (host.unreported_askDirectly hprovider hgenerate _ assistant _ _).map _

end Host

/-! ## Settings -/

/-- Something is given behind another thing when that is given and then this. -/
theorem exists_bind_ok_iff {x : Except Fault α} {f : α → Except Fault β} :
    (∃ b, x >>= f = .ok b) ↔ ∃ a, x = .ok a ∧ ∃ b, f a = .ok b := by
  simp only [bind_eq_ok_iff]
  constructor
  · rintro ⟨b, a, ha, hb⟩
    exact ⟨a, ha, b, hb⟩
  · rintro ⟨a, ha, b, hb⟩
    exact ⟨b, a, ha, hb⟩

/-- The document of the settings is the same whatever another variable says. -/
theorem Environment.document_set (env : Environment) {name : String} (value : String) (hpath : name ≠ "AUTOFLOW_CONFIG")
    (hhome : name ≠ "HOME") : { env with vars := env.vars.set name value }.document = env.document := by
  have hpath' : { env with vars := env.vars.set name value }.settingsPath = env.settingsPath := by
    simp [settingsPath, settingsPath.standard, expand, homeOf?, lookup?, Keyed.get?_set, hpath, hhome]
  unfold document
  rw [hpath']

/-- Settings can be read whatever another variable says. -/
theorem Environment.exists_settings_set_iff (env : Environment) {name : String} (value : String)
    (hpath : name ≠ "AUTOFLOW_CONFIG") (hhome : name ≠ "HOME") :
    (∃ settings, { env with vars := env.vars.set name value }.settings = .ok settings) ↔
      ∃ settings, env.settings = .ok settings := by
  have hsetting : { env with vars := env.vars.set name value }.setting = env.setting := by
    funext part name other
    unfold setting
    rw [env.document_set value hpath hhome]
  have hkey : { env with vars := env.vars.set name value }.keyName = env.keyName := by
    unfold keyName
    rw [hsetting]
  have hdone : ∀ settings : Settings, (∃ given, (pure settings : Except Fault Settings) = .ok given) ↔ True :=
    fun settings => iff_true_intro ⟨settings, rfl⟩
  simp only [Environment.settings, model, maxTokens, apiKey, apiBase, maxExecutions, webhookUrl, webhookTimeout, logLevel,
    logFormat, hsetting, hkey, bind_assoc, exists_bind_ok_iff, pure_bind, hdone]

/-- A journal that is set up has the variables that it had, or one more that turns colours off. -/
theorem Journal.vars_configure (journal : Journal) (level format : Value) :
    (journal.configure level format).1.vars = journal.vars ∨
      (journal.configure level format).1.vars = journal.vars.set "NO_COLOR" "1" := by
  have hform : (journal.configure level format).1.vars = (journal.inForm (formOf (journal.format format))).vars := by
    unfold configure
    dsimp only
    cases Record.levelOf level <;> rfl
  rw [hform]
  cases formOf (journal.format format) with
  | structured => exact Or.inr rfl
  | readable => exact Or.inl rfl

namespace Command

/-! ## Sources of texts -/

/-- What a command is given by its source of texts is no fault of which it tells. -/
theorem unreported_generate (env : Environment) (settings : Settings) (mock : Value) (backend : Backend)
    (earlier : List Prompt) (prompt : Prompt) :
    Unreported (((source env settings mock).provider backend).generate earlier prompt).result := by
  unfold source
  split
  · unfold Source.provider
    dsimp only
    rw [Gateway.generate_result, Gateway.complete_result]
    split
    · next reply _ =>
      refine .map ?_ _
      cases Gateway.reads_read prompt.model reply with
      | given ok _ => exact ok ▸ .ok _
      | refused error shape _ =>
        rw [error]
        obtain ⟨text, rfl | rfl⟩ := shape <;> exact .error rfl
    · exact .error rfl
  · exact .ok _

theorem unreported_page (room : Nat) (v : Except Value.Fault Value) : Unreported (page room v) := by
  unfold page
  split
  · exact .ok _
  · exact .error rfl

/-! ## Outcomes -/

theorem exit_ofFault_iff {journal : String} {fault : Fault} :
    (Outcome.ofFault journal fault).exit = .ok 1 ↔ fault.isReported = true := by
  unfold Outcome.ofFault
  cases fault.isReported <;> simp

theorem Outcome.ofFault_reported {fault : Fault} (h : fault.isReported = true) :
    Outcome.ofFault "" fault = { exit := .ok 1, errors := "Error: " ++ fault.message ++ "\n" } := by
  unfold ofFault
  rw [if_pos h, String.empty_append]
  rfl

variable (desk : Desk) (source : Source)

theorem Desk.exit_conclude {done : Done α} (hdone : Unreported done.result) {text : α → Except Fault String}
    (htext : ∀ a, Unreported (text a)) : (desk.conclude source done text).exit ≠ .ok 1 := by
  have h : Unreported (done.result.bind text) := hdone.bind htext
  unfold Desk.conclude
  dsimp only
  split
  · simp
  · next fault hfault =>
    intro hexit
    rw [exit_ofFault_iff, h fault hfault] at hexit
    cases hexit

/-- What ends in a fault before anything is done is as if the fault had been found first. -/
theorem Desk.conclude_error {done : Done α} {fault : Fault} (hresult : done.result = .error fault)
    (hentries : done.entries = []) (hservices : done.services = {}) (text : α → Except Fault String) :
    desk.conclude source done text = .ofFault "" fault := by
  obtain ⟨result, entries, trace, services⟩ := done
  subst hresult hentries hservices
  have hrequests : source.requests [] = [] := by cases source <;> rfl
  unfold Desk.conclude Outcome.ofFault
  dsimp only
  rw [hrequests]
  simp only [Except.bind]
  cases fault.isReported <;> rfl

/-! ## Refusals -/

/-- A command line that is not followed ends with another exit code than the one for errors. -/
theorem Grammar.code_follow {g : Grammar} {words : List String} {refusal : Refusal}
    (h : g.follow words = .error refusal) : refusal.code ≠ 1 := by
  have hrefuse : ∀ halt, (g.refuse halt).code ≠ 1 := fun halt => by cases halt <;> simp [refuse]
  unfold follow at h
  split at h
  · cases h
  · cases h
    exact hrefuse _

theorem Invocation.code_ne_one {words : List String} {refusal : Refusal}
    (h : Invocation.read words = .error refusal) : refusal.code ≠ 1 := by
  unfold Invocation.read at h
  cases hmain : mainGrammar.follow words with
  | error other =>
    rw [hmain] at h
    cases h
    exact Grammar.code_follow hmain
  | ok whole =>
    rw [hmain] at h
    cases hcommand : (commandNamed (whole.command.getD ("", [])).1).1.follow (whole.command.getD ("", [])).2 with
    | error other =>
      simp only [bind, Except.bind, hcommand] at h
      cases h
      exact Grammar.code_follow hcommand
    | ok p =>
      simp only [bind, Except.bind, hcommand] at h
      split at h
      · cases h
      · cases h
        simp [Grammar.refuse]

/-! ## Mistakes -/

/-- The file of the workflow of a task. -/
def Task.workflow : Task → Value
  | .run task => task.workflow
  | .chat task => task.workflow
  | .info workflow => workflow

/-- What is found to be wrong with a task before anything is done: its workflow cannot be used; the history of a chat
turn cannot be used; the variables of a run cannot be read; a run has nowhere to begin, or nothing to begin with. -/
inductive Mistake (env : Environment) (clock : Clock) : Task → Fault → Prop
  | workflow {task : Task} {fault : Fault}
      (unusable : loadWorkflow env.rooms.workflow env.files task.workflow = .error fault) :
      Mistake env clock task fault
  | history {task : ChatTask} {workflow : Workflow} {fault : Fault}
      (loaded : loadWorkflow env.rooms.workflow env.files task.workflow = .ok workflow)
      (given : task.history.truthy = true)
      (unusable : loadHistory env.rooms.history env.files clock task.history = .error fault) :
      Mistake env clock (.chat task) fault
  | vars {task : RunTask} {workflow : Workflow} {fault : Fault}
      (loaded : loadWorkflow env.rooms.workflow env.files task.workflow = .ok workflow)
      (unreadable : parseVariables env.rooms.input task.pairs task.input = .error fault) :
      Mistake env clock (.run task) fault
  | beginning {task : RunTask} {workflow : Workflow} {vars : Fields} {fault : Fault}
      (loaded : loadWorkflow env.rooms.workflow env.files task.workflow = .ok workflow)
      (parsed : parseVariables env.rooms.input task.pairs task.input = .ok vars)
      (nowhere : Host.prepare workflow task.trigger (.ofFields vars) (.int 1) = .error fault) :
      Mistake env clock (.run task) fault

/-- The settings can be read, and the journal is set up with them as a command line asks for. -/
def Surroundings.Opens (around : Surroundings) (invocation : Invocation) (journal : Journal) : Prop :=
  ∃ settings, around.environment.settings = .ok settings ∧
    ({ vars := around.environment.vars, room := around.environment.rooms.line } : Journal).configure
      (invocation.level.orElse settings.logLevel) (invocation.format.orElse settings.logFormat) = (journal, .ok ())

namespace Surroundings

variable {around : Surroundings} {invocation : Invocation} {journal : Journal}

/-- Behind a journal that is set up, a command gets what it works with. -/
theorem Opens.exists_withDesk (h : around.Opens invocation journal) (command : Desk → Outcome) :
    ∃ desk : Desk, desk.around = around ∧ desk.environment.files = around.environment.files ∧
      desk.rooms = around.environment.rooms ∧ perform.withDesk around journal command = command desk := by
  obtain ⟨settings, hsettings, hconfigure⟩ := h
  -- The settings are read again, under the variables of the journal, which may have one more.
  have hvars : journal.vars = around.environment.vars ∨
      journal.vars = around.environment.vars.set "NO_COLOR" "1" := by
    have hjournal : journal = _ := (congrArg Prod.fst hconfigure).symm
    rw [hjournal]
    exact Journal.vars_configure _ _ _
  have hread : ∃ settings, { around.environment with vars := journal.vars }.settings = .ok settings := by
    rcases hvars with hvars | hvars
    · exact ⟨settings, by rw [hvars]; exact hsettings⟩
    · rw [hvars, Environment.exists_settings_set_iff _ _ (by decide) (by decide)]
      exact ⟨settings, hsettings⟩
  obtain ⟨settings, hsettings⟩ := hread
  refine ⟨⟨around, { around.environment with vars := journal.vars }, settings, journal⟩, rfl, rfl, rfl, ?_⟩
  unfold perform.withDesk
  dsimp only at hsettings ⊢
  rw [hsettings]

/-- **A mistake ends a command before anything is done**: nothing is written but the error, nothing is asked, and nothing
is sent. -/
theorem perform_of_mistake (h : around.Opens invocation journal) {task : Task} {fault : Fault}
    (hmistake : Mistake around.environment around.clock task fault) :
    around.perform journal task = .ofFault "" fault := by
  cases task with
  | info path =>
    cases hmistake with
    | workflow unusable =>
      show Command.info _ _ path = _
      unfold Command.info
      rw [show loadWorkflow _ _ path = _ from unusable]
      rfl
  | run task =>
    obtain ⟨desk, haround, hfiles, hrooms, hdesk⟩ := h.exists_withDesk fun desk => desk.run task
    refine hdesk.trans ?_
    unfold Desk.run
    rw [hfiles, hrooms]
    cases hmistake with
    | workflow unusable =>
      rw [show loadWorkflow _ _ task.workflow = _ from unusable]
      rfl
    | vars loaded unreadable =>
      rw [loaded, unreadable]
      rfl
    | beginning loaded parsed nowhere =>
      rw [loaded, parsed]
      refine Desk.conclude_error _ _ ?_ ?_ ?_ _
      all_goals
        unfold Host.runManual
        rw [nowhere]
  | chat task =>
    obtain ⟨desk, haround, hfiles, hrooms, hdesk⟩ := h.exists_withDesk fun desk => desk.chat task
    refine hdesk.trans ?_
    unfold Desk.chat Desk.history
    rw [hfiles, hrooms, haround]
    cases hmistake with
    | workflow unusable =>
      rw [show loadWorkflow _ _ task.workflow = _ from unusable]
      rfl
    | history loaded given unusable =>
      rw [loaded, if_pos given, unusable]
      rfl

/-- **A command without a mistake does not end with the exit code for errors.** -/
theorem exit_perform_of_sound (h : around.Opens invocation journal) {task : Task}
    (hsound : ∀ fault, ¬Mistake around.environment around.clock task fault) :
    (around.perform journal task).exit ≠ .ok 1 := by
  -- What is sound has all that a mistake could be about; only the work itself is left, whose faults are not told.
  have hloaded : ∃ workflow,
      loadWorkflow around.environment.rooms.workflow around.environment.files task.workflow = .ok workflow := by
    cases hload : loadWorkflow around.environment.rooms.workflow around.environment.files task.workflow with
    | error fault => exact absurd (.workflow hload) (hsound fault)
    | ok workflow => exact ⟨workflow, rfl⟩
  obtain ⟨workflow, hload⟩ := hloaded
  cases task with
  | info path =>
    show (Command.info _ _ path).exit ≠ _
    unfold Command.info
    rw [show loadWorkflow _ _ path = _ from hload]
    split
    · simp
    · next fault hfault =>
      rw [ne_eq, exit_ofFault_iff, unreported_page _ _ fault hfault]
      simp
  | run task =>
    obtain ⟨desk, haround, hfiles, hrooms, hdesk⟩ := h.exists_withDesk fun desk => desk.run task
    have hparsed : ∃ vars, parseVariables around.environment.rooms.input task.pairs task.input = .ok vars := by
      cases hparse : parseVariables around.environment.rooms.input task.pairs task.input with
      | error fault => exact absurd (.vars hload hparse) (hsound fault)
      | ok vars => exact ⟨vars, rfl⟩
    obtain ⟨vars, hparse⟩ := hparsed
    have hprepared : ∃ begins, Host.prepare workflow task.trigger (.ofFields vars) (.int 1) = .ok begins := by
      cases hprepare : Host.prepare workflow task.trigger (.ofFields vars) (.int 1) with
      | error fault => exact absurd (.beginning hload hparse hprepare) (hsound fault)
      | ok begins => exact ⟨begins, rfl⟩
    obtain ⟨⟨node, context⟩, hprepare⟩ := hprepared
    rw [show around.perform journal (.run task) = _ from hdesk]
    unfold Desk.run
    rw [hfiles, hrooms, show loadWorkflow _ _ task.workflow = _ from hload, hparse]
    exact Desk.exit_conclude _ _ (Host.unreported_runManual _ hprepare _ _) fun _ => unreported_page _ _
  | chat task =>
    obtain ⟨desk, haround, hfiles, hrooms, hdesk⟩ := h.exists_withDesk fun desk => desk.chat task
    have hhistory : ∃ history, desk.history task.history = .ok history := by
      unfold Desk.history
      rw [hfiles, hrooms, haround]
      split
      · next hgiven =>
        cases hread : loadHistory around.environment.rooms.history around.environment.files around.clock task.history with
        | error fault => exact absurd (.history hload hgiven hread) (hsound fault)
        | ok history => exact ⟨history, rfl⟩
      · exact ⟨[], rfl⟩
    obtain ⟨history, hhistory⟩ := hhistory
    rw [show around.perform journal (.chat task) = _ from hdesk]
    unfold Desk.chat
    rw [hfiles, hrooms, show loadWorkflow _ _ task.workflow = _ from hload, hhistory]
    refine Desk.exit_conclude _ _ (Host.unreported_respond _ _ _ rfl ?_ _ _ _ _ _) fun reply => ?_
    · exact unreported_generate _ _ _ _
    · split
      · exact unreported_page _ _
      · exact .ok _

theorem outcome_of_opens {words : List String} (hread : Invocation.read words = .ok invocation)
    (h : around.Opens invocation journal) : around.outcome words = around.perform journal invocation.task := by
  obtain ⟨settings, hsettings, hconfigure⟩ := h
  unfold outcome
  rw [hread]
  dsimp only
  rw [hsettings]
  dsimp only
  rw [hconfigure]

/-- A command line that ends with the exit code for errors was followed, and the journal was set up. -/
theorem opens_of_exit {words : List String} (h : (around.outcome words).exit = .ok 1) :
    ∃ invocation journal, Invocation.read words = .ok invocation ∧ around.Opens invocation journal := by
  unfold outcome at h
  cases hread : Invocation.read words with
  | error refusal =>
    rw [hread] at h
    exact absurd (Except.ok.inj h) (Invocation.code_ne_one hread)
  | ok invocation =>
    rw [hread] at h
    dsimp only at h
    cases hsettings : around.environment.settings with
    | error fault =>
      rw [hsettings] at h
      cases h
    | ok settings =>
      rw [hsettings] at h
      dsimp only at h
      cases hconfigure : ({ vars := around.environment.vars, room := around.environment.rooms.line } : Journal).configure
          (invocation.level.orElse settings.logLevel) (invocation.format.orElse settings.logFormat) with
      | mk journal done =>
        rw [hconfigure] at h
        cases done with
        | error fault => cases h
        | ok => exact ⟨invocation, journal, rfl, settings, hsettings, hconfigure⟩

/-- **Which command lines end with the exit code for errors**: those that are followed, where the settings can be read and
the journal set up, and that have a mistake of which the command tells.  Then nothing is written but the error, so no
record has been logged either, no text was asked for, and nothing was sent.  So once a run or a reply has begun, no
command ends with that code, whatever the source of texts and the network do. -/
theorem outcome_mistaken_iff (around : Surroundings) (words : List String) :
    let outcome := around.outcome words
    (outcome.exit = .ok 1 ↔ ∃ invocation journal fault, Invocation.read words = .ok invocation ∧
      around.Opens invocation journal ∧ Mistake around.environment around.clock invocation.task fault ∧
      fault.isReported = true) ∧
    (outcome.exit = .ok 1 → outcome.output = "" ∧ outcome.requests = [] ∧ outcome.posted = []) ∧
    ∀ invocation journal fault, Invocation.read words = .ok invocation → around.Opens invocation journal →
      Mistake around.environment around.clock invocation.task fault → fault.isReported = true →
      outcome.errors = "Error: " ++ fault.message ++ "\n" := by
  intro outcome
  have hmistaken : ∀ invocation journal fault, Invocation.read words = .ok invocation →
      around.Opens invocation journal → Mistake around.environment around.clock invocation.task fault →
      outcome = .ofFault "" fault := fun invocation journal fault hread hopens hmistake =>
    (outcome_of_opens hread hopens).trans (perform_of_mistake hopens hmistake)
  have hiff : outcome.exit = .ok 1 ↔ ∃ invocation journal fault, Invocation.read words = .ok invocation ∧
      around.Opens invocation journal ∧ Mistake around.environment around.clock invocation.task fault ∧
      fault.isReported = true := by
    constructor
    · intro hexit
      obtain ⟨invocation, journal, hread, hopens⟩ := opens_of_exit hexit
      by_cases hsound : ∀ fault, ¬Mistake around.environment around.clock invocation.task fault
      · rw [show outcome = _ from outcome_of_opens hread hopens] at hexit
        exact absurd hexit (exit_perform_of_sound hopens hsound)
      · obtain ⟨fault, hmistake⟩ := Classical.not_forall_not.mp hsound
        rw [hmistaken _ _ _ hread hopens hmistake, exit_ofFault_iff] at hexit
        exact ⟨invocation, journal, fault, hread, hopens, hmistake, hexit⟩
    · rintro ⟨invocation, journal, fault, hread, hopens, hmistake, hfault⟩
      rw [hmistaken _ _ _ hread hopens hmistake, exit_ofFault_iff]
      exact hfault
  refine ⟨hiff, fun hexit => ?_, fun invocation journal fault hread hopens hmistake hfault => ?_⟩
  · obtain ⟨invocation, journal, fault, hread, hopens, hmistake, hfault⟩ := hiff.mp hexit
    rw [hmistaken _ _ _ hread hopens hmistake, Outcome.ofFault_reported hfault]
    exact ⟨rfl, rfl, rfl⟩
  · rw [hmistaken _ _ _ hread hopens hmistake, Outcome.ofFault_reported hfault]

end Surroundings

end Command

end Chatflow
