import Chatflow.Proofs.Host.Triggers

/-!
# The rounds that a chat turn goes through

A chat turn tries workflow after workflow, and one whose triggers cannot be chosen from is a fault.  So there are rounds
for the chances of the workflows in front of the first of that kind (`Workflow.front`), and the turn goes through them
up to the first in which something is said (`Host.started`).

* `tryWorkflows_append`: workflows behind others are tried when those are silent.
* `tries_front`: the workflows in front can all be tried, whatever the data of their nodes are.
* `tryWorkflows_front`: the others add nothing to what was logged, asked and posted; at most they turn silence into a
  fault.
* `Tries.started`, `tryWorkflows_started`: what was logged, asked and posted, told from the rounds that are gone
  through.
-/

namespace Chatflow

/-- The workflows in front of the first whose triggers cannot be chosen from. -/
def Workflow.front (workflows : List Workflow) : List Workflow := workflows.takeWhile canChoose

theorem Workflow.front_isPrefix (workflows : List Workflow) : front workflows <+: workflows := List.takeWhile_prefix _

/-- All workflows are in front, or behind those in front stands one whose triggers cannot be chosen from. -/
theorem Workflow.front_cases (workflows : List Workflow) :
    (workflows.all canChoose = true ∧ front workflows = workflows) ∨
      ∃ w rest, workflows = front workflows ++ w :: rest ∧ w.canChoose = false := by
  induction workflows with
  | nil => exact Or.inl ⟨rfl, rfl⟩
  | cons w workflows ih =>
    by_cases hw : w.canChoose = true
    · have hfront : front (w :: workflows) = w :: front workflows := List.takeWhile_cons_of_pos hw
      rw [hfront, List.all_cons, hw, Bool.true_and]
      rcases ih with ⟨hall, hsame⟩ | ⟨v, rest, hsplit, hv⟩
      · exact Or.inl ⟨hall, congrArg _ hsame⟩
      · exact Or.inr ⟨v, rest, congrArg _ hsplit, hv⟩
    · have hfront : front (w :: workflows) = [] := List.takeWhile_cons_of_neg hw
      exact Or.inr ⟨w, workflows, by rw [hfront, List.nil_append], by simpa using hw⟩

/-- The rounds up to the first in which something is said. -/
def Round.throughSpeaker (tools : Tools) : List Round → List Round
  | [] => []
  | round :: rounds => round :: if (round.answer? tools).isSome then [] else throughSpeaker tools rounds

theorem Round.throughSpeaker_isPrefix (tools : Tools) (rounds : List Round) :
    throughSpeaker tools rounds <+: rounds := by
  induction rounds with
  | nil => exact List.prefix_refl _
  | cons round rounds ih =>
    rw [throughSpeaker, List.cons_prefix_cons]
    refine ⟨rfl, ?_⟩
    split
    · exact List.nil_prefix
    · exact ih

namespace Host

/-- The rounds that a chat turn goes through; none when there is no fresh context. -/
def started (host : Host) (workflows : List Workflow) (conversation : List Message) (assistant : Assistant)
    (user : Value) (trace : Trace) (services : Services) : List Round :=
  match freshContext (.dictionary []) conversation user assistant.id with
  | .ok context =>
    Round.throughSpeaker host.tools (host.rounds context (chances (Workflow.front workflows)) trace services)
  | .error _ => []

variable {host : Host} {assistant : Assistant} {context : Context} {trace : Trace} {services : Services}
  {turns : List (Workflow × Node)} {done : Done Attempt}

/-! ## One workflow after the other -/

section Trying

variable {conversation : List Message} {user : Value}

/-- **Workflows behind others are tried when those are silent.** -/
theorem tryWorkflows_append (earlier later : List Workflow) (trace : Trace) (services : Services) :
    host.tryWorkflows conversation user assistant (earlier ++ later) trace services =
      let tried := host.tryWorkflows conversation user assistant earlier trace services
      match tried.result with
      | .ok .silent =>
        after tried.entries (host.tryWorkflows conversation user assistant later tried.trace tried.services)
      | _ => tried := by
  induction earlier generalizing trace services with
  | nil => rfl
  | cons w earlier ih =>
    rw [List.cons_append, tryWorkflows, tryWorkflows]
    by_cases hempty : w.nodes.isEmpty
    · rw [if_pos hempty, if_pos hempty]
      exact ih trace services
    rw [if_neg hempty, if_neg hempty]
    cases w.chatTriggers? with
    | none => rfl
    | some triggers =>
      dsimp only
      generalize host.tryTriggers w conversation user assistant triggers trace services = first
      cases hr : first.result with
      | error fault => simp only [hr]
      | ok attempt =>
        cases attempt with
        | spoke workflow content => simp only [hr]
        | silent =>
          dsimp only
          rw [ih]
          generalize host.tryWorkflows conversation user assistant earlier first.trace first.services = tried
          dsimp only [after]
          split <;> simp only [List.append_assoc]

/-- A workflow whose triggers cannot be chosen from is a fault. -/
theorem tryWorkflows_of_not_canChoose (host : Host) (conversation : List Message) (user : Value)
    (assistant : Assistant) {w : Workflow} (h : w.canChoose = false) (rest : List Workflow) (trace : Trace)
    (services : Services) :
    ∃ fault, host.tryWorkflows conversation user assistant (w :: rest) trace services =
      { result := .error fault, trace, services } := by
  have hnodes : ¬w.nodes.isEmpty = true := by
    intro hempty
    rw [Workflow.canChoose, Workflow.triggers, List.isEmpty_iff.mp hempty] at h
    cases h
  refine ⟨.mistyped "the type of a trigger cannot be looked up", ?_⟩
  rw [tryWorkflows, if_neg hnodes, Workflow.chatTriggers?_eq, if_neg (by rw [h]; decide)]

/-- **What comes of workflows, told from those in front**: the others add nothing to what was logged, asked and posted,
and turn silence into a fault. -/
theorem tryWorkflows_front (host : Host) (conversation : List Message) (user : Value) (assistant : Assistant)
    (workflows : List Workflow) (trace : Trace) (services : Services) :
    let front := host.tryWorkflows conversation user assistant (Workflow.front workflows) trace services
    let tried := host.tryWorkflows conversation user assistant workflows trace services
    tried.entries = front.entries ∧ tried.services = front.services ∧
      (∀ workflow content, tried.result = .ok (.spoke workflow content) ↔
        front.result = .ok (.spoke workflow content)) ∧
      (tried.result = .ok .silent ↔ front.result = .ok .silent ∧ workflows.all Workflow.canChoose = true) := by
  intro front tried
  rcases Workflow.front_cases workflows with ⟨hall, hsame⟩ | ⟨w, rest, hsplit, hw⟩
  · have hfront : front = tried := by simp only [front, tried, hsame]
    rw [hfront, hall]
    exact ⟨rfl, rfl, fun _ _ => Iff.rfl, by simp⟩
  · have hall : workflows.all Workflow.canChoose = false := by
      rw [hsplit, List.all_append, List.all_cons, hw, Bool.false_and, Bool.and_false]
    have htried : tried = match front.result with
        | .ok .silent =>
          after front.entries
            (host.tryWorkflows conversation user assistant (w :: rest) front.trace front.services)
        | _ => front := by
      rw [← tryWorkflows_append, ← hsplit]
    obtain ⟨fault, hfault⟩ :=
      host.tryWorkflows_of_not_canChoose conversation user assistant hw rest front.trace front.services
    rw [hfault] at htried
    rw [hall]
    clear_value front tried
    subst htried
    split
    · rename_i hsilent
      rw [hsilent]
      exact ⟨List.append_nil _, rfl, fun _ _ => by simp [after], by simp [after]⟩
    · rename_i hother
      exact ⟨rfl, rfl, fun _ _ => Iff.rfl, by simpa using hother⟩

/-- Under a cap that is a number a run takes the steps of the walk that the cap allows; when it has somewhere to begin,
its fault is what escapes from that walk under the cap. -/
theorem run_of_number {cap : Cap} (hcap : Cap.ofValue? host.settings.maxExecutions = some cap) (w : Workflow)
    (trace : Trace) (start : String) (context : Context) (services : Services) :
    let run := host.run w trace start context services
    let walk := (host.walker w).walkFrom cap.allowed ⟨start, context, services.later 1⟩
    run.walk.steps = walk.steps ∧ run.fault = if start = "" then none else (walk.under cap).ending.escape? := by
  intro run walk
  by_cases h : start = ""
  · have hwalk : ∀ n, (host.walker w).walkFrom n ⟨start, context, services.later 1⟩ = .still .finished context _ :=
      fun n => Walker.walkFrom_of_stops (.finished h)
    obtain ⟨hrun, -, hfault⟩ := (host.walker w).run_of_cap (host.setup w services) start (.ofInt 0) (by simp [h]) trace
      context (services.later 1)
    rw [hwalk] at hrun hfault
    rw [if_pos h]
    exact ⟨(congrArg Walk.steps hrun).trans (congrArg Walk.steps (hwalk _)).symm, hfault⟩
  · have hstart : start.isEmpty = false := by simpa using h
    obtain ⟨hrun, -, hfault⟩ := (host.walker w).run_of_cap (host.setup w services) start cap
      (by rw [hstart]; exact hcap) trace context (services.later 1)
    rw [if_neg h]
    exact ⟨(congrArg Walk.steps hrun).trans (Walk.steps_under _ _), hfault⟩

/-- All that escapes from a run under a number is what comes of reaching it. -/
theorem fault_run_cases {cap : Cap} (hcap : Cap.ofValue? host.settings.maxExecutions = some cap) (w : Workflow)
    (trace : Trace) (start : String) (context : Context) (services : Services) :
    let run := host.run w trace start context services
    run.fault = none ∨ run.fault = cap.reached.escape? := by
  intro run
  have hkept : ∀ s, ((host.walker w).walkFrom cap.allowed s).ending.escape? = none :=
    (host.walker w).escape_of_willing (fun node context state => Tools.refusal_visit host.tools node context state) _
  rw [show run.fault = _ from (run_of_number hcap w trace start context services).2, Walk.under]
  split
  · exact .inl rfl
  · split
    · exact .inr rfl
    · exact .inl (hkept _)

/-- Under a cap that allows no node and cannot be told a run goes nowhere, and it has a fault when it has somewhere to
begin. -/
theorem run_of_refused {cap : Cap} {fault : Fault} (hcap : Cap.ofValue? host.settings.maxExecutions = some cap)
    (hnone : cap.allowed = 0) (hrefused : cap.reached.escape? = some fault) (w : Workflow) (trace : Trace)
    (start : String) (context : Context) (services : Services) :
    let run := host.run w trace start context services
    run.walk.steps = [] ∧ run.fault = if start = "" then none else some fault := by
  intro run
  obtain ⟨hsteps, hfault⟩ := run_of_number hcap w trace start context services
  rw [hnone] at hsteps hfault
  by_cases h : start = ""
  · rw [Walker.walkFrom_of_stops (.finished h)] at hsteps
    rw [if_pos h] at hfault ⊢
    exact ⟨hsteps, hfault⟩
  · rw [Walker.walkFrom_of_stops (.capped h)] at hsteps hfault
    rw [if_neg h] at hfault ⊢
    exact ⟨hsteps, hfault.trans hrefused⟩

/-- A run under a cap that may be reached has no fault. -/
theorem fault_run {cap : Cap} (hcap : Cap.ofValue? host.settings.maxExecutions = some cap)
    (hreached : cap.reached.escape? = none) (w : Workflow) (trace : Trace) (start : String) (context : Context)
    (services : Services) : (host.run w trace start context services).fault = none := by
  rcases fault_run_cases hcap w trace start context services with h | h
  · exact h
  · exact h.trans hreached

/-- People whose ids can be read have a fresh context. -/
theorem freshContext_of_read {messages : List Message} {user assistant : Value} {who : PersonId}
    {whom : Option PersonId} (hu : PersonId.read user = .ok who)
    (ha : Schema.orNull PersonId.read assistant = .ok whom) :
    freshContext (.dictionary []) messages user assistant = .ok { messages, user := who, assistant := whom } := by
  unfold freshContext
  rw [hu, ha]
  rfl

/-- Without a fresh context nothing is run. -/
theorem tryWorkflows_of_not_fresh {fault : Fault}
    (h : freshContext (.dictionary []) conversation user assistant.id = .error fault) (workflows : List Workflow)
    (trace : Trace) (services : Services) :
    let tried := host.tryWorkflows conversation user assistant workflows trace services
    tried.entries = [] ∧ tried.services = services ∧
      ∀ workflow content, tried.result ≠ .ok (.spoke workflow content) := by
  induction workflows with
  | nil => exact ⟨rfl, rfl, by simp [tryWorkflows]⟩
  | cons w workflows ih =>
    rw [tryWorkflows]
    by_cases hempty : w.nodes.isEmpty
    · rw [if_pos hempty]
      exact ih
    rw [if_neg hempty]
    cases w.chatTriggers? with
    | none => exact ⟨rfl, rfl, by simp⟩
    | some triggers =>
      cases triggers with
      | nil => exact ih
      | cons node nodes =>
        dsimp only
        rw [tryTriggers, h]
        exact ⟨rfl, rfl, by simp⟩

section Fresh

variable {cap : Cap} (hcap : Cap.ofValue? host.settings.maxExecutions = some cap)
  (hreached : cap.reached.escape? = none)
  (hfresh : freshContext (.dictionary []) conversation user assistant.id = .ok context)
include hcap hreached hfresh

theorem exists_attempt_triggers (w : Workflow) (nodes : List Node) (trace : Trace) (services : Services) :
    ∃ attempt, (host.tryTriggers w conversation user assistant nodes trace services).result = .ok attempt := by
  induction nodes generalizing trace services with
  | nil => exact ⟨.silent, rfl⟩
  | cons node nodes ih =>
    rw [tryTriggers, hfresh]
    dsimp only
    rw [fault_run hcap hreached w trace node.id context services]
    cases spoken conversation.length (host.run w trace node.id context services).walk.context with
    | some content => exact ⟨_, rfl⟩
    | none => exact ih _ _

/-- Workflows whose triggers can be chosen from can be tried. -/
theorem exists_attempt {workflows : List Workflow} (h : workflows.all Workflow.canChoose = true) (trace : Trace)
    (services : Services) :
    ∃ attempt, (host.tryWorkflows conversation user assistant workflows trace services).result = .ok attempt := by
  induction workflows generalizing trace services with
  | nil => exact ⟨.silent, rfl⟩
  | cons w workflows ih =>
    rw [List.all_cons, Bool.and_eq_true] at h
    rw [tryWorkflows]
    by_cases hempty : w.nodes.isEmpty
    · rw [if_pos hempty]
      exact ih h.2 trace services
    rw [if_neg hempty, Workflow.chatTriggers?_eq, if_pos h.1]
    dsimp only
    obtain ⟨attempt, hattempt⟩ :=
      exists_attempt_triggers hcap hreached hfresh w (w.nodes.filter Workflow.isChatTrigger) trace services
    cases attempt with
    | spoke workflow content =>
      simp only [hattempt]
      exact ⟨_, rfl⟩
    | silent =>
      simp only [hattempt]
      exact ih h.2 _ _

/-- **The chances of the workflows in front are tried one after the other.** -/
theorem tries_front (workflows : List Workflow) (trace : Trace) (services : Services) :
    Tries host assistant context (chances (Workflow.front workflows)) trace services
      (host.tryWorkflows conversation user assistant (Workflow.front workflows) trace services) := by
  have hall : (Workflow.front workflows).all Workflow.canChoose = true := List.all_takeWhile
  obtain ⟨attempt, hattempt⟩ := exists_attempt hcap hreached hfresh hall trace services
  exact tries_of_tryWorkflows (freshContext_eq hfresh).2 (fun _ => hfresh) hattempt

end Fresh

end Trying

/-! ## The rounds of a row of chances -/

/-- The round with a number is the run for the chance with the same number. -/
theorem exists_chance {i : Nat} {round : Round} (h : (host.rounds context turns trace services)[i]? = some round) :
    ∃ node trace' services', turns[i]? = some (round.workflow, node) ∧
      round.run = host.run round.workflow trace' node.id context services' := by
  induction turns generalizing trace services i with
  | nil => cases h
  | cons turn rest ih =>
    cases i with
    | zero =>
      obtain rfl := Option.some.inj h
      exact ⟨turn.2, trace, services, rfl, rfl⟩
    | succ i => exact ih h

/-- A row of chances speaks when something is said in a round, and is silent when nothing is said in any. -/
theorem Tries.result_iff (h : Tries host assistant context turns trace services done) :
    let rounds := host.rounds context turns trace services
    ((∃ workflow content, done.result = .ok (.spoke workflow content)) ↔
      ∃ round ∈ rounds, ∃ m, round.answer? host.tools = some m) ∧
    (done.result = .ok .silent ↔ ∀ round ∈ rounds, round.answer? host.tools = none) := by
  intro rounds
  rcases h.rounds with ⟨earlier, round, later, m, hrounds, -, hm, hresult, -⟩ | ⟨hquiet, hresult, -⟩
  · have hmem : round ∈ rounds := by
      simp only [rounds, hrounds, List.mem_append, List.mem_cons, true_or, or_true]
    refine ⟨⟨fun _ => ⟨round, hmem, m, hm⟩, fun _ => ⟨_, _, hresult⟩⟩, ⟨fun hs => ?_, fun hall => ?_⟩⟩
    · cases hs.symm.trans hresult
    · cases (hall round hmem).symm.trans hm
  · refine ⟨⟨fun ⟨_, _, hs⟩ => ?_, fun ⟨round, hmem, m, hm⟩ => ?_⟩, ⟨fun _ => hquiet, fun _ => hresult⟩⟩
    · cases hs.symm.trans hresult
    · cases (hquiet round hmem).symm.trans hm

/-- **What a row of chances leaves, told from the rounds that it goes through.** -/
theorem Tries.started (h : Tries host assistant context turns trace services done) :
    let started := Round.throughSpeaker host.tools (host.rounds context turns trace services)
    done.services = Round.servicesBehind started services ∧
      ((done.result = .ok .silent ∧ done.entries = started.flatMap (·.run.entries)) ∨
        ∃ workflow content, done.result = .ok (.spoke workflow content) ∧
          done.entries = started.flatMap (·.run.entries) ++ done.trace.stamp [workflowSpoke assistant]) := by
  induction h with
  | silent => exact ⟨rfl, Or.inl ⟨rfl, rfl⟩⟩
  | @spoke w node rest trace services run content ran speaks =>
    rw [← ran, spoken_run, Option.map_eq_some_iff] at speaks
    obtain ⟨m, hm, -⟩ := speaks
    have hstarted : Round.throughSpeaker host.tools (host.rounds context ((w, node) :: rest) trace services) =
        [⟨w, services.ticks + 1, run⟩] := by
      rw [Host.rounds, Round.throughSpeaker, if_pos (Option.isSome_of_eq_some hm), ran]
    rw [hstarted]
    exact ⟨rfl, Or.inr ⟨w.id, content, rfl, by rw [List.flatMap_singleton]⟩⟩
  | @on w node rest trace services run done ran quiet further ih =>
    rw [← ran, spoken_run, Option.map_eq_none_iff] at quiet
    have hstarted : Round.throughSpeaker host.tools (host.rounds context ((w, node) :: rest) trace services) =
        ⟨w, services.ticks + 1, run⟩ ::
          Round.throughSpeaker host.tools (host.rounds context rest run.trace run.walk.state) := by
      rw [Host.rounds, Round.throughSpeaker, if_neg (by rw [quiet]; decide), ran]
    obtain ⟨hservices, hentries⟩ := ih
    rw [hstarted]
    dsimp only
    rw [Round.servicesBehind_cons, List.flatMap_cons, List.append_assoc]
    refine ⟨hservices, ?_⟩
    rcases hentries with ⟨hresult, hentries⟩ | ⟨workflow, content, hresult, hentries⟩
    · exact Or.inl ⟨hresult, congrArg _ hentries⟩
    · exact Or.inr ⟨workflow, content, hresult, congrArg _ hentries⟩

/-- **What workflows leave, told from the rounds that are gone through.** -/
theorem tryWorkflows_started {cap : Cap} (hcap : Cap.ofValue? host.settings.maxExecutions = some cap)
    (hreached : cap.reached.escape? = none) (workflows : List Workflow) (conversation : List Message)
    (assistant : Assistant) (user : Value) (trace : Trace) (services : Services) :
    let started := host.started workflows conversation assistant user trace services
    let tried := host.tryWorkflows conversation user assistant workflows trace services
    tried.services = Round.servicesBehind started services ∧
      (((∀ workflow content, tried.result ≠ .ok (.spoke workflow content)) ∧
          tried.entries = started.flatMap (·.run.entries)) ∨
        ∃ workflow content, tried.result = .ok (.spoke workflow content) ∧ ∃ trace' : Trace,
          tried.entries = started.flatMap (·.run.entries) ++ trace'.stamp [workflowSpoke assistant]) := by
  intro started tried
  cases hfresh : freshContext (.dictionary []) conversation user assistant.id with
  | error fault =>
    have hstarted : started = [] := by simp only [started, Host.started, hfresh]
    obtain ⟨hentries, hservices, hsilent⟩ := host.tryWorkflows_of_not_fresh hfresh workflows trace services
    rw [hstarted]
    exact ⟨hservices, Or.inl ⟨hsilent, hentries⟩⟩
  | ok context =>
    have hstarted : started = Round.throughSpeaker host.tools
        (host.rounds context (chances (Workflow.front workflows)) trace services) := by
      simp only [started, Host.started, hfresh]
    obtain ⟨hentries, hservices, hspoke, -⟩ :=
      host.tryWorkflows_front conversation user assistant workflows trace services
    obtain ⟨hbehind, hresult⟩ := (tries_front hcap hreached hfresh workflows trace services).started
    rw [hstarted]
    refine ⟨hservices.trans hbehind, ?_⟩
    rcases hresult with ⟨hsilent, hfront⟩ | ⟨workflow, content, hspeaks, hfront⟩
    · refine Or.inl ⟨fun workflow content h => ?_, hentries.trans hfront⟩
      cases hsilent.symm.trans ((hspoke workflow content).mp h)
    · exact Or.inr ⟨workflow, content, (hspoke workflow content).mpr hspeaks, _, hentries.trans hfront⟩

end Host

end Chatflow
