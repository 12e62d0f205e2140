import Chatflow.Host.ManualRun
import Chatflow.Proofs.Host.Silence
import Chatflow.Proofs.Schema.Reading

/-!
# Where runs begin

A trigger is selected from the list of nodes, and a run is given its id only.  So the node that is handled first is
whatever the id leads to: the last node of the list with that id, and none when the id is empty (`first?_run`).

`runs_begin_iff` says for manual runs and for the runs of chat turns when that is the trigger that was selected.
-/

namespace Chatflow

/-- The node that a run handles first. -/
def Run.first? {σ : Type} (run : Run σ) : Option Node := run.walk.steps.head?.map (·.node)

/-- A walk that is allowed a node handles first the one to which its stand leads. -/
theorem Walker.head_walkFrom {σ : Type} (walker : Walker σ) (n : Nat) (s : Stand σ) :
    (walker.walkFrom (n + 1) s).steps.head?.map (·.node) =
      if s.pending = "" then none else walker.graph.node? s.pending := by
  rcases walker.stops_or_completes (n + 1) s with ⟨last, hs⟩ | ⟨k, node, -, hc⟩
  · rw [walkFrom_of_stops hs]
    cases hs with
    | finished hp => rw [if_pos hp]; rfl
    | missing hp hf => rw [if_neg hp, hf]; rfl
    | failed hp hf => rw [if_neg hp, hf]; rfl
    | raised hp hf => rw [if_neg hp, hf]; rfl
    | escaped hp hf => rw [if_neg hp, hf]; rfl
  · rw [walkFrom_of_completes hc, if_neg hc.pending, hc.found]
    rfl

/-- A trigger that is asked for and found is a trigger of the workflow. -/
theorem Workflow.trigger_eq_ok {w : Workflow} {asked : Value} {node : Node} (h : w.trigger asked = .ok node) :
    node ∈ w.nodes ∧ node.kind = .trigger := by
  unfold Workflow.trigger at h
  split at h
  · rename_i found hfound
    obtain rfl := Except.ok.inj h
    have hmem := List.mem_of_find?_eq_some hfound
    rw [Workflow.triggers, List.mem_filter, beq_iff_eq] at hmem
    exact hmem
  · cases h

theorem getElem?_of_isPrefix {α : Type} {first second : List α} (h : first <+: second) {i : Nat} {a : α}
    (ha : first[i]? = some a) : second[i]? = some a := by
  obtain ⟨hi, rfl⟩ := List.getElem?_eq_some_iff.mp ha
  exact List.prefix_iff_getElem?.mp h i hi

/-- The node of a chance is a chat trigger of its workflow. -/
theorem mem_chances {workflows : List Workflow} {w : Workflow} {node : Node} (h : (w, node) ∈ chances workflows) :
    w ∈ workflows ∧ node ∈ w.nodes ∧ Workflow.isChatTrigger node = true := by
  obtain ⟨v, hv, hmem⟩ := List.mem_flatMap.mp h
  obtain ⟨other, hother, heq⟩ := List.mem_map.mp hmem
  obtain ⟨rfl, rfl⟩ := Prod.mk.inj heq
  exact ⟨hv, List.mem_filter.mp hother⟩

namespace Host

variable {host : Host} {cap : Cap} (hcap : Cap.ofValue? host.settings.maxExecutions = some cap)

/-! ## Single runs -/

section Single

variable (hpos : 1 ≤ cap.allowed) (w : Workflow) (trace : Trace) (context : Context) (services : Services)
include hcap hpos

/-- **The first node of a run** is the last one of the workflow with the id that the run is given; an empty id leads to
none. -/
theorem first?_run (start : String) :
    (host.run w trace start context services).first? = if start = "" then none else Lists.node? w.nodes start := by
  obtain ⟨n, hn⟩ : ∃ n, cap.allowed = n + 1 := ⟨cap.allowed - 1, by omega⟩
  have hfound : (host.walker w).graph.node? start = Lists.node? w.nodes start :=
    Graph.node?_ofLists w.nodes w.connections start
  rw [Run.first?, (run_of_number hcap w trace start context services).1, hn, Walker.head_walkFrom, hfound]

/-- A run that is given the id of a node begins at that node when the id is not empty and no other node of the workflow
behind it has the same id. -/
theorem first?_run_eq_iff (node : Node) :
    (host.run w trace node.id context services).first? = some node ↔
      node.id ≠ "" ∧ Lists.node? w.nodes node.id = some node := by
  rw [first?_run hcap hpos]
  by_cases h : node.id = "" <;> simp [h]

end Single

/-! ## Manual runs -/

/-- What a manual run begins with: the trigger that is asked for, and a fresh context with the caller's variables. -/
theorem prepare_eq_ok {w : Workflow} {trigger vars user : Value} {node : Node} {context : Context}
    (h : prepare w trigger vars user = .ok (node, context)) :
    w.trigger trigger = .ok node ∧
      freshContext (vars.orElse (.dictionary [])) [] user (PersonId.value? w.assistant) = .ok context := by
  unfold prepare at h
  by_cases hempty : w.nodes.isEmpty
  · rw [if_pos hempty] at h
    cases h
  rw [if_neg hempty] at h
  obtain ⟨found, ht, h⟩ := bind_eq_ok_iff.mp h
  obtain ⟨fresh, hf, h⟩ := bind_eq_ok_iff.mp h
  obtain ⟨rfl, rfl⟩ := Prod.mk.inj (Except.ok.inj h)
  exact ⟨ht, hf⟩

/-- A manual run that gives something is a run from the trigger that was asked for. -/
theorem runManual_eq_ok {w : Workflow} {trigger vars user : Value} {trace : Trace} {services : Services}
    {result : ManualRun} (h : (host.runManual w trigger vars user trace services).result = .ok result) :
    ∃ node context, prepare w trigger vars user = .ok (node, context) ∧
      let run := host.run w trace node.id context services
      result = ⟨run.walk.context, run.report⟩ := by
  unfold runManual at h
  cases hp : prepare w trigger vars user with
  | error fault =>
    rw [hp] at h
    cases h
  | ok prepared =>
    rw [hp] at h
    refine ⟨prepared.1, prepared.2, rfl, ?_⟩
    dsimp only at h ⊢
    split at h
    · cases h
    · exact (Except.ok.inj h).symm

/-! ## The runs of chat turns -/

section Turn

variable {workflows : List Workflow} {conversation history : List Message} {assistant : Assistant} {text user : Value}
  {trace : Trace} {services : Services}

/-- A round of a chat turn is the run for the chance with the same number. -/
theorem exists_chance_of_started {i : Nat} {round : Round}
    (h : (host.started workflows conversation assistant user trace services)[i]? = some round) :
    ∃ node context trace' services', (chances workflows)[i]? = some (round.workflow, node) ∧
      freshContext (.dictionary []) conversation user assistant.id = .ok context ∧
      round.run = host.run round.workflow trace' node.id context services' := by
  unfold started at h
  split at h
  · rename_i context hfresh
    obtain ⟨node, trace', services', hchance, hrun⟩ :=
      exists_chance (getElem?_of_isPrefix (Round.throughSpeaker_isPrefix host.tools _) h)
    obtain ⟨behind, hbehind⟩ := Workflow.front_isPrefix workflows
    have hprefix : chances (Workflow.front workflows) <+: chances workflows :=
      ⟨chances behind, by rw [← chances_append, hbehind]⟩
    exact ⟨node, context, trace', services', getElem?_of_isPrefix hprefix hchance, hfresh, hrun⟩
  · cases h

/-- An answer behind silent workflows logs what the direct question does, and any other logs nothing more. -/
theorem entries_answerBehind (host : Host) (conversation : List Message) (assistant : Assistant)
    (tried : Done Attempt) :
    (host.answerBehind conversation assistant tried).entries = tried.entries ∨
      (tried.result = .ok .silent ∧ (host.answerBehind conversation assistant tried).entries =
        tried.entries ++ (host.askDirectly conversation assistant tried.trace tried.services).entries) := by
  unfold answerBehind
  split
  · exact Or.inl rfl
  · exact Or.inl rfl
  · rename_i hsilent
    exact Or.inr ⟨hsilent, rfl⟩

include hcap in
/-- **What a chat turn logs** under a cap that a run may reach: what its rounds logged, and behind that no more of any
run. -/
theorem entries_respond (hreached : cap.reached.escape? = none) {said : Message}
    (hsaid : host.message services .user text = .ok said) :
    let turn := host.respond workflows history text assistant user trace services
    let started := host.started workflows (history ++ [said]) assistant user trace (services.later Message.pace)
    ∃ (trace' : Trace) (tail : List Entry), turn.entries = started.flatMap (·.run.entries) ++ tail ∧
      (tail = [] ∨ tail = trace'.stamp [workflowSpoke assistant] ∨
        tail = (host.askDirectly (history ++ [said]) assistant trace'
          (Round.servicesBehind started (services.later Message.pace))).entries) := by
  intro turn started
  obtain ⟨hservices, hentries⟩ := tryWorkflows_started hcap hreached workflows (history ++ [said]) assistant user trace
    (services.later Message.pace)
  have hturn : turn = host.answerBehind (history ++ [said]) assistant (host.tryWorkflows (history ++ [said]) user assistant
      workflows trace (services.later Message.pace)) := respond_of_said hsaid
  rw [hturn]
  generalize host.tryWorkflows (history ++ [said]) user assistant workflows trace (services.later Message.pace) = tried
    at hservices hentries
  rcases entries_answerBehind host (history ++ [said]) assistant tried with hanswer | ⟨hquiet, hanswer⟩
  · rcases hentries with ⟨-, hentries⟩ | ⟨_, _, -, trace', hentries⟩
    · exact ⟨[], [], by rw [hanswer, hentries, List.append_nil], Or.inl rfl⟩
    · exact ⟨trace', _, hanswer.trans hentries, Or.inr (Or.inl rfl)⟩
  · rcases hentries with ⟨-, hentries⟩ | ⟨_, _, hspoke, -⟩
    · exact ⟨tried.trace, _, by rw [hanswer, hentries], Or.inr (Or.inr (by rw [hservices]))⟩
    · cases hquiet.symm.trans hspoke

end Turn

/-- **Where runs begin**, under a cap that is a number and allows a node.

A manual run that gives something is a run for the trigger that was selected, and begins at it exactly when the id of
the trigger is not empty and no other node behind it in the workflow has the same id.  The same holds of the runs of a
chat turn: there is one for each of its first chances, in their order, and under a cap that a run may reach the turn logs
nothing of any other run. -/
theorem runs_begin_iff (host : Host) (cap : Cap) (hcap : Cap.ofValue? host.settings.maxExecutions = some cap)
    (hpos : 1 ≤ cap.allowed) :
    (∀ (w : Workflow) (trigger vars user : Value) (trace : Trace) (services : Services) (result : ManualRun),
      (host.runManual w trigger vars user trace services).result = .ok result →
      ∃ node context, w.trigger trigger = .ok node ∧ node ∈ w.nodes ∧ node.kind = .trigger ∧
        freshContext (vars.orElse (.dictionary [])) [] user (PersonId.value? w.assistant) = .ok context ∧
        let run := host.run w trace node.id context services
        result = ⟨run.walk.context, run.report⟩ ∧
        (run.first? = some node ↔ node.id ≠ "" ∧ Lists.node? w.nodes node.id = some node)) ∧
    (∀ (workflows : List Workflow) (history : List Message) (text : Value) (assistant : Assistant) (user : Value)
      (trace : Trace) (services : Services) (said : Message), host.message services .user text = .ok said →
      let turn := host.respond workflows history text assistant user trace services
      let started := host.started workflows (history ++ [said]) assistant user trace (services.later Message.pace)
      (cap.reached.escape? = none → ∃ (trace' : Trace) (tail : List Entry),
        turn.entries = started.flatMap (·.run.entries) ++ tail ∧
          (tail = [] ∨ tail = trace'.stamp [workflowSpoke assistant] ∨
            tail = (host.askDirectly (history ++ [said]) assistant trace'
              (Round.servicesBehind started (services.later Message.pace))).entries)) ∧
      ∀ (i : Nat) (round : Round), started[i]? = some round →
        ∃ node context trace' services', (chances workflows)[i]? = some (round.workflow, node) ∧
          node ∈ round.workflow.nodes ∧ node.kind = .trigger ∧
          freshContext (.dictionary []) (history ++ [said]) user assistant.id = .ok context ∧
          round.run = host.run round.workflow trace' node.id context services' ∧
          (round.run.first? = some node ↔ node.id ≠ "" ∧ Lists.node? round.workflow.nodes node.id = some node)) := by
  constructor
  · intro w trigger vars user trace services result h
    obtain ⟨node, context, hprepared, hresult⟩ := runManual_eq_ok h
    obtain ⟨hselected, hfresh⟩ := prepare_eq_ok hprepared
    obtain ⟨hmem, hkind⟩ := Workflow.trigger_eq_ok hselected
    exact ⟨node, context, hselected, hmem, hkind, hfresh, hresult,
      first?_run_eq_iff hcap hpos w trace context services node⟩
  · intro workflows history text assistant user trace services said hsaid turn started
    refine ⟨fun hreached => entries_respond hcap hreached hsaid, fun i round hround => ?_⟩
    obtain ⟨node, context, trace', services', hchance, hfresh, hrun⟩ := exists_chance_of_started hround
    obtain ⟨-, hmem, hchat⟩ := mem_chances (List.mem_of_getElem? hchance)
    refine ⟨node, context, trace', services', hchance, hmem, (Workflow.isChatTrigger_iff.mp hchat).1, hfresh, hrun, ?_⟩
    rw [hrun]
    exact first?_run_eq_iff hcap hpos round.workflow trace' context services' node

/-- A workflow with a trigger and an output that says something, under ids. -/
def namedNodes (trigger output : String) : Value :=
  .ofFields [("id", .text "w"), ("nodes", .list [
    .ofFields [("id", .text trigger), ("type", .text "trigger"), ("data", .ofFields [("triggerType", .text "manual")])],
    .ofFields [("id", .text output), ("type", .text "output"),
      ("data", .ofFields [("outputType", .text "message"), ("content", .text "hi")])]])]

/-- With an id of its own the trigger is handled first. -/
theorem runs_begin_iff_named : Cap.ofValue? idle.settings.maxExecutions = some ⟨50, .capped⟩ ∧
    ∃ w result node context, Workflow.read (namedNodes "t" "o") = .ok w ∧
      (idle.runManual w .null .null (.int 1) [] {}).result = .ok result ∧ w.trigger .null = .ok node ∧
      let run := idle.run w [] node.id context {}
      result = ⟨run.walk.context, run.report⟩ ∧ run.first? = some node := by
  obtain ⟨w, hw⟩ : ∃ w, Workflow.read (namedNodes "t" "o") = .ok w := ⟨_, rfl⟩
  have hran : (idle.runManual w .null .null (.int 1) [] {}).result.toOption.isSome = true := by
    obtain rfl := Except.ok.inj hw
    decide +kernel
  cases hr : (idle.runManual w .null .null (.int 1) [] {}).result with
  | error fault =>
    rw [hr] at hran
    cases hran
  | ok result =>
    obtain ⟨node, context, hselected, -, -, -, hresult, hbegins⟩ :=
      (runs_begin_iff idle ⟨50, .capped⟩ rfl (by decide)).1 w .null .null (.int 1) [] {} result hr
    refine ⟨rfl, w, result, node, context, hw, hr, hselected, hresult, hbegins.mpr ?_⟩
    obtain rfl := Except.ok.inj hw
    obtain rfl := Except.ok.inj hselected
    exact ⟨by decide, rfl⟩

/-- **A manual run need not begin at the trigger that was selected**: an output behind it with the same id is handled in
its place, and for an empty id nothing is handled at all. -/
theorem namedNodes_begin_elsewhere :
    (∃ w node, Workflow.read (namedNodes "t" "t") = .ok w ∧ w.trigger .null = .ok node ∧ node.kind = .trigger ∧
      ((idle.runManual w .null .null (.int 1) [] {}).result.toOption.map (·.report.path)) = some ["t"] ∧
      ∀ context, (idle.run w [] node.id context {}).first?.map (·.kind) = some .output) ∧
    ∃ w node, Workflow.read (namedNodes "" "o") = .ok w ∧ w.trigger .null = .ok node ∧ node.kind = .trigger ∧
      ((idle.runManual w .null .null (.int 1) [] {}).result.toOption.map (·.report.path)) = some [] ∧
      ∀ context, (idle.run w [] node.id context {}).first? = none :=
  ⟨⟨_, _, rfl, rfl, rfl, by decide +kernel, fun _ => by rw [first?_run rfl (by decide)]; rfl⟩,
    _, _, rfl, rfl, rfl, by decide +kernel, fun _ => by rw [first?_run rfl (by decide)]; rfl⟩

end Host

end Chatflow
