import Mathlib.Data.List.Chain
import Chatflow.Proofs.Graph.Lists
import Chatflow.Proofs.Walk.Trail

/-!
# Replays

A row of nodes can be handled without a graph, one node after the other (`Handlers.replay`).  A walk does just that with
the nodes on its path:

* `replay_walkFrom`: the replay of a walk's nodes gives the verdicts that its steps tell, and the walk leaves the
  context and the state behind the last visit.
* `isChain_walkFrom`: each step of a walk but the last completed, and led to the next one.
-/

namespace Chatflow

variable {σ : Type}

/-- The walker of a list of nodes and a list of connections. -/
def Walker.ofLists (nodes : List Node) (connections : List Connection) (handlers : Handlers σ) : Walker σ :=
  ⟨Graph.ofLists nodes connections, handlers⟩

theorem Walker.graph_ofLists (nodes : List Node) (connections : List Connection) (handlers : Handlers σ) :
    (ofLists nodes connections handlers).graph = Graph.ofLists nodes connections := rfl

theorem Walker.isKeyed_ofLists (nodes : List Node) (connections : List Connection) (handlers : Handlers σ) :
    (ofLists nodes connections handlers).graph.IsKeyed := Graph.isKeyed_ofLists nodes connections

/-- A node and what handling it gave. -/
structure Visit (σ : Type) where
  node : Node
  handled : Handled σ

/-- Handles a row of nodes, each with the context and the state that the one before left. -/
def Handlers.replay (handlers : Handlers σ) : List Node → Context → σ → List (Visit σ)
  | [], _, _ => []
  | node :: rest, context, state =>
    let handled := handlers.visit node (context.at node.id) state
    ⟨node, handled⟩ :: replay handlers rest handled.settled handled.state

/-- The context behind a row of visits that began with another one. -/
def Visit.contextBehind (context : Context) (visits : List (Visit σ)) : Context :=
  ((visits.getLast?).map (·.handled.settled)).getD context

/-- The state behind a row of visits that began with another one. -/
def Visit.stateBehind (state : σ) (visits : List (Visit σ)) : σ :=
  ((visits.getLast?).map (·.handled.state)).getD state

/-- A node and its verdict, as a visit has them. -/
def Visit.told (visit : Visit σ) : Node × Verdict := (visit.node, visit.handled.verdict)

/-- A node and its verdict, as a step tells them. -/
def Step.told (step : Step) : Node × Verdict := (step.node, step.verdict)

theorem Handlers.replay_nodes (handlers : Handlers σ) (nodes : List Node) (context : Context) (state : σ) :
    (handlers.replay nodes context state).map (·.node) = nodes := by
  induction nodes generalizing context state with
  | nil => rfl
  | cons node rest ih => rw [replay, List.map_cons, ih]

theorem Visit.contextBehind_cons (context : Context) (visit : Visit σ) (rest : List (Visit σ)) :
    contextBehind context (visit :: rest) = contextBehind visit.handled.settled rest := by
  cases rest <;> simp [contextBehind, List.getLast?_cons]

theorem Visit.stateBehind_cons (state : σ) (visit : Visit σ) (rest : List (Visit σ)) :
    stateBehind state (visit :: rest) = stateBehind visit.handled.state rest := by
  cases rest <;> simp [stateBehind, List.getLast?_cons]

namespace Walker

variable {walker : Walker σ}

/-- In a keyed graph the replay of a node that is found at a stand is what the walk does there. -/
theorem replay_cons_of_found (hk : walker.graph.IsKeyed) {s : Stand σ} {node : Node}
    (hf : walker.graph.node? s.pending = some node) (rest : List Node) :
    walker.handlers.replay (node :: rest) s.context s.state =
      ⟨node, walker.handledAt s node⟩ ::
        walker.handlers.replay rest (walker.standBehind s node).context
          (walker.standBehind s node).state := by
  have hv : walker.handlers.visit node (s.context.at node.id) s.state = walker.handledAt s node := by
    rw [hk hf]
    rfl
  rw [Handlers.replay, hv]
  rfl

/-- The replay of a walk that the node at a stand ended. -/
theorem replay_lastAt (hk : walker.graph.IsKeyed) {s : Stand σ} {node : Node} {ending : Ending}
    (hf : walker.graph.node? s.pending = some node) :
    let visits := walker.handlers.replay ((walker.lastAt s node ending).steps.map (·.node)) s.context s.state
    visits.map Visit.told = (walker.lastAt s node ending).steps.map Step.told ∧
      (walker.lastAt s node ending).context = Visit.contextBehind s.context visits ∧
      (walker.lastAt s node ending).state = Visit.stateBehind s.state visits := by
  intro visits
  have hvis : visits = [⟨node, walker.handledAt s node⟩] := replay_cons_of_found hk hf []
  rw [hvis]
  exact ⟨rfl, rfl, rfl⟩

/-- **The steps of a walk are the visits of its nodes, one after the other.** -/
theorem replay_walkFrom (hk : walker.graph.IsKeyed) (n : Nat) (s : Stand σ) :
    let visits := walker.handlers.replay ((walker.walkFrom n s).steps.map (·.node)) s.context s.state
    visits.map Visit.told = (walker.walkFrom n s).steps.map Step.told ∧
      (walker.walkFrom n s).context = Visit.contextBehind s.context visits ∧
      (walker.walkFrom n s).state = Visit.stateBehind s.state visits := by
  induction n, s using walkFrom_induction walker with
  | stops h =>
    cases h with
    | finished | capped | missing => exact ⟨rfl, rfl, rfl⟩
    | failed _ hf | raised _ hf | escaped _ hf => exact replay_lastAt hk hf
  | @completes n s node h ih =>
    obtain ⟨htold, hcontext, hstate⟩ := ih
    intro visits
    have hvis : visits = _ := replay_cons_of_found hk h.found
      ((walker.walkFrom n (walker.standBehind s node)).steps.map Step.node)
    rw [hvis, Visit.contextBehind_cons, Visit.stateBehind_cons]
    refine ⟨?_, hcontext, hstate⟩
    show _ :: _ = _ :: _
    rw [htold]
    rfl

/-- Every node of a walk is the one that its graph has under its id. -/
theorem node?_of_mem_walkFrom (hk : walker.graph.IsKeyed) (n : Nat) (s : Stand σ) :
    ∀ step ∈ (walker.walkFrom n s).steps, walker.graph.node? step.node.id = some step.node := by
  intro step hs
  obtain ⟨t, node, -, hf, rfl⟩ := exists_stepAt hs
  show walker.graph.node? node.id = some node
  rw [hk hf, hf]

variable (walker) in
theorem length_walkFrom_le (n : Nat) (s : Stand σ) : (walker.walkFrom n s).steps.length ≤ n := by
  induction n, s using walkFrom_induction walker with
  | stops h => cases h <;> simp [Walk.still, lastAt, Walk.cons]
  | completes h ih => simpa [Walk.cons] using ih

/-- A node completed and leads to another one. -/
def Leads (graph : Graph) (a b : Node × Verdict) : Prop :=
  ∃ data next, a.2 = .completed data next ∧ b.1.id = (graph.route a.1 data next).target

/-- **A walk begins at its stand, and each node leads to the next one.** -/
theorem isChain_walkFrom (hk : walker.graph.IsKeyed) (n : Nat) (s : Stand σ) :
    (∀ step ∈ (walker.walkFrom n s).steps.head?, step.node.id = s.pending) ∧
      ((walker.walkFrom n s).steps.map Step.told).IsChain (Leads walker.graph) := by
  induction n, s using walkFrom_induction walker with
  | stops h =>
    cases h with
    | finished | capped | missing => exact ⟨by simp [Walk.still], .nil⟩
    | failed _ hf | raised _ hf | escaped _ hf =>
      refine ⟨fun step hs => ?_, .singleton _⟩
      obtain rfl : _ = step := Option.some.inj hs
      exact hk hf
  | @completes n s node h ih =>
    obtain ⟨hhead, hchain⟩ := ih
    obtain ⟨data, next, hv⟩ := h.completed
    refine ⟨fun step hs => ?_, ?_⟩
    · obtain rfl : _ = step := Option.some.inj hs
      exact hk h.found
    · show List.IsChain _ (_ :: _)
      refine List.isChain_cons.mpr ⟨fun b hb => ?_, hchain⟩
      rw [List.head?_map, Option.mem_def, Option.map_eq_some_iff] at hb
      obtain ⟨step, hstep, rfl⟩ := hb
      refine ⟨data, next, hv, ?_⟩
      rw [Step.told, hhead step hstep]
      show (walker.routeFor node (walker.handledAt s node).verdict).target = _
      rw [hv]
      rfl

end Walker

end Chatflow
