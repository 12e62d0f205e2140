import Chatflow.Proofs.Walk.Replay

/-!
# Where the steps of a run stand

A run under a smaller cap goes through the first nodes of a longer one.  So what a run had done when it came to a node
is what the run leaves that is cut right before it, and what it had done behind the node is what the run leaves that
is cut one node later.  `run_between` ties each step of a run to these two (`Step.Between`); later modules tell from
it what a step adds to the messages, the variables, and what was asked.
-/

namespace Chatflow

variable {σ : Type}

/-- Whether the node of a step was completed. -/
def Step.isCompleted (step : Step) : Bool :=
  match step.verdict with
  | .completed _ _ => true
  | _ => false

theorem Step.isCompleted_iff {step : Step} :
    step.isCompleted = true ↔ ∃ data next, step.verdict = .completed data next := by
  unfold isCompleted
  cases step.verdict <;> simp

/-- A step between two walks: it is a visit of the last node of a list with its id, on the context and the state that
the first walk left, and what it left is what the second walk left. -/
structure Step.Between (nodes : List Node) (handlers : Handlers σ) (earlier later : Walk σ) (step : Step) : Prop where
  found : Lists.node? nodes step.node.id = some step.node
  before : step.before = earlier.context.at step.node.id
  verdict : step.verdict = (handlers.visit step.node step.before earlier.state).verdict
  context : later.context = (handlers.visit step.node step.before earlier.state).settled
  state : later.state = (handlers.visit step.node step.before earlier.state).state

namespace Walker

/-! ## Walks -/

section Walks

variable {walker : Walker σ}

/-- A walk through just one node leaves what handling the node gives. -/
theorem walkFrom_one {s : Stand σ} {node : Node} (hp : s.pending ≠ "")
    (hf : walker.graph.node? s.pending = some node) :
    (walker.walkFrom 1 s).context = (walker.handledAt s node).settled ∧
      (walker.walkFrom 1 s).state = (walker.handledAt s node).state := by
  rcases stops_or_completes walker 1 s with ⟨last, hs⟩ | ⟨n, other, hn, hc⟩
  · rw [walkFrom_of_stops hs]
    cases hs with
    | finished hnowhere => exact absurd hnowhere hp
    | missing _ habsent => cases hf.symm.trans habsent
    | failed _ hfound | raised _ hfound | escaped _ hfound =>
      obtain rfl := Option.some.inj (hf.symm.trans hfound)
      exact ⟨rfl, rfl⟩
  · obtain rfl := Option.some.inj (hf.symm.trans hc.found)
    rw [walkFrom_of_completes hc 0]
    exact ⟨rfl, rfl⟩

/-- What stops a walk takes no step, or is a walk through just one node. -/
theorem Stops.still_or_one {n : Nat} {s : Stand σ} {last : Walk σ} (h : walker.Stops n s last) :
    (last.steps = [] ∧ last.context = s.context ∧ last.state = s.state) ∨
      ∃ node, s.pending ≠ "" ∧ walker.graph.node? s.pending = some node ∧
        last.steps = [walker.stepAt s node] ∧ walker.walkFrom 1 s = last := by
  cases h with
  | finished | capped | missing => exact Or.inl ⟨rfl, rfl, rfl⟩
  | failed hp hf hv => exact Or.inr ⟨_, hp, hf, rfl, walkFrom_of_stops (.failed hp hf hv)⟩
  | raised hp hf hv hkept => exact Or.inr ⟨_, hp, hf, rfl, walkFrom_of_stops (.raised hp hf hv hkept)⟩
  | escaped hp hf hescape => exact Or.inr ⟨_, hp, hf, rfl, walkFrom_of_stops (.escaped hp hf hescape)⟩

end Walks

variable {nodes : List Node} {connections : List Connection} {handlers : Handlers σ}

/-- The step of the node at a stand. -/
theorem between_stepAt {s : Stand σ} {node : Node} (hp : s.pending ≠ "")
    (hf : (ofLists nodes connections handlers).graph.node? s.pending = some node) :
    ((ofLists nodes connections handlers).stepAt s node).Between nodes handlers
      ((ofLists nodes connections handlers).walkFrom 0 s) ((ofLists nodes connections handlers).walkFrom 1 s) := by
  have hid : node.id = s.pending := isKeyed_ofLists nodes connections handlers hf
  have hstart : (ofLists nodes connections handlers).walkFrom 0 s = .still _ s.context s.state := rfl
  obtain ⟨hcontext, hstate⟩ := walkFrom_one hp hf
  refine ⟨?_, ?_, rfl, hcontext, hstate⟩
  · rw [graph_ofLists, Graph.node?_ofLists, ← hid] at hf
    exact hf
  · show s.context.at s.pending = s.context.at node.id
    rw [hid]

/-- Each step of a walk stands between the walks that are allowed the nodes before it, and one more. -/
theorem walkFrom_between {n i : Nat} {s : Stand σ} {step : Step}
    (h : ((ofLists nodes connections handlers).walkFrom n s).steps[i]? = some step) :
    step.Between nodes handlers ((ofLists nodes connections handlers).walkFrom i s)
      ((ofLists nodes connections handlers).walkFrom (i + 1) s) := by
  induction i generalizing n s with
  | zero =>
    rcases stops_or_completes (ofLists nodes connections handlers) n s with ⟨last, hs⟩ | ⟨k, node, rfl, hc⟩
    · rw [walkFrom_of_stops hs] at h
      rcases hs.still_or_one with ⟨hsteps, -⟩ | ⟨node, hp, hf, hsteps, -⟩
      · rw [hsteps] at h
        cases h
      · rw [hsteps] at h
        obtain rfl := Option.some.inj h
        exact between_stepAt hp hf
    · rw [walkFrom_of_completes hc] at h
      obtain rfl := Option.some.inj h
      exact between_stepAt hc.pending hc.found
  | succ i ih =>
    rcases stops_or_completes (ofLists nodes connections handlers) n s with ⟨last, hs⟩ | ⟨k, node, rfl, hc⟩
    · -- What stops a walk takes one step at most.
      rw [walkFrom_of_stops hs, List.getElem?_eq_none (Nat.le_add_left_of_le hs.length_le)] at h
      cases h
    · rw [walkFrom_of_completes hc] at h
      obtain ⟨hfound, hbefore, hverdict, hcontext, hstate⟩ := ih h
      rw [walkFrom_of_completes hc, walkFrom_of_completes hc]
      exact ⟨hfound, hbefore, hverdict, hcontext, hstate⟩

/-- The nodes of a walk are nodes of the list. -/
theorem mem_of_mem_steps {n : Nat} {s : Stand σ} {step : Step}
    (h : step ∈ ((ofLists nodes connections handlers).walkFrom n s).steps) : step.node ∈ nodes := by
  obtain ⟨i, hi⟩ := List.mem_iff_getElem?.mp h
  exact (Lists.id_of_node? (walkFrom_between hi).found).1

/-! ## Runs -/

variable (executionId : String) (workflow : Option String) (cap : Int) (trace : Trace) (start : String)
  (context : Context) (state : σ)

/-- **Each step of a run stands between the runs that are cut right before it and right behind it.** -/
theorem run_between {i : Nat} {step : Step}
    (h : ((ofLists nodes connections handlers).run ⟨executionId, workflow, .int cap⟩ trace start context
      state).walk.steps[i]? = some step) :
    let run (cap : Int) := (ofLists nodes connections handlers).run ⟨executionId, workflow, .int cap⟩ trace start context
      state
    step.Between nodes handlers (run i).walk (run (i + 1)).walk := by
  intro run
  have hstep :
      ((ofLists nodes connections handlers).walkFrom cap.toNat ⟨start, context, state⟩).steps[i]? = some step := by
    obtain ⟨hwalk, -⟩ := (ofLists nodes connections handlers).run_int executionId workflow cap trace start context state
    rwa [hwalk, Walk.steps_under] at h
  have hwalk : ∀ n : Nat, (run n).walk = (ofLists nodes connections handlers).walkFrom n ⟨start, context, state⟩ :=
    fun n => ((ofLists nodes connections handlers).run_natCast executionId workflow n trace start context state).1
  show step.Between nodes handlers (run i).walk (run (i + 1 : Nat)).walk
  rw [hwalk, hwalk]
  exact walkFrom_between hstep

end Walker

end Chatflow
