import Mathlib.Logic.Relation
import Chatflow.Proofs.Handler.Completion
import Chatflow.Proofs.Walk.Between
import Chatflow.Proofs.Walk.Verdict

/-!
# Walks that follow the connections

Where no handler says where to go on (`Handlers.Hintless`), as none of the standard ones does, a walk goes along the
connections of its list only:

* `connection_of_mem_walkFrom`: each completed node took the connection that the list offers (`Lists.choice`), unless
  something escaped there.
* `isChain_connected`: each id on a path is connected with the next one.
* `pending_walkFrom`: the id that is left to go to is the start, or the target of the last node's connection.
-/

namespace Chatflow

variable {σ : Type}

/-- No handler gives a hint where to go on: a completed node asks for no other one, or for the empty id. -/
def Handlers.Hintless (handlers : Handlers σ) : Prop :=
  ∀ node context state data next,
    (handlers.visit node context state).verdict = .completed data next → next.getD "" = ""

/-- The standard handlers give no hints, whatever the provider and the network do. -/
theorem Tools.hintless_handlers (tools : Tools) : tools.handlers.Hintless := by
  intro node context services data next h
  rcases visit_cases tools node context services with ⟨fields, hfields, -⟩ | ⟨hrefuses, -⟩
  · rw [hfields] at h
    cases h
    rfl
  · exact absurd h hrefuses.ne_completed

namespace Lists

/-- One connection of a list leads from an id to another. -/
def Connected (connections : List Connection) (a b : String) : Prop :=
  ∃ c ∈ connections, c.source = a ∧ c.target = b

theorem successor_of_unasked {next : Option String} (h : next.getD "" = "") (connections : List Connection)
    (node : Node) (data : Option Fields) :
    successor connections node data next = ((choice connections node data).map (·.target)).getD "" :=
  if_neg (not_not.mpr h)

/-- A node that leads somewhere of its own accord is connected with the place. -/
theorem connected_of_successor {connections : List Connection} {node : Node} {data : Option Fields}
    {next : Option String} (hnext : next.getD "" = "") (h : successor connections node data next ≠ "") :
    Connected connections node.id (successor connections node data next) := by
  rw [successor_of_unasked hnext] at h ⊢
  cases hc : choice connections node data with
  | none =>
    rw [hc] at h
    exact absurd rfl h
  | some c =>
    obtain ⟨hmem, hsource⟩ := mem_of_choice hc
    exact ⟨c, hmem, hsource, rfl⟩

/-- What is left to go to behind a row of nodes: the start when there are none, else the successor of the last one,
which completed. -/
theorem pending_eq_some_iff {connections : List Connection} {start id : String} {told : List (Node × Verdict)} :
    pending connections start told = some id ↔
      (told = [] ∧ id = start) ∨
        ∃ node data next, told.getLast? = some (node, .completed data next) ∧
          id = successor connections node data next := by
  unfold pending
  cases hlast : told.getLast? with
  | none =>
    rw [List.getLast?_eq_none_iff] at hlast
    simp [hlast, eq_comm]
  | some last =>
    have hne : told ≠ [] := fun hnil => by simp [hnil] at hlast
    obtain ⟨node, verdict⟩ := last
    cases verdict <;> simp [hne, eq_comm]

end Lists

namespace Walker

/-! ## The steps of a walk -/

section Steps

variable {walker : Walker σ}

/-- The route of a step is the one that its verdict leads along, unless something escapes. -/
theorem route_of_mem_walkFrom {n : Nat} {s : Stand σ} {step : Step} (h : step ∈ (walker.walkFrom n s).steps) :
    step.route = if step.escape.isSome then .nowhere else walker.routeFor step.node step.verdict := by
  obtain ⟨t, node, -, -, rfl⟩ := exists_stepAt h
  rfl

/-- A walk from which nothing escapes has no step from which something does. -/
theorem escape_of_mem_walkFrom {n : Nat} {s : Stand σ} (hkept : (walker.walkFrom n s).ending.escape? = none) :
    ∀ step ∈ (walker.walkFrom n s).steps, step.escape = none := by
  induction n, s using walkFrom_induction walker with
  | stops hs =>
    cases hs with
    | finished | capped | missing => exact fun _ h => absurd h List.not_mem_nil
    | failed _ _ hv => exact List.forall_mem_singleton.mpr (escapeAt_of_failed walker hv)
    | raised _ _ _ hnone => exact List.forall_mem_singleton.mpr hnone
    | escaped => cases hkept
  | completes hc ih => exact List.forall_mem_cons.mpr ⟨hc.kept, ih hkept⟩

/-- What escapes from a walk is what escapes at its last step. -/
theorem escape_ending (n : Nat) (s : Stand σ) :
    (walker.walkFrom n s).ending.escape? = (walker.walkFrom n s).steps.getLast?.bind (·.escape) := by
  induction n, s using walkFrom_induction walker with
  | stops hs =>
    cases hs with
    | finished | capped | missing => rfl
    | failed _ _ hv => exact (escapeAt_of_failed walker hv).symm
    | raised _ _ _ hescape | escaped _ _ hescape => exact hescape.symm
  | @completes n s node hc ih =>
    refine ih.trans ?_
    rw [Walk.cons, List.getLast?_cons]
    cases (walker.walkFrom n (walker.standBehind s node)).steps.getLast? with
    | none => exact hc.kept.symm
    | some last => rfl

/-- No walk handles a node with an empty id. -/
theorem id_ne_empty_of_mem_walkFrom (hk : walker.graph.IsKeyed) {n : Nat} {s : Stand σ} {step : Step}
    (h : step ∈ (walker.walkFrom n s).steps) : step.node.id ≠ "" := by
  obtain ⟨t, node, hp, hf, rfl⟩ := exists_stepAt h
  exact fun hid => hp ((hk hf).symm.trans hid)

end Steps

variable {nodes : List Node} {connections : List Connection} {handlers : Handlers σ} (hhints : handlers.Hintless)
include hhints

theorem unasked_of_mem_walkFrom {n : Nat} {s : Stand σ} {step : Step} {data : Option Fields} {next : Option String}
    (h : step ∈ ((ofLists nodes connections handlers).walkFrom n s).steps)
    (hv : step.verdict = .completed data next) : next.getD "" = "" := by
  obtain ⟨i, hi⟩ := List.mem_iff_getElem?.mp h
  exact hhints _ _ _ data next ((walkFrom_between hi).verdict.symm.trans hv)

/-- **A completed node of a walk takes the connection that the list offers**, unless something escapes there. -/
theorem connection_of_mem_walkFrom {n : Nat} {s : Stand σ} {step : Step} {data : Option Fields}
    {next : Option String} (h : step ∈ ((ofLists nodes connections handlers).walkFrom n s).steps)
    (hv : step.verdict = .completed data next) (hkept : step.escape = none) :
    step.route.connection? = Lists.choice connections step.node data := by
  have hunasked : (Graph.ofLists nodes connections).route step.node data next =
      Graph.route.unasked (Graph.ofLists nodes connections) step.node data := by
    have hnext := unasked_of_mem_walkFrom hhints h hv
    cases next with
    | none => rfl
    | some id => exact if_pos (String.isEmpty_iff.mpr hnext)
  rw [route_of_mem_walkFrom h, hkept, hv]
  show ((Graph.ofLists nodes connections).route step.node data next).connection? = _
  rw [hunasked]
  exact Graph.connection?_unasked _ connections step.node data
    (Graph.outgoingOf_ofLists nodes connections step.node.id)

/-! ## Paths -/

/-- **Each id on the path of a walk is connected with the next one.** -/
theorem isChain_connected (n : Nat) (s : Stand σ) :
    ((ofLists nodes connections handlers).walkFrom n s).path.IsChain (Lists.Connected connections) := by
  have hk := isKeyed_ofLists nodes connections handlers
  obtain ⟨-, hchain⟩ := isChain_walkFrom hk n s
  rw [List.isChain_map, List.isChain_iff_getElem] at hchain
  rw [Walk.path, List.isChain_map, List.isChain_iff_getElem]
  intro i hi
  obtain ⟨data, next, hv, hid⟩ := hchain i hi
  have hnext := unasked_of_mem_walkFrom hhints (List.getElem_mem (Nat.lt_of_succ_lt hi)) hv
  rw [graph_ofLists, Graph.target_route_ofLists] at hid
  have hne := id_ne_empty_of_mem_walkFrom hk (List.getElem_mem hi)
  have hconnected := Lists.connected_of_successor hnext (hid ▸ hne)
  rwa [← hid] at hconnected

/-- **What is left to go to behind a walk** from which nothing escapes: its start when it took no step, else the target
of the connection that the last node took, or nothing when none leaves it. -/
theorem pending_walkFrom {n : Nat} {s : Stand σ} {id : String}
    (hkept : ((ofLists nodes connections handlers).walkFrom n s).ending.escape? = none)
    (h : Lists.pending connections s.pending
      (((ofLists nodes connections handlers).walkFrom n s).steps.map Step.told) = some id) :
    let walk := (ofLists nodes connections handlers).walkFrom n s
    (walk.steps = [] ∧ id = s.pending) ∨
      ∃ step data next, walk.steps.getLast? = some step ∧ step.verdict = .completed data next ∧
        step.route.connection? = Lists.choice connections step.node data ∧
        id = ((Lists.choice connections step.node data).map (·.target)).getD "" := by
  intro walk
  rcases Lists.pending_eq_some_iff.mp h with ⟨hnil, hid⟩ | ⟨node, data, next, hlast, hid⟩
  · exact Or.inl ⟨List.map_eq_nil_iff.mp hnil, hid⟩
  · rw [List.getLast?_map, Option.map_eq_some_iff] at hlast
    obtain ⟨step, hstep, htold⟩ := hlast
    obtain ⟨rfl, hv⟩ := Prod.mk.inj htold
    have hmem := List.mem_of_getLast? hstep
    have hroute := connection_of_mem_walkFrom hhints hmem hv (escape_of_mem_walkFrom hkept step hmem)
    refine Or.inr ⟨step, data, next, hstep, hv, hroute, ?_⟩
    rw [hid, Lists.successor_of_unasked (unasked_of_mem_walkFrom hhints hmem hv)]

end Walker

/-! ## A graph to walk through -/

/-- A trigger and an output. -/
def twoNodes : List Node :=
  [{ id := "t", kind := .trigger, data := [("triggerType", .text "manual")] },
    { id := "o", kind := .output, data := [("outputType", .text "message"), ("content", .text "hi")] }]

/-- The connection between them, and one that leads on from the output. -/
def leadingTo (id : String) : List Connection :=
  [{ id := "1", source := "t", target := "o" }, { id := "2", source := "o", target := id }]

end Chatflow
