import Chatflow.Proofs.Walk.Replay

/-!
# Which nodes a run goes through

The path of a run, told by the two lists of its workflow and by what its handlers gave, without the graph:

* `run_replay`: a run does what the replay of the nodes on its path does.
* `run_follows_lists`: where the path begins, how long it gets, and which connection leads from each node to the next.
-/

namespace Chatflow

variable {σ : Type} (nodes : List Node) (connections : List Connection) (handlers : Handlers σ)

namespace Walker

/-- The nodes handled are those that the list has last under the ids of the path. -/
theorem path_filterMap_node? (n : Nat) (s : Stand σ) :
    ((ofLists nodes connections handlers).walkFrom n s).path.filterMap (Lists.node? nodes) =
      ((ofLists nodes connections handlers).walkFrom n s).steps.map (·.node) := by
  rw [Walk.path, List.filterMap_map, ← List.filterMap_eq_map]
  refine List.filterMap_congr fun step hs => ?_
  have hf := node?_of_mem_walkFrom (isKeyed_ofLists nodes connections handlers) n s step hs
  rwa [graph_ofLists, Graph.node?_ofLists] at hf

variable (executionId : String) (workflow : Option String) (cap : Int) (trace : Trace) (start : String)
  (context : Context) (state : σ)

/-- A run does what the replay of the nodes on its path does, and leaves the context and the state behind it. -/
theorem run_replay :
    let run := (ofLists nodes connections handlers).run ⟨executionId, workflow, .int cap⟩ trace start
      context state
    let visits := handlers.replay (run.report.path.filterMap (Lists.node? nodes)) context state
    run.report.path = visits.map (·.node.id) ∧
      run.walk.steps.map Step.told = visits.map Visit.told ∧
      run.walk.context = Visit.contextBehind context visits ∧
      run.walk.state = Visit.stateBehind state visits := by
  intro run visits
  obtain ⟨hwalk, hreport, -⟩ := (ofLists nodes connections handlers).run_int executionId workflow cap trace
    start context state
  have hnodes : run.report.path.filterMap (Lists.node? nodes) = run.walk.steps.map (·.node) := by
    rw [hreport, hwalk, Walk.steps_under]
    exact (congrArg _ (Walk.path_under _ _)).trans (path_filterMap_node? nodes connections handlers cap.toNat _)
  have hpath : run.report.path = run.walk.steps.map (·.node.id) := by
    rw [hreport, hwalk]
    rfl
  have hreplay := replay_walkFrom (isKeyed_ofLists nodes connections handlers) cap.toNat
    ⟨start, context, state⟩
  rw [← Walk.steps_under _ (.ofInt cap), ← Walk.context_under _ (.ofInt cap), ← Walk.state_under _ (.ofInt cap),
    ← hwalk] at hreplay
  have hvisits : visits = handlers.replay (run.walk.steps.map (·.node)) context state := by
    show handlers.replay (run.report.path.filterMap (Lists.node? nodes)) context state = _
    rw [hnodes]
  rw [hvisits]
  refine ⟨?_, hreplay.1.symm, hreplay.2⟩
  have h := congrArg (List.map (·.id)) (handlers.replay_nodes (run.walk.steps.map (·.node)) context state)
  rw [List.map_map, List.map_map] at h
  exact hpath.trans h.symm

/-- **A run goes through the nodes that the lists say.**  Its path begins at the start; the nodes handled are the last
ones with the ids on the path; there are no more of them than the cap; and each one before the last completed, and led
to the next by the id that it asked for, else by the connection that the list of connections offers. -/
theorem run_follows_lists :
    let run := (ofLists nodes connections handlers).run ⟨executionId, workflow, .int cap⟩ trace start
      context state
    let path := run.report.path
    let visits := handlers.replay (path.filterMap (Lists.node? nodes)) context state
    (∀ id ∈ path.head?, id = start) ∧
      path = visits.map (·.node.id) ∧
      (∀ visit ∈ visits, Lists.node? nodes visit.node.id = some visit.node) ∧
      run.walk.steps.map Step.told = visits.map Visit.told ∧
      (path.length : Int) ≤ max cap 0 ∧
      ∀ (i : Nat) (a b : Visit σ), visits[i]? = some a → visits[i + 1]? = some b →
        ∃ data next, a.handled.verdict = .completed data next ∧
          b.node.id = Lists.successor connections a.node data next := by
  intro run path visits
  have hk := isKeyed_ofLists nodes connections handlers
  obtain ⟨hwalk, hreport, -⟩ := (ofLists nodes connections handlers).run_int executionId workflow cap trace
    start context state
  obtain ⟨hpath, htold, -, -⟩ := run_replay nodes connections handlers executionId workflow cap trace start
    context state
  obtain ⟨hhead, hchain⟩ := isChain_walkFrom hk cap.toNat ⟨start, context, state⟩
  have hsteps : run.walk.steps = _ := (congrArg Walk.steps hwalk).trans (Walk.steps_under _ _)
  have hpath' : path = run.walk.steps.map (·.node.id) := by
    show run.report.path = _
    rw [hreport, hwalk]
    rfl
  refine ⟨?_, hpath, ?_, htold, ?_, ?_⟩
  · intro id hid
    rw [hpath', List.head?_map, Option.mem_def, Option.map_eq_some_iff] at hid
    obtain ⟨step, hstep, rfl⟩ := hid
    rw [hsteps] at hstep
    exact hhead step hstep
  · intro visit hv
    have hm : visit.told ∈ run.walk.steps.map Step.told := htold ▸ List.mem_map_of_mem hv
    obtain ⟨step, hstep, heq⟩ := List.mem_map.mp hm
    rw [hsteps] at hstep
    have hf := node?_of_mem_walkFrom hk cap.toNat _ step hstep
    rw [graph_ofLists, Graph.node?_ofLists] at hf
    have hnode : step.node = visit.node := congrArg Prod.fst heq
    rwa [← hnode]
  · have hlen := length_walkFrom_le (ofLists nodes connections handlers) cap.toNat ⟨start, context, state⟩
    rw [hpath', List.length_map, hsteps]
    omega
  · intro i a b ha hb
    rw [← hsteps, htold, List.isChain_map, List.isChain_iff_getElem] at hchain
    obtain ⟨hi, rfl⟩ := List.getElem?_eq_some_iff.mp ha
    obtain ⟨hi', rfl⟩ := List.getElem?_eq_some_iff.mp hb
    obtain ⟨data, next, hv, hid⟩ := hchain i hi'
    refine ⟨data, next, hv, ?_⟩
    rw [graph_ofLists, Graph.target_route_ofLists] at hid
    exact hid

end Walker

end Chatflow
