import Chatflow.Proofs.Walk.Following

/-!
# Where runs leave the graph

A run leaves its graph behind a node that completes: along a connection to an id that is no node, or for want of a
connection.

* `run_missing_dangles`: a run from a node ends for want of a node only behind a connection that the graph lists as
  dangling.
* `run_ranOff_iff`: a run without a fault that counts as completed has run off the end of the graph, unless an empty id
  came up, which a walk takes for none.
-/

namespace Chatflow

variable {σ : Type}

/-- The last node of a walk completed, and no connection of a list leaves it. -/
def Walk.RanOff (walk : Walk σ) (connections : List Connection) : Prop :=
  ∃ step data next, walk.steps.getLast? = some step ∧ step.verdict = .completed data next ∧
    ∀ c ∈ connections, c.source ≠ step.node.id

theorem Report.isCompleted_iff {walk : Walk σ} {executionId : String} (h : walk.ending.escape? = none) :
    (walk.report executionId).isCompleted = true ↔ walk.ending = .finished := by
  rw [Report.isCompleted, beq_iff_eq]
  exact Ending.name_eq_finished h

namespace Walker

variable {nodes : List Node} {connections : List Connection} {handlers : Handlers σ}

/-! ## Walks -/

/-- Nothing escapes from a walk at a completed node that no connection leaves. -/
theorem escape_of_leaves {n : Nat} {s : Stand σ} {step : Step} {data : Option Fields} {next : Option String}
    (h : step ∈ ((ofLists nodes connections handlers).walkFrom n s).steps) (hv : step.verdict = .completed data next)
    (hleaves : ∀ c ∈ connections, c.source ≠ step.node.id) : step.escape = none := by
  have hasks : (Graph.ofLists nodes connections).asksBranch step.node data next = false := by
    have hany : connections.any (·.source == step.node.id) = false := by simpa using hleaves
    rw [Graph.asksBranch_ofLists, Lists.asksBranch, hany, Bool.and_false, Bool.false_and]
  obtain ⟨t, node, -, -, rfl⟩ := exists_stepAt h
  have hverdict : ((ofLists nodes connections handlers).handledAt t node).verdict = .completed data next := hv
  show Graph.escape (Graph.ofLists nodes connections) node _ = none
  rw [Graph.escape, hverdict]
  exact if_neg (Bool.eq_false_iff.mp hasks)

section Walks

variable (hhints : handlers.Hintless) {cap : Int} {s : Stand σ}
include hhints

/-- A walk from a node misses one only behind the connection that its last node took, which dangles. -/
theorem dangling_of_missing (hstart : s.pending ∈ nodes.map (·.id)) {id : String}
    (hending : ((ofLists nodes connections handlers).walkFrom cap.toNat s).ending = .missing id) :
    ∃ step data next c, ((ofLists nodes connections handlers).walkFrom cap.toNat s).steps.getLast? = some step ∧
      step.verdict = .completed data next ∧ step.route.connection? = some c ∧
      Lists.choice connections step.node data = some c ∧
      c ∈ (ofLists nodes connections handlers).graph.dangling ∧ c.target = id := by
  have hdue : (Ending.missing id).Due nodes connections s.pending cap _ :=
    (due_iff_ending nodes connections handlers cap s _ (hending ▸ rfl)).mpr hending.symm
  obtain ⟨hpending, hne, -, habsent⟩ := hdue
  rw [Lists.node?_eq_none_iff] at habsent
  rcases pending_walkFrom hhints (hending ▸ rfl) hpending with
    ⟨-, hid⟩ | ⟨step, data, next, hlast, hv, hroute, hid⟩
  · -- The start is a node, so it was not missed.
    obtain ⟨node, hnode, hnodeId⟩ := List.mem_map.mp hstart
    exact absurd (hnodeId.trans hid.symm) (habsent node hnode)
  · cases hc : Lists.choice connections step.node data with
    | none =>
      rw [hc] at hid
      exact absurd hid hne
    | some c =>
      rw [hc] at hid hroute
      obtain rfl : id = c.target := hid
      have hdangles := (Graph.mem_dangling_ofLists nodes connections c).mpr ⟨(Lists.mem_of_choice hc).1, Or.inr habsent⟩
      exact ⟨step, data, next, c, hlast, hv, hroute, hc, hdangles, rfl⟩

/-- A walk that has run off comes to its end. -/
theorem finished_of_ranOff (h : ((ofLists nodes connections handlers).walkFrom cap.toNat s).RanOff connections) :
    ((ofLists nodes connections handlers).walkFrom cap.toNat s).ending = .finished := by
  obtain ⟨step, data, next, hlast, hv, hleaves⟩ := h
  have hkept : ((ofLists nodes connections handlers).walkFrom cap.toNat s).ending.escape? = none := by
    rw [escape_ending, hlast]
    exact escape_of_leaves (List.mem_of_getLast? hlast) hv hleaves
  have hnext := unasked_of_mem_walkFrom hhints (List.mem_of_getLast? hlast) hv
  have hnowhere : Lists.successor connections step.node data next = "" := by
    rw [Lists.successor_of_unasked hnext, Lists.choice_eq_none_iff.mpr hleaves]
    rfl
  refine ((due_iff_ending nodes connections handlers cap s .finished hkept).mp ?_).symm
  refine Lists.pending_eq_some_iff.mpr (Or.inr ⟨step.node, data, next, ?_, hnowhere.symm⟩)
  rw [List.getLast?_map, hlast, ← hv]
  rfl

/-- **A walk has run off just when it came to its end without an empty id**: neither its start nor the target of the
connection that its last node took is empty. -/
theorem ranOff_iff :
    ((ofLists nodes connections handlers).walkFrom cap.toNat s).RanOff connections ↔
      ((ofLists nodes connections handlers).walkFrom cap.toNat s).ending = .finished ∧ s.pending ≠ "" ∧
        ∀ step ∈ ((ofLists nodes connections handlers).walkFrom cap.toNat s).steps.getLast?,
          ∀ c ∈ step.route.connection?, c.target ≠ "" := by
  constructor
  · intro h
    refine ⟨finished_of_ranOff hhints h, ?_, ?_⟩
    all_goals obtain ⟨last, data, next, hlast, hv, hleaves⟩ := h
    · intro hempty
      rw [walkFrom_of_stops (.finished hempty)] at hlast
      cases hlast
    · intro step hstep c hc
      obtain rfl := Option.some.inj (hlast.symm.trans hstep)
      have hkept := escape_of_leaves (List.mem_of_getLast? hlast) hv hleaves
      rw [connection_of_mem_walkFrom hhints (List.mem_of_getLast? hlast) hv hkept,
        Lists.choice_eq_none_iff.mpr hleaves] at hc
      cases hc
  · rintro ⟨hending, hstart, htargets⟩
    have hpending : Ending.finished.Due nodes connections s.pending cap _ :=
      (due_iff_ending nodes connections handlers cap s _ (hending ▸ rfl)).mpr hending.symm
    rcases pending_walkFrom hhints (hending ▸ rfl) hpending with
      ⟨-, hid⟩ | ⟨step, data, next, hlast, hv, hroute, hid⟩
    · exact absurd hid.symm hstart
    · cases hc : Lists.choice connections step.node data with
      | none => exact ⟨step, data, next, hlast, hv, Lists.choice_eq_none_iff.mp hc⟩
      | some c =>
        rw [hc] at hid hroute
        exact absurd hid.symm (htargets step hlast c hroute)

end Walks

/-! ## Runs -/

/-- **A missing node is announced by a dangling connection.**  Where no handler gives hints, a run from a node of the
graph does not end for want of a node when no connection dangles.  When it does end so, the last node on its path
completed, and the connection that was chosen behind it is among the dangling ones and names the missing node. -/
theorem run_missing_dangles (hhints : handlers.Hintless) (nodes : List Node) (connections : List Connection)
    (executionId : String) (workflow : Option String) (cap : Int) (trace : Trace) (start : String) (context : Context)
    (state : σ) (hstart : start ∈ nodes.map (·.id)) :
    let walker := ofLists nodes connections handlers
    let run := walker.run ⟨executionId, workflow, .int cap⟩ trace start context state
    (walker.graph.dangling = [] → run.report.ending ≠ "missing_node") ∧
    (run.report.ending = "missing_node" →
      ∃ step data next c, run.walk.steps.getLast? = some step ∧ run.report.path.getLast? = some step.node.id ∧
        step.verdict = .completed data next ∧ step.route.connection? = some c ∧
        Lists.choice connections step.node data = some c ∧ c ∈ walker.graph.dangling ∧
        run.report.error = some ("Node " ++ c.target ++ " not found")) := by
  intro walker run
  -- A run that misses a node is not left by a fault, so it is just its walk.
  have hrun : run.report.ending = "missing_node" → run.walk = walker.walkFrom cap.toNat ⟨start, context, state⟩ ∧
      run.report = (walker.walkFrom cap.toNat ⟨start, context, state⟩).report executionId := by
    intro hends
    obtain ⟨-, hreport, hfault⟩ := walker.run_int executionId workflow cap trace start context state
    obtain ⟨id, hending⟩ := Ending.name_eq_missing.mp ((congrArg Report.ending hreport).symm.trans hends)
    rw [hending] at hfault
    obtain ⟨hwalk, hreport, -⟩ := walker.run_of_kept hfault
    exact ⟨hwalk, hreport⟩
  constructor
  · intro hnone hends
    obtain ⟨-, hreport⟩ := hrun hends
    obtain ⟨id, hending⟩ := Ending.name_eq_missing.mp ((congrArg Report.ending hreport).symm.trans hends)
    obtain ⟨-, -, -, c, -, -, -, -, hdangles, -⟩ := dangling_of_missing hhints hstart hending
    have hempty : c ∈ ([] : List Connection) := hnone ▸ hdangles
    cases hempty
  · intro hends
    obtain ⟨hwalk, hreport⟩ := hrun hends
    obtain ⟨id, hending⟩ := Ending.name_eq_missing.mp ((congrArg Report.ending hreport).symm.trans hends)
    rw [hwalk, hreport]
    obtain ⟨step, data, next, c, hlast, hv, hroute, hc, hdangles, rfl⟩ := dangling_of_missing hhints hstart hending
    refine ⟨step, data, next, c, hlast, ?_, hv, hroute, hc, hdangles, congrArg Ending.error hending⟩
    exact List.getLast?_map.trans (congrArg (Option.map _) hlast)

/-- Behind the output a connection leads out of the graph, and the graph lists it. -/
theorem run_missing_dangles_leading :
    let tools : Tools := .idle
    let walker := ofLists twoNodes (leadingTo "gone") tools.handlers
    let run := walker.run ⟨"x", none, .int 3⟩ [] "t" { user := .number 1 } {}
    tools.handlers.Hintless ∧ "t" ∈ twoNodes.map (·.id) ∧ run.report.ending = "missing_node" ∧
      ∃ step c, run.walk.steps.getLast? = some step ∧ step.node.id = "o" ∧ step.route.connection? = some c ∧
        c ∈ walker.graph.dangling ∧ run.report.error = some ("Node " ++ c.target ++ " not found") := by
  intro tools walker run
  have hhints := tools.hintless_handlers
  have hstart : "t" ∈ twoNodes.map (·.id) := by decide
  have hends : run.report.ending = "missing_node" := rfl
  obtain ⟨step, data, next, c, hlast, -, -, hroute, -, hdangles, herror⟩ :=
    (run_missing_dangles hhints twoNodes (leadingTo "gone") "x" none 3 [] "t" { user := .number 1 } {} hstart).2 hends
  obtain rfl := Option.some.inj hlast
  exact ⟨hhints, hstart, hends, _, c, hlast, rfl, hroute, hdangles, herror⟩

/-- **A completed run has run off the end of the graph, but for empty ids.**  Where no handler gives hints, a run has
run off, its last node completed and no connection leaving it, exactly when it has no fault, it is reported as completed,
its start is not empty, and neither is the target of the connection that its last node took.  So where no connection
names the empty id, a run from another id without a fault is reported as completed exactly when it has run off. -/
theorem run_ranOff_iff (hhints : handlers.Hintless) (nodes : List Node) (connections : List Connection)
    (executionId : String) (workflow : Option String) (cap : Int) (trace : Trace) (start : String) (context : Context)
    (state : σ) :
    let run := (ofLists nodes connections handlers).run ⟨executionId, workflow, .int cap⟩ trace start context state
    (run.walk.RanOff connections ↔ run.fault = none ∧ run.report.isCompleted = true ∧ start ≠ "" ∧
      ∀ step ∈ run.walk.steps.getLast?, ∀ c ∈ step.route.connection?, c.target ≠ "") ∧
    (run.fault = none → start ≠ "" → (∀ c ∈ connections, c.target ≠ "") →
      (run.report.isCompleted = true ↔ run.walk.RanOff connections)) := by
  intro run
  -- A run that has run off is not left by a fault.
  have hran : run.walk.RanOff connections → run.fault = none := by
    obtain ⟨hwalk, -, hfault⟩ :=
      (ofLists nodes connections handlers).run_int executionId workflow cap trace start context state
    rw [show run.walk = _ from hwalk, show run.fault = _ from hfault]
    rintro ⟨step, data, next, hlast, hv, hleaves⟩
    rw [Walk.steps_under] at hlast
    have hending : ((ofLists nodes connections handlers).walkFrom cap.toNat ⟨start, context, state⟩).ending = .finished :=
      finished_of_ranOff hhints ⟨step, data, next, hlast, hv, hleaves⟩
    rw [Walk.under_of_ne (by rw [hending]; nofun), hending]
    rfl
  have hrun : run.fault = none → (run.walk.RanOff connections ↔ run.report.isCompleted = true ∧ start ≠ "" ∧
      ∀ step ∈ run.walk.steps.getLast?, ∀ c ∈ step.route.connection?, c.target ≠ "") := by
    intro hfault
    obtain ⟨hwalk, hreport, hkept⟩ := (ofLists nodes connections handlers).run_of_kept hfault
    rw [show run.walk = _ from hwalk, show run.report = _ from hreport, Report.isCompleted_iff hkept]
    exact ranOff_iff hhints
  refine ⟨⟨fun h => ⟨hran h, (hrun (hran h)).mp h⟩, fun h => (hrun h.1).mpr h.2⟩, fun hfault hstart htargets => ?_⟩
  refine ⟨fun hcompleted => (hrun hfault).mpr ⟨hcompleted, hstart, fun step hstep c hc => ?_⟩,
    fun h => ((hrun hfault).mp h).1⟩
  obtain ⟨hwalk, -, hkept⟩ := (ofLists nodes connections handlers).run_of_kept hfault
  rw [show run.walk = _ from hwalk] at hstep
  have hmem := List.mem_of_getLast? hstep
  have hescape := escape_of_mem_walkFrom hkept step hmem
  cases hv : step.verdict with
  | completed data next =>
    rw [connection_of_mem_walkFrom hhints hmem hv hescape] at hc
    exact htargets c (Lists.mem_of_choice hc).1
  | failed | raised =>
    rw [route_of_mem_walkFrom hmem, hv, hescape] at hc
    cases hc

/-- Where nothing leaves the output, a run through it is completed and has run off. -/
theorem run_ranOff_iff_output :
    let tools : Tools := .idle
    let connections : List Connection := [{ id := "1", source := "t", target := "o" }]
    let run := (ofLists twoNodes connections tools.handlers).run ⟨"x", none, .int 3⟩ [] "t" { user := .number 1 } {}
    tools.handlers.Hintless ∧ run.report.isCompleted = true ∧ run.walk.RanOff connections := by
  intro tools connections run
  have hhints := tools.hintless_handlers
  have hcompleted : run.report.isCompleted = true := rfl
  obtain ⟨-, hiff⟩ := run_ranOff_iff hhints twoNodes connections "x" none 3 [] "t" { user := .number 1 } {}
  exact ⟨hhints, hcompleted, (hiff rfl (by decide) (by decide)).mp hcompleted⟩

/-- **A run can be completed in front of a connection.**  Behind the output a connection leads to the empty id; the run
is reported as completed there, also where a node has the empty id. -/
theorem run_completed_before_connection :
    let tools : Tools := .idle
    let run (nodes : List Node) := (ofLists nodes (leadingTo "") tools.handlers).run ⟨"x", none, .int 5⟩ [] "t"
      { user := .number 1 } {}
    ((run twoNodes).report.isCompleted = true ∧ (run twoNodes).report.path = ["t", "o"] ∧
      (∃ c ∈ leadingTo "", c.source = "o") ∧ ¬ (run twoNodes).walk.RanOff (leadingTo "")) ∧
    (run (twoNodes ++ [{ id := "", kind := .output }])).report = (run twoNodes).report := by
  intro tools run
  refine ⟨⟨rfl, rfl, by decide, ?_⟩, rfl⟩
  rintro ⟨step, data, next, hlast, -, hleaves⟩
  obtain rfl := Option.some.inj hlast
  exact hleaves _ (List.mem_cons_of_mem _ List.mem_cons_self) rfl

end Walker

end Chatflow
