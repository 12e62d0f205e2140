import Mathlib.Data.List.Flatten
import Mathlib.Data.List.Perm.Basic
import Chatflow.Proofs.Handler.Discretion
import Chatflow.Proofs.Walk.Following
import Chatflow.Proofs.Walk.Log

/-!
# The events of a run

A run logs records of its own, and between them those of its handlers.  Its own ones tell events (`Mark`), and which
ones they tell can be read off the lists of nodes and connections, the verdicts of the nodes and the ending
(`Lists.log`).

* `mark_quiet`: the events that the records of one step tell.
* `own_sublist`, `own_perm`, `own_eq_filter`: which of the logged records are a run's own.
* `run_log_mirrors`: the events of a run without a fault tell its report; a run that is left by a fault does not tell
  that it was completed.
-/

namespace Chatflow

variable {σ : Type}

/-! ## Events -/

/-- An event in the log of a run, and the id of the node that it concerns, if it concerns one. -/
structure Mark where
  event : String
  node : Option String := none
  deriving DecidableEq

/-- The details of a record that tells an event. -/
def Mark.details (mark : Mark) : Value × Value := (.text mark.event, .ofText? mark.node)

/-- The details of a record that tell its event and its node. -/
def Record.mark (r : Record) : Value × Value := (r.event, r.node)

/-- The event of a node's end. -/
def Verdict.event : Verdict → String
  | .completed _ _ => "node_completed"
  | _ => "node_failed"

namespace Lists

variable (nodes : List Node) (connections : List Connection)

/-- A condition completed without a hint, and connections leave it, but none that is tagged with its outcome. -/
def FallsBack : Node × Verdict → Prop
  | (node, .completed data next) =>
    node.kind = .condition ∧ next.getD "" = "" ∧ (∃ c ∈ connections, c.source = node.id) ∧
      ∀ c ∈ connections, c.source = node.id → c.condition ≠ some (tagOf data)
  | _ => False

instance : DecidablePred (FallsBack connections)
  | (_, .completed _ _) => inferInstanceAs (Decidable (_ ∧ _ ∧ _ ∧ _))
  | (_, .failed _) | (_, .raised _) => inferInstanceAs (Decidable False)

/-- A node completed without a hint, and the connection that it takes leads to no node. -/
def Dangles : Node × Verdict → Prop
  | (node, .completed data next) =>
    next.getD "" = "" ∧ ∃ c ∈ choice connections node data, (node? nodes c.target).isNone = true
  | _ => False

instance : DecidablePred (Dangles nodes connections)
  | (_, .completed _ _) => inferInstanceAs (Decidable (_ ∧ _))
  | (_, .failed _) | (_, .raised _) => inferInstanceAs (Decidable False)

/-- The events of a node: it started, and it completed or failed; behind that, what is to be said of the way on. -/
def marks (told : Node × Verdict) : List Mark :=
  [⟨"node_started", some told.1.id⟩, ⟨told.2.event, some told.1.id⟩] ++
    ((if FallsBack connections told then [⟨"condition_branch_fallback", some told.1.id⟩] else []) ++
      if Dangles nodes connections told then [⟨"dangling_connection", some told.1.id⟩] else [])

end Lists

/-- The event of an ending; the others are told by their nodes. -/
def Ending.marks : Ending → List Mark
  | .missing id => [⟨"node_missing", some id⟩]
  | .capped => [⟨"max_executions_reached", none⟩]
  | _ => []

/-- The events of a run through some nodes. -/
def Lists.log (nodes : List Node) (connections : List Connection) (told : List (Node × Verdict)) (ending : Ending) :
    List Mark :=
  ⟨"workflow_started", none⟩ :: told.flatMap (marks nodes connections) ++ ending.marks ++ [⟨"workflow_completed", none⟩]

/-! ## Routes -/

/-- The branch that a route goes without. -/
def Route.missed? : Route → Option Bool
  | .along _ missed => missed
  | _ => none

/-- The events of a route that leads on from a node. -/
def Route.marks (graph : Graph) (id : String) (route : Route) : List Mark :=
  (if route.missed?.isSome then [⟨"condition_branch_fallback", some id⟩] else []) ++
    match route.connection? with
    | some c => if graph.has c.target then [] else [⟨"dangling_connection", some c.source⟩]
    | none => []

namespace Graph

/-- When no node was asked for, a branch is missed just behind a condition that connections leave, none of them tagged
with its outcome. -/
theorem isSome_missed?_unasked (graph : Graph) (connections : List Connection) (node : Node) (data : Option Fields)
    (h : graph.outgoingOf node.id = connections.filter (·.source == node.id)) :
    (route.unasked graph node data).missed?.isSome = true ↔
      node.kind = .condition ∧ (∃ c ∈ connections, c.source = node.id) ∧
        ∀ c ∈ connections, c.source = node.id → c.condition ≠ some (Lists.tagOf data) := by
  have hleaving : ∀ c, c ∈ graph.outgoingOf node.id ↔ c ∈ connections ∧ c.source = node.id := by
    intro c
    rw [h, List.mem_filter, beq_iff_eq]
  have hsome : (∃ c ∈ connections, c.source = node.id) ↔ graph.outgoingOf node.id ≠ [] := by
    rw [ne_eq, List.eq_nil_iff_forall_not_mem, not_forall_not]
    exact exists_congr fun c => (hleaving c).symm
  have hnone : (∀ c ∈ connections, c.source = node.id → c.condition ≠ some (Lists.tagOf data)) ↔
      (graph.outgoingOf node.id).find? (fun c => c.condition == some (toString (branch data))) = none := by
    rw [List.find?_eq_none, toString_branch]
    simp only [hleaving, and_imp, beq_iff_eq, ne_eq]
  rw [hsome, hnone]
  unfold route.unasked
  cases graph.outgoingOf node.id with
  | nil => simp [Route.missed?]
  | cons first rest =>
    by_cases hk : node.kind = .condition
    · simp only [if_pos hk]
      cases (first :: rest).find? fun c => c.condition == some (toString (branch data)) <;> simp [Route.missed?, hk]
    · simp [Route.missed?, hk]

variable (nodes : List Node) (connections : List Connection) (node : Node) (data : Option Fields) (next : Option String)

/-- A route is the one without a hint when the hint is lacking or empty, and leads along no connection otherwise. -/
theorem route_eq (graph : Graph) :
    graph.route node data next = if next.getD "" = "" then route.unasked graph node data else .asked (next.getD "") := by
  cases next with
  | none => rfl
  | some id => by_cases h : id = "" <;> simp [route, h]

/-- **A branch is missed just where the lists say that a walk falls back.** -/
theorem isSome_missed?_ofLists :
    ((ofLists nodes connections).route node data next).missed?.isSome = true ↔
      Lists.FallsBack connections (node, .completed data next) := by
  rw [route_eq, Lists.FallsBack]
  by_cases h : next.getD "" = ""
  · rw [if_pos h, isSome_missed?_unasked _ connections node data (outgoingOf_ofLists nodes connections node.id)]
    simp only [h, true_and]
  · simp [h, Route.missed?]

/-- A route goes along the connection that the list offers, unless there is a hint. -/
theorem connection?_ofLists :
    ((ofLists nodes connections).route node data next).connection? =
      if next.getD "" = "" then Lists.choice connections node data else none := by
  rw [route_eq]
  by_cases h : next.getD "" = ""
  · rw [if_pos h, if_pos h]
    exact connection?_unasked _ connections node data (outgoingOf_ofLists nodes connections node.id)
  · rw [if_neg h, if_neg h]
    rfl

/-- **The events of a route are those that the lists tell behind a completed node.** -/
theorem marks_ofLists :
    ((ofLists nodes connections).route node data next).marks (ofLists nodes connections) node.id =
      (if Lists.FallsBack connections (node, .completed data next) then [⟨"condition_branch_fallback", some node.id⟩]
        else []) ++
        if Lists.Dangles nodes connections (node, .completed data next) then [⟨"dangling_connection", some node.id⟩]
        else [] := by
  have hhas : ∀ id, (ofLists nodes connections).has id = !(Lists.node? nodes id).isNone := by
    intro id
    rw [← node?_ofLists nodes connections, node?, Option.not_isNone, Keyed.isSome_get?]
    rfl
  rw [Route.marks, connection?_ofLists]
  simp only [isSome_missed?_ofLists, Lists.Dangles, hhas]
  congr 1
  by_cases h : next.getD "" = ""
  · rcases Option.eq_none_or_eq_some (Lists.choice connections node data) with hc | ⟨c, hc⟩
    · simp [hc]
    · obtain ⟨-, hsource⟩ := Lists.mem_of_choice hc
      cases hnode : Lists.node? nodes c.target <;> simp [h, hc, hsource, hnode]
  · simp [h]

end Graph

/-! ## The records of a step -/

/-- A step whose handler logs nothing. -/
def Step.quiet (step : Step) : Step := { step with records := [] }

namespace Step

/-- The records of a route tell its events. -/
theorem mark_routeRecords (graph : Graph) (step : Step) :
    (step.routeRecords graph).map Record.mark = (step.route.marks graph step.node.id).map Mark.details := by
  unfold routeRecords Route.marks
  cases step.route with
  | nowhere | asked => rfl
  | along connection missed =>
    cases h : graph.has connection.target <;> cases missed <;> simp [Route.missed?, Route.connection?, h] <;>
      first | rfl | exact ⟨rfl, rfl⟩

variable (nodes : List Node) (connections : List Connection)

/-- What a handler logs stands behind the record that its node started, and before the others of its step. -/
theorem allRecords_eq (graph : Graph) (number : Nat) (step : Step) : ∃ opening closing,
    step.allRecords graph number = opening :: (step.records ++ closing) ∧
      step.quiet.allRecords graph number = opening :: closing := ⟨_, _, rfl, rfl⟩

/-- **The events of a step** from which nothing escapes, when its route is the one that its verdict leads along. -/
theorem mark_quiet {handlers : Handlers σ} (number : Nat) (step : Step) (hkept : step.escape = none)
    (h : step.route = (Walker.ofLists nodes connections handlers).routeFor step.node step.verdict) :
    (step.quiet.allRecords (Graph.ofLists nodes connections) number).map Record.mark =
      (Lists.marks nodes connections step.told).map Mark.details := by
  have hroute := mark_routeRecords (Graph.ofLists nodes connections) step
  obtain ⟨node, before, verdict, records, after, route, escape⟩ := step
  obtain rfl : escape = none := hkept
  cases verdict with
  | completed data next =>
    obtain rfl : route = (Graph.ofLists nodes connections).route node data next := h
    rw [Graph.marks_ofLists] at hroute
    exact congrArg (_ :: _ :: ·) hroute
  | failed | raised => rfl

/-- A run has made all records of a step but those of its handler, and none of them tells that it was completed. -/
theorem own_of_mem_quiet (graph : Graph) (number : Nat) (step : Step) :
    ∀ r ∈ step.quiet.allRecords graph number, r.source = Walk.source ∧ r.event ≠ .text "workflow_completed" := by
  have hroute : ∀ r ∈ step.routeRecords graph, r.source = Walk.source ∧ r.event ≠ .text "workflow_completed" := by
    unfold routeRecords
    cases step.route with
    | nowhere | asked => exact fun r h => absurd h List.not_mem_nil
    | along connection missed =>
      cases graph.has connection.target <;> cases missed <;> simp [Record.info, Record.about]
  have hevent : ∀ {event : String}, event ≠ "workflow_completed" → Value.text event ≠ .text "workflow_completed" :=
    fun hne heq => hne (Value.text.inj heq)
  have hstarted : ∀ {message id : String},
      ((Record.info Walk.source message "node_started").about id).source = Walk.source ∧
        ((Record.info Walk.source message "node_started").about id).event ≠ .text "workflow_completed" :=
    ⟨rfl, hevent (by decide)⟩
  obtain ⟨node, before, verdict, records, after, route, escape⟩ := step
  cases verdict with
  | completed =>
    exact List.forall_mem_cons.mpr ⟨hstarted, List.forall_mem_cons.mpr ⟨⟨rfl, hevent (by decide)⟩, hroute⟩⟩
  | failed => exact List.forall_mem_cons.mpr ⟨hstarted, List.forall_mem_singleton.mpr ⟨rfl, hevent (by decide)⟩⟩
  | raised =>
    cases escape with
    | none => exact List.forall_mem_cons.mpr ⟨hstarted, List.forall_mem_singleton.mpr ⟨rfl, hevent (by decide)⟩⟩
    | some => exact List.forall_mem_singleton.mpr hstarted

/-- Where a handler does not log in the name of walks, the other records of its step are those with that name. -/
theorem quiet_eq_filter (graph : Graph) (number : Nat) (step : Step) (h : Walk.Spares step.records) :
    step.quiet.allRecords graph number = (step.allRecords graph number).filter (·.source == Walk.source) := by
  have hown := fun r hr => (step.own_of_mem_quiet graph number r hr).1
  obtain ⟨opening, closing, hloud, hquiet⟩ := step.allRecords_eq graph number
  rw [hquiet, List.forall_mem_cons] at hown
  obtain ⟨hopening, hclosing⟩ := hown
  have hhandler : step.records.filter (·.source == Walk.source) = [] :=
    List.filter_eq_nil_iff.mpr fun r hr => by simpa using h r hr
  have hrest : closing.filter (·.source == Walk.source) = closing :=
    List.filter_eq_self.mpr fun r hr => beq_iff_eq.mpr (hclosing r hr)
  rw [hquiet, hloud, List.filter_cons, List.filter_append, hhandler, hrest, hopening]
  rfl

end Step

/-! ## The records of a run -/

/-- A walk whose handlers log nothing. -/
def Walk.quiet (walk : Walk σ) : Walk σ := { walk with steps := walk.steps.map Step.quiet }

/-- All records of a run. -/
def Run.records (run : Run σ) (graph : Graph) (cap : Value) (start : String) : List Record :=
  (run.stretches graph cap start).flatMap (·.records)

/-- The records behind the last node of a run; there are none when it is left by a fault. -/
def Run.closing (run : Run σ) (cap : Value) : List Record :=
  match run.fault with
  | some _ => []
  | none => run.walk.ending.records cap ++ [run.walk.finish]

/-- The records that are a run's own: those that it would log if its handlers logged nothing. -/
def Run.own (run : Run σ) (graph : Graph) (cap : Value) (start : String) : List Record :=
  { run with walk := run.walk.quiet }.records graph cap start

/-- What is gathered from numbered things without their numbers. -/
theorem flatMap_zipIdx {α β : Type} (f : α → List β) (l : List α) (n : Nat) :
    ((l.zipIdx n).flatMap fun x => f x.1) = l.flatMap f := by
  have h : ((l.zipIdx n).flatMap fun x => f x.1) = ((l.zipIdx n).map Prod.fst).flatMap f := by
    rw [List.flatMap_map]
  rw [h, List.zipIdx_map_fst]

/-- The records of the entries of some stretches. -/
theorem Stretch.map_record_entries (trace : Trace) (stretches : List Stretch) :
    (stretches.flatMap (Stretch.entries trace)).map (·.record) = stretches.flatMap (·.records) := by
  rw [List.map_flatMap]
  refine List.flatMap_congr fun stretch _ => ?_
  show List.map _ (List.map _ stretch.records) = stretch.records
  rw [List.map_map]
  exact List.map_id _

namespace Run

variable (run : Run σ) (graph : Graph) (cap : Value) (start : String)

theorem records_eq : run.records graph cap start =
    Walk.beginning start graph.size ::
      ((run.walk.steps.zipIdx 1).flatMap (fun x => x.1.allRecords graph x.2) ++ run.closing cap) := by
  rw [records, stretches, List.flatMap_cons, List.flatMap_append, Step.stretches, List.flatMap_map, closing]
  cases run.fault with
  | some fault => rfl
  | none =>
    rw [List.flatMap_singleton]
    rfl

theorem own_eq : run.own graph cap start =
    Walk.beginning start graph.size ::
      ((run.walk.steps.zipIdx 1).flatMap (fun x => x.1.quiet.allRecords graph x.2) ++ run.closing cap) := by
  have hfinish : run.walk.quiet.finish = run.walk.finish := by
    unfold Walk.finish Walk.quiet
    rw [List.length_map]
  have hclosing : run.closing cap = { run with walk := run.walk.quiet }.closing cap := by
    unfold closing
    rw [hfinish]
    rfl
  rw [own, records_eq, hclosing]
  show _ :: (((run.walk.steps.map Step.quiet).zipIdx 1).flatMap _ ++ _) = _
  rw [List.zipIdx_map, List.flatMap_map]
  rfl

/-- A run's own records are among those that it logs, in their order. -/
theorem own_sublist : (run.own graph cap start).Sublist (run.records graph cap start) := by
  rw [own_eq, records_eq]
  refine .cons_cons _ (.append (.flatMap_right _ fun ⟨step, n⟩ _ => ?_) (.refl _))
  obtain ⟨opening, closing, hloud, hquiet⟩ := step.allRecords_eq graph n
  show (step.quiet.allRecords graph n).Sublist (step.allRecords graph n)
  rw [hloud, hquiet]
  exact (List.sublist_append_right _ _).cons_cons _

/-- The others are those that the handlers logged. -/
theorem own_perm : (run.records graph cap start).Perm
    (run.own graph cap start ++ run.walk.steps.flatMap (·.records)) := by
  have hsteps : ((run.walk.steps.zipIdx 1).flatMap fun x => x.1.allRecords graph x.2).Perm
      ((run.walk.steps.zipIdx 1).flatMap (fun x => x.1.quiet.allRecords graph x.2) ++
        run.walk.steps.flatMap (·.records)) := by
    rw [← flatMap_zipIdx (·.records) run.walk.steps 1]
    refine .trans (.flatMap_left _ fun ⟨step, n⟩ _ => ?_) (List.flatMap_append_perm _ _ _).symm
    obtain ⟨opening, closing, hloud, hquiet⟩ := step.allRecords_eq graph n
    show (step.allRecords graph n).Perm (step.quiet.allRecords graph n ++ step.records)
    rw [hloud, hquiet]
    exact .cons _ List.perm_append_comm
  rw [own_eq, records_eq]
  refine .cons _ ((hsteps.append_right _).trans ?_)
  rw [List.append_assoc]
  refine .trans (.append_left _ List.perm_append_comm) (.of_eq ?_)
  exact (List.append_assoc _ _ _).symm

/-- Where no handler logs in the name of walks, a run's own records are those with that name. -/
theorem own_eq_filter (hothers : ∀ step ∈ run.walk.steps, Walk.Spares step.records) :
    run.own graph cap start = (run.records graph cap start).filter (·.source == Walk.source) := by
  have hending : (run.closing cap).filter (·.source == Walk.source) = run.closing cap := by
    unfold closing
    cases run.fault with
    | some => rfl
    | none => cases run.walk.ending <;> simp [Ending.records, Walk.finish, Record.info]
  rw [own_eq, records_eq]
  refine congrArg (_ :: ·) ?_
  rw [List.filter_append, List.filter_flatMap, hending]
  refine congrArg (· ++ _) (List.flatMap_congr fun ⟨step, n⟩ hstep => ?_)
  exact step.quiet_eq_filter graph n (hothers step (List.fst_mem_of_mem_zipIdx hstep))

/-- A run that is left by a fault does not tell that it was completed. -/
theorem not_completed_of_fault (h : run.fault ≠ none) :
    ∀ r ∈ run.own graph cap start, r.event ≠ .text "workflow_completed" := by
  obtain ⟨fault, hfault⟩ := Option.ne_none_iff_exists'.mp h
  rw [own_eq, closing, hfault, List.append_nil]
  refine List.forall_mem_cons.mpr ⟨by simp [Walk.beginning, Record.info], fun r hr => ?_⟩
  obtain ⟨⟨step, n⟩, -, hr⟩ := List.mem_flatMap.mp hr
  exact (step.own_of_mem_quiet graph n r hr).2

/-- The events that a run's own records tell, when there is no fault and each step goes on along the route of its
verdict. -/
theorem mark_own {nodes : List Node} {connections : List Connection} {handlers : Handlers σ} (h : run.fault = none)
    (hroutes : ∀ step ∈ run.walk.steps, step.escape = none ∧
      step.route = (Walker.ofLists nodes connections handlers).routeFor step.node step.verdict) :
    (run.own (Graph.ofLists nodes connections) cap start).map Record.mark =
      (Lists.log nodes connections (run.walk.steps.map Step.told) run.walk.ending).map Mark.details := by
  have hsteps : ((run.walk.steps.zipIdx 1).flatMap fun x =>
      x.1.quiet.allRecords (Graph.ofLists nodes connections) x.2).map Record.mark =
        ((run.walk.steps.map Step.told).flatMap (Lists.marks nodes connections)).map Mark.details := by
    rw [List.map_flatMap, List.map_flatMap, List.flatMap_map, ← flatMap_zipIdx _ run.walk.steps 1]
    refine List.flatMap_congr fun ⟨step, n⟩ hstep => ?_
    obtain ⟨hkept, hroute⟩ := hroutes step (List.fst_mem_of_mem_zipIdx hstep)
    exact step.mark_quiet nodes connections n hkept hroute
  have hending : (run.closing cap).map Record.mark =
      (run.walk.ending.marks ++ [Mark.mk "workflow_completed" none]).map Mark.details := by
    rw [closing, h]
    cases run.walk.ending <;> rfl
  rw [own_eq, Lists.log, List.append_assoc]
  refine congrArg (_ :: ·) ?_
  rw [List.map_append, hsteps, hending, ← List.map_append]
  rfl

end Run

/-! ## What the events tell -/

/-- The marks of a log that tell some events. -/
def Mark.telling (events : List String) (log : List Mark) : List Mark := log.filter fun mark => mark.event ∈ events

namespace Lists

variable (nodes : List Node) (connections : List Connection) (events : List String)

theorem telling_marks (told : Node × Verdict) : Mark.telling events (marks nodes connections told) =
    Mark.telling events [⟨"node_started", some told.1.id⟩, ⟨told.2.event, some told.1.id⟩] ++
      ((if "condition_branch_fallback" ∈ events ∧ FallsBack connections told then
        [⟨"condition_branch_fallback", some told.1.id⟩] else []) ++
      if "dangling_connection" ∈ events ∧ Dangles nodes connections told then
        [⟨"dangling_connection", some told.1.id⟩] else []) := by
  rw [Mark.telling, marks, List.filter_append, List.filter_append]
  refine congrArg (_ ++ ·) (congrArg₂ (· ++ ·) ?_ ?_)
  · by_cases h : FallsBack connections told <;> simp [h, List.filter_cons]
  · by_cases h : Dangles nodes connections told <;> simp [h, List.filter_cons]

/-- A node tells that it started, once. -/
theorem telling_marks_started (told : Node × Verdict) :
    Mark.telling ["node_started"] (marks nodes connections told) = [⟨"node_started", some told.1.id⟩] := by
  rw [telling_marks]
  obtain ⟨node, verdict⟩ := told
  cases verdict <;> simp [Mark.telling, Verdict.event]

/-- A node tells that it started, and then how it ended. -/
theorem telling_marks_ended (told : Node × Verdict) :
    Mark.telling ["node_started", "node_completed", "node_failed"] (marks nodes connections told) =
      [⟨"node_started", some told.1.id⟩, ⟨told.2.event, some told.1.id⟩] := by
  rw [telling_marks]
  obtain ⟨node, verdict⟩ := told
  cases verdict <;> simp [Mark.telling, Verdict.event]

theorem telling_marks_failed (told : Node × Verdict) : Mark.telling ["node_failed"] (marks nodes connections told) =
    if told.2.event = "node_failed" then [⟨"node_failed", some told.1.id⟩] else [] := by
  rw [telling_marks]
  by_cases h : told.2.event = "node_failed" <;> simp [Mark.telling, h]

theorem telling_marks_fallback (told : Node × Verdict) :
    Mark.telling ["condition_branch_fallback"] (marks nodes connections told) =
      if FallsBack connections told then [⟨"condition_branch_fallback", some told.1.id⟩] else [] := by
  rw [telling_marks]
  obtain ⟨node, verdict⟩ := told
  cases verdict <;> simp [Mark.telling, Verdict.event]

/-- The nodes that fell back tell so, in their order. -/
theorem telling_fallback (told : List (Node × Verdict)) :
    (told.flatMap fun t => Mark.telling ["condition_branch_fallback"] (marks nodes connections t)) =
      (told.filter (FallsBack connections ·)).map fun t => ⟨"condition_branch_fallback", some t.1.id⟩ := by
  simp only [telling_marks_fallback]
  induction told with
  | nil => rfl
  | cons t rest ih => by_cases h : FallsBack connections t <;> simp [h, ih]

/-! The log of a run is what its nodes tell, between what is told of its begin, its ending and its end. -/

/-- The events that nodes tell. -/
def nodeEvents : List String :=
  ["node_started", "node_completed", "node_failed", "condition_branch_fallback", "dangling_connection"]

theorem event_mem_of_mem_marks {told : Node × Verdict} {mark : Mark} (h : mark ∈ marks nodes connections told) :
    mark.event ∈ nodeEvents := by
  obtain ⟨node, verdict⟩ := told
  rw [marks] at h
  cases verdict <;> grind [nodeEvents, Verdict.event]

variable (told : List (Node × Verdict)) (ending : Ending)

theorem telling_log : Mark.telling events (log nodes connections told ending) =
    Mark.telling events [⟨"workflow_started", none⟩] ++
      told.flatMap (fun t => Mark.telling events (marks nodes connections t)) ++
      Mark.telling events (ending.marks ++ [⟨"workflow_completed", none⟩]) := by
  unfold Mark.telling
  rw [log, List.append_assoc, List.filter_append, ← List.singleton_append, List.filter_append, List.filter_flatMap]

/-- **The events of nodes are told by the nodes.** -/
theorem telling_log_nodes (h : ∀ event ∈ events, event ∈ nodeEvents) :
    Mark.telling events (log nodes connections told ending) =
      told.flatMap fun t => Mark.telling events (marks nodes connections t) := by
  have hnone : ∀ marks : List Mark, (∀ mark ∈ marks, mark.event ∉ nodeEvents) → Mark.telling events marks = [] := by
    intro marks hmarks
    refine List.filter_eq_nil_iff.mpr fun mark hmark hevent => ?_
    exact hmarks mark hmark (h _ (by simpa using hevent))
  rw [telling_log, hnone _ (by simp [nodeEvents]), hnone _ (by cases ending <;> simp [Ending.marks, nodeEvents])]
  rw [List.nil_append, List.append_nil]

/-- **Other events are told once at the begin and once at the end**, and of the ending. -/
theorem telling_log_others {event : String} (h : event ∉ nodeEvents) :
    Mark.telling [event] (log nodes connections told ending) =
      Mark.telling [event] ([⟨"workflow_started", none⟩] ++ (ending.marks ++ [⟨"workflow_completed", none⟩])) := by
  have hnodes : (told.flatMap fun t => Mark.telling [event] (marks nodes connections t)) = [] := by
    refine List.flatMap_eq_nil_iff.mpr fun t _ => List.filter_eq_nil_iff.mpr fun mark hmark hevent => ?_
    obtain rfl : mark.event = event := by simpa using hevent
    exact h (event_mem_of_mem_marks nodes connections hmark)
  rw [telling_log, hnodes, List.append_nil]
  exact (List.filter_append _ _).symm

end Lists

namespace Walker

variable {walker : Walker σ}

/-- Each step of a trail completed. -/
theorem Trail.event_of_mem {s t : Stand σ} {steps : List Step} (h : walker.Trail s steps t) :
    ∀ step ∈ steps, step.verdict.event = "node_completed" := by
  induction h with
  | nil => exact fun _ h => absurd h List.not_mem_nil
  | cons first _ ih =>
    obtain ⟨data, next, hv⟩ := first.completed
    exact List.forall_mem_cons.mpr ⟨congrArg Verdict.event hv, ih⟩

/-- **A walk tells that a node failed only of its last one**, and only when it ended so, unless something escapes. -/
theorem telling_failed (nodes : List Node) (connections : List Connection) (n : Nat) (s : Stand σ) :
    let walk := walker.walkFrom n s
    walk.ending.escape? = none → ((walk.steps.map Step.told).flatMap fun t =>
        Mark.telling ["node_failed"] (Lists.marks nodes connections t)) =
      if walk.ending.name = "node_failed" ∨ walk.ending.name = "error" then [⟨"node_failed", walk.path.getLast?⟩]
      else [] := by
  intro walk hkept
  obtain ⟨steps, t, k, last, ht, -, hs, hw⟩ := walker.exists_trail n s
  rw [show walk = _ from hw] at hkept
  have hcompleted : ((steps.map Step.told).flatMap fun t =>
      Mark.telling ["node_failed"] (Lists.marks nodes connections t)) = [] := by
    rw [List.flatMap_map, List.flatMap_eq_nil_iff]
    intro step hstep
    rw [Lists.telling_marks_failed, if_neg]
    rw [show (step.told).2.event = _ from ht.event_of_mem step hstep]
    decide
  rw [show walk = _ from hw, Walk.steps_behind, List.map_append, List.flatMap_append, hcompleted, Walk.path_behind]
  -- The steps of the trail completed, so only what stops the walk can have failed.
  cases hs with
  | finished | capped | missing => rfl
  | @failed k t node error _ _ hv | @raised k t node error _ _ hv =>
    have hfailed : (walker.stepAt t node).told.2.event = "node_failed" := congrArg Verdict.event hv
    rw [steps_lastAt, List.map_singleton, List.flatMap_singleton, Lists.telling_marks_failed, if_pos hfailed]
    show [_] = [(⟨"node_failed", (_ ++ [node.id]).getLast?⟩ : Mark)]
    rw [List.getLast?_concat]
    rfl
  | escaped => cases hkept

/-- Where no handler logs in the name of walks, no step holds a record with that name. -/
theorem spares_of_mem_walkFrom (h : walker.handlers.Discreet) (n : Nat) (s : Stand σ) :
    ∀ step ∈ (walker.walkFrom n s).steps, Walk.Spares step.records := by
  intro step hs
  obtain ⟨t, node, -, -, rfl⟩ := exists_stepAt hs
  exact h _ _ _

end Walker

namespace Walker

variable (nodes : List Node) (connections : List Connection) (handlers : Handlers σ)

/-- **The log of a run mirrors its report, unless it is left by a fault.**  The records that are its own are, in their
order, all that it logs but what its handlers log, and the ones in the name of walks when no handler uses that.  Without
a fault, the events that they tell can be read off the report and the verdicts of the nodes on its path: one at the very
begin and one at the very end; that a node started, for each id on the path, in order, and before the next one starts,
how that node ended; that a node failed, just when the report says that one failed or that there was an error, and then
once, of the last node on the path; that a node is missing, just when the report says so, and then once, of the one that
was left to go to; that the cap was reached, just when the report says so; and that a condition fell back to its first
connection, for each one that completed without a hint and with connections behind it, none of them tagged with its
outcome.

A fault is the refusal of the last visit, of the fault that a handler raised or of the data of a condition, or of a cap
below zero that is too long to be told.  Then the run does not tell that it was completed. -/
theorem run_log_mirrors (executionId : String) (workflow : Option String) (cap : Int) (trace : Trace) (start : String)
    (context : Context) (state : σ) :
    let walker := ofLists nodes connections handlers
    let run := walker.run ⟨executionId, workflow, .int cap⟩ trace start context state
    let report := run.report
    let visits := handlers.replay (report.path.filterMap (Lists.node? nodes)) context state
    let told := visits.map Visit.told
    let records := run.entries.map (·.record)
    let own := run.own walker.graph (.int cap) start
    let log := Lists.log nodes connections told run.walk.ending
    (own.Sublist records ∧ records.Perm (own ++ run.walk.steps.flatMap (·.records)) ∧
        (handlers.Discreet → own = records.filter (·.source == Walk.source))) ∧
      own.head? = some (Walk.beginning start walker.graph.size) ∧
      run.fault = (visits.getLast?.bind (Lists.escape connections)).or
        (if start ≠ "" ∧ cap < 0 ∧ Decimal.isLong cap = true then some (.value .tooLong) else none) ∧
      (run.fault ≠ none → ∀ r ∈ own, r.event ≠ .text "workflow_completed") ∧
      (run.fault = none →
        own.map Record.mark = log.map Mark.details ∧
        (log.head? = some ⟨"workflow_started", none⟩ ∧
          Mark.telling ["workflow_started"] log = [⟨"workflow_started", none⟩]) ∧
        (log.getLast? = some ⟨"workflow_completed", none⟩ ∧
          Mark.telling ["workflow_completed"] log = [⟨"workflow_completed", none⟩]) ∧
        Mark.telling ["node_started"] log = report.path.map (⟨"node_started", some ·⟩) ∧
        Mark.telling ["node_started", "node_completed", "node_failed"] log =
          told.flatMap (fun (node, verdict) => [⟨"node_started", some node.id⟩, ⟨verdict.event, some node.id⟩]) ∧
        Mark.telling ["node_failed"] log =
          (if report.ending = "node_failed" ∨ report.ending = "error" then [⟨"node_failed", report.path.getLast?⟩]
          else []) ∧
        Mark.telling ["node_missing"] log =
          (if report.ending = "missing_node" then [⟨"node_missing", Lists.pending connections start told⟩] else []) ∧
        Mark.telling ["max_executions_reached"] log =
          (if report.ending = "max_executions" then [⟨"max_executions_reached", none⟩] else []) ∧
        Mark.telling ["condition_branch_fallback"] log =
          (told.filter (Lists.FallsBack connections ·)).map fun t => ⟨"condition_branch_fallback", some t.1.id⟩) := by
  intro walker run report visits told records own log
  obtain ⟨hpath, htold, -⟩ := run_replay nodes connections handlers executionId workflow cap trace start context state
  have hrecords : records = run.records walker.graph (.int cap) start := by
    rw [show records = _ from congrArg (List.map (·.record)) (walker.entries_run _ trace start context state).1]
    exact Stretch.map_record_entries _ _
  rw [hrecords]
  refine ⟨⟨run.own_sublist _ _ _, run.own_perm _ _ _, fun hdiscreet => ?_⟩, ?_, ?_,
    run.not_completed_of_fault _ _ _, fun hfault => ?_⟩
  · obtain ⟨hwalk, -⟩ := walker.run_int executionId workflow cap trace start context state
    refine run.own_eq_filter _ _ _ ?_
    rw [show run.walk = _ from hwalk, Walk.steps_under]
    exact spares_of_mem_walkFrom hdiscreet _ _
  · rw [show own = _ from run.own_eq _ _ _]
    rfl
  · exact run_fault nodes connections handlers executionId workflow cap trace start context state
  obtain ⟨hwalk, hreport, hkept⟩ := walker.run_of_kept hfault
  have hroutes : ∀ step ∈ run.walk.steps, step.escape = none ∧
      step.route = walker.routeFor step.node step.verdict := by
    rw [show run.walk = _ from hwalk]
    intro step hstep
    have hescape := escape_of_mem_walkFrom hkept step hstep
    have hroute := route_of_mem_walkFrom hstep
    rw [hescape] at hroute
    exact ⟨hescape, hroute⟩
  have hids : report.path = told.map (·.1.id) := by
    rw [List.map_map]
    exact hpath
  have hname : report.ending = run.walk.ending.name := by rw [show report = _ from hreport, hwalk]; rfl
  have hnodes := fun events => Lists.telling_log_nodes nodes connections events told run.walk.ending
  have hothers := fun event (h : event ∉ Lists.nodeEvents) =>
    Lists.telling_log_others nodes connections told run.walk.ending h
  refine ⟨?_, ⟨rfl, ?_⟩, ⟨?_, ?_⟩, ?_, ?_, ?_, ?_, ?_, ?_⟩
  · have hmark := run.mark_own (.int cap) start hfault hroutes
    rwa [show run.walk.steps.map Step.told = told from htold] at hmark
  · rw [hothers _ (by decide)]
    cases run.walk.ending <;> rfl
  · exact List.getLast?_concat
  · rw [hothers _ (by decide)]
    cases run.walk.ending <;> rfl
  · rw [hnodes _ (by decide), hids, List.map_map, ← List.flatMap_pure_eq_map]
    exact List.flatMap_congr fun t _ => Lists.telling_marks_started nodes connections t
  · rw [hnodes _ (by decide)]
    exact List.flatMap_congr fun t _ => Lists.telling_marks_ended nodes connections t
  · rw [hnodes _ (by decide), ← show run.walk.steps.map Step.told = told from htold, hname,
      show report.path = _ from congrArg Report.path hreport, show run.walk = _ from hwalk]
    exact telling_failed nodes connections cap.toNat ⟨start, context, state⟩ hkept
  · rw [hothers _ (by decide), hname]
    cases hending : run.walk.ending with
    | missing id =>
      obtain ⟨hdue, -⟩ := run_due nodes connections handlers executionId workflow cap trace start context state hfault
      obtain ⟨hpending, -⟩ := (hdue (.missing id)).mpr hending.symm
      exact congrArg (fun node => [Mark.mk "node_missing" node]) hpending.symm
    | finished | failed | raised | capped | escaped => rfl
  · rw [hothers _ (by decide), hname]
    cases run.walk.ending <;> rfl
  · rw [hnodes _ (by decide)]
    exact Lists.telling_fallback nodes connections told

/-- **The log of a run may end without an end**: behind a condition whose data refuse to say whether it was met, and at a
cap below zero that is too long for the text in which it is told. -/
theorem run_log_refused :
    let walker := ofLists asked askedFrom refusing
    let run (cap : Int) := walker.run ⟨"x", none, .int cap⟩ [] "c" { user := .number 1 } ()
    (∀ r ∈ (run 50).own walker.graph (.int 50) "c", r.event ≠ .text "workflow_completed") ∧
      ∀ r ∈ (run longCap).own walker.graph (.int longCap) "c", r.event ≠ .text "workflow_completed" := by
  intro walker run
  have hasked : (run 50).fault ≠ none := nofun
  have hlong : (run longCap).fault = some (.value .tooLong) :=
    run_fault_of_isLong _ longCap_neg isLong_longCap "x" none [] (by decide) _ ()
  exact ⟨Run.not_completed_of_fault _ _ _ _ hasked, Run.not_completed_of_fault _ _ _ _ (by rw [hlong]; nofun)⟩

end Walker

end Chatflow
