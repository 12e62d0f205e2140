import Chatflow.Proofs.Number.Decimal
import Chatflow.Proofs.Walk.Selection

/-!
# How a run ends

Which of the five endings a run has is told by what its last node gave, by the id that is then left to go to, and by
the cap (`Ending.Due`).  Exactly one ending is due (`due_unique`), and it is the one that the walk has
(`due_iff_ending`); the report names it and gives its error (`run_verdict_exact`).

All this is so where nothing escapes from the run.  What does escape is told as well: the refusal of the last node's
data or fault (`Lists.escape`), or that of a cap below zero which is too long for the text in which it is told.  Both
happen (`run_verdict_refused`).
-/

namespace Chatflow

variable {σ : Type}

/-- The verdict of the last node of a row. -/
def lastVerdict (told : List (Node × Verdict)) : Option Verdict := (told.getLast?).map (·.2)

/-- The id that is left to go to behind a row of nodes: the start when there was none, the one to which the last one
leads, nothing when it did not complete. -/
def Lists.pending (connections : List Connection) (start : String) (told : List (Node × Verdict)) :
    Option String :=
  match told.getLast? with
  | none => some start
  | some (node, verdict) =>
    match verdict with
    | .completed data next => some (successor connections node data next)
    | _ => none

/-- When an ending is due behind a row of nodes. -/
def Ending.Due (nodes : List Node) (connections : List Connection) (start : String) (cap : Int)
    (told : List (Node × Verdict)) : Ending → Prop
  | .finished => Lists.pending connections start told = some ""
  | .missing id => Lists.pending connections start told = some id ∧ id ≠ "" ∧
      (told.length : Int) < cap ∧ Lists.node? nodes id = none
  | .failed error => lastVerdict told = some (.failed error)
  | .raised fault => lastVerdict told = some (.raised fault)
  | .capped => ∃ id, Lists.pending connections start told = some id ∧ id ≠ "" ∧
      (told.length : Int) = max cap 0
  | .escaped _ => False

/-- What escapes from a walk at a visit: the refusal of its fault to be told, or of its data to say whether a condition
was met when that is asked. -/
def Lists.escape (connections : List Connection) (visit : Visit σ) : Option Fault :=
  match visit.handled.verdict with
  | .completed data next => if asksBranch connections visit.node data next then visit.handled.refusal else none
  | .failed _ => none
  | .raised _ => visit.handled.refusal

/-! ## What is pending -/

section Pending

variable (connections : List Connection) (start : String)

theorem Lists.pending_cons {node : Node} {data : Option Fields} {next : Option String}
    (rest : List (Node × Verdict)) :
    pending connections start ((node, .completed data next) :: rest) =
      pending connections (successor connections node data next) rest := by
  unfold pending
  rw [List.getLast?_cons]
  cases rest.getLast? with
  | none => rfl
  | some last => rfl

theorem Lists.pending_eq_none {told : List (Node × Verdict)} {verdict : Verdict}
    (hl : lastVerdict told = some verdict) (hv : ∀ data next, verdict ≠ .completed data next) :
    pending connections start told = none := by
  obtain ⟨⟨node, v⟩, hlast, rfl⟩ := Option.map_eq_some_iff.mp hl
  unfold pending
  rw [hlast]
  cases v with
  | completed data next => exact absurd rfl (hv data next)
  | failed | raised => rfl

end Pending

/-- Behind a trail the id is left at which it stands. -/
theorem Walker.Trail.pending {nodes : List Node} {connections : List Connection} {handlers : Handlers σ}
    {s t : Stand σ} {steps : List Step} (h : (Walker.ofLists nodes connections handlers).Trail s steps t) :
    Lists.pending connections s.pending (steps.map Step.told) = some t.pending := by
  induction h with
  | nil => rfl
  | @cons s t node steps first _ ih =>
    obtain ⟨data, next, hv⟩ := first.completed
    have hnext : ((Walker.ofLists nodes connections handlers).standBehind s node).pending =
        Lists.successor connections node data next := by
      rw [← Graph.target_route_ofLists nodes]
      show (Walker.routeFor _ node (Walker.handledAt _ s node).verdict).target = _
      rw [hv]
      rfl
    rw [List.map_cons]
    show Lists.pending connections s.pending ((node, (Walker.handledAt _ s node).verdict) :: _) = _
    rw [hv, Lists.pending_cons, ← hnext, ih]

/-! ## What escapes -/

theorem Graph.escape_ofLists (nodes : List Node) (connections : List Connection) (node : Node) (handled : Handled σ) :
    (ofLists nodes connections).escape node handled = Lists.escape connections ⟨node, handled⟩ := by
  unfold escape Lists.escape
  cases handled.verdict with
  | completed data next => exact congrArg (fun asks : Bool => if asks then _ else _) (asksBranch_ofLists ..)
  | failed | raised => rfl

theorem Lists.escape_cons {connections : List Connection} {visit : Visit σ} (h : escape connections visit = none)
    (rest : List (Visit σ)) :
    (visit :: rest).getLast?.bind (escape connections) = rest.getLast?.bind (escape connections) := by
  cases rest with
  | nil => exact h
  | cons => rfl

/-- **What escapes from a walk is what escapes at its last visit.** -/
theorem Walker.escape_walkFrom (nodes : List Node) (connections : List Connection) (handlers : Handlers σ) (n : Nat)
    (s : Stand σ) :
    let walk := (ofLists nodes connections handlers).walkFrom n s
    let visits := handlers.replay (walk.steps.map (·.node)) s.context s.state
    walk.ending.escape? = visits.getLast?.bind (Lists.escape connections) := by
  have hk := isKeyed_ofLists nodes connections handlers
  have hat : ∀ s node, Lists.escape connections ⟨node, (ofLists nodes connections handlers).handledAt s node⟩ =
      (ofLists nodes connections handlers).escapeAt s node :=
    fun _ _ => (Graph.escape_ofLists nodes connections _ _).symm
  have hlast : ∀ {s node}, (ofLists nodes connections handlers).graph.node? s.pending = some node →
      (handlers.replay [node] s.context s.state).getLast?.bind (Lists.escape connections) =
        (ofLists nodes connections handlers).escapeAt s node := by
    intro s node hf
    have hvisits : handlers.replay [node] s.context s.state = _ := replay_cons_of_found hk hf []
    rw [hvisits]
    exact hat s node
  induction n, s using walkFrom_induction (ofLists nodes connections handlers) with
  | stops h =>
    cases h with
    | finished | capped | missing => rfl
    | failed _ hf hv => exact ((hlast hf).trans (escapeAt_of_failed _ hv)).symm
    | raised _ hf _ hescape | escaped _ hf hescape => exact ((hlast hf).trans hescape).symm
  | @completes n s node h ih =>
    intro walk visits
    have hvisits : visits = _ := replay_cons_of_found hk h.found
      (((ofLists nodes connections handlers).walkFrom n ((ofLists nodes connections handlers).standBehind s node)).steps.map
        Step.node)
    rw [hvisits, Lists.escape_cons ((hat s node).trans h.kept)]
    exact ih

/-! ## Which ending is due -/

variable (nodes : List Node) (connections : List Connection) (handlers : Handlers σ)

/-- No two endings are due. -/
theorem Ending.due_unique {start : String} {cap : Int} {told : List (Node × Verdict)} {a b : Ending}
    (ha : a.Due nodes connections start cap told) (hb : b.Due nodes connections start cap told) : a = b := by
  have hfailed : ∀ {error id}, lastVerdict told = some (.failed error) →
      Lists.pending connections start told ≠ some id := fun h => by
    rw [Lists.pending_eq_none connections start h fun _ _ => Verdict.noConfusion]
    exact nofun
  have hraised : ∀ {fault id}, lastVerdict told = some (.raised fault) →
      Lists.pending connections start told ≠ some id := fun h => by
    rw [Lists.pending_eq_none connections start h fun _ _ => Verdict.noConfusion]
    exact nofun
  cases a <;> cases b <;> simp only [Due] at ha hb <;> grind

theorem Ending.name_eq_failed {ending : Ending} :
    ending.name = "node_failed" ↔ ∃ error, ending = .failed error := by
  cases ending <;> simp [name]

theorem Ending.name_eq_raised {ending : Ending} :
    ending.name = "error" ↔ ∃ fault, ending = .raised fault := by
  cases ending <;> simp [name]

theorem Ending.name_eq_missing {ending : Ending} :
    ending.name = "missing_node" ↔ ∃ id, ending = .missing id := by
  cases ending <;> simp [name]

theorem Ending.name_eq_capped {ending : Ending} :
    ending.name = "max_executions" ↔ ending = .capped := by
  cases ending <;> simp [name]

theorem Ending.name_eq_finished {ending : Ending} (h : ending.escape? = none) :
    ending.name = "end" ↔ ending = .finished := by
  cases ending with
  | escaped => cases h
  | _ => simp [name]

theorem lastVerdict_concat (told : List (Node × Verdict)) (node : Node) (verdict : Verdict) :
    lastVerdict (told ++ [(node, verdict)]) = some verdict := by
  simp [lastVerdict]

/-- The ending that a walk has is due, unless something escapes. -/
theorem Walker.due_ending (cap : Int) (s : Stand σ) :
    let walk := (Walker.ofLists nodes connections handlers).walkFrom cap.toNat s
    walk.ending.escape? = none → walk.ending.Due nodes connections s.pending cap (walk.steps.map Step.told) := by
  obtain ⟨steps, t, k, last, ht, hn, hs, hw⟩ :=
    (Walker.ofLists nodes connections handlers).exists_trail cap.toNat s
  have hp := ht.pending
  intro walk hkept
  have hwalk : walk = last.behind steps := hw
  rw [hwalk] at hkept ⊢
  rw [Walk.steps_behind]
  cases hs with
  | finished h =>
    rw [Walk.steps_still, List.append_nil]
    exact hp.trans (congrArg some h)
  | capped h =>
    rw [Walk.steps_still, List.append_nil]
    refine ⟨t.pending, hp, h, ?_⟩
    rw [List.length_map]
    omega
  | missing h hnone =>
    rw [Walk.steps_still, List.append_nil]
    rw [graph_ofLists, Graph.node?_ofLists] at hnone
    refine ⟨hp, h, ?_, hnone⟩
    rw [List.length_map]
    omega
  | @failed k t node error _ _ hv | @raised k t node error _ _ hv =>
    rw [steps_lastAt, List.map_append]
    show lastVerdict (_ ++ [(node, (Walker.handledAt _ t node).verdict)]) = _
    rw [lastVerdict_concat, hv]
  | escaped => cases hkept

/-- An ending is due just when it is the one that the walk has, unless something escapes. -/
theorem Walker.due_iff_ending (cap : Int) (s : Stand σ) (ending : Ending) :
    let walk := (Walker.ofLists nodes connections handlers).walkFrom cap.toNat s
    walk.ending.escape? = none →
      (ending.Due nodes connections s.pending cap (walk.steps.map Step.told) ↔ ending = walk.ending) := by
  intro walk hkept
  have hdue := due_ending nodes connections handlers cap s hkept
  constructor
  · exact fun h => Ending.due_unique nodes connections h hdue
  · rintro rfl
    exact hdue

/-! ## The verdict of a run -/

variable (executionId : String) (workflow : Option String) (cap : Int) (trace : Trace) (start : String)
  (context : Context) (state : σ)

/-- The ending of a run without a fault is the one that is due behind the replay of its path, and the report tells it. -/
theorem Walker.run_due :
    let run := (Walker.ofLists nodes connections handlers).run ⟨executionId, workflow, .int cap⟩ trace start
      context state
    let told := (handlers.replay (run.report.path.filterMap (Lists.node? nodes)) context state).map Visit.told
    run.fault = none →
      (∀ ending : Ending, ending.Due nodes connections start cap told ↔ ending = run.walk.ending) ∧
        run.walk.ending.escape? = none ∧ run.report.ending = run.walk.ending.name ∧
          run.report.error = run.walk.ending.error := by
  intro run told hfault
  obtain ⟨hwalk, hreport, hkept⟩ := run_of_kept (ofLists nodes connections handlers) hfault
  obtain ⟨-, htold, -⟩ := run_replay nodes connections handlers executionId workflow cap trace start
    context state
  change run.walk = _ at hwalk
  change run.report = _ at hreport
  change run.walk.steps.map Step.told = told at htold
  refine ⟨fun ending => ?_, hwalk ▸ hkept, ?_, ?_⟩
  · rw [← htold, hwalk]
    exact due_iff_ending nodes connections handlers cap ⟨start, context, state⟩ ending hkept
  · rw [hreport, hwalk]
    rfl
  · rw [hreport, hwalk]
    rfl

/-- The fault of a run is what escapes at its last visit, or the refusal of a cap that cannot be told. -/
theorem Walker.run_fault :
    let run := (Walker.ofLists nodes connections handlers).run ⟨executionId, workflow, .int cap⟩ trace start
      context state
    let visits := handlers.replay (run.report.path.filterMap (Lists.node? nodes)) context state
    run.fault = (visits.getLast?.bind (Lists.escape connections)).or
      (if start ≠ "" ∧ cap < 0 ∧ Decimal.isLong cap = true then some (.value .tooLong) else none) := by
  intro run visits
  let s : Stand σ := ⟨start, context, state⟩
  obtain ⟨-, hreport, hfault⟩ := run_int (ofLists nodes connections handlers) executionId workflow cap trace start
    context state
  have hpath : run.report.path = ((ofLists nodes connections handlers).walkFrom cap.toNat s).path :=
    (congrArg Report.path hreport).trans (Walk.path_under _ _)
  have hnodes := path_filterMap_node? nodes connections handlers cap.toNat s
  rw [← hpath] at hnodes
  have hescape := escape_walkFrom nodes connections handlers cap.toNat s
  dsimp only at hescape
  rw [← hnodes] at hescape
  rw [hfault, escape_under, hescape]

/-- **The verdict of a run is exact where nothing escapes from it, and it is told what escapes.**  A run gives back the
context that its handlers and their data left.  What escapes is the refusal of its last visit: of the fault that a handler
raised, or of the data of a condition; or else a cap below zero is too long to be told.  Where none of them escapes, the
report says that a node failed, with its error, just when the last one failed; that there was an error, with its text,
just when the last one raised a fault; that a node is missing, and which, just when fewer nodes than the cap ran and the
one left to go to is not in the list; that the cap was reached just when as many nodes ran and there is still one to go
to; and that the run came to its end just when there is none.  One of these is the case. -/
theorem Walker.run_verdict_exact :
    let run := (Walker.ofLists nodes connections handlers).run ⟨executionId, workflow, .int cap⟩ trace start
      context state
    let report := run.report
    let visits := handlers.replay (report.path.filterMap (Lists.node? nodes)) context state
    let told := visits.map Visit.told
    let pending := Lists.pending connections start told
    report.path = told.map (·.1.id) ∧
      run.walk.context = Visit.contextBehind context visits ∧
      run.fault = (visits.getLast?.bind (Lists.escape connections)).or
        (if start ≠ "" ∧ cap < 0 ∧ Decimal.isLong cap = true then some (.value .tooLong) else none) ∧
      (run.fault = none →
        ((report.ending = "node_failed" ↔ ∃ error, lastVerdict told = some (.failed error)) ∧
          ∀ error, lastVerdict told = some (.failed error) → report.error = error) ∧
        ((report.ending = "error" ↔ ∃ fault, lastVerdict told = some (.raised fault)) ∧
          ∀ fault, lastVerdict told = some (.raised fault) → report.error = some fault.message) ∧
        ((report.ending = "missing_node" ↔ ∃ id, pending = some id ∧ id ≠ "" ∧
            (report.path.length : Int) < cap ∧ Lists.node? nodes id = none) ∧
          ∀ id, report.ending = "missing_node" → pending = some id →
            report.error = some ("Node " ++ id ++ " not found")) ∧
        (report.ending = "max_executions" ↔ ∃ id, pending = some id ∧ id ≠ "" ∧
          (report.path.length : Int) = max cap 0) ∧
        (report.ending = "end" ↔ pending = some "") ∧
        ∃! ending : Ending, ending.Due nodes connections start cap told) := by
  intro run report visits told pending
  obtain ⟨hpath, -, hcontext, -⟩ := run_replay nodes connections handlers executionId workflow cap trace
    start context state
  have hids : report.path = told.map (·.1.id) := by
    rw [List.map_map]
    exact hpath
  have hlength : report.path.length = told.length := by rw [hids, List.length_map]
  refine ⟨hids, hcontext, run_fault nodes connections handlers executionId workflow cap trace start context state,
    fun hfault => ?_⟩
  obtain ⟨hdue, hkept, hname, herror⟩ := run_due nodes connections handlers executionId workflow cap trace start
    context state hfault
  change (∀ ending : Ending, ending.Due nodes connections start cap told ↔ ending = run.walk.ending) at hdue
  change report.ending = _ at hname
  change report.error = _ at herror
  rw [hlength, hname, herror]
  refine ⟨⟨?_, ?_⟩, ⟨?_, ?_⟩, ⟨?_, ?_⟩, ?_, ?_, ?_⟩
  · rw [Ending.name_eq_failed]
    exact exists_congr fun error => (eq_comm.trans (hdue (.failed error)).symm)
  · intro error h
    rw [← (hdue (.failed error)).mp h]
    rfl
  · rw [Ending.name_eq_raised]
    exact exists_congr fun fault => (eq_comm.trans (hdue (.raised fault)).symm)
  · intro fault h
    rw [← (hdue (.raised fault)).mp h]
    rfl
  · rw [Ending.name_eq_missing]
    exact exists_congr fun id => (eq_comm.trans (hdue (.missing id)).symm)
  · intro id h hp
    obtain ⟨other, he⟩ := Ending.name_eq_missing.mp h
    have hother : pending = some other := ((hdue (.missing other)).mpr he.symm).1
    obtain rfl : other = id := Option.some.inj (hother.symm.trans hp)
    rw [he]
    rfl
  · rw [Ending.name_eq_capped, eq_comm]
    exact (hdue .capped).symm
  · rw [Ending.name_eq_finished hkept, eq_comm]
    exact (hdue .finished).symm
  · exact ⟨run.walk.ending, (hdue _).mpr rfl, fun ending h => (hdue ending).mp h⟩

/-! ## Two refusals -/

/-- A condition. -/
def asked : List Node := [{ id := "c", kind := .condition, data := [] }]

/-- A connection that leaves it. -/
def askedFrom : List Connection := [{ id := "1", source := "c", target := "c" }]

/-- Handlers that tell whether a condition was met by an object without an answer. -/
def refusing : Handlers Unit := fun _ => some fun _ _ context state =>
  { verdict := .completed (some [("conditionMet", .null)]) none, context, state,
    refusal := some (.general "it has no truth value") }

/-- An integer below zero with one digit more than a text may have. -/
def longCap : Int := -(10 ^ Decimal.longest : Nat)

theorem longCap_neg : longCap < 0 := Int.neg_neg_of_pos (Int.natCast_pos.mpr (Nat.pow_pos (by decide)))

theorem isLong_longCap : Decimal.isLong longCap = true := by
  rw [Decimal.isLong_iff, longCap, Int.natAbs_neg, Int.natAbs_natCast]

/-- A cap below zero that is too long for a text is refused when it is told. -/
theorem Walker.run_fault_of_isLong (walker : Walker σ) {cap : Int} (hneg : cap < 0) (hlong : Decimal.isLong cap = true)
    (executionId : String) (workflow : Option String) (trace : Trace) {start : String} (hstart : start ≠ "")
    (context : Context) (state : σ) :
    (walker.run ⟨executionId, workflow, .int cap⟩ trace start context state).fault = some (.value .tooLong) := by
  obtain ⟨-, -, hfault⟩ := walker.run_int executionId workflow cap trace start context state
  rw [hfault, escape_under, Int.toNat_of_nonpos (Int.le_of_lt hneg), walkFrom_of_stops (.capped hstart),
    if_pos ⟨hstart, hneg, hlong⟩]
  rfl

/-- **A run may be left by a fault**: when the data of a condition refuse to say whether it was met, and when a cap
below zero is too long for the text in which it is told. -/
theorem Walker.run_verdict_refused :
    let run (cap : Int) := (ofLists asked askedFrom refusing).run ⟨"x", none, .int cap⟩ [] "c" { user := .number 1 } ()
    (run 50).fault = some (.general "it has no truth value") ∧ (run longCap).fault = some (.value .tooLong) := by
  intro run
  refine ⟨rfl, ?_⟩
  exact run_fault_of_isLong _ longCap_neg isLong_longCap "x" none [] (by decide) _ ()

end Chatflow
