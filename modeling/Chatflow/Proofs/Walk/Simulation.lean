import Chatflow.Proofs.Walk.Trail

/-!
# Walks in lockstep

Two walkers on one graph may have states of different kinds.  When their nodes do the same on related states, but for
what they make of the states, and leave related states again (`Handled.Follows`), the walkers go the same way
(`walkFrom_follows`), and so do runs (`run_follows`).

When their nodes do the same altogether, but for what they log (`Handled.Alike`), so do runs (`run_alike`).
-/

namespace Chatflow

variable {σ τ : Type} (R : σ → τ → Prop)

/-- Two handlings with the same verdict and context, that refuse the same, and with related states; what they logged may
differ. -/
structure Handled.Follows (first : Handled σ) (second : Handled τ) : Prop where
  verdict : first.verdict = second.verdict
  context : first.context = second.context
  refusal : first.refusal = second.refusal
  state : R first.state second.state

/-- Two stands at the same node with the same context, and with related states. -/
structure Stand.Follows (first : Stand σ) (second : Stand τ) : Prop where
  pending : first.pending = second.pending
  context : first.context = second.context
  state : R first.state second.state

/-- Two walks through the same nodes with the same end and context, and with related states. -/
structure Walk.Follows (first : Walk σ) (second : Walk τ) : Prop where
  path : first.path = second.path
  ending : first.ending = second.ending
  context : first.context = second.context
  state : R first.state second.state

/-- Two handlings that are the same; what they logged may differ. -/
abbrev Handled.Alike (first second : Handled σ) : Prop := first.Follows Eq second

/-- Two walks through the same nodes with the same end, context and state. -/
abbrev Walk.Alike (first second : Walk σ) : Prop := first.Follows Eq second

variable {R}

theorem Walk.Follows.report {first : Walk σ} {second : Walk τ} (h : first.Follows R second) (executionId : String) :
    first.report executionId = second.report executionId := by
  rw [Walk.report, Walk.report, h.path, h.ending]

/-- Walks that follow each other still do so under a cap. -/
theorem Walk.Follows.under {first : Walk σ} {second : Walk τ} (h : first.Follows R second) (cap : Cap) :
    (first.under cap).Follows R (second.under cap) := by
  obtain ⟨hpath, hending, hcontext, hstate⟩ := h
  refine ⟨by simpa using hpath, ?_, by simpa using hcontext, by simpa using hstate⟩
  unfold Walk.under
  rw [← hending]
  split
  · rfl
  · exact hending

namespace Walker

variable {first : Walker σ} {second : Walker τ} (hg : first.graph = second.graph)

theorem handledAt_follows {s : Stand σ} {t : Stand τ} {node : Node} (hst : s.Follows R t)
    (h : ∀ state other, R state other → (first.handlers.visit node (s.context.at s.pending) state).Follows R
      (second.handlers.visit node (s.context.at s.pending) other)) :
    (first.handledAt s node).Follows R (second.handledAt t node) := by
  rw [handledAt, handledAt, ← hst.pending, ← hst.context]
  exact h s.state t.state hst.state

theorem lastAt_follows {s : Stand σ} {t : Stand τ} {node : Node} (ending : Ending)
    (h : (first.handledAt s node).Follows R (second.handledAt t node)) :
    (first.lastAt s node ending).Follows R (second.lastAt t node ending) := by
  refine ⟨rfl, rfl, ?_, h.state⟩
  simp only [lastAt, Walk.cons, Walk.still, Handled.settled, h.verdict, h.context]

include hg

theorem escapeAt_follows {s : Stand σ} {t : Stand τ} {node : Node}
    (h : (first.handledAt s node).Follows R (second.handledAt t node)) :
    first.escapeAt s node = second.escapeAt t node := by
  simp only [escapeAt, Graph.escape, h.verdict, h.refusal, hg]

theorem standBehind_follows {s : Stand σ} {t : Stand τ} {node : Node}
    (h : (first.handledAt s node).Follows R (second.handledAt t node)) :
    (first.standBehind s node).Follows R (second.standBehind t node) := by
  refine ⟨?_, ?_, h.state⟩
  · simp only [standBehind, routeFor, h.verdict, hg]
  · simp only [standBehind, Handled.settled, h.verdict, h.context]

/-- **Walkers on one graph whose nodes do the same on related states go the same way.** -/
theorem walkFrom_follows (n : Nat) {s : Stand σ} {t : Stand τ} (hst : s.Follows R t)
    (h : ∀ step ∈ (first.walkFrom n s).steps, ∀ state other, R state other →
      (first.handlers.visit step.node step.before state).Follows R
        (second.handlers.visit step.node step.before other)) :
    (first.walkFrom n s).Follows R (second.walkFrom n t) := by
  induction n, s using walkFrom_induction first generalizing t with
  | @stops n s last hs =>
    obtain ⟨hpending, hcontext, hstate⟩ := hst
    cases hs with
    | finished hp =>
      have hsecond : second.walkFrom n t = _ := walkFrom_of_stops (.finished (hpending ▸ hp))
      exact hsecond ▸ ⟨rfl, rfl, hcontext, hstate⟩
    | capped hp =>
      have hsecond : second.walkFrom 0 t = _ := walkFrom_of_stops (.capped (hpending ▸ hp))
      exact hsecond ▸ ⟨rfl, rfl, hcontext, hstate⟩
    | @missing n s hp hn =>
      have hsecond : second.walkFrom (n + 1) t = _ :=
        walkFrom_of_stops (.missing (hpending ▸ hp) (hg ▸ hpending ▸ hn))
      exact hsecond ▸ ⟨rfl, by rw [hpending]; rfl, hcontext, hstate⟩
    | @failed n s node error hp hf hv =>
      have hnode := handledAt_follows ⟨hpending, hcontext, hstate⟩ (h (first.stepAt s node) (by simp))
      have hsecond : second.walkFrom (n + 1) t = _ :=
        walkFrom_of_stops (.failed (hpending ▸ hp) (hg ▸ hpending ▸ hf) (hnode.verdict ▸ hv))
      exact hsecond ▸ lastAt_follows _ hnode
    | @raised n s node fault hp hf hv hkept =>
      have hnode := handledAt_follows ⟨hpending, hcontext, hstate⟩ (h (first.stepAt s node) (by simp))
      have hsecond : second.walkFrom (n + 1) t = _ := walkFrom_of_stops
        (.raised (hpending ▸ hp) (hg ▸ hpending ▸ hf) (hnode.verdict ▸ hv) (escapeAt_follows hg hnode ▸ hkept))
      exact hsecond ▸ lastAt_follows _ hnode
    | @escaped n s node fault hp hf hescape =>
      have hnode := handledAt_follows ⟨hpending, hcontext, hstate⟩ (h (first.stepAt s node) (by simp))
      have hsecond : second.walkFrom (n + 1) t = _ := walkFrom_of_stops
        (.escaped (hpending ▸ hp) (hg ▸ hpending ▸ hf) (escapeAt_follows hg hnode ▸ hescape))
      exact hsecond ▸ lastAt_follows _ hnode
  | @completes n s node hc ih =>
    have hnode := handledAt_follows hst (h (first.stepAt s node) List.mem_cons_self)
    obtain ⟨hp, hf, ⟨data, next, hv⟩, hkept⟩ := hc
    have hcompletes : second.Completes t node :=
      ⟨hst.pending ▸ hp, hg ▸ hst.pending ▸ hf, ⟨data, next, hnode.verdict ▸ hv⟩, escapeAt_follows hg hnode ▸ hkept⟩
    obtain ⟨hpath, hending, hcontext, hstate⟩ := ih (standBehind_follows hg hnode)
      fun step hstep => h step (List.mem_cons_of_mem _ hstep)
    rw [walkFrom_of_completes hcompletes]
    exact ⟨congrArg (node.id :: ·) hpath, hending, hcontext, hstate⟩

/-- **Runs on one graph whose nodes do the same on related states have the same report**, and follow each other. -/
theorem run_follows (h : ∀ node context state other, R state other →
      (first.handlers.visit node context state).Follows R (second.handlers.visit node context other))
    (setup : RunSetup) (trace trace' : Trace) (start : String) (context : Context) {state : σ} {other : τ}
    (hstate : R state other) :
    let run := first.run setup trace start context state
    let run' := second.run setup trace' start context other
    run.walk.Follows R run'.walk ∧ run.report = run'.report ∧ run.fault = run'.fault := by
  intro run run'
  simp only [run, run', Walker.run]
  cases if start.isEmpty then some (.ofInt 0) else Cap.ofValue? setup.cap with
  | none => exact ⟨⟨rfl, rfl, rfl, hstate⟩, rfl, rfl⟩
  | some cap =>
    have hwalk : ((first.walkFrom cap.allowed ⟨start, context, state⟩).under cap).Follows R
        ((second.walkFrom cap.allowed ⟨start, context, other⟩).under cap) :=
      (walkFrom_follows hg cap.allowed ⟨rfl, rfl, hstate⟩ fun step _ => h step.node step.before).under cap
    exact ⟨hwalk, hwalk.report _, congrArg Ending.escape? hwalk.ending⟩

end Walker

/-! ## Nodes that do the same -/

namespace Walker

/-- **Runs on one graph whose nodes do the same are the same**, but for what was logged. -/
theorem run_alike {first second : Walker σ} (hg : first.graph = second.graph)
    (h : ∀ node context state, (first.handlers.visit node context state).Alike
      (second.handlers.visit node context state))
    (setup : RunSetup) (trace trace' : Trace) (start : String) (context : Context) (state : σ) :
    let run := first.run setup trace start context state
    let run' := second.run setup trace' start context state
    run.walk.Alike run'.walk ∧ run.report = run'.report ∧ run.fault = run'.fault := by
  refine run_follows hg (fun node context state other hstate => ?_) setup trace trace' start context rfl
  subst hstate
  exact h node context state

end Walker

end Chatflow
