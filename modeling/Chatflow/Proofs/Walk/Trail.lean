import Chatflow.Walk.Report

/-!
# Trails

A trail is a row of nodes that all completed, each from the stand that the one before left (`Trail`).  Every walk is
a trail and, behind it, the one thing that stopped it (`Stops`): `exists_trail`.  Conversely a trail may be taken off
the front of a walk together with as many nodes of its allowance: `Trail.walkFrom_add`.

* `walkFrom_induction`: induction along walks; `exists_stepAt`: what their steps are; `walkFrom_gains`, `run_gains`: what
  walks and runs gather.
* `run_int`, `run_natCast`: a run under an integer is such a walk, with its report; its fault is what escapes.
-/

namespace Chatflow

variable {σ : Type}

/-- Where a walk stands: the id to go to, the context, and the state of the handlers. -/
structure Stand (σ : Type) where
  pending : String
  context : Context
  state : σ

@[simp] theorem Context.merge_none (context : Context) : context.merge none = context := rfl

/-- A visit that was not completed leaves its context as it is to the next one. -/
theorem Handled.settled_of_not_completed {handled : Handled σ}
    (h : ∀ data next, handled.verdict ≠ .completed data next) : handled.settled = handled.context := by
  unfold settled
  cases hv : handled.verdict with
  | completed data next => exact absurd hv (h data next)
  | failed | raised => rfl

/-- Steps, each with the number of readings of the clock that are used up when it begins; a step uses up as many as the
pace says. -/
def Step.timed (pace : Nat) : Nat → List Step → List (Step × Nat)
  | _, [] => []
  | ticks, step :: steps => (step, ticks) :: timed pace (ticks + pace) steps

theorem Step.timed_cons (pace ticks : Nat) (step : Step) (steps : List Step) :
    timed pace ticks (step :: steps) = (step, ticks) :: timed pace (ticks + pace) steps := rfl

@[simp] theorem Step.map_fst_timed (pace ticks : Nat) (steps : List Step) : (timed pace ticks steps).map (·.1) = steps := by
  induction steps generalizing ticks with
  | nil => rfl
  | cons step steps ih => rw [timed_cons, List.map_cons, ih]

theorem Step.mem_of_mem_timed {pace ticks : Nat} {steps : List Step} {timed : Step × Nat}
    (h : timed ∈ Step.timed pace ticks steps) : timed.1 ∈ steps := by
  rw [← map_fst_timed pace ticks steps]
  exact List.mem_map_of_mem h

/-- A walk with steps put in front of it. -/
def Walk.behind (walk : Walk σ) (steps : List Step) : Walk σ :=
  { walk with steps := steps ++ walk.steps }

@[simp] theorem Walk.steps_still (ending : Ending) (context : Context) (state : σ) :
    (Walk.still ending context state).steps = [] := rfl

@[simp] theorem Walk.steps_behind (walk : Walk σ) (steps : List Step) :
    (walk.behind steps).steps = steps ++ walk.steps := rfl

theorem Walk.path_behind (walk : Walk σ) (steps : List Step) :
    (walk.behind steps).path = steps.map (·.node.id) ++ walk.path := List.map_append

@[simp] theorem Walk.behind_nil (walk : Walk σ) : walk.behind [] = walk := rfl

theorem Walk.behind_cons (walk : Walk σ) (step : Step) (steps : List Step) :
    walk.behind (step :: steps) = (walk.behind steps).cons step := rfl

/-! ## Caps -/

@[simp] theorem Cap.reached_natCast (n : Nat) : (Cap.ofInt n).reached = .capped := by
  rw [Cap.ofInt, if_neg (by omega)]

/-- An integer is reached as a cap, or it is too long for a text and below zero. -/
theorem Cap.reached_ofInt (n : Int) : (Cap.ofInt n).reached = .capped ∨
    n < 0 ∧ Decimal.isLong n = true ∧ (Cap.ofInt n).reached = .escaped (.value .tooLong) := by
  unfold Cap.ofInt
  split
  · exact .inr ⟨‹_ ∧ _›.1, ‹_ ∧ _›.2, rfl⟩
  · exact .inl rfl

/-- What escapes at a cap: nothing, but that an infinite one has no end, and that an integer below zero, which allows no
node, may be too long for a text. -/
theorem Cap.escape?_reached {v : Value} {cap : Cap} (h : Cap.ofValue? v = some cap) :
    cap.reached.escape? = none ∨ (v = .real (.infinite false) ∧ cap.reached.escape? = some .endless) ∨
      cap.allowed = 0 ∧ cap.reached.escape? = some (.value .tooLong) ∧ ∃ n, v = .int n ∧ Decimal.isLong n = true := by
  cases v with
  | bool b =>
    obtain rfl := Option.some.inj h
    exact .inl rfl
  | int n =>
    obtain rfl := Option.some.inj h
    rcases Cap.reached_ofInt n with hn | ⟨hneg, hlong, hn⟩
    · exact .inl (congrArg Ending.escape? hn)
    · exact .inr (.inr ⟨Int.toNat_of_nonpos (Int.le_of_lt hneg), congrArg Ending.escape? hn, n, rfl, hlong⟩)
  | real x =>
    cases x with
    | nan | finite =>
      obtain rfl := Option.some.inj h
      exact .inl rfl
    | infinite negative =>
      obtain rfl := Option.some.inj h
      cases negative
      · exact .inr (.inl ⟨rfl, rfl⟩)
      · exact .inl rfl
  | _ => cases h

namespace Walk

variable (walk : Walk σ) (cap : Cap)

@[simp] theorem steps_under : (walk.under cap).steps = walk.steps := by
  unfold under
  split <;> rfl

@[simp] theorem context_under : (walk.under cap).context = walk.context := by
  unfold under
  split <;> rfl

@[simp] theorem state_under : (walk.under cap).state = walk.state := by
  unfold under
  split <;> rfl

@[simp] theorem path_under : (walk.under cap).path = walk.path := by
  rw [path, path, steps_under]

theorem under_of_ne {walk : Walk σ} (h : walk.ending ≠ .capped) (cap : Cap) : walk.under cap = walk := by
  unfold under
  split
  · exact absurd ‹_› h
  · rfl

theorem under_of_reached {cap : Cap} (h : cap.reached = .capped) : walk.under cap = walk := by
  unfold under
  split
  next hcapped => rw [h, ← hcapped]
  next => rfl

/-- Where nothing escapes from a walk under an integer, the walk is not changed by it. -/
theorem under_of_kept {walk : Walk σ} {n : Int} (h : (walk.under (.ofInt n)).ending.escape? = none) :
    walk.under (.ofInt n) = walk := by
  rcases Cap.reached_ofInt n with hreached | ⟨-, -, hreached⟩
  · exact walk.under_of_reached hreached
  · refine under_of_ne (fun hcapped => ?_) _
    simp only [under, hcapped, hreached] at h
    exact nomatch h

@[simp] theorem ending_behind (steps : List Step) : (walk.behind steps).ending = walk.ending := rfl

end Walk

namespace Walker

variable (walker : Walker σ)

/-- The walk from a stand. -/
def walkFrom (allowed : Nat) (s : Stand σ) : Walk σ := walker.walk allowed s.pending s.context s.state

/-- What handling a node at a stand gives. -/
def handledAt (s : Stand σ) (node : Node) : Handled σ :=
  walker.handlers.visit node (s.context.at s.pending) s.state

/-- The route that a verdict leads along. -/
def routeFor (node : Node) : Verdict → Route
  | .completed data next => walker.graph.route node data next
  | _ => .nowhere

/-- What escapes from the walk at a node at a stand. -/
def escapeAt (s : Stand σ) (node : Node) : Option Fault := walker.graph.escape node (walker.handledAt s node)

/-- The step that is told of a node at a stand; where something escapes it leads nowhere. -/
def stepAt (s : Stand σ) (node : Node) : Step :=
  let handled := walker.handledAt s node
  let escape := walker.escapeAt s node
  { node, before := s.context.at s.pending, verdict := handled.verdict, records := handled.records,
    after := handled.settled,
    route := if escape.isSome then .nowhere else walker.routeFor node handled.verdict, escape }

/-- The stand behind a node. -/
def standBehind (s : Stand σ) (node : Node) : Stand σ :=
  let handled := walker.handledAt s node
  ⟨(walker.routeFor node handled.verdict).target, handled.settled, handled.state⟩

/-- The node at a stand is there and completes, and nothing escapes. -/
structure Completes (s : Stand σ) (node : Node) : Prop where
  pending : s.pending ≠ ""
  found : walker.graph.node? s.pending = some node
  completed : ∃ data next, (walker.handledAt s node).verdict = .completed data next
  kept : walker.escapeAt s node = none

/-- A row of nodes that complete one behind the other. -/
inductive Trail : Stand σ → List Step → Stand σ → Prop
  | nil (s : Stand σ) : Trail s [] s
  | cons {s t : Stand σ} {node : Node} {steps : List Step} (first : walker.Completes s node)
      (rest : Trail (walker.standBehind s node) steps t) : Trail s (walker.stepAt s node :: steps) t

/-- A walk with nothing but the node at a stand, which ends it. -/
def lastAt (s : Stand σ) (node : Node) (ending : Ending) : Walk σ :=
  .cons (walker.stepAt s node)
    (.still ending (walker.handledAt s node).settled (walker.handledAt s node).state)

@[simp] theorem steps_lastAt (s : Stand σ) (node : Node) (ending : Ending) :
    (walker.lastAt s node ending).steps = [walker.stepAt s node] := rfl

/-- How a walk with so many nodes still allowed stops at a stand, and what it does there last. -/
inductive Stops : Nat → Stand σ → Walk σ → Prop
  | finished {n : Nat} {s : Stand σ} (nowhere : s.pending = "") :
      Stops n s (.still .finished s.context s.state)
  | capped {s : Stand σ} (pending : s.pending ≠ "") : Stops 0 s (.still .capped s.context s.state)
  | missing {n : Nat} {s : Stand σ} (pending : s.pending ≠ "")
      (absent : walker.graph.node? s.pending = none) :
      Stops (n + 1) s (.still (.missing s.pending) s.context s.state)
  | failed {n : Nat} {s : Stand σ} {node : Node} {error : Option String} (pending : s.pending ≠ "")
      (found : walker.graph.node? s.pending = some node)
      (verdict : (walker.handledAt s node).verdict = .failed error) :
      Stops (n + 1) s (walker.lastAt s node (.failed error))
  | raised {n : Nat} {s : Stand σ} {node : Node} {fault : Fault} (pending : s.pending ≠ "")
      (found : walker.graph.node? s.pending = some node)
      (verdict : (walker.handledAt s node).verdict = .raised fault) (kept : walker.escapeAt s node = none) :
      Stops (n + 1) s (walker.lastAt s node (.raised fault))
  | escaped {n : Nat} {s : Stand σ} {node : Node} {fault : Fault} (pending : s.pending ≠ "")
      (found : walker.graph.node? s.pending = some node) (escape : walker.escapeAt s node = some fault) :
      Stops (n + 1) s (walker.lastAt s node (.escaped fault))

variable {walker}

/-! ## Single nodes -/

variable (walker) in
/-- Nothing escapes from a walk at a node that failed. -/
theorem escapeAt_of_failed {s : Stand σ} {node : Node} {error : Option String}
    (h : (walker.handledAt s node).verdict = .failed error) : walker.escapeAt s node = none := by
  rw [escapeAt, Graph.escape, h]

theorem walkFrom_of_completes {s : Stand σ} {node : Node} (h : walker.Completes s node) (n : Nat) :
    walker.walkFrom (n + 1) s =
      (walker.walkFrom n (walker.standBehind s node)).cons (walker.stepAt s node) := by
  obtain ⟨hp, hf, ⟨data, next, hv⟩, hkept⟩ := h
  unfold walkFrom
  rw [walk, if_neg (by simpa using hp), hf]
  simp only [escapeAt, handledAt] at hv hkept
  simp only [hv, hkept, standBehind, stepAt, escapeAt, handledAt, routeFor]
  rfl

theorem walkFrom_of_stops {n : Nat} {s : Stand σ} {last : Walk σ} (h : walker.Stops n s last) :
    walker.walkFrom n s = last := by
  unfold walkFrom
  cases h with
  | finished hp => cases n <;> simp [walk, hp]
  | capped hp => simp [walk, hp]
  | missing hp hn =>
    rw [walk, if_neg (by simpa using hp), hn]
  | failed hp hf hv =>
    have hkept := walker.escapeAt_of_failed hv
    rw [walk, if_neg (by simpa using hp), hf]
    simp only [escapeAt, handledAt] at hv hkept
    simp only [hv, hkept, lastAt, stepAt, escapeAt, handledAt, routeFor]
    rfl
  | raised hp hf hv hkept =>
    rw [walk, if_neg (by simpa using hp), hf]
    simp only [escapeAt, handledAt] at hv hkept
    simp only [hv, hkept, lastAt, stepAt, escapeAt, handledAt, routeFor]
    rfl
  | escaped hp hf hescape =>
    rw [walk, if_neg (by simpa using hp), hf]
    simp only [escapeAt, handledAt] at hescape
    simp only [hescape, lastAt, stepAt, escapeAt, handledAt]
    rfl

theorem Stops.length_le {n : Nat} {s : Stand σ} {last : Walk σ} (h : walker.Stops n s last) :
    last.steps.length ≤ 1 := by
  cases h with
  | finished | capped | missing => exact Nat.zero_le 1
  | failed | raised | escaped => exact Nat.le_refl 1

variable (walker) in
/-- At every stand a walk stops, or it is allowed another node, which completes. -/
theorem stops_or_completes (n : Nat) (s : Stand σ) :
    (∃ last, walker.Stops n s last) ∨ (∃ k node, n = k + 1 ∧ walker.Completes s node) := by
  by_cases hp : s.pending = ""
  · exact Or.inl ⟨_, .finished hp⟩
  cases n with
  | zero => exact Or.inl ⟨_, .capped hp⟩
  | succ n =>
    cases hf : walker.graph.node? s.pending with
    | none => exact Or.inl ⟨_, .missing hp hf⟩
    | some node =>
      cases hescape : walker.escapeAt s node with
      | some fault => exact Or.inl ⟨_, .escaped hp hf hescape⟩
      | none =>
        cases hv : (walker.handledAt s node).verdict with
        | completed data next => exact Or.inr ⟨n, node, rfl, hp, hf, ⟨data, next, hv⟩, hescape⟩
        | failed error => exact Or.inl ⟨_, .failed hp hf hv⟩
        | raised fault => exact Or.inl ⟨_, .raised hp hf hv hescape⟩

variable (walker) in
/-- Induction along walks: what holds where a walk stops, and in front of a node that completes if it holds behind it,
holds of every walk. -/
theorem walkFrom_induction {motive : Nat → Stand σ → Walk σ → Prop}
    (stops : ∀ {n : Nat} {s : Stand σ} {last : Walk σ}, walker.Stops n s last → motive n s last)
    (completes : ∀ {n : Nat} {s : Stand σ} {node : Node}, walker.Completes s node →
      motive n (walker.standBehind s node) (walker.walkFrom n (walker.standBehind s node)) →
        motive (n + 1) s
          ((walker.walkFrom n (walker.standBehind s node)).cons (walker.stepAt s node)))
    (n : Nat) (s : Stand σ) : motive n s (walker.walkFrom n s) := by
  induction n generalizing s with
  | zero =>
    rcases stops_or_completes walker 0 s with ⟨last, h⟩ | ⟨k, node, hk, _⟩
    · exact walkFrom_of_stops h ▸ stops h
    · omega
  | succ n ih =>
    rcases stops_or_completes walker (n + 1) s with ⟨last, h⟩ | ⟨k, node, hk, h⟩
    · exact walkFrom_of_stops h ▸ stops h
    · exact walkFrom_of_completes h n ▸ completes h (ih _)

/-- **Each step of a walk is that of a node found at a stand.** -/
theorem exists_stepAt {n : Nat} {s : Stand σ} {step : Step} (h : step ∈ (walker.walkFrom n s).steps) :
    ∃ t node, t.pending ≠ "" ∧ walker.graph.node? t.pending = some node ∧ step = walker.stepAt t node := by
  induction n, s using walkFrom_induction walker with
  | stops hs =>
    cases hs with
    | finished | capped | missing => cases h
    | failed hp hf | raised hp hf | escaped hp hf => exact ⟨_, _, hp, hf, List.mem_singleton.mp h⟩
  | completes hc ih =>
    rcases List.mem_cons.mp h with heq | hrest
    · exact ⟨_, _, hc.pending, hc.found, heq⟩
    · exact ih hrest

/-- Each node adds something to a part of the context and the state, which neither the id of the node nor new variables
touch.  What a node adds may depend on how many readings of the clock are used up, of which each node that completes
uses up as many. -/
structure Gains {α : Type} (handlers : Handlers σ) (part : Context → σ → List α) (ticks : σ → Nat) (pace : Nat)
    (gain : Nat → Node → Context → List α) : Prop where
  at_id : ∀ context state id, part (context.at id) state = part context state
  merge : ∀ context state data, part (context.merge data) state = part context state
  visit : ∀ node context state, let handled := handlers.visit node context state
    part handled.context handled.state = part context state ++ gain (ticks state) node context
  paced : ∀ node context state data next, let handled := handlers.visit node context state
    handled.verdict = .completed data next → ticks handled.state = ticks state + pace

/-- **What walks gather.**  A walk adds what its nodes do, in their order. -/
theorem walkFrom_gains {α : Type} {part : Context → σ → List α} {ticks : σ → Nat} {pace : Nat}
    {gain : Nat → Node → Context → List α} (h : Gains walker.handlers part ticks pace gain) (n : Nat) (s : Stand σ) :
    part (walker.walkFrom n s).context (walker.walkFrom n s).state =
      part s.context s.state ++ (Step.timed pace (ticks s.state) (walker.walkFrom n s).steps).flatMap
        fun timed => gain timed.2 timed.1.node timed.1.before := by
  -- A node gains the same whether it is the last of the walk or one behind which the walk goes on.
  have hnode : ∀ s node, part (walker.handledAt s node).settled (walker.handledAt s node).state =
      part s.context s.state ++ gain (ticks s.state) node (s.context.at s.pending) := by
    intro s node
    rw [Handled.settled, h.merge, ← h.at_id s.context s.state s.pending]
    exact h.visit node (s.context.at s.pending) s.state
  induction n, s using walkFrom_induction walker with
  | stops hs =>
    cases hs with
    | finished | capped | missing => exact (List.append_nil _).symm
    | failed | raised | escaped =>
      rw [steps_lastAt, Step.timed_cons, Step.timed, List.flatMap_singleton]
      exact hnode _ _
  | @completes n s node hc ih =>
    obtain ⟨data, next, hv⟩ := hc.completed
    have hpace : ticks (walker.standBehind s node).state = ticks s.state + pace := h.paced _ _ _ _ _ hv
    refine ih.trans ?_
    rw [Walk.cons, Step.timed_cons, List.flatMap_cons, ← List.append_assoc, hpace]
    exact congrArg (· ++ _) (hnode s node)

/-! ## Trails -/

/-- **A trail is the beginning of every walk from its first stand that is allowed as many nodes.** -/
theorem Trail.walkFrom_add {s t : Stand σ} {steps : List Step} (h : walker.Trail s steps t) (n : Nat) :
    walker.walkFrom (steps.length + n) s = (walker.walkFrom n t).behind steps := by
  induction h with
  | nil => simp
  | cons first _ ih =>
    rw [List.length_cons, Nat.add_right_comm, walkFrom_of_completes first, ih, Walk.behind_cons]

/-- A trail that leads somewhere is all of the walk that is allowed just its nodes. -/
theorem Trail.walkFrom_length {s t : Stand σ} {steps : List Step} (h : walker.Trail s steps t)
    (hp : t.pending ≠ "") :
    walker.walkFrom steps.length s = (Walk.still .capped t.context t.state).behind steps := by
  have hcut := h.walkFrom_add 0
  rwa [Nat.add_zero, walkFrom_of_stops (.capped hp)] at hcut

variable (walker) in
/-- **Every walk is a trail and what stops it.** -/
theorem exists_trail (n : Nat) (s : Stand σ) : ∃ steps t k last,
    walker.Trail s steps t ∧ n = steps.length + k ∧ walker.Stops k t last ∧
      walker.walkFrom n s = last.behind steps := by
  induction n, s using walkFrom_induction walker with
  | stops h => exact ⟨[], _, _, _, .nil _, by simp, h, by simp⟩
  | completes h ih =>
    obtain ⟨steps, t, k, last, ht, hn, hs, hw⟩ := ih
    refine ⟨_, t, k, last, .cons h ht, ?_, hs, ?_⟩
    · rw [List.length_cons]
      omega
    · rw [hw, Walk.behind_cons]

variable (walker) in
/-- Nothing escapes from a walk whose handlers give back nothing that refuses to answer. -/
theorem escape_of_willing (h : ∀ node context state, (walker.handlers.visit node context state).refusal = none) (n : Nat)
    (s : Stand σ) : (walker.walkFrom n s).ending.escape? = none := by
  obtain ⟨steps, t, k, last, -, -, hs, hw⟩ := walker.exists_trail n s
  rw [hw, Walk.ending_behind]
  cases hs with
  | finished | capped | missing | failed | raised => rfl
  | escaped hp hf hescape =>
    have hwilling : ∀ node, (walker.handledAt t node).refusal = none := fun _ => h _ _ _
    simp only [escapeAt, Graph.escape, hwilling, ite_self] at hescape
    split at hescape <;> cases hescape

variable (walker) in
/-- What escapes from a walk under an integer is what escapes from the walk, or the refusal of the integer. -/
theorem escape_under (cap : Int) (s : Stand σ) :
    ((walker.walkFrom cap.toNat s).under (.ofInt cap)).ending.escape? =
      (walker.walkFrom cap.toNat s).ending.escape?.or
        (if s.pending ≠ "" ∧ cap < 0 ∧ Decimal.isLong cap = true then some (.value .tooLong) else none) := by
  rcases Cap.reached_ofInt cap with hreached | ⟨hneg, hlong, hreached⟩
  · have hrefused : ¬(s.pending ≠ "" ∧ cap < 0 ∧ Decimal.isLong cap = true) := by
      rintro ⟨-, hrefused⟩
      rw [Cap.ofInt, if_pos hrefused] at hreached
      cases hreached
    rw [Walk.under_of_reached _ hreached, if_neg hrefused, Option.or_none]
  · -- Such a cap allows no node.
    rw [Int.toNat_of_nonpos (Int.le_of_lt hneg)]
    by_cases hpending : s.pending = ""
    · rw [walkFrom_of_stops (.finished hpending), if_neg fun h => h.1 hpending]
      rfl
    · rw [walkFrom_of_stops (.capped hpending), if_pos ⟨hpending, hneg, hlong⟩]
      exact congrArg Ending.escape? hreached

/-! ## Runs -/

variable (walker) in
/-- A run under a cap that is a number. -/
theorem run_of_cap (setup : RunSetup) (start : String) (cap : Cap)
    (h : (if start.isEmpty then some (.ofInt 0) else Cap.ofValue? setup.cap) = some cap)
    (trace : Trace) (context : Context) (state : σ) :
    let run := walker.run setup trace start context state
    let walk := (walker.walkFrom cap.allowed ⟨start, context, state⟩).under cap
    run.walk = walk ∧ run.report = walk.report setup.executionId ∧ run.fault = walk.ending.escape? := by
  intro run walk
  have hrun : run = walker.run setup trace start context state := rfl
  simp only [hrun, Walker.run, h]
  exact ⟨rfl, rfl, rfl⟩

/-- A run reports the path of its walk, whatever the cap. -/
theorem path_run (walker : Walker σ) (setup : RunSetup) (trace : Trace) (start : String) (context : Context) (state : σ) :
    (walker.run setup trace start context state).report.path =
      (walker.run setup trace start context state).walk.steps.map (·.node.id) := by
  unfold Walker.run
  dsimp only
  split <;> rfl

/-- A run is the walk that its cap allows, but for the ending at a cap that cannot be told or compared; whatever the
context, the state and the trace, the cap allows the same. -/
theorem run_walk (walker : Walker σ) (setup : RunSetup) (start : String) :
    ∃ n, ∀ trace context state, let run := walker.run setup trace start context state
      let walk := walker.walkFrom n ⟨start, context, state⟩
      run.walk.steps = walk.steps ∧ run.walk.context = walk.context ∧ run.walk.state = walk.state := by
  unfold Walker.run
  cases h : if start.isEmpty then some (.ofInt 0) else Cap.ofValue? setup.cap with
  | none => exact ⟨0, fun _ _ _ => ⟨rfl, rfl, rfl⟩⟩
  | some cap =>
    exact ⟨cap.allowed, fun _ _ _ => ⟨Walk.steps_under _ _, Walk.context_under _ _, Walk.state_under _ _⟩⟩

/-- What runs gather is what their walks do. -/
theorem run_gains (walker : Walker σ) {α : Type} {part : Context → σ → List α} {ticks : σ → Nat} {pace : Nat}
    {gain : Nat → Node → Context → List α} (h : Gains walker.handlers part ticks pace gain) (setup : RunSetup)
    (trace : Trace) (start : String) (context : Context) (state : σ) :
    let run := walker.run setup trace start context state
    part run.walk.context run.walk.state =
      part context state ++ (Step.timed pace (ticks state) run.walk.steps).flatMap
        fun timed => gain timed.2 timed.1.node timed.1.before := by
  obtain ⟨n, hrun⟩ := walker.run_walk setup start
  obtain ⟨hsteps, hcontext, hstate⟩ := hrun trace context state
  dsimp only
  rw [hsteps, hcontext, hstate]
  exact walkFrom_gains h n ⟨start, context, state⟩

variable (walker) in
/-- A run under an integer is the walk that the cap allows, none when negative, and its report; its fault is what
escapes. -/
theorem run_int (executionId : String) (workflow : Option String) (cap : Int) (trace : Trace) (start : String)
    (context : Context) (state : σ) :
    let run := walker.run ⟨executionId, workflow, .int cap⟩ trace start context state
    let walk := (walker.walkFrom cap.toNat ⟨start, context, state⟩).under (.ofInt cap)
    run.walk = walk ∧ run.report = walk.report executionId ∧ run.fault = walk.ending.escape? := by
  let setup : RunSetup := ⟨executionId, workflow, .int cap⟩
  by_cases h : start = ""
  · have hwalk : ∀ n, walker.walkFrom n ⟨start, context, state⟩ = .still .finished context state :=
      fun n => walkFrom_of_stops (.finished h)
    have hrun := walker.run_of_cap setup start (.ofInt 0) (by simp [h]) trace context state
    rwa [hwalk] at hrun ⊢
  · have hcap : start.isEmpty = false := by simpa using h
    exact walker.run_of_cap setup start (.ofInt cap) (by rw [hcap]; rfl) trace context state

variable (walker) in
/-- A run under an integer that has no fault is just the walk that the cap allows. -/
theorem run_of_kept {executionId : String} {workflow : Option String} {cap : Int} {trace : Trace} {start : String}
    {context : Context} {state : σ} :
    let run := walker.run ⟨executionId, workflow, .int cap⟩ trace start context state
    let walk := walker.walkFrom cap.toNat ⟨start, context, state⟩
    run.fault = none → run.walk = walk ∧ run.report = walk.report executionId ∧ walk.ending.escape? = none := by
  intro run walk hkept
  obtain ⟨hwalk, hreport, hfault⟩ := walker.run_int executionId workflow cap trace start context state
  rw [show run.fault = _ from hfault] at hkept
  have hunder := Walk.under_of_kept hkept
  rw [hunder] at hwalk hreport hkept
  exact ⟨hwalk, hreport, hkept⟩

variable (walker) in
/-- A run under a natural number is just the walk that the cap allows. -/
theorem run_natCast (executionId : String) (workflow : Option String) (cap : Nat) (trace : Trace) (start : String)
    (context : Context) (state : σ) :
    let run := walker.run ⟨executionId, workflow, .int cap⟩ trace start context state
    let walk := walker.walkFrom cap ⟨start, context, state⟩
    run.walk = walk ∧ run.report = walk.report executionId ∧ run.fault = walk.ending.escape? := by
  have hrun := walker.run_int executionId workflow cap trace start context state
  rwa [Int.toNat_natCast, Walk.under_of_reached _ (Cap.reached_natCast cap)] at hrun

/-- The run under a cap of just the nodes of a trail is cut where the trail leads. -/
theorem Trail.run_length {start : String} {context : Context} {state : σ} {steps : List Step} {t : Stand σ}
    (h : walker.Trail ⟨start, context, state⟩ steps t) (hp : t.pending ≠ "") (executionId : String)
    (workflow : Option String) (trace : Trace) :
    let run := walker.run ⟨executionId, workflow, .int steps.length⟩ trace start context state
    run.report.path = steps.map (·.node.id) ∧ run.report.ending = "max_executions" ∧
      run.walk.context = t.context ∧ run.walk.state = t.state := by
  intro run
  obtain ⟨hwalk, hreport, -⟩ := walker.run_natCast executionId workflow steps.length trace start context state
  rw [h.walkFrom_length hp] at hwalk hreport
  refine ⟨?_, congrArg Report.ending hreport, congrArg Walk.context hwalk, congrArg Walk.state hwalk⟩
  refine (congrArg Report.path hreport).trans ((Walk.path_behind _ steps).trans ?_)
  exact List.append_nil _

end Walker

end Chatflow
