import Chatflow.Proofs.Handler.Frame
import Chatflow.Proofs.Walk.Replay

/-!
# Runs that are cut and resumed

A cap only cuts a run.  Where a run is cut it stands at the next node of the longer one (`exists_trail_of_lt`), and from
there it can be resumed with the context and the state that it left; a run that was not cut stays what it is under
every higher cap (`walkFrom_add_of_ne_capped`).  Both are put together in `run_cut_resumes`.
-/

namespace Chatflow.Walker

variable {σ : Type} {walker : Walker σ}

/-! ## Walks -/

/-- A walk that goes through more than so many nodes begins with a trail of just so many, which leads somewhere. -/
theorem exists_trail_of_lt {m n : Nat} {s : Stand σ} (h : m < (walker.walkFrom (m + n) s).steps.length) :
    ∃ steps t, steps.length = m ∧ walker.Trail s steps t ∧ t.pending ≠ "" := by
  induction m generalizing s with
  | zero =>
    refine ⟨[], s, rfl, .nil s, fun hp => ?_⟩
    rw [walkFrom_of_stops (.finished hp)] at h
    exact absurd h (Nat.lt_irrefl 0)
  | succ m ih =>
    rcases stops_or_completes walker (m + 1 + n) s with ⟨last, hs⟩ | ⟨k, node, hk, hc⟩
    · rw [walkFrom_of_stops hs] at h
      have hle := hs.length_le
      omega
    · rw [show m + 1 + n = m + n + 1 by omega, walkFrom_of_completes hc] at h
      obtain ⟨steps, t, hlen, ht, hp⟩ := ih (Nat.lt_of_succ_lt_succ h)
      exact ⟨_, t, by rw [List.length_cons, hlen], .cons hc ht, hp⟩

/-- What stops a walk stops it with more nodes allowed too, unless nothing but the allowance did. -/
theorem Stops.add {n : Nat} {s : Stand σ} {last : Walk σ} (h : walker.Stops n s last)
    (hc : last.ending ≠ .capped) (k : Nat) : walker.Stops (n + k) s last := by
  cases h with
  | finished hp => exact .finished hp
  | capped hp => exact absurd rfl hc
  | @missing n _ hp hn =>
    rw [Nat.add_right_comm]
    exact .missing hp hn
  | @failed n _ node error hp hf hv =>
    rw [Nat.add_right_comm]
    exact .failed hp hf hv
  | @raised n _ node fault hp hf hv hkept =>
    rw [Nat.add_right_comm]
    exact .raised hp hf hv hkept
  | @escaped n _ node fault hp hf hescape =>
    rw [Nat.add_right_comm]
    exact .escaped hp hf hescape

/-- **A walk that was not cut is the same with more nodes allowed.** -/
theorem walkFrom_add_of_ne_capped {n : Nat} {s : Stand σ} (h : (walker.walkFrom n s).ending ≠ .capped)
    (k : Nat) : walker.walkFrom (n + k) s = walker.walkFrom n s := by
  obtain ⟨steps, t, left, last, ht, rfl, hs, hw⟩ := exists_trail walker n s
  rw [hw] at h ⊢
  rw [Nat.add_assoc, ht.walkFrom_add, walkFrom_of_stops (hs.add h k)]

/-! ## Runs -/

variable (nodes : List Node) (connections : List Connection) (handlers : Handlers σ)
  (workflow : Option String) (start : String) (context : Context) (state : σ)

/-- **A cap only cuts, and a run that was cut can be resumed.**  When a run goes through more than `m` nodes, the run
under the cap `m` goes through the first `m` of them and says that the cap was reached; and a run from the next node,
with the context and the state which that one left, goes through the others under the rest of the cap, and leaves the
same context and the same state with the same ending and error.  The state of the standard handlers is all that was
asked and posted so far.  When the run under the cap `m` does not say that the cap was reached, it is the same under
every higher cap. -/
theorem run_cut_resumes (m n : Nat) (executionId again : String) (trace later : Trace) :
    let walker := ofLists nodes connections handlers
    let run (cap : Int) := walker.run ⟨executionId, workflow, .int cap⟩ trace start context state
    let full := run (m + n)
    let cut := run m
    (m < full.report.path.length →
      cut.report.path = full.report.path.take m ∧ cut.report.ending = "max_executions" ∧
      ∃ id, full.report.path[m]? = some id ∧
        let rest := walker.run ⟨again, workflow, .int n⟩ later id cut.walk.context cut.walk.state
        rest.report.path = full.report.path.drop m ∧
        rest.walk.context = full.walk.context ∧ rest.walk.state = full.walk.state ∧
        rest.report.ending = full.report.ending ∧ rest.report.error = full.report.error) ∧
    (cut.report.ending ≠ "max_executions" →
      ∀ cap : Int, (m : Int) ≤ cap → (run cap).walk.context = cut.walk.context ∧
        (run cap).walk.state = cut.walk.state ∧ (run cap).report = cut.report) := by
  intro walker run full cut
  have hk := isKeyed_ofLists nodes connections handlers
  have hrun := fun cap : Nat => walker.run_natCast executionId workflow cap trace start context state
  constructor
  · intro h
    obtain ⟨hfull, hfull', -⟩ := hrun (m + n)
    have hlen : m < (walker.walkFrom (m + n) ⟨start, context, state⟩).steps.length := by
      rw [show full.report = _ from hfull'] at h
      simpa [Walk.report, Walk.path] using h
    obtain ⟨steps, t, rfl, ht, hp⟩ := exists_trail_of_lt hlen
    rw [ht.walkFrom_add] at hfull hfull' hlen
    have hpath : full.report.path = steps.map (·.node.id) ++ (walker.walkFrom n t).path :=
      (congrArg Report.path hfull').trans (Walk.path_behind _ steps)
    have hids : (steps.map (·.node.id)).length = steps.length := List.length_map _
    obtain ⟨hcutpath, hending, hcontext, hstate⟩ := ht.run_length hp executionId workflow trace
    refine ⟨?_, hending, t.pending, ?_, ?_⟩
    · rw [hpath, ← hids, List.take_left]
      exact hcutpath
    · rw [hpath, List.getElem?_append_right (by omega), hids, Nat.sub_self, ← List.head?_eq_getElem?,
        Walk.path, List.head?_map]
      obtain ⟨hhead, -⟩ := isChain_walkFrom hk n t
      cases hs : (walker.walkFrom n t).steps with
      | nil => simp [hs] at hlen
      | cons step rest => exact congrArg some (hhead step (by rw [hs]; rfl))
    · rw [show cut.walk.context = _ from hcontext, show cut.walk.state = _ from hstate]
      intro rest
      obtain ⟨hrest, hrest', -⟩ := walker.run_natCast again workflow n later t.pending t.context t.state
      refine ⟨?_, ?_, ?_, ?_, ?_⟩
      · rw [hpath, ← hids, List.drop_left]
        exact congrArg Report.path hrest'
      · exact (congrArg Walk.context hrest).trans (congrArg Walk.context hfull).symm
      · exact (congrArg Walk.state hrest).trans (congrArg Walk.state hfull).symm
      · exact (congrArg Report.ending hrest').trans (congrArg Report.ending hfull').symm
      · exact (congrArg Report.error hrest').trans (congrArg Report.error hfull').symm
  · intro h cap hle
    obtain ⟨hcut, hcut', -⟩ := hrun m
    have hne : (walker.walkFrom m ⟨start, context, state⟩).ending ≠ .capped := by
      intro hc
      rw [show cut.report = _ from hcut'] at h
      exact h (congrArg Ending.name hc)
    obtain ⟨k, rfl⟩ : ∃ k : Nat, cap = (m + k : Nat) := ⟨cap.toNat - m, by omega⟩
    obtain ⟨hother, hother', -⟩ := hrun (m + k)
    rw [walkFrom_add_of_ne_capped hne, ← hcut] at hother
    rw [walkFrom_add_of_ne_capped hne, ← hcut'] at hother'
    exact ⟨congrArg Walk.context hother, congrArg Walk.state hother, hother'⟩

/-- Two triggers that lead to each other, cut behind the first one. -/
theorem run_cut_resumes_cycle :
    let data : Fields := [("triggerType", .text "manual")]
    let tools : Tools := .idle
    let walker := ofLists [{ id := "a", kind := .trigger, data }, { id := "b", kind := .trigger, data }]
      [{ id := "1", source := "a", target := "b" }, { id := "2", source := "b", target := "a" }] tools.handlers
    let full := walker.run ⟨"x", none, .int 3⟩ [] "a" { user := .name "u" } {}
    let cut := walker.run ⟨"x", none, .int 1⟩ [] "a" { user := .name "u" } {}
    full.report.path = ["a", "b", "a"] ∧ ∃ id, full.report.path[1]? = some id ∧
      let rest := walker.run ⟨"y", none, .int 2⟩ [] id cut.walk.context cut.walk.state
      rest.report.path = ["b", "a"] ∧ rest.walk.context = full.walk.context := by
  intro data tools walker full cut
  have hpath : full.report.path = ["a", "b", "a"] := rfl
  obtain ⟨hcut, -⟩ := run_cut_resumes
    [{ id := "a", kind := .trigger, data }, { id := "b", kind := .trigger, data }]
    [{ id := "1", source := "a", target := "b" }, { id := "2", source := "b", target := "a" }] tools.handlers
    none "a" { user := .name "u" } {} 1 2 "x" "y" [] []
  obtain ⟨-, -, id, hid, hrest, hcontext, -⟩ := hcut (by show 1 < full.report.path.length; rw [hpath]; decide)
  exact ⟨hpath, id, hid, hrest, hcontext⟩

end Chatflow.Walker
