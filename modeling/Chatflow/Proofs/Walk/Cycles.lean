import Mathlib.Data.List.Chain
import Mathlib.Data.List.Dedup
import Mathlib.Data.List.Perm.Subperm
import Chatflow.Proofs.Walk.Following

/-!
# Walks and cycles

The path of a walk follows the connections, so an id that comes twice on it lies on a cycle of them.  Without cycles
each id comes once, and there are no more of them than nodes: a cap above the number of ids is not reached
(`run_capped_cycles`).
-/

namespace Chatflow

variable {σ : Type}

/-- Of a chain, each entry leads to every later one. -/
theorem pairwise_transGen_of_isChain {α : Type} {R : α → α → Prop} {l : List α} (h : l.IsChain R) :
    l.Pairwise (Relation.TransGen R) :=
  List.isChain_iff_pairwise.mp (h.imp fun _ _ => .single)

namespace Lists

/-- No row of connections leads from an id back to it. -/
def Acyclic (connections : List Connection) : Prop := ∀ id, ¬ Relation.TransGen (Connected connections) id id

/-- Connections that all lead upwards in some ranking of the ids have no cycle. -/
theorem acyclic_of_rank {connections : List Connection} (rank : String → Nat)
    (h : ∀ c ∈ connections, rank c.source < rank c.target) : Acyclic connections := by
  have hup : ∀ a b, Relation.TransGen (Connected connections) a b → rank a < rank b := by
    intro a b hab
    induction hab with
    | single hlast =>
      obtain ⟨c, hc, rfl, rfl⟩ := hlast
      exact h c hc
    | tail _ hlast ih =>
      obtain ⟨c, hc, rfl, rfl⟩ := hlast
      exact Nat.lt_trans ih (h c hc)
  exact fun id hcycle => Nat.lt_irrefl _ (hup id id hcycle)

/-- A row of connected ids none of which lies on a cycle has each of them once. -/
theorem nodup_of_isChain {connections : List Connection} {path : List String}
    (h : path.IsChain (Connected connections))
    (hcycle : ∀ id ∈ path, ¬ Relation.TransGen (Connected connections) id id) : path.Nodup := by
  refine (pairwise_transGen_of_isChain h).imp_of_mem ?_
  rintro a b ha - hab rfl
  exact hcycle a ha hab

end Lists

namespace Walker

variable {nodes : List Node} {connections : List Connection} {handlers : Handlers σ}

/-- A path without repetitions is no longer than there are ids of nodes. -/
theorem length_path_le {n : Nat} {s : Stand σ}
    (h : ((ofLists nodes connections handlers).walkFrom n s).path.Nodup) :
    ((ofLists nodes connections handlers).walkFrom n s).path.length ≤ (nodes.map (·.id)).dedup.length := by
  refine (h.subperm fun id hid => ?_).length_le
  obtain ⟨step, hstep, rfl⟩ := List.mem_map.mp hid
  exact List.mem_dedup.mpr (List.mem_map_of_mem (mem_of_mem_steps hstep))

/-- A walk that is capped has as many steps as it was allowed. -/
theorem length_of_capped {cap : Int} {s : Stand σ}
    (h : ((ofLists nodes connections handlers).walkFrom cap.toNat s).ending = .capped) :
    (((ofLists nodes connections handlers).walkFrom cap.toNat s).path.length : Int) = max cap 0 := by
  have hdue := due_ending nodes connections handlers cap s (by rw [h]; rfl)
  rw [h] at hdue
  obtain ⟨-, -, -, hlength⟩ := hdue
  rwa [Walk.path, List.length_map, ← List.length_map Step.told]

section Hintless

variable (hhints : handlers.Hintless)
include hhints

/-- The connections lead from the start of a walk to every id on its path. -/
theorem reflTransGen_of_mem_path {n : Nat} {s : Stand σ} :
    ∀ id ∈ ((ofLists nodes connections handlers).walkFrom n s).path,
      Relation.ReflTransGen (Lists.Connected connections) s.pending id := by
  obtain ⟨hhead, -⟩ := isChain_walkFrom (isKeyed_ofLists nodes connections handlers) n s
  have hchain : ((ofLists nodes connections handlers).walkFrom n s).path.IsChain (Lists.Connected connections) :=
    isChain_connected hhints n s
  have hpairs := pairwise_transGen_of_isChain hchain
  unfold Walk.path at hpairs ⊢
  intro id hid
  cases hsteps : ((ofLists nodes connections handlers).walkFrom n s).steps with
  | nil =>
    rw [hsteps] at hid
    cases hid
  | cons first rest =>
    rw [hsteps] at hhead hpairs hid
    rw [← hhead first rfl]
    rcases List.mem_cons.mp hid with rfl | hrest
    · exact .refl
    · exact ((List.pairwise_cons.mp hpairs).1 id hrest).to_reflTransGen

/-- **Only a cycle leads to the cap.**  Where no handler gives hints and the connections have no cycle, no id comes
twice on the path of a run, so that at most as many nodes run as there are ids of nodes, and a cap above their number
is not reached.  Where a run does reach such a cap, an id comes twice on its path, and the connections lead from the
start of the run to a cycle. -/
theorem run_capped_cycles (nodes : List Node) (connections : List Connection) (executionId : String)
    (workflow : Option String) (cap : Int) (trace : Trace) (start : String) (context : Context) (state : σ) :
    let run := (ofLists nodes connections handlers).run ⟨executionId, workflow, .int cap⟩ trace start context state
    let ids := (nodes.map (·.id)).dedup
    (Lists.Acyclic connections → run.report.path.Nodup ∧ run.report.path.length ≤ ids.length ∧
      ((ids.length : Int) < cap → run.report.ending ≠ "max_executions")) ∧
    ((ids.length : Int) < cap → run.report.ending = "max_executions" → ¬ run.report.path.Nodup ∧
      ∃ id ∈ run.report.path, Relation.ReflTransGen (Lists.Connected connections) start id ∧
        Relation.TransGen (Lists.Connected connections) id id) := by
  intro run ids
  obtain ⟨-, hreport, -⟩ := (ofLists nodes connections handlers).run_int executionId workflow cap trace start context
    state
  let s : Stand σ := ⟨start, context, state⟩
  have hpath : run.report.path = ((ofLists nodes connections handlers).walkFrom cap.toNat s).path :=
    (congrArg Report.path hreport).trans (Walk.path_under _ _)
  -- A cap above zero that is reached does not refuse.
  have hending : (ids.length : Int) < cap → run.report.ending = "max_executions" →
      ((ofLists nodes connections handlers).walkFrom cap.toNat s).ending.name = "max_executions" := by
    intro hlt hcapped
    obtain ⟨n, rfl⟩ : ∃ n : Nat, cap = n := ⟨cap.toNat, by omega⟩
    rw [Walk.under_of_reached _ (Cap.reached_natCast n)] at hreport
    exact (congrArg Report.ending hreport).symm.trans hcapped
  rw [hpath]
  have hchain :
      ((ofLists nodes connections handlers).walkFrom cap.toNat s).path.IsChain (Lists.Connected connections) :=
    isChain_connected hhints cap.toNat s
  have hnot : (ids.length : Int) < cap →
      ((ofLists nodes connections handlers).walkFrom cap.toNat s).ending.name = "max_executions" →
      ¬ ((ofLists nodes connections handlers).walkFrom cap.toNat s).path.Nodup := by
    intro hlt hcapped hnodup
    have hlength := length_of_capped (Ending.name_eq_capped.mp hcapped)
    have hle : _ ≤ ids.length := length_path_le hnodup
    omega
  constructor
  · intro hacyclic
    have hnodup := Lists.nodup_of_isChain hchain fun id _ => hacyclic id
    exact ⟨hnodup, length_path_le hnodup, fun hlt hcapped => hnot hlt (hending hlt hcapped) hnodup⟩
  · intro hlt hcapped
    refine ⟨hnot hlt (hending hlt hcapped), ?_⟩
    by_contra hnone
    refine hnot hlt (hending hlt hcapped) (Lists.nodup_of_isChain hchain fun id hid hcycle => hnone ?_)
    exact ⟨id, hid, reflTransGen_of_mem_path hhints id hid, hcycle⟩

end Hintless

/-- Led out of the graph, a run comes to two nodes and then misses one; led back to the trigger, it goes round until it
is capped. -/
theorem run_capped_cycles_leading :
    let tools : Tools := .idle
    let run (id : String) := (ofLists twoNodes (leadingTo id) tools.handlers).run ⟨"x", none, .int 3⟩ [] "t"
      { user := .number 1 } {}
    tools.handlers.Hintless ∧
    (Lists.Acyclic (leadingTo "gone") ∧ (run "gone").report.path = ["t", "o"] ∧ (run "gone").report.path.Nodup ∧
      (run "gone").report.ending ≠ "max_executions") ∧
    (run "t").report.ending = "max_executions" ∧ ¬ (run "t").report.path.Nodup ∧
      ∃ id ∈ (run "t").report.path, Relation.TransGen (Lists.Connected (leadingTo "t")) id id := by
  intro tools run
  have hhints := tools.hintless_handlers
  have hacyclic : Lists.Acyclic (leadingTo "gone") :=
    Lists.acyclic_of_rank (fun id => if id = "t" then 0 else if id = "o" then 1 else 2) (by decide)
  have hcapped : (run "t").report.ending = "max_executions" := rfl
  obtain ⟨hout, -⟩ := run_capped_cycles hhints twoNodes (leadingTo "gone") "x" none 3 [] "t" { user := .number 1 } {}
  obtain ⟨-, hround⟩ := run_capped_cycles hhints twoNodes (leadingTo "t") "x" none 3 [] "t" { user := .number 1 } {}
  obtain ⟨hnodup, -, hfree⟩ := hout hacyclic
  obtain ⟨hrepeats, id, hid, -, hcycle⟩ := hround (by decide) hcapped
  exact ⟨hhints, ⟨hacyclic, rfl, hnodup, hfree (by decide)⟩, hcapped, hrepeats, id, hid, hcycle⟩

end Walker

end Chatflow
