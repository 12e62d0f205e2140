import Chatflow.Proofs.Handler.Frame
import Chatflow.Proofs.Walk.Replay

/-!
# What a walk looks at in its graph

A walk looks its graph up under the ids on its path only, and, where it ends for want of a node, under the id that is
missing.  A graph that answers the same there (`Walk.Agrees`) has the same walk: `walkFrom_of_agrees`.

So nodes and connections that a run does not come to may be changed in any way (`run_local`).  Nodes with ids of their
own may be put in any order, and so may connections, as long as those that leave one node keep theirs.
-/

namespace Chatflow

variable {σ : Type}

/-- Wherever a walk through a graph has been, another graph has the same node with the same connections behind it, and
where the walk missed a node, the other graph has none either. -/
structure Walk.Agrees (walk : Walk σ) (graph other : Graph) : Prop where
  nodes : ∀ id ∈ walk.path, other.node? id = graph.node? id
  outgoing : ∀ id ∈ walk.path, other.outgoingOf id = graph.outgoingOf id
  missing : ∀ id, walk.ending = .missing id → other.node? id = none

theorem Cap.ofInt_ne_missing (n : Int) (id : String) : (Cap.ofInt n).reached ≠ .missing id := by
  rcases Cap.reached_ofInt n with h | ⟨-, -, h⟩ <;> rw [h] <;> nofun

/-- Reaching a cap is not missing a node. -/
theorem Cap.ne_missing {v : Value} {start : String} {cap : Cap}
    (h : (if start.isEmpty then some (.ofInt 0) else Cap.ofValue? v) = some cap) (id : String) :
    cap.reached ≠ .missing id := by
  split at h
  · exact Option.some.inj h ▸ Cap.ofInt_ne_missing 0 id
  · cases v with
    | int n => exact Option.some.inj h ▸ Cap.ofInt_ne_missing n id
    | bool b =>
      rw [← Option.some.inj h]
      nofun
    | real x =>
      cases x with
      | nan | finite =>
        rw [← Option.some.inj h]
        nofun
      | infinite negative =>
        rw [← Option.some.inj h]
        cases negative <;> nofun
    | _ => cases h

/-- A walk misses no other node under a cap. -/
theorem Walk.missing_of_under {walk : Walk σ} {cap : Cap} {id : String} (hreached : cap.reached ≠ .missing id)
    (h : (walk.under cap).ending = .missing id) : walk.ending = .missing id := by
  unfold under at h
  split at h
  · exact absurd h hreached
  · exact h

theorem Walk.Agrees.of_under {walk : Walk σ} {cap : Cap} {graph other : Graph} (h : (walk.under cap).Agrees graph other) :
    walk.Agrees graph other := by
  obtain ⟨hnodes, houtgoing, hmissing⟩ := h
  rw [path_under] at hnodes houtgoing
  refine ⟨hnodes, houtgoing, fun id hid => hmissing id ?_⟩
  rw [under_of_ne (by rw [hid]; nofun), hid]

/-! ## Lists -/

/-- Of nodes with ids of their own, at most one has a given id. -/
theorem Lists.length_filter_id_le {nodes : List Node} (h : (nodes.map (·.id)).Nodup) (id : String) :
    (nodes.filter (·.id == id)).length ≤ 1 := by
  have hsub : ((nodes.filter (·.id == id)).map (·.id)).Nodup := h.sublist (List.filter_sublist.map _)
  have hsame : ∀ other ∈ (nodes.filter (·.id == id)).map (·.id), other = id := by
    intro other hother
    obtain ⟨node, hnode, rfl⟩ := List.mem_map.mp hother
    exact beq_iff_eq.mp (List.mem_filter.mp hnode).2
  rwa [List.eq_replicate_length.mpr hsame, List.nodup_replicate, List.length_map] at hsub

/-- Nodes with ids of their own are found in whatever order they stand. -/
theorem Lists.node?_perm {nodes others : List Node} (hp : others.Perm nodes) (h : (nodes.map (·.id)).Nodup)
    (id : String) : node? others id = node? nodes id := by
  have hfilter : (others.filter (·.id == id)).Perm (nodes.filter (·.id == id)) := hp.filter _
  have hle := length_filter_id_le h id
  rw [node?, node?]
  cases hn : nodes.filter (·.id == id) with
  | nil =>
    rw [hn] at hfilter
    rw [hfilter.eq_nil]
  | cons node rest =>
    rw [hn, List.length_cons] at hle
    obtain rfl : rest = [] := List.length_eq_zero_iff.mp (by omega)
    rw [hn] at hfilter
    rw [List.perm_singleton.mp hfilter]

namespace Walker

variable {graph other : Graph} {handlers : Handlers σ}

/-! ## Walks -/

variable (handlers) in
/-- A node leads the same way where the same connections leave it. -/
theorem routeFor_of_outgoing {node : Node} (h : other.outgoingOf node.id = graph.outgoingOf node.id)
    (verdict : Verdict) : routeFor ⟨other, handlers⟩ node verdict = routeFor ⟨graph, handlers⟩ node verdict := by
  cases verdict with
  | completed data next => simp only [routeFor, Graph.route, Graph.route.unasked, h]
  | failed error => rfl
  | raised fault => rfl

variable (handlers) in
/-- The same escapes at a node where the same connections leave it. -/
theorem escapeAt_of_outgoing {node : Node} (h : other.outgoingOf node.id = graph.outgoingOf node.id) (s : Stand σ) :
    escapeAt ⟨other, handlers⟩ s node = escapeAt ⟨graph, handlers⟩ s node := by
  simp only [escapeAt, Graph.escape, Graph.asksBranch, h]
  rfl

variable (handlers) in
theorem stepAt_of_outgoing {node : Node} (h : other.outgoingOf node.id = graph.outgoingOf node.id) (s : Stand σ) :
    stepAt ⟨other, handlers⟩ s node = stepAt ⟨graph, handlers⟩ s node ∧
      standBehind ⟨other, handlers⟩ s node = standBehind ⟨graph, handlers⟩ s node := by
  have hroute := routeFor_of_outgoing handlers h
    (handlers.visit node (s.context.at s.pending) s.state).verdict
  refine ⟨?_, by simp only [standBehind, handledAt, hroute]⟩
  simp only [stepAt, handledAt, hroute, escapeAt_of_outgoing handlers h]

/-- **A graph that agrees wherever a walk looks has the same walk.** -/
theorem walkFrom_of_agrees (hk : graph.IsKeyed) (n : Nat) (s : Stand σ)
    (h : (walkFrom ⟨graph, handlers⟩ n s).Agrees graph other) :
    walkFrom ⟨other, handlers⟩ n s = walkFrom ⟨graph, handlers⟩ n s := by
  -- A node that is found under an id has that id, so the path tells what was looked up.
  have hfound : ∀ {id : String} {node : Node}, graph.node? id = some node →
      other.node? node.id = graph.node? node.id → other.node? id = some node := by
    intro id node hf hn
    rwa [hk hf, hf] at hn
  induction n, s using walkFrom_induction ⟨graph, handlers⟩ with
  | @stops n s last hs =>
    refine walkFrom_of_stops ?_
    cases hs with
    | finished hp => exact .finished hp
    | capped hp => exact .capped hp
    | missing hp hn => exact .missing hp (h.missing s.pending rfl)
    | @failed n s node error hp hf hv =>
      have hmem : node.id ∈ (lastAt ⟨graph, handlers⟩ s node (.failed error)).path := List.mem_singleton_self _
      rw [lastAt, ← (stepAt_of_outgoing handlers (h.outgoing _ hmem) s).1]
      exact .failed hp (hfound hf (h.nodes _ hmem)) hv
    | @raised n s node fault hp hf hv hkept =>
      have hmem : node.id ∈ (lastAt ⟨graph, handlers⟩ s node (.raised fault)).path := List.mem_singleton_self _
      rw [lastAt, ← (stepAt_of_outgoing handlers (h.outgoing _ hmem) s).1]
      exact .raised hp (hfound hf (h.nodes _ hmem)) hv ((escapeAt_of_outgoing handlers (h.outgoing _ hmem) s).trans hkept)
    | @escaped n s node fault hp hf hescape =>
      have hmem : node.id ∈ (lastAt ⟨graph, handlers⟩ s node (.escaped fault)).path := List.mem_singleton_self _
      rw [lastAt, ← (stepAt_of_outgoing handlers (h.outgoing _ hmem) s).1]
      exact .escaped hp (hfound hf (h.nodes _ hmem))
        ((escapeAt_of_outgoing handlers (h.outgoing _ hmem) s).trans hescape)
  | @completes n s node hc ih =>
    obtain ⟨hstep, hstand⟩ := stepAt_of_outgoing handlers (h.outgoing node.id List.mem_cons_self) s
    obtain ⟨hp, hf, hv, hkept⟩ := hc
    have hcompletes : Completes ⟨other, handlers⟩ s node := ⟨hp, hfound hf (h.nodes _ List.mem_cons_self), hv,
      (escapeAt_of_outgoing handlers (h.outgoing _ List.mem_cons_self) s).trans hkept⟩
    have hrest := ih ⟨fun id hid => h.nodes id (List.mem_cons_of_mem _ hid),
      fun id hid => h.outgoing id (List.mem_cons_of_mem _ hid), h.missing⟩
    rw [walkFrom_of_completes hcompletes, hstep, hstand, hrest]

/-! ## Runs -/

/-- A run looks its graph up where its walk does. -/
theorem run_of_agrees (hk : graph.IsKeyed) (setup : RunSetup) (trace : Trace) (start : String) (context : Context)
    (state : σ) (h : (run ⟨graph, handlers⟩ setup trace start context state).walk.Agrees graph other) :
    let here := run ⟨graph, handlers⟩ setup trace start context state
    let there := run ⟨other, handlers⟩ setup trace start context state
    there.walk = here.walk ∧ there.report = here.report := by
  intro here there
  cases hcap : if start.isEmpty then some (.ofInt 0) else Cap.ofValue? setup.cap with
  | none => simp only [here, there, run, hcap, and_self]
  | some cap =>
    have hrun := fun g : Graph => run_of_cap ⟨g, handlers⟩ setup start cap hcap trace context state
    obtain ⟨hwalk, hreport, -⟩ := hrun graph
    obtain ⟨hwalk', hreport', -⟩ := hrun other
    have hsame := walkFrom_of_agrees hk cap.allowed ⟨start, context, state⟩ (hwalk ▸ h).of_under
    exact ⟨by rw [hwalk', hsame, ← hwalk], by rw [hreport', hsame, ← hreport]⟩

/-- What a walk missed is not in its graph. -/
theorem walkFrom_missed (walker : Walker σ) (n : Nat) (s : Stand σ) {id : String}
    (h : (walker.walkFrom n s).ending = .missing id) : walker.graph.node? id = none := by
  obtain ⟨steps, t, k, last, -, -, hs, hw⟩ := exists_trail walker n s
  rw [hw] at h
  cases hs with
  | missing hp hn =>
    obtain rfl := Ending.missing.inj h
    exact hn
  | finished | capped | failed | raised | escaped => cases h

theorem run_missed (walker : Walker σ) (setup : RunSetup) (trace : Trace) (start : String) (context : Context)
    (state : σ) {id : String} (h : (walker.run setup trace start context state).walk.ending = .missing id) :
    walker.graph.node? id = none := by
  unfold run at h
  dsimp only at h
  split at h
  · cases h
  · next cap hcap =>
    exact walkFrom_missed walker _ ⟨start, context, state⟩ (Walk.missing_of_under (Cap.ne_missing hcap id) h)

variable (nodes others : List Node) (connections links : List Connection) (handlers : Handlers σ) (setup : RunSetup)
  (trace : Trace) (start : String) (context : Context) (state : σ)

/-- **A run depends on its workflow only where it comes.**  Let other lists hold, for every id on its path, the same
last node with that id and the same connections with that source, in the same order, and let them hold no node with the
id that it missed, if it ended by missing one.  Then the run of the other lists has the same report and the same walk,
with its steps, its ending, and the context and the state that it left.  This is so when nodes with ids of their own are
put in another order, and connections in one that keeps the order of those with the same source. -/
theorem run_local :
    let here := (ofLists nodes connections handlers).run setup trace start context state
    let there := (ofLists others links handlers).run setup trace start context state
    ((∀ id ∈ here.report.path, Lists.node? others id = Lists.node? nodes id ∧
          links.filter (·.source == id) = connections.filter (·.source == id)) →
        (∀ id, here.walk.ending = .missing id → ∀ node ∈ others, node.id ≠ id) →
        there.report = here.report ∧ there.walk = here.walk) ∧
      ((nodes.map (·.id)).Nodup → others.Perm nodes →
        (∀ source, links.filter (·.source == source) = connections.filter (·.source == source)) →
        there.report = here.report ∧ there.walk = here.walk) := by
  intro here there
  have hagrees : here.walk.Agrees (Graph.ofLists nodes connections) (Graph.ofLists others links) →
      there.report = here.report ∧ there.walk = here.walk := fun h =>
    (run_of_agrees (isKeyed_ofLists nodes connections handlers) setup trace start context state h).symm
  have hpath : here.report.path = here.walk.path := path_run _ setup trace start context state
  refine ⟨fun hvisited hmissing => hagrees ?_, fun hnodup hperm hlinks => hagrees ?_⟩
  · rw [hpath] at hvisited
    refine ⟨fun id hid => ?_, fun id hid => ?_, fun id hid => ?_⟩
    · rw [Graph.node?_ofLists, Graph.node?_ofLists]
      exact (hvisited id hid).1
    · rw [Graph.outgoingOf_ofLists, Graph.outgoingOf_ofLists]
      exact (hvisited id hid).2
    · rw [Graph.node?_ofLists]
      exact Lists.node?_eq_none_iff.mpr (hmissing id hid)
  · -- The reordered lists answer the same under every id, so also under the one that was missed.
    have hnodes : ∀ id, (Graph.ofLists others links).node? id = (Graph.ofLists nodes connections).node? id := by
      intro id
      rw [Graph.node?_ofLists, Graph.node?_ofLists]
      exact Lists.node?_perm hperm hnodup id
    refine ⟨fun id _ => hnodes id, fun id _ => ?_, fun id hid => ?_⟩
    · rw [Graph.outgoingOf_ofLists, Graph.outgoingOf_ofLists]
      exact hlinks id
    · rw [hnodes id]
      exact run_missed _ setup trace start context state hid

/-- A run that ends at a missing node, in lists in another order and without the node that it does not come to. -/
theorem run_local_dangling :
    let start : Node := { id := "t", kind := .trigger, data := [("triggerType", .text "manual")] }
    let apart : Node := { id := "x", kind := .output, data := [("outputType", .text "message")] }
    let away : Connection := { id := "1", source := "t", target := "gone" }
    let back : Connection := { id := "2", source := "x", target := "t" }
    let run := fun nodes connections =>
      (ofLists nodes connections Tools.idle.handlers).run ⟨"e", none, .int 5⟩ [] "t" { user := .name "u" } {}
    let here := run [start, apart] [away, back]
    (here.report.path = ["t"] ∧ here.report.ending = "missing_node") ∧
      ((run [start] [away]).report = here.report ∧ (run [start] [away]).walk = here.walk) ∧
      (run [apart, start] [back, away]).report = here.report ∧ (run [apart, start] [back, away]).walk = here.walk := by
  intro start apart away back run here
  have hpath : here.report.path = ["t"] := rfl
  have hending : here.walk.ending = .missing "gone" := rfl
  refine ⟨⟨hpath, rfl⟩, ?_, ?_⟩
  · have hlocal := run_local [start, apart] [start] [away, back] [away] Tools.idle.handlers ⟨"e", none, .int 5⟩ [] "t"
      { user := .name "u" } {}
    refine hlocal.1 (fun id hid => ?_) (fun id hid node hnode => ?_)
    · rw [show _ = ["t"] from hpath, List.mem_singleton] at hid
      subst hid
      exact ⟨rfl, rfl⟩
    · obtain rfl := Ending.missing.inj (hending.symm.trans hid)
      rw [List.mem_singleton.mp hnode]
      decide
  · have hlocal := run_local [start, apart] [apart, start] [away, back] [back, away] Tools.idle.handlers ⟨"e", none, .int 5⟩
      [] "t" { user := .name "u" } {}
    refine hlocal.2 (by decide) (List.Perm.swap start apart []) (fun source => ?_)
    by_cases ht : "t" = source
    · subst ht
      rfl
    · simp only [away, back, List.filter_cons, List.filter_nil, beq_iff_eq, ht, if_false]

end Walker

end Chatflow
