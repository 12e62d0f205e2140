import Chatflow.Proofs.Graph.Lists
import Chatflow.Proofs.Keyed
import Mathlib.Data.List.Basic

/-!
# Graphs are faithful to their lists

A graph keeps its nodes and its connections in two keyed lists, so it gives them in an order of its own.  Both keyed lists
are told here as a whole by the lists that the graph is made of:

* `outgoing_ofLists`: the sources in the order in which they first come, each with the connections from it.
* `ids_allNodes`: the ids in the order in which they first come.
* `ofLists_faithful`: what a graph gives when it is asked, in terms of its lists alone.
-/

namespace Chatflow

namespace Lists

/-- Whether an end of a connection is the id of no node in a list. -/
def dangles (nodes : List Node) (c : Connection) : Bool :=
  !nodes.any (·.id == c.source) || !nodes.any (·.id == c.target)

/-- Sorted into groups by their keys, the items of a list are only rearranged. -/
theorem perm_groups {α : Type} (key : α → String) {keys : List String} (h : keys.Nodup) {items : List α}
    (hkeys : ∀ item ∈ items, key item ∈ keys) :
    (keys.flatMap fun k => items.filter fun item => key item == k).Perm items := by
  induction keys generalizing items with
  | nil =>
    have hnil : items = [] := List.eq_nil_iff_forall_not_mem.mpr fun item hitem => by simpa using hkeys item hitem
    simp [hnil]
  | cons first rest ih =>
    obtain ⟨hfirst, hrest⟩ := List.nodup_cons.mp h
    -- The groups behind the first one hold just the items that the first one leaves over.
    let others := items.filter fun item => !(key item == first)
    have hothers : ∀ item ∈ others, key item ∈ rest := by
      intro item hitem
      obtain ⟨hmem, hne⟩ := List.mem_filter.mp hitem
      simpa [by simpa using hne] using hkeys item hmem
    have hgroups : ∀ k ∈ rest, (items.filter fun item => key item == k) = others.filter fun item => key item == k := by
      intro k hk
      have hne : k ≠ first := fun heq => hfirst (heq ▸ hk)
      rw [List.filter_filter]
      refine List.filter_congr fun item _ => ?_
      by_cases hkey : key item = k <;> simp [hkey, hne]
    have hflat : (rest.flatMap fun k => items.filter fun item => key item == k) =
        rest.flatMap fun k => others.filter fun item => key item == k := List.flatMap_congr hgroups
    rw [List.flatMap_cons, hflat]
    exact ((ih hrest hothers).append_left _).trans (List.filter_append_perm _ items)

end Lists

namespace Graph

theorem keys_nodes_ofLists (nodes : List Node) (connections : List Connection) :
    (ofLists nodes connections).nodes.keys = (nodes.map (·.id)).eraseDups :=
  Keyed.keys_foldl Node.id (fun _ node => node) nodes

theorem nodup_keys_nodes (nodes : List Node) (connections : List Connection) :
    (ofLists nodes connections).nodes.keys.Nodup :=
  Keyed.nodup_keys_foldl Node.id (fun _ node => node) nodes

theorem keys_outgoing_ofLists (nodes : List Node) (connections : List Connection) :
    (ofLists nodes connections).outgoing.keys = (connections.map (·.source)).eraseDups :=
  Keyed.keys_foldl Connection.source (fun acc c => (acc.get? c.source).getD [] ++ [c]) connections

/-- **The nodes of a graph come in the order of their ids.** -/
theorem ids_allNodes (nodes : List Node) (connections : List Connection) :
    (ofLists nodes connections).allNodes.map (·.id) = (nodes.map (·.id)).eraseDups := by
  rw [← keys_nodes_ofLists nodes connections, allNodes, Keyed.keys, List.map_map]
  refine List.map_congr_left fun entry hentry => ?_
  exact isKeyed_ofLists nodes connections ((Keyed.get?_eq_some_iff (nodup_keys_nodes nodes connections)).mpr hentry)

/-- Each is the node that is found under its id. -/
theorem allNodes_ofLists (nodes : List Node) (connections : List Connection) :
    (ofLists nodes connections).allNodes =
      (nodes.map (·.id)).eraseDups.filterMap (ofLists nodes connections).node? := by
  rw [← keys_nodes_ofLists nodes connections, allNodes, Keyed.keys, List.filterMap_map, ← List.filterMap_eq_map]
  refine List.filterMap_congr fun entry hentry => ?_
  have hget := (Keyed.get?_eq_some_iff (nodup_keys_nodes nodes connections)).mpr hentry
  exact hget.symm

/-- **The connections of a graph are kept source by source.** -/
theorem outgoing_ofLists (nodes : List Node) (connections : List Connection) :
    (ofLists nodes connections).outgoing =
      (connections.map (·.source)).eraseDups.map fun source => (source, connections.filter (·.source == source)) := by
  rw [← keys_outgoing_ofLists nodes connections]
  refine Keyed.eq_map_keys (nodup_keys_outgoing nodes connections) fun source hsource => ?_
  have hsome := (Keyed.isSome_get?_iff _ _).mpr hsource
  obtain ⟨leaving, hleaving⟩ := Option.isSome_iff_exists.mp hsome
  have hout := outgoingOf_ofLists nodes connections source
  rw [outgoingOf, hleaving, Option.getD_some] at hout
  rw [hleaving, hout]

theorem has_eq_any (nodes : List Node) (connections : List Connection) (id : String) :
    (ofLists nodes connections).has id = nodes.any (·.id == id) := by
  rw [Bool.eq_iff_iff, has_ofLists, List.any_eq_true]
  simp only [beq_iff_eq]

/-- The connections that dangle, source by source. -/
theorem dangling_ofLists (nodes : List Node) (connections : List Connection) :
    (ofLists nodes connections).dangling =
      (connections.map (·.source)).eraseDups.flatMap fun source =>
        (connections.filter (Lists.dangles nodes)).filter (·.source == source) := by
  have hdangles : (ofLists nodes connections).dangles = Lists.dangles nodes := by
    funext c
    rw [dangles, Lists.dangles, has_eq_any, has_eq_any]
  rw [dangling, hdangles, outgoing_ofLists, List.flatMap_map, List.filter_flatMap]
  refine List.flatMap_congr fun source _ => ?_
  exact List.filter_comm _ _ connections

/-- **A graph gives what its lists hold.**  Under an id it gives the last node with it, if there is one.  Its nodes have
the ids of the list, each once and in the order in which they first come, and each is the node that is found under its id.
The connections that leave a source are those of the list with this source, in the order of the list.  Those that dangle
are the connections of the list with an end that is no node, none lost and none doubled: source by source in the order in
which the sources first come, and from one source in the order of the list. -/
theorem ofLists_faithful (nodes : List Node) (connections : List Connection) :
    let graph := ofLists nodes connections
    (∀ id, graph.node? id = (nodes.filter (·.id == id)).getLast?) ∧
    graph.allNodes.map (·.id) = (nodes.map (·.id)).eraseDups ∧
    graph.allNodes = (nodes.map (·.id)).eraseDups.filterMap graph.node? ∧
    (∀ source, graph.outgoingOf source = connections.filter (·.source == source)) ∧
    graph.dangling.Perm (connections.filter (Lists.dangles nodes)) ∧
    graph.dangling = (connections.map (·.source)).eraseDups.flatMap fun source =>
      (connections.filter (Lists.dangles nodes)).filter (·.source == source) := by
  intro graph
  have hperm : graph.dangling.Perm (connections.filter (Lists.dangles nodes)) := by
    have hnodup := nodup_keys_outgoing nodes connections
    rw [keys_outgoing_ofLists] at hnodup
    rw [show graph.dangling = _ from dangling_ofLists nodes connections]
    refine Lists.perm_groups Connection.source hnodup fun c hc => ?_
    exact List.mem_eraseDups.mpr (List.mem_map_of_mem (List.mem_filter.mp hc).1)
  exact ⟨node?_ofLists nodes connections, ids_allNodes nodes connections,
    allNodes_ofLists nodes connections, outgoingOf_ofLists nodes connections, hperm, dangling_ofLists nodes connections⟩

end Graph

end Chatflow
