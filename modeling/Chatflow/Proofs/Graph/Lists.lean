import Mathlib.Data.List.Induction
import Chatflow.Workflow.Graph

/-!
# Graphs and the lists that they are made of

A graph is made by two folds, one over a list of nodes and one over a list of connections.  Here it is read off the
lists themselves, without either fold:

* `node?_ofLists`: a node is found under an id when it is the last of the list with that id.
* `outgoingOf_ofLists`: the connections that leave a node are those of the list with that source, in its order.
* `mem_dangling_ofLists`: a connection dangles when one of its ends is no node.
* `target_route_ofLists`: a walk goes on to the id that the lists give (`Lists.successor`).
-/

namespace Chatflow

namespace Lists

/-- The last node of a list with an id. -/
def node? (nodes : List Node) (id : String) : Option Node := (nodes.filter (·.id == id)).getLast?

/-- The tag that the data of a condition ask for. -/
def tagOf (data : Option Fields) : String :=
  match data.bind (·.get? "conditionMet") with
  | some v => if v.truthy then "true" else "false"
  | none => "false"

/-- The connection of a list along which a node leads: behind a condition the first one from it with the right tag if
there is one, else the first one from it. -/
def choice (connections : List Connection) (node : Node) (data : Option Fields) : Option Connection :=
  let first := connections.find? fun c => c.source == node.id
  if node.kind = .condition then
    (connections.find? fun c => c.source == node.id && c.condition == some (tagOf data)).or first
  else first

/-- The id to which a completed node leads: the one that it asked for, else the target of its connection; empty when
there is neither. -/
def successor (connections : List Connection) (node : Node) (data : Option Fields) (next : Option String) : String :=
  if next.getD "" ≠ "" then next.getD "" else ((choice connections node data).map (·.target)).getD ""

/-- Whether the data of a completed node are asked whether a condition was met: no node was asked for, it is a condition,
connections of the list leave it, and the data tell. -/
def asksBranch (connections : List Connection) (node : Node) (data : Option Fields) (next : Option String) : Bool :=
  (next.getD "").isEmpty && decide (node.kind = .condition) && connections.any (·.source == node.id) &&
    (data.bind (·.get? "conditionMet")).isSome

theorem id_of_node? {nodes : List Node} {id : String} {node : Node} (h : node? nodes id = some node) :
    node ∈ nodes ∧ node.id = id := by
  have hm := List.mem_of_getLast? h
  rw [List.mem_filter] at hm
  exact ⟨hm.1, by simpa using hm.2⟩

theorem node?_eq_none_iff {nodes : List Node} {id : String} :
    node? nodes id = none ↔ ∀ node ∈ nodes, node.id ≠ id := by
  rw [node?, List.getLast?_eq_none_iff, List.filter_eq_nil_iff]
  simp only [beq_iff_eq]

/-- The connection of a choice is in the list and leaves the node. -/
theorem mem_of_choice {connections : List Connection} {node : Node} {data : Option Fields} {c : Connection}
    (h : choice connections node data = some c) : c ∈ connections ∧ c.source = node.id := by
  have hfirst : connections.find? (fun c => c.source == node.id) = some c → c ∈ connections ∧ c.source = node.id :=
    fun hf => ⟨List.mem_of_find?_eq_some hf, by simpa using List.find?_some hf⟩
  unfold choice at h
  by_cases hk : node.kind = .condition
  · rw [if_pos hk] at h
    rcases Option.or_eq_some_iff.mp h with htag | ⟨-, hf⟩
    · have htagged := List.find?_some htag
      rw [Bool.and_eq_true, beq_iff_eq] at htagged
      exact ⟨List.mem_of_find?_eq_some htag, htagged.1⟩
    · exact hfirst hf
  · rw [if_neg hk] at h
    exact hfirst h

/-- There is no choice just where no connection leaves the node. -/
theorem choice_eq_none_iff {connections : List Connection} {node : Node} {data : Option Fields} :
    choice connections node data = none ↔ ∀ c ∈ connections, c.source ≠ node.id := by
  have hfirst : connections.find? (fun c => c.source == node.id) = none ↔ ∀ c ∈ connections, c.source ≠ node.id := by
    rw [List.find?_eq_none]
    simp only [beq_iff_eq]
  unfold choice
  by_cases hk : node.kind = .condition
  · rw [if_pos hk, Option.or_eq_none_iff, hfirst, List.find?_eq_none, and_iff_right_iff_imp]
    intro hnone c hc htagged
    rw [Bool.and_eq_true, beq_iff_eq] at htagged
    exact hnone c hc htagged.1
  · rw [if_neg hk, hfirst]

end Lists

/-- The connection that a route goes along. -/
def Route.connection? : Route → Option Connection
  | .along connection _ => some connection
  | _ => none

namespace Graph

theorem node?_ofLists (nodes : List Node) (connections : List Connection) (id : String) :
    (ofLists nodes connections).node? id = Lists.node? nodes id := by
  show (nodes.foldl addNode []).get? id = _
  induction nodes using List.reverseRecOn with
  | nil => rfl
  | append_singleton rest node ih =>
    rw [List.foldl_append, List.foldl_cons, List.foldl_nil, addNode, Keyed.get?_set, ih]
    unfold Lists.node?
    by_cases h : node.id = id <;> simp [h]

/-- Every node of a graph is found under its own id. -/
def IsKeyed (graph : Graph) : Prop := ∀ ⦃id node⦄, graph.node? id = some node → node.id = id

theorem isKeyed_ofLists (nodes : List Node) (connections : List Connection) :
    (ofLists nodes connections).IsKeyed := by
  intro id node h
  rw [node?_ofLists] at h
  exact (Lists.id_of_node? h).2

theorem outgoingOf_ofLists (nodes : List Node) (connections : List Connection) (id : String) :
    (ofLists nodes connections).outgoingOf id = connections.filter (·.source == id) := by
  show ((connections.foldl addConnection []).get? id).getD [] = _
  induction connections using List.reverseRecOn with
  | nil => rfl
  | append_singleton rest c ih =>
    rw [List.foldl_append, List.foldl_cons, List.foldl_nil, addConnection, Keyed.get?_set,
      List.filter_append, ← ih]
    by_cases h : c.source = id
    · subst h
      simp
    · simp [h]

/-- A graph has the ids of its nodes. -/
theorem has_ofLists (nodes : List Node) (connections : List Connection) (id : String) :
    (ofLists nodes connections).has id = true ↔ ∃ node ∈ nodes, node.id = id := by
  have hfound : (ofLists nodes connections).has id = (Lists.node? nodes id).isSome := by
    rw [← node?_ofLists nodes connections, node?, Keyed.isSome_get?]
    rfl
  rw [hfound, Option.isSome_iff_ne_none, ne_eq, Lists.node?_eq_none_iff]
  push Not
  rfl

theorem nodup_keys_outgoing (nodes : List Node) (connections : List Connection) :
    (ofLists nodes connections).outgoing.keys.Nodup := by
  show (connections.foldl addConnection []).keys.Nodup
  induction connections using List.reverseRecOn with
  | nil => exact List.nodup_nil
  | append_singleton rest c ih =>
    rw [List.foldl_append, List.foldl_cons, List.foldl_nil, addConnection]
    exact Keyed.nodup_keys_set ih c.source _

/-- **The connections that dangle are those of the list an end of which is no node.** -/
theorem mem_dangling_ofLists (nodes : List Node) (connections : List Connection) (c : Connection) :
    c ∈ (ofLists nodes connections).dangling ↔
      c ∈ connections ∧ ((∀ node ∈ nodes, node.id ≠ c.source) ∨ ∀ node ∈ nodes, node.id ≠ c.target) := by
  have hlisted : c ∈ (ofLists nodes connections).outgoing.flatMap (·.2) ↔ c ∈ connections := by
    rw [List.mem_flatMap]
    constructor
    · rintro ⟨⟨source, leaving⟩, hmem, hc⟩
      have hget := (Keyed.get?_eq_some_iff (nodup_keys_outgoing nodes connections)).mpr hmem
      have hleaving : leaving = connections.filter (·.source == source) := by
        rw [← outgoingOf_ofLists nodes connections, outgoingOf, hget]
        rfl
      rw [hleaving] at hc
      exact (List.mem_filter.mp hc).1
    · intro hc
      have hmem : c ∈ (ofLists nodes connections).outgoingOf c.source := by
        rw [outgoingOf_ofLists]
        exact List.mem_filter.mpr ⟨hc, beq_self_eq_true _⟩
      unfold outgoingOf at hmem
      cases hget : (ofLists nodes connections).outgoing.get? c.source with
      | none =>
        rw [hget] at hmem
        cases hmem
      | some leaving =>
        rw [hget] at hmem
        exact ⟨_, (Keyed.get?_eq_some_iff (nodup_keys_outgoing nodes connections)).mp hget, hmem⟩
  have hknown : ∀ id, (ofLists nodes connections).has id = false ↔ ∀ node ∈ nodes, node.id ≠ id := by
    intro id
    rw [Bool.eq_false_iff, ne_eq, has_ofLists]
    push Not
    rfl
  rw [dangling, List.mem_filter, hlisted, dangles, Bool.or_eq_true, Bool.not_eq_true', Bool.not_eq_true', hknown,
    hknown]

theorem toString_branch (data : Option Fields) : toString (branch data) = Lists.tagOf data := by
  unfold branch Lists.tagOf
  cases data.bind (·.get? "conditionMet") with
  | none => rfl
  | some v => cases h : v.truthy <;> simp [h] <;> rfl

theorem asksBranch_ofLists (nodes : List Node) (connections : List Connection) (node : Node) (data : Option Fields)
    (next : Option String) :
    (ofLists nodes connections).asksBranch node data next = Lists.asksBranch connections node data next := by
  have hleft : (!(connections.filter (·.source == node.id)).isEmpty) = connections.any (·.source == node.id) := by
    rw [Bool.eq_iff_iff]
    simp
  rw [asksBranch, outgoingOf_ofLists, hleft]
  rfl

/-- When no node was asked for, a walk goes along the connection that the list offers. -/
theorem connection?_unasked (graph : Graph) (connections : List Connection) (node : Node) (data : Option Fields)
    (h : graph.outgoingOf node.id = connections.filter (·.source == node.id)) :
    (route.unasked graph node data).connection? = Lists.choice connections node data := by
  have hfirst : connections.find? (fun c => c.source == node.id) = (graph.outgoingOf node.id).head? := by
    rw [h, List.head?_filter]
  have htag : connections.find? (fun c => c.source == node.id && c.condition == some (Lists.tagOf data)) =
      (graph.outgoingOf node.id).find? fun c => c.condition == some (toString (branch data)) := by
    rw [h, List.find?_filter, toString_branch]
    congr 1
    funext c
    rw [Bool.eq_iff_iff]
    simp
  unfold route.unasked Lists.choice
  simp only [hfirst, htag]
  cases graph.outgoingOf node.id with
  | nil => by_cases hk : node.kind = .condition <;> simp [hk, Route.connection?]
  | cons first rest =>
    by_cases hk : node.kind = .condition
    · simp only [if_pos hk]
      cases (first :: rest).find? fun c => c.condition == some (toString (branch data)) <;>
        simp [Route.connection?]
    · simp [hk, Route.connection?]

/-- When no node was asked for, a walk goes to the target of its connection, if it has one. -/
theorem target_unasked (graph : Graph) (node : Node) (data : Option Fields) :
    (route.unasked graph node data).target =
      ((route.unasked graph node data).connection?.map (·.target)).getD "" := by
  unfold route.unasked
  split
  · rfl
  · split
    · split <;> rfl
    · rfl

/-- **Where a walk goes on is told by the list of connections alone.** -/
theorem target_route_ofLists (nodes : List Node) (connections : List Connection) (node : Node)
    (data : Option Fields) (next : Option String) :
    ((ofLists nodes connections).route node data next).target =
      Lists.successor connections node data next := by
  have hun := target_unasked (ofLists nodes connections) node data
  rw [connection?_unasked _ connections node data (outgoingOf_ofLists nodes connections node.id)] at hun
  unfold route Lists.successor
  cases next with
  | none => simpa using hun
  | some id =>
    by_cases h : id = ""
    · simpa [h] using hun
    · simp [h, Route.target]

end Graph

end Chatflow
