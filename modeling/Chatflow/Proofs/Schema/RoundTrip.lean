import Chatflow.Conversation
import Chatflow.Proofs.Schema.Records
import Chatflow.Proofs.Schema.Spelling

/-!
# Reading records again

Messages, contexts, nodes, connections and workflows are read from JSON data, written as documents and read again.
What was read is plain: its open values are JSON data, and what belongs to no field stands under other names.  A plain
record is read again from its document as it was, since readers take what they once made of lax data as it is: the
text of an integer as a text, an integral number as an integer, a tag as a text, a number in a text as a number.

* `RoundTrips`: a kind of record is read again from its documents, which exist for what is not too deep, and is read the
  same whichever way a field is spelled.
* `records_roundTrip`: all five kinds are such.
-/

namespace Chatflow

open Schema

namespace Schema

variable {α : Type}

/-- A kind of record can be read again.

* `rereads`: what was read from JSON data and is not too deep is written as a document with the wire names of all
  fields in front, and that document is read, whatever the clock tells, as the record it was written for.
* `refuses`: what is too deep is not written.
* `respells`: a field under its own name in place of its wire name is read the same, when not both keys are there. -/
structure RoundTrips (names : List Name) (read : Clock → Value → Checked α) (wire : α → Except Value.Fault Value)
    (shallow : α → Prop) : Prop where
  rereads : ∀ (clock : Clock) (v : Value) (a : α), v.IsJson → read clock v = .ok a → shallow a →
    ∃ fields : Fields, wire a = .ok (.ofFields fields) ∧ names.map (·.wire) <+: fields.keys ∧
      ∀ later, read later (.ofFields fields) = .ok a
  refuses : ∀ (clock : Clock) (v : Value) (a : α), v.IsJson → read clock v = .ok a → ¬ shallow a →
    wire a = .error .tooDeep
  respells : ∀ (clock : Clock) (entries : Entries), ∀ name ∈ names,
    (name.own ≠ name.wire → Value.find? entries name.own = none) →
    read clock (.dictionary (entries.respelled name)) = read clock (.dictionary entries)

/-- Records can be read again when those read from JSON data are plain, and plain ones are written as documents that
are read as they were. -/
theorem RoundTrips.of_plain {names : List Name} {read : Clock → Value → Checked α}
    {wire : α → Except Value.Fault Value} {shallow : α → Prop} {declared extras : α → Fields} (plain : α → Prop)
    (hplain : ∀ {clock v a}, v.IsJson → read clock v = .ok a → plain a)
    (hwritten : ∀ {a}, plain a → Value.Written (wire a) (shallow a) (document (declared a) (extras a)))
    (hread : ∀ {a}, plain a → ∀ clock, read clock (document (declared a) (extras a)) = .ok a)
    (hkeys : ∀ a, (declared a).keys = names.map (·.wire)) (hapart : names.Pairwise Name.Apart)
    (halike : ∀ {entries more}, Alike names entries more →
      ∀ clock, read clock (.dictionary entries) = read clock (.dictionary more)) :
    RoundTrips names read wire shallow where
  rereads clock v a hjson h hshallow := by
    have ha := hplain hjson h
    refine ⟨declared a ++ extras a, (hwritten ha).eq_ok hshallow, ?_, hread ha⟩
    rw [← hkeys a, Keyed.keys, Keyed.keys, List.map_append]
    exact List.prefix_append _ _
  refuses clock v a hjson h hdeep := (hwritten (hplain hjson h)).eq_tooDeep hdeep
  respells clock entries name hname honly := halike (Entries.alike_respelled hapart hname honly) clock

end Schema

/-! ## Messages -/

namespace Role

theorem read_name (role : Role) : read (.text role.name) = .ok role := by cases role <;> rfl

end Role

namespace Message

/-- The declared fields of a message on the wire. -/
def declared (m : Message) : Fields :=
  [("id", .text m.id), ("role", .text m.role.name), ("content", .text m.content), ("timestamp", .text m.timestamp)]

/-- A message on the wire when nothing in it is too deep. -/
def document (m : Message) : Value := Schema.document m.declared m.extras

/-- Nothing in a message is too deep. -/
def Shallow (m : Message) : Prop := m.extras.Shallow

/-- What stands in a message behind its declared fields may stand there. -/
def Plain (m : Message) : Prop := Kept names m.extras

theorem read_dictionary_eq_ok_iff {clock : Clock} {entries : Entries} {m : Message} :
    read clock (.dictionary entries) = .ok m ↔
      entries.optional (.plain "id") readText ((clock 0).messageId "msg") = .ok m.id ∧
      entries.required (.plain "role") Role.read = .ok m.role ∧
      entries.required (.plain "content") readText = .ok m.content ∧
      entries.optional (.plain "timestamp") readText (clock 1).moment.iso = .ok m.timestamp ∧
      entries.extras names = .ok m.extras := by
  cases m
  simp [read, entriesOf, also_eq_ok_iff, Checked.fine, and_assoc]

theorem plain_of_read {clock : Clock} {v : Value} {m : Message} (hjson : v.IsJson) (h : read clock v = .ok m) :
    m.Plain := by
  cases v with
  | dictionary entries =>
    obtain ⟨fields, rfl, hfields⟩ := hjson.exists_fields
    obtain ⟨-, -, -, -, hextras⟩ := read_dictionary_eq_ok_iff.mp h
    exact kept_of_extras hfields hextras
  | _ => cases h

theorem written {m : Message} (h : m.Plain) : Value.Written m.wire m.Shallow m.document :=
  h.areJson.written.map _

theorem read_document {m : Message} (h : m.Plain) (clock : Clock) : read clock m.document = .ok m :=
  read_dictionary_eq_ok_iff.mpr
    ⟨optional_document _ _ rfl rfl,
      required_document _ rfl (Role.read_name m.role),
      required_document _ rfl rfl,
      optional_document _ _ rfl rfl,
      extras_document rfl h⟩

theorem read_alike {entries more : Entries} (h : Alike names entries more) (clock : Clock) :
    read clock (.dictionary entries) = read clock (.dictionary more) := by
  have hfields := h.field?
  simp only [names, List.forall_mem_cons] at hfields
  simp only [read, entriesOf, Entries.optional, Entries.required, hfields, h.extras]

theorem roundTrips : RoundTrips names read wire Shallow :=
  .of_plain Plain plain_of_read written read_document (fun _ => rfl) (by decide) read_alike

end Message

/-! ## Nodes -/

namespace NodeKind

theorem read_name (kind : NodeKind) : read (.text kind.name) = .ok kind := by cases kind <;> rfl

end NodeKind

namespace Node

/-- The declared fields of a node on the wire. -/
def declared (node : Node) : Fields :=
  [("id", .text node.id), ("type", .text node.kind.name), ("label", .text node.label),
    ("position", .ofFields (node.position.map fun (k, x) => (k, .real x))), ("data", .ofFields node.data)]

/-- A node on the wire when nothing in it is too deep. -/
def document (node : Node) : Value := Schema.document node.declared node.extras

/-- Nothing in a node is too deep. -/
def Shallow (node : Node) : Prop := node.data.Shallow ∧ node.extras.Shallow

/-- The open data of a node are JSON data, and so is what stands behind its declared fields. -/
def Plain (node : Node) : Prop := node.data.AreJson ∧ Kept names node.extras

theorem read_dictionary_eq_ok_iff {entries : Entries} {node : Node} :
    read (.dictionary entries) = .ok node ↔
      entries.required (.plain "id") readText = .ok node.id ∧
      entries.required (.plain "type") NodeKind.read = .ok node.kind ∧
      entries.optional (.plain "label") readText "" = .ok node.label ∧
      entries.optional (.plain "position") (readKeyed readReal) [] = .ok node.position ∧
      entries.optional (.plain "data") readData [] = .ok node.data ∧
      entries.extras names = .ok node.extras := by
  cases node
  simp [read, entriesOf, also_eq_ok_iff, Checked.fine, and_assoc]

/-- The data of a node that was read from JSON data are JSON data: null stands for none. -/
theorem areJson_of_readData {v : Value} {data : Fields} (hjson : v.IsJson) (h : readData v = .ok data) :
    data.AreJson := by
  cases v with
  | null =>
    obtain rfl := Except.ok.inj h
    exact fun _ he => nomatch he
  | dictionary entries =>
    have hdata : Value.dictionary entries = .ofFields data := readKeyed_eq_ok_iff.mp h
    exact (hdata ▸ hjson).areJson
  | _ => cases h

theorem plain_of_read {v : Value} {node : Node} (hjson : v.IsJson) (h : read v = .ok node) : node.Plain := by
  cases v with
  | dictionary entries =>
    obtain ⟨fields, rfl, hfields⟩ := hjson.exists_fields
    obtain ⟨-, -, -, -, hdata, hextras⟩ := read_dictionary_eq_ok_iff.mp h
    refine ⟨of_optional Fields.AreJson hfields hdata (fun _ he => nomatch he) fun v hv hread => ?_,
      kept_of_extras hfields hextras⟩
    exact areJson_of_readData hv hread
  | _ => cases h

theorem written {node : Node} (h : node.Plain) : Value.Written node.wire node.Shallow node.document :=
  h.1.written.bind (h.2.areJson.written.map _)

/-- Positions are read again as they are, also those that are not finite. -/
theorem readKeyed_readReal (position : Keyed Binary64) :
    readKeyed readReal (.ofFields (position.map fun (k, x) => (k, .real x))) = .ok position := by
  rw [readKeyed_ofFields_eq_ok_iff, List.forall₂_map_left_iff, List.forall₂_same]
  exact fun _ _ => ⟨rfl, rfl⟩

theorem read_document {node : Node} (h : node.Plain) : read node.document = .ok node :=
  read_dictionary_eq_ok_iff.mpr
    ⟨required_document _ rfl rfl,
      required_document _ rfl (NodeKind.read_name node.kind),
      optional_document _ _ rfl rfl,
      optional_document _ _ rfl (readKeyed_readReal node.position),
      optional_document _ _ rfl (readKeyed_eq_ok_iff.mpr rfl),
      extras_document rfl h.2⟩

theorem read_alike {entries more : Entries} (h : Alike names entries more) :
    read (.dictionary entries) = read (.dictionary more) := by
  have hfields := h.field?
  simp only [names, List.forall_mem_cons] at hfields
  simp only [read, entriesOf, Entries.optional, Entries.required, hfields, h.extras]

theorem roundTrips : RoundTrips names (fun _ => read) wire Shallow :=
  .of_plain Plain plain_of_read written (fun h _ => read_document h) (fun _ => rfl) (by decide) fun h _ => read_alike h

end Node

/-! ## Connections -/

namespace Connection

/-- The declared fields of a connection on the wire. -/
def declared (c : Connection) : Fields :=
  [("id", .text c.id), ("source", .text c.source), ("target", .text c.target), ("condition", .ofText? c.condition)]

/-- A connection on the wire when nothing in it is too deep. -/
def document (c : Connection) : Value := Schema.document c.declared c.extras

/-- Nothing in a connection is too deep. -/
def Shallow (c : Connection) : Prop := c.extras.Shallow

/-- What stands in a connection behind its declared fields may stand there. -/
def Plain (c : Connection) : Prop := Kept names c.extras

theorem read_dictionary_eq_ok_iff {entries : Entries} {c : Connection} :
    read (.dictionary entries) = .ok c ↔
      entries.required (.plain "id") readText = .ok c.id ∧
      entries.required (.plain "source") readText = .ok c.source ∧
      entries.required (.plain "target") readText = .ok c.target ∧
      entries.optional (.plain "condition") readTag none = .ok c.condition ∧
      entries.extras names = .ok c.extras := by
  cases c
  simp [read, entriesOf, also_eq_ok_iff, Checked.fine, and_assoc]

theorem plain_of_read {v : Value} {c : Connection} (hjson : v.IsJson) (h : read v = .ok c) : c.Plain := by
  cases v with
  | dictionary entries =>
    obtain ⟨fields, rfl, hfields⟩ := hjson.exists_fields
    obtain ⟨-, -, -, -, hextras⟩ := read_dictionary_eq_ok_iff.mp h
    exact kept_of_extras hfields hextras
  | _ => cases h

theorem written {c : Connection} (h : c.Plain) : Value.Written c.wire c.Shallow c.document :=
  (h.areJson.written.map _).map _

/-- A tag is a text or null, and is read again as it is. -/
theorem readTag_ofText? (tag : Option String) : readTag (.ofText? tag) = .ok tag := by cases tag <;> rfl

theorem read_document {c : Connection} (h : c.Plain) : read c.document = .ok c :=
  read_dictionary_eq_ok_iff.mpr
    ⟨required_document _ rfl rfl,
      required_document _ rfl rfl,
      required_document _ rfl rfl,
      optional_document _ _ rfl (readTag_ofText? c.condition),
      extras_document rfl h⟩

theorem read_alike {entries more : Entries} (h : Alike names entries more) :
    read (.dictionary entries) = read (.dictionary more) := by
  have hfields := h.field?
  simp only [names, List.forall_mem_cons] at hfields
  simp only [read, entriesOf, Entries.optional, Entries.required, hfields, h.extras]

theorem roundTrips : RoundTrips names (fun _ => read) wire Shallow :=
  .of_plain Plain plain_of_read written (fun h _ => read_document h) (fun _ => rfl) (by decide) fun h _ => read_alike h

end Connection

/-! ## Workflows -/

namespace PersonId

/-- An id is an integer or a text, and is read again as it is. -/
theorem read_value (i : PersonId) : read i.value = .ok i := by cases i <;> rfl

theorem orNull_read_value? (i : Option PersonId) : orNull read (value? i) = .ok i := by
  rcases i with _ | _ | _ <;> rfl

end PersonId

namespace Workflow

/-- The declared fields of a workflow on the wire. -/
def declared (w : Workflow) : Fields :=
  [("id", .text w.id), ("name", .text w.name), ("description", .text w.description),
    ("nodes", .list (w.nodes.map Node.document)), ("connections", .list (w.connections.map Connection.document)),
    ("assistantId", PersonId.value? w.assistant)]

/-- A workflow on the wire when nothing in it is too deep. -/
def document (w : Workflow) : Value := Schema.document w.declared w.extras

/-- Nothing in a workflow is too deep. -/
def Shallow (w : Workflow) : Prop :=
  (∀ node ∈ w.nodes, node.Shallow) ∧ (∀ c ∈ w.connections, c.Shallow) ∧ w.extras.Shallow

/-- Nodes and connections are plain, and so is what stands behind the declared fields. -/
def Plain (w : Workflow) : Prop :=
  (∀ node ∈ w.nodes, node.Plain) ∧ (∀ c ∈ w.connections, c.Plain) ∧ Kept names w.extras

theorem read_dictionary_eq_ok_iff {entries : Entries} {w : Workflow} :
    read (.dictionary entries) = .ok w ↔
      entries.required (.plain "id") readId = .ok w.id ∧
      entries.optional (.plain "name") readText "" = .ok w.name ∧
      entries.optional (.plain "description") readText "" = .ok w.description ∧
      entries.optional (.plain "nodes") (readList Node.read) [] = .ok w.nodes ∧
      entries.optional (.plain "connections") (readList Connection.read) [] = .ok w.connections ∧
      entries.optional ⟨"assistantId", "assistant_id"⟩ (orNull PersonId.read) none = .ok w.assistant ∧
      entries.extras names = .ok w.extras := by
  cases w
  simp [read, entriesOf, also_eq_ok_iff, Checked.fine, and_assoc]

theorem plain_of_read {v : Value} {w : Workflow} (hjson : v.IsJson) (h : read v = .ok w) : w.Plain := by
  cases v with
  | dictionary entries =>
    obtain ⟨fields, rfl, hfields⟩ := hjson.exists_fields
    obtain ⟨-, -, -, hnodes, hconnections, -, hextras⟩ := read_dictionary_eq_ok_iff.mp h
    refine ⟨of_optional (∀ node ∈ ·, node.Plain) hfields hnodes (fun _ hn => nomatch hn) fun v hv hread => ?_,
      of_optional (∀ c ∈ ·, c.Plain) hfields hconnections (fun _ hc => nomatch hc) fun v hv hread => ?_,
      kept_of_extras hfields hextras⟩
    · exact forall_of_readRow hv hread fun _ _ _ => Node.plain_of_read
    · exact forall_of_readRow hv hread fun _ _ _ => Connection.plain_of_read
  | _ => cases h

theorem written {w : Workflow} (h : w.Plain) : Value.Written w.wire w.Shallow w.document := by
  obtain ⟨hnodes, hconnections, hextras⟩ := h
  exact (Value.Written.mapM fun node hnode => Node.written (hnodes node hnode)).bind
    ((Value.Written.mapM fun c hc => Connection.written (hconnections c hc)).bind (hextras.areJson.written.map _))

theorem read_document {w : Workflow} (h : w.Plain) : read w.document = .ok w := by
  obtain ⟨hnodes, hconnections, hextras⟩ := h
  have hreadNodes : readList Node.read (.list (w.nodes.map Node.document)) = .ok w.nodes :=
    readRow_map fun _ node hnode => Node.read_document (hnodes node hnode)
  have hreadConnections :
      readList Connection.read (.list (w.connections.map Connection.document)) = .ok w.connections :=
    readRow_map fun _ c hc => Connection.read_document (hconnections c hc)
  exact read_dictionary_eq_ok_iff.mpr
    ⟨required_document _ rfl rfl,
      optional_document _ _ rfl rfl,
      optional_document _ _ rfl rfl,
      optional_document _ _ rfl hreadNodes,
      optional_document _ _ rfl hreadConnections,
      optional_document _ _ rfl (PersonId.orNull_read_value? w.assistant),
      extras_document rfl hextras⟩

theorem read_alike {entries more : Entries} (h : Alike names entries more) :
    read (.dictionary entries) = read (.dictionary more) := by
  have hfields := h.field?
  simp only [names, List.forall_mem_cons] at hfields
  simp only [read, entriesOf, Entries.optional, Entries.required, hfields, h.extras]

theorem roundTrips : RoundTrips names (fun _ => read) wire Shallow :=
  .of_plain Plain plain_of_read written (fun h _ => read_document h) (fun _ => rfl) (by decide) fun h _ => read_alike h

end Workflow

/-! ## Contexts -/

namespace Context

/-- The declared fields of a context on the wire. -/
def declared (c : Context) : Fields :=
  [("variables", .ofFields c.vars), ("messages", .list (c.messages.map Message.document)),
    ("currentNodeId", .ofText? c.currentNode), ("userId", c.user.value), ("assistantId", PersonId.value? c.assistant)]

/-- A context on the wire when nothing in it is too deep. -/
def document (c : Context) : Value := Schema.document c.declared c.extras

/-- Nothing in a context is too deep. -/
def Shallow (c : Context) : Prop := c.vars.Shallow ∧ (∀ m ∈ c.messages, m.Shallow) ∧ c.extras.Shallow

/-- Variables are JSON data, messages are plain, and so is what stands behind the declared fields. -/
def Plain (c : Context) : Prop := c.vars.AreJson ∧ (∀ m ∈ c.messages, m.Plain) ∧ Kept names c.extras

theorem read_dictionary_eq_ok_iff {clock : Clock} {entries : Entries} {c : Context} :
    read clock (.dictionary entries) = .ok c ↔
      entries.optional (.plain "variables") (readKeyed .ok) [] = .ok c.vars ∧
      entries.optional (.plain "messages") (Message.readAll clock) [] = .ok c.messages ∧
      entries.optional ⟨"currentNodeId", "current_node_id"⟩ (orNull readText) none = .ok c.currentNode ∧
      entries.required ⟨"userId", "user_id"⟩ PersonId.read = .ok c.user ∧
      entries.optional ⟨"assistantId", "assistant_id"⟩ (orNull PersonId.read) none = .ok c.assistant ∧
      entries.extras names = .ok c.extras := by
  cases c
  simp [read, entriesOf, also_eq_ok_iff, Checked.fine, and_assoc]

theorem plain_of_read {clock : Clock} {v : Value} {c : Context} (hjson : v.IsJson) (h : read clock v = .ok c) :
    c.Plain := by
  cases v with
  | dictionary entries =>
    obtain ⟨fields, rfl, hfields⟩ := hjson.exists_fields
    obtain ⟨hvars, hmessages, -, -, -, hextras⟩ := read_dictionary_eq_ok_iff.mp h
    refine ⟨of_optional Fields.AreJson hfields hvars (fun _ he => nomatch he) fun v hv hread => ?_,
      of_optional (∀ m ∈ ·, m.Plain) hfields hmessages (fun _ hm => nomatch hm) fun v hv hread => ?_,
      kept_of_extras hfields hextras⟩
    · exact (readKeyed_eq_ok_iff.mp hread ▸ hv).areJson
    · exact forall_of_readRow hv hread fun _ _ _ => Message.plain_of_read
  | _ => cases h

theorem written {c : Context} (h : c.Plain) : Value.Written c.wire c.Shallow c.document := by
  obtain ⟨hvars, hmessages, hextras⟩ := h
  have hlist : Value.Written (Message.wires c.messages) (∀ m ∈ c.messages, m.Shallow)
      (.list (c.messages.map Message.document)) :=
    (Value.Written.mapM fun m hm => Message.written (hmessages m hm)).map _
  exact hvars.written.bind (hlist.bind (hextras.areJson.written.map _))

theorem read_document {c : Context} (h : c.Plain) (clock : Clock) : read clock c.document = .ok c := by
  obtain ⟨-, hmessages, hextras⟩ := h
  have hreadMessages : Message.readAll clock (.list (c.messages.map Message.document)) = .ok c.messages :=
    readRow_map fun _ m hm => Message.read_document (hmessages m hm) _
  exact read_dictionary_eq_ok_iff.mpr
    ⟨optional_document _ _ rfl (readKeyed_eq_ok_iff.mpr rfl),
      optional_document _ _ rfl hreadMessages,
      optional_document _ _ rfl (orNull_readText_eq_ok_iff.mpr rfl),
      required_document _ rfl (PersonId.read_value c.user),
      optional_document _ _ rfl (PersonId.orNull_read_value? c.assistant),
      extras_document rfl hextras⟩

theorem read_alike {entries more : Entries} (h : Alike names entries more) (clock : Clock) :
    read clock (.dictionary entries) = read clock (.dictionary more) := by
  have hfields := h.field?
  simp only [names, List.forall_mem_cons] at hfields
  simp only [read, entriesOf, Entries.optional, Entries.required, hfields, h.extras]

theorem roundTrips : RoundTrips names read wire Shallow :=
  .of_plain Plain plain_of_read written read_document (fun _ => rfl) (by decide) read_alike

end Context

/-! ## All kinds -/

/-- **Records are read again as they were.**  A context, message, node, connection or workflow that was read from JSON
data is written as a document with the wire names in front, and that document is read as the very record, which is then
written in the same way; unless a variable, an entry in the data of a node or a value that belongs to no field, also of
a node, connection or message in it, is deeper than may be written: then it is refused.  To spell a field by its own
name instead of its wire name, when only one of the two is there, changes nothing of what is read, be it a record or a
list of problems. -/
theorem records_roundTrip :
    RoundTrips Context.names Context.read Context.wire Context.Shallow ∧
    RoundTrips Message.names Message.read Message.wire Message.Shallow ∧
    RoundTrips Node.names (fun _ => Node.read) Node.wire Node.Shallow ∧
    RoundTrips Connection.names (fun _ => Connection.read) Connection.wire Connection.Shallow ∧
    RoundTrips Workflow.names (fun _ => Workflow.read) Workflow.wire Workflow.Shallow :=
  ⟨Context.roundTrips, Message.roundTrips, Node.roundTrips, Connection.roundTrips, Workflow.roundTrips⟩

/-- With both spellings there, the wire name has the id of the user; what stands under the other one is kept. -/
theorem records_roundTrip_both :
    let clock : Clock := (Tick.mk ⟨0⟩ "").forever
    let v : Value := .ofFields [("user_id", .text "x"), ("userId", .bool true), ("assistant_id", .int 3)]
    let c : Context := { user := .number 1, assistant := some (.number 3), extras := [("user_id", .text "x")] }
    v.IsJson ∧ Context.read clock v = .ok c ∧ c.Shallow ∧
      ∃ fields : Fields, c.wire = .ok (.ofFields fields) ∧
        fields.keys = ["variables", "messages", "currentNodeId", "userId", "assistantId", "user_id"] ∧
        ∀ later, Context.read later (.ofFields fields) = .ok c := by
  intro clock v c
  have hjson : v.IsJson := by
    refine .object (by decide) ?_
    simp only [List.forall_mem_cons]
    exact ⟨.text _, .bool _, .int _, nofun⟩
  have hread : Context.read clock v = .ok c := rfl
  have hshallow : c.Shallow := by
    refine ⟨nofun, nofun, List.forall_mem_singleton.mpr ?_⟩
    decide
  obtain ⟨fields, hwire, -, hagain⟩ := records_roundTrip.1.rereads clock v c hjson hread hshallow
  have hfields : c.document = .ofFields fields := Except.ok.inj ((rfl : Except.ok c.document = c.wire).trans hwire)
  obtain rfl := Value.ofFields_injective hfields
  exact ⟨hjson, hread, hshallow, _, hwire, rfl, hagain⟩

namespace Value

/-- A list with nothing in it, inside as many others. -/
def nested : Nat → Value
  | 0 => .list []
  | n + 1 => .list [nested n]

theorem isJson_nested (n : Nat) : (nested n).IsJson := by
  induction n with
  | zero => exact .list nofun
  | succ n ih => exact .list (List.forall_mem_singleton.mpr ih)

theorem depth_nested (n : Nat) : (nested n).depth = n + 1 := by
  induction n with
  | zero => rfl
  | succ n ih => rw [nested, depth, depths, ih, depths, Nat.max_eq_max, Nat.max_zero]

end Value

/-- **A record that was read may have no document.**  A message with three hundred lists inside each other is read, and
refused when it is to be written. -/
theorem nested_not_written :
    let clock : Clock := (Tick.mk ⟨0⟩ "").forever
    let deep : Fields := [("extra", .nested 299)]
    let v : Value := .ofFields
      ([("id", .text "a"), ("role", .text "user"), ("content", .text "x"), ("timestamp", .text "t")] ++ deep)
    let m : Message := { id := "a", role := .user, content := "x", timestamp := "t", extras := deep }
    v.IsJson ∧ Message.read clock v = .ok m ∧ m.wire = .error .tooDeep := by
  intro clock deep v m
  have hjson : v.IsJson := by
    refine .object (by decide) ?_
    simp only [deep, List.cons_append, List.nil_append, List.forall_mem_cons]
    exact ⟨.text _, .text _, .text _, .text _, Value.isJson_nested _, nofun⟩
  have hread : Message.read clock v = .ok m := rfl
  have hdeep : ¬ m.Shallow := by
    intro h
    have hdepth := h ("extra", .nested 299) List.mem_cons_self
    rw [Value.depth_nested] at hdepth
    exact absurd hdepth (by decide)
  exact ⟨hjson, hread, Message.roundTrips.refuses clock v m hjson hread hdeep⟩

end Chatflow
