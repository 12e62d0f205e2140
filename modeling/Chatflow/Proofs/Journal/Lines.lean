import Chatflow.Proofs.Journal.Members
import Chatflow.Proofs.Json.RoundTrip

/-!
# Structured entries are lines

An entry whose data are JSON data is written as one line of printable ASCII, whatever texts it holds: no line break gets
through, and no text can pass for another member.  The line is read as an object that says what the record and the trace
say (`Entry.Says`), as long as the data are within the limits of the writer and of the reader
(`Entry.structured_line_iff`).
-/

namespace Chatflow

/-- The names of what a trace holds. -/
def Trace.names : List String := ["execution_id", "workflow_id", "node_id"]

namespace Entry

/-- An entry of JSON data, whose trace holds nothing but what names a run. -/
structure HoldsJson (entry : Entry) : Prop where
  named : ∀ name ∈ entry.trace.keys, name ∈ Trace.names
  once : entry.trace.keys.Nodup
  trace : entry.trace.AreJson
  details : (carried entry.record).AreJson

/-- What an object says of an entry: the level by its name in small letters, the source, the message without colours,
those details that are not null, and the node, which is that of the record before that of the trace. -/
structure Says (entry : Entry) (fields : Fields) : Prop where
  level : fields.get? "level" = some (.text (String.ofList (Text.lower (Record.levelName entry.record.level).toList)))
  logger : fields.get? "logger" = some (.text entry.record.source)
  message : fields.get? "message" = some (.text (Text.uncoloured entry.record.message))
  event : fields.get? "event" = detail? entry.record.event
  model : fields.get? "model" = detail? entry.record.model
  node : fields.get? "node_id" = (detail? entry.record.node).or (entry.trace.get? "node_id")

/-- The members of a structured entry are within the limits of a writer or a reader with some room; the entry itself is
one container. -/
def Within (room : Nat) (now : Moment) (entry : Entry) : Prop := (Value.ofFields (entry.members now)).Renders room

variable {entry : Entry} (out room : Nat) (now : Moment)

theorem HoldsJson.get?_trace (h : entry.HoldsJson) {name : String} (hname : name ∉ Trace.names) :
    entry.trace.get? name = none :=
  Keyed.get?_of_not_mem fun hmem => hname (h.named name hmem)

/-- **The members say what the record and the trace say.** -/
theorem HoldsJson.said (h : entry.HoldsJson) : entry.Says (entry.members now) := by
  have hfound : ∀ {name}, name ≠ "exception" → (entry.members now).get? name =
      (((carried entry.record).get? name).bind detail?).or
        ((entry.trace.get? name).or ((head now entry.record).get? name)) := by
    intro name hname
    rw [get?_members now entry hname, get?_details, Keyed.get?_merge_of_nodup _ h.once]
  constructor
  case level | logger | message =>
    rw [hfound (by decide), h.get?_trace (by decide)]
    rfl
  case event | model =>
    rw [hfound (by decide), h.get?_trace (by decide)]
    exact Option.or_none
  case node =>
    rw [hfound (by decide)]
    exact congrArg (Option.or _) Option.or_none

theorem isJson_plainDetail {v : Value} (h : v.IsJson) : (plainDetail v).IsJson := by
  cases h with
  | text s => exact .text _
  | null => exact .null
  | bool b => exact .bool b
  | int n => exact .int n
  | real negative units onGrid => exact .real negative units onGrid
  | list each => exact .list each
  | object once each => exact .object once each

theorem isJson_of_mem_details (h : (carried entry.record).AreJson) : (details entry.record).AreJson := by
  intro e he
  rw [details_eq] at he
  obtain ⟨source, hsource, hmap⟩ := List.mem_filterMap.mp he
  obtain ⟨w, hw, rfl⟩ := Option.map_eq_some_iff.mp hmap
  have hjson := isJson_plainDetail (h source hsource)
  cases hv : source.2 <;> rw [hv] at hw hjson <;> cases hw <;> exact hjson

/-- The members are JSON data. -/
theorem HoldsJson.isJson (h : entry.HoldsJson) : (Value.ofFields (entry.members now)).IsJson :=
  .object (nodup_members now entry) (forall_members now entry .text h.trace (isJson_of_mem_details h.details))

/-! ## Writing and reading -/

/-- Just what is within the limits of the writer has a line. -/
theorem exists_structured_iff : (∃ line, entry.structured out now = .ok line) ↔ entry.Within out now := by
  rw [Within, ← @Value.exists_json_iff .line, structured]
  cases (Value.ofFields (entry.members now)).json .line out with
  | ok s => exact iff_of_true ⟨s, rfl⟩ ⟨s, rfl⟩
  | error fault => exact iff_of_false nofun nofun

/-- The line of an entry of JSON data. -/
theorem HoldsJson.structured (h : entry.HoldsJson) (hwithin : entry.Within out now) :
    entry.structured out now = .ok (String.ofList (Json.line (.ofFields (entry.members now)))) := by
  rw [Entry.structured, Value.json_of_renders hwithin (Json.write_line (h.isJson now) 0)]

theorem HoldsJson.eq_line (h : entry.HoldsJson) {line : String} (hline : entry.structured out now = .ok line) :
    line = String.ofList (Json.line (.ofFields (entry.members now))) :=
  Except.ok.inj (hline.symm.trans (h.structured out now ((exists_structured_iff out now).mp ⟨line, hline⟩)))

theorem HoldsJson.read (h : entry.HoldsJson) (hout : entry.Within out now) (hwithin : entry.Within room now) :
    ∃ line, entry.structured out now = .ok line ∧ Json.read room line = .ok (.ofFields (entry.members now)) :=
  ⟨_, h.structured out now hout, (Json.read_line (h.isJson now) room).1 hwithin⟩

/-- **A structured entry is printable ASCII.  It is written exactly when its data are within the limits of the writer, and
read as an object that says what the record and the trace say exactly when they are within those of the reader, too.** -/
theorem structured_line_iff (out room : Nat) (now : Moment) {entry : Entry} (h : entry.HoldsJson) :
    (∀ line, entry.structured out now = .ok line → ∀ c ∈ line.toList, Json.IsPlain c) ∧
      ((∃ line, entry.structured out now = .ok line) ↔ entry.Within out now) ∧
      ((∃ line fields, entry.structured out now = .ok line ∧ Json.read room line = .ok (.ofFields fields) ∧
          entry.Says fields) ↔
        entry.Within out now ∧ entry.Within room now) := by
  refine ⟨fun line hline => ?_, exists_structured_iff out now, ?_, fun ⟨hout, hwithin⟩ => ?_⟩
  · obtain rfl := h.eq_line out now hline
    rw [String.toList_ofList]
    exact Json.isPlain_of_mem_line (h.isJson now)
  · rintro ⟨line, fields, hline, hread, -⟩
    refine ⟨(exists_structured_iff out now).mp ⟨line, hline⟩, ?_⟩
    by_contra hbeyond
    obtain ⟨limit, hlimit⟩ := (Json.read_line (h.isJson now) room).2 hbeyond
    obtain rfl := h.eq_line out now hline
    cases hlimit.symm.trans hread
  · obtain ⟨line, hline, hread⟩ := h.read out room now hout hwithin
    exact ⟨line, entry.members now, hline, hread, h.said now⟩

/-! ## Some entries -/

theorem areJson_carried {r : Record} (hevent : r.event.IsJson) (hnode : r.node.IsJson) (hmodel : r.model.IsJson) :
    (carried r).AreJson := by
  simpa [Fields.AreJson, carried] using ⟨hevent, hnode, hmodel⟩

theorem within_of_texts (htrace : ∀ e ∈ entry.trace, ∃ s, e.2 = .text s)
    (hdetails : ∀ e ∈ details entry.record, ∃ s, e.2 = .text s) : entry.Within (room + 1) now := by
  refine Value.renders_ofFields_iff.mpr fun e he => ?_
  obtain ⟨s, hs⟩ := forall_members (p := fun v => ∃ s, v = .text s) now entry (fun s => ⟨s, rfl⟩) htrace hdetails e he
  rw [hs]
  exact .text

/-- An entry whose message has a line break and the beginning of another entry in it. -/
def forging : Entry :=
  ⟨[("node_id", .text "reply")],
    { level := Record.informing, source := "engine", message := "Hello\n\x7b\"level\": \"error\"",
      event := .text "greeted" }⟩

theorem structured_line_iff_forging :
    forging.HoldsJson ∧ ∃ line fields, forging.structured 1 ⟨0⟩ = .ok line ∧ (∀ c ∈ line.toList, Json.IsPlain c) ∧
      Json.read 1 line = .ok (.ofFields fields) ∧ forging.Says fields := by
  have hjson : forging.HoldsJson :=
    { named := by simp [forging, Keyed.keys, Trace.names]
      once := by simp [forging, Keyed.keys]
      trace := by simpa [forging, Fields.AreJson] using .text "reply"
      details := areJson_carried (.text "greeted") .null .null }
  have hwithin : forging.Within 1 ⟨0⟩ :=
    within_of_texts 0 ⟨0⟩ (by simp [forging]) (by simp [forging, details, plainDetail])
  obtain ⟨hplain, -, hiff⟩ := structured_line_iff 1 1 ⟨0⟩ hjson
  obtain ⟨line, fields, hline, hread, hsays⟩ := hiff.mpr ⟨hwithin, hwithin⟩
  exact ⟨hjson, line, fields, hline, hplain line hline, hread, hsays⟩

/-- The name of a node in red. -/
def redName : String := String.ofList [Text.escape, '[', '3', '1', 'm', 'n', '1']

/-- An entry about that node. -/
def aboutRed : Entry :=
  ⟨[], { level := Record.informing, source := "engine", message := "Step 1", node := .text redName }⟩

/-- An entry with an integer for a model. -/
def ofModel (n : Nat) : Entry :=
  ⟨[], { level := Record.informing, source := "engine", message := "Step 1", model := .int n }⟩

theorem holdsJson_aboutRed : aboutRed.HoldsJson :=
  ⟨nofun, List.nodup_nil, nofun, areJson_carried .null (.text redName) .null⟩

theorem holdsJson_ofModel (n : Nat) : (ofModel n).HoldsJson :=
  ⟨nofun, List.nodup_nil, nofun, areJson_carried .null .null (.int n)⟩

theorem uncoloured_redName : Text.uncoloured redName = "n1" := by
  rw [redName, Text.uncoloured, String.toList_ofList]
  rfl

theorem not_within_ofModel {n : Nat} (h : Decimal.isLong n = true) : ¬(ofModel n).Within (room + 1) now := by
  intro hwithin
  have hmodel : ((ofModel n).members now).get? "model" = some (.int n) := ((holdsJson_ofModel n).said now).model
  have hmem := (Keyed.get?_eq_some_iff (nodup_members now (ofModel n))).mp hmodel
  have hshort : Decimal.isLong n = false := Value.renders_int_iff.mp (Value.renders_ofFields_iff.mp hwithin _ hmem)
  exact Bool.noConfusion (h.symm.trans hshort)

theorem isLong_pow : Decimal.isLong (10 ^ Decimal.longest : Nat) = true :=
  (Decimal.isLong_iff _).mpr (Nat.le_refl _)

/-- **The name of a node loses its colours, and an integer that is too long has no line.** -/
theorem redName_written_plain :
    (aboutRed.HoldsJson ∧ aboutRed.record.node = .text redName ∧ redName ≠ "n1" ∧
        ∃ line fields, aboutRed.structured 1 ⟨0⟩ = .ok line ∧ Json.read 1 line = .ok (.ofFields fields) ∧
          fields.get? "node_id" = some (.text "n1")) ∧
      (ofModel (10 ^ Decimal.longest)).HoldsJson ∧
        ∀ line, (ofModel (10 ^ Decimal.longest)).structured 1 ⟨0⟩ ≠ .ok line := by
  have hwithin : aboutRed.Within 1 ⟨0⟩ := within_of_texts 0 ⟨0⟩ nofun (by simp [aboutRed, details, plainDetail])
  have hne : redName ≠ "n1" := by
    intro heq
    have hlist := congrArg String.toList heq
    rw [redName, String.toList_ofList] at hlist
    cases hlist
  have hnode : (aboutRed.members ⟨0⟩).get? "node_id" = some (.text (Text.uncoloured redName)) :=
    (holdsJson_aboutRed.said ⟨0⟩).node
  rw [uncoloured_redName] at hnode
  obtain ⟨line, hline, hread⟩ := holdsJson_aboutRed.read 1 1 ⟨0⟩ hwithin hwithin
  refine ⟨⟨holdsJson_aboutRed, rfl, hne, line, _, hline, hread, hnode⟩, holdsJson_ofModel _, fun line hline => ?_⟩
  exact not_within_ofModel 0 ⟨0⟩ isLong_pow ((exists_structured_iff 1 ⟨0⟩).mp ⟨line, hline⟩)

end Entry

end Chatflow
