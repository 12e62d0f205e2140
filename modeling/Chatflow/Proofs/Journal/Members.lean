import Chatflow.Journal.Line
import Chatflow.Proofs.Keyed

/-!
# The members of a structured entry

An entry in the structured form has a head, the trace of the run and the details of the record, of which later ones go
over earlier ones under the same name.

* `Entry.get?_details`: which details a record has.
* `Entry.get?_members`: what is found under a name.
-/

namespace Chatflow

namespace Entry

/-- What stands at the head of a structured entry. -/
def head (now : Moment) (r : Record) : Fields :=
  [("timestamp", .text now.throughSeconds.zoned),
    ("level", .text (String.ofList (Text.lower (Record.levelName r.level).toList))), ("logger", .text r.source),
    ("message", .text (Text.uncoloured r.message))]

/-- The details that a record carries, null for none. -/
def carried (r : Record) : Fields := [("event", r.event), ("node_id", r.node), ("model", r.model)]

/-- What is written of a detail. -/
def detail? : Value → Option Value
  | .null => none
  | v => some (plainDetail v)

variable (now : Moment) (entry : Entry) (r : Record) {name : String}

/-! ## Details -/

theorem details_eq : details r = (carried r).filterMap fun e => (detail? e.2).map (e.1, ·) := by
  refine congrArg (fun f => (carried r).filterMap f) (funext fun e => ?_)
  obtain ⟨name, v⟩ := e
  cases v <;> rfl

theorem keys_carried : (carried r).keys = ["event", "node_id", "model"] := rfl

theorem nodup_carried : (carried r).keys.Nodup := by
  rw [keys_carried]
  decide

/-- A detail that is not null is found under its name. -/
theorem get?_details (name : String) : (details r).get? name = ((carried r).get? name).bind detail? := by
  rw [details_eq, Keyed.get?_filterMap detail? (nodup_carried r)]

theorem nodup_details : (details r).keys.Nodup := by
  rw [details_eq]
  exact (Keyed.keys_filterMap_sublist detail? (carried r)).nodup (nodup_carried r)

/-! ## Members -/

/-- The members of a structured entry, apart from a fault. -/
def faultless : Fields := ((head now entry.record).merge entry.trace).merge (details entry.record)

theorem members_of_none (h : entry.record.fault = none) : entry.members now = faultless now entry := by
  unfold members
  dsimp only
  rw [h]
  rfl

theorem members_of_some {fault : Fault} (h : entry.record.fault = some fault) :
    entry.members now = (faultless now entry).set "exception" (.text (Text.uncoloured fault.shown)) := by
  unfold members
  dsimp only
  rw [h]
  rfl

/-- The fault of a record is told under a name of its own. -/
theorem get?_members_exception {fault : Fault} (h : entry.record.fault = some fault) :
    (entry.members now).get? "exception" = some (.text (Text.uncoloured fault.shown)) := by
  rw [members_of_some now entry h, Keyed.get?_set, if_pos rfl]

/-- **Under any other name** stands the detail with that name, else what the trace has, else what the head has. -/
theorem get?_members (hname : name ≠ "exception") :
    (entry.members now).get? name =
      ((details entry.record).get? name).or (((head now entry.record).merge entry.trace).get? name) := by
  have hfaultless : (faultless now entry).get? name = _ :=
    Keyed.get?_merge_of_nodup _ (nodup_details entry.record) name
  cases hfault : entry.record.fault with
  | none => rw [members_of_none now entry hfault, hfaultless]
  | some fault => rw [members_of_some now entry hfault, Keyed.get?_set, if_neg (Ne.symm hname), hfaultless]

/-- No name comes twice. -/
theorem nodup_members : (entry.members now).keys.Nodup := by
  have hhead : (head now entry.record).keys.Nodup := by
    show ["timestamp", "level", "logger", "message"].Nodup
    decide
  have hfaultless : (faultless now entry).keys.Nodup := Keyed.nodup_keys_merge (Keyed.nodup_keys_merge hhead _) _
  cases hfault : entry.record.fault with
  | none => rwa [members_of_none now entry hfault]
  | some fault =>
    rw [members_of_some now entry hfault]
    exact Keyed.nodup_keys_set hfaultless _ _

/-- What holds of all that goes into a structured entry holds of its members. -/
theorem forall_members {p : Value → Prop} (hhead : ∀ s, p (.text s)) (htrace : ∀ e ∈ entry.trace, p e.2)
    (hdetails : ∀ e ∈ details entry.record, p e.2) : ∀ e ∈ entry.members now, p e.2 := by
  have hfaultless : ∀ e ∈ faultless now entry, p e.2 := by
    refine Keyed.forall_merge (Keyed.forall_merge ?_ htrace) hdetails
    simp [head, hhead]
  cases hfault : entry.record.fault with
  | none => rwa [members_of_none now entry hfault]
  | some fault =>
    rw [members_of_some now entry hfault]
    exact Keyed.forall_set hfaultless (hhead _)

end Entry

end Chatflow
