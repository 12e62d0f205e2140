import Chatflow.Workflow.NodeConfig

/-!
# What readers gave

A record is read field by field, and problems of all fields are collected.  When a record was read, each of its fields
was: `also_eq_ok_iff` takes one part off, and `optional_text_eq_ok_iff` says what a text is that may be missing.  The
data of a node are looked up under the same names as its entries (`find?_ofFields`).

Where one fault ends the reading, what was given is taken apart step by step (`bind_eq_ok_iff`, `map_eq_ok_iff`).
-/

namespace Chatflow

/-- Two steps give something when the first one does, and then the second one on what the first gave. -/
theorem bind_eq_ok_iff {ε α β : Type} {x : Except ε α} {f : α → Except ε β} {b : β} :
    x >>= f = .ok b ↔ ∃ a, x = .ok a ∧ f a = .ok b := by
  cases x with
  | error fault => exact iff_of_false nofun fun ⟨_, h, _⟩ => nomatch h
  | ok a => exact ⟨fun h => ⟨a, rfl, h⟩, fun ⟨c, hc, h⟩ => Except.ok.inj hc ▸ h⟩

theorem map_eq_ok_iff {ε α β : Type} {x : Except ε α} {f : α → β} {b : β} :
    x.map f = .ok b ↔ ∃ a, x = .ok a ∧ f a = b := by
  cases x <;> simp [Except.map]

namespace Schema

section Checked

variable {α β : Type}

theorem under_eq_ok_iff {x : Checked α} {key : String} {a : α} : x.under key = .ok a ↔ x = .ok a := by
  cases x <;> simp [Checked.under]

theorem also_eq_ok_iff {f : Checked (α → β)} {x : Checked α} {b : β} :
    f.also x = .ok b ↔ ∃ g a, f = .ok g ∧ x = .ok a ∧ g a = b := by
  cases f <;> cases x <;> simp [Checked.also]

theorem report_eq_ok_iff {x : Checked α} {title : String} {a : α} : x.report title = .ok a ↔ x = .ok a := by
  cases x <;> simp [Checked.report]

end Checked

/-- A text or null is read as itself. -/
theorem orNull_readText_eq_ok_iff {v : Value} {s : Option String} :
    orNull readText v = .ok s ↔ v = .ofText? s := by
  cases s <;> cases v <;> simp [orNull, readText, Checked.flawed, Value.ofText?, Except.map]

/-- A text that may be missing is what the data have under the name of its field; null is no text. -/
theorem optional_text_eq_ok_iff {entries : Entries} {name : Name} {s : Option String} :
    entries.optional name (orNull readText) none = .ok s ↔ (entries.field? name).getD .null = .ofText? s := by
  unfold Entries.optional
  cases entries.field? name with
  | some v => exact under_eq_ok_iff.trans orNull_readText_eq_ok_iff
  | none => cases s <;> simp [Value.ofText?]

/-- Named data are found under their names. -/
theorem find?_ofFields (fields : Fields) (name : String) :
    Value.find? (fields.map fun (k, v) => (Value.text k, v)) name = fields.get? name := by
  rw [Value.find?, Keyed.get?, List.find?_map, Option.map_map]
  rfl

/-- A field of named data: under its wire name, else under its own one. -/
theorem field?_ofFields (fields : Fields) (name : Name) :
    Entries.field? (fields.map fun (k, v) => (Value.text k, v)) name =
      (fields.get? name.wire).or (fields.get? name.own) := by
  rw [Entries.field?, find?_ofFields, find?_ofFields]

end Schema

end Chatflow
