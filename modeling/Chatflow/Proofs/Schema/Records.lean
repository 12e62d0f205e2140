import Chatflow.Proofs.Schema.Reading
import Chatflow.Proofs.Value.Wire
import Mathlib.Data.List.Forall2

/-!
# Records and their documents

A record is written as a document: its declared fields under their wire names, then what belongs to none of them
(`document`).  A document is read again field by field, and then what is left over.

* `readRow_map`, `readKeyed_eq_ok_iff`: what lists and dictionaries are read as.
* `Kept names extras`: what may stand behind the declared fields, namely JSON data under other names;
  `kept_of_extras`: what was left over from JSON data is such.
* `required_document`, `optional_document`, `extras_document`: fields are read from a document under their names, and
  just what stands behind them is left over.
-/

namespace Chatflow

namespace Schema

variable {α : Type}

/-! ## Lists and dictionaries -/

/-- What is written of some records is read as these records, from whatever position on, when each of them is. -/
theorem readItems_map {read : Nat → Value → Checked α} {write : α → Value} {as : List α} (n : Nat)
    (h : ∀ n, ∀ a ∈ as, read n (write a) = .ok a) : readItems read n (as.map write) = .ok as := by
  induction as generalizing n with
  | nil => rfl
  | cons a as ih =>
    have hrest := ih (n + 1) fun k other hother => h k other (List.mem_cons_of_mem _ hother)
    rw [List.map_cons, readItems, h n a List.mem_cons_self, hrest]
    rfl

/-- Records that were read from a row in JSON data were each read from JSON data. -/
theorem forall_of_readItems {read : Nat → Value → Checked α} {p : α → Prop} {n : Nat} {items : List Value} {as : List α}
    (h : readItems read n items = .ok as) (hjson : ∀ item ∈ items, item.IsJson)
    (hp : ∀ n w a, w.IsJson → read n w = .ok a → p a) : ∀ a ∈ as, p a := by
  induction items generalizing n as with
  | nil =>
    obtain rfl := Except.ok.inj h
    exact nofun
  | cons v vs ih =>
    obtain ⟨hv, hvs⟩ := List.forall_mem_cons.mp hjson
    simp only [readItems, also_eq_ok_iff, under_eq_ok_iff] at h
    obtain ⟨_, rest, ⟨_, a, hcons, ha, rfl⟩, hrest, rfl⟩ := h
    obtain rfl := Except.ok.inj hcons
    exact List.forall_mem_cons.mpr ⟨hp _ _ _ hv ha, ih hrest hvs⟩

/-- A list of what is written of some records is read as these records when each of them is. -/
theorem readRow_map {read : Nat → Value → Checked α} {write : α → Value} {as : List α}
    (h : ∀ n, ∀ a ∈ as, read n (write a) = .ok a) : readRow read (.list (as.map write)) = .ok as :=
  readItems_map 0 h

/-- The records of a row in JSON data were each read from JSON data. -/
theorem forall_of_readRow {read : Nat → Value → Checked α} {p : α → Prop} {v : Value} {as : List α} (hjson : v.IsJson)
    (h : readRow read v = .ok as) (hp : ∀ n w a, w.IsJson → read n w = .ok a → p a) : ∀ a ∈ as, p a := by
  cases hjson with
  | list each => exact forall_of_readItems h each hp
  | _ => cases h

theorem readEntries_eq_ok_iff {read : Value → Checked α} {entries : List (Value × Value)} {fields : Keyed α} :
    readEntries read entries = .ok fields ↔
      List.Forall₂ (fun e f => e.1 = .text f.1 ∧ read e.2 = .ok f.2) entries fields := by
  induction entries generalizing fields with
  | nil =>
    rw [readEntries, List.forall₂_nil_left_iff]
    exact ⟨fun h => (Except.ok.inj h).symm, fun h => congrArg Except.ok h.symm⟩
  | cons e entries ih =>
    obtain ⟨k, v⟩ := e
    simp only [readEntries, also_eq_ok_iff, under_eq_ok_iff, ih, List.forall₂_cons_left_iff]
    constructor
    · rintro ⟨_, rest, ⟨_, a, ⟨_, name, hcons, hname, rfl⟩, ha, rfl⟩, hrest, rfl⟩
      obtain rfl := Except.ok.inj hcons
      cases k with
      | text s => exact ⟨(s, a), rest, ⟨rfl, ha⟩, hrest, congrArg (fun t => (t, a) :: rest) (Except.ok.inj hname).symm⟩
      | _ => cases hname
    · rintro ⟨⟨name, a⟩, rest, ⟨rfl, ha⟩, hrest, rfl⟩
      exact ⟨_, rest, ⟨_, a, ⟨_, name, rfl, rfl, rfl⟩, ha, rfl⟩, hrest, rfl⟩

/-- Named values are read as named values that their readers gave. -/
theorem readKeyed_ofFields_eq_ok_iff {read : Value → Checked α} {fields : Fields} {as : Keyed α} :
    readKeyed read (.ofFields fields) = .ok as ↔
      List.Forall₂ (fun e f => e.1 = f.1 ∧ read e.2 = .ok f.2) fields as := by
  rw [Value.ofFields, readKeyed, readEntries_eq_ok_iff, List.forall₂_map_left_iff]
  simp only [Value.text.injEq]

/-- Open data are read as they are. -/
theorem readKeyed_eq_ok_iff {v : Value} {fields : Fields} :
    readKeyed .ok v = .ok fields ↔ v = .ofFields fields := by
  constructor
  · intro h
    cases v with
    | dictionary entries =>
      have hall := readEntries_eq_ok_iff.mp h
      refine congrArg Value.dictionary (List.forall₂_eq_eq_eq ▸ List.forall₂_map_right_iff.mpr (hall.imp ?_))
      exact fun e f hef => Prod.ext hef.1 (Except.ok.inj hef.2)
    | _ => cases h
  · rintro rfl
    exact readKeyed_ofFields_eq_ok_iff.mpr (List.forall₂_same.mpr fun _ _ => ⟨rfl, rfl⟩)

/-! ## Fields of records -/

/-- What a field has in JSON data are JSON data. -/
theorem isJson_of_field? {fields : Fields} (hjson : fields.AreJson) {name : Name} {v : Value}
    (h : Entries.field? (fields.map fun (k, v) => (Value.text k, v)) name = some v) : v.IsJson := by
  have hget : ∀ key, fields.get? key = some v → v.IsJson := by
    intro key hkey
    obtain ⟨e, he, rfl⟩ := Option.map_eq_some_iff.mp hkey
    exact hjson e (List.mem_of_find?_eq_some he)
  rw [field?_ofFields, Option.or_eq_some_iff] at h
  rcases h with h | ⟨-, h⟩
  · exact hget _ h
  · exact hget _ h

/-- A field of JSON data that may be missing has its other value, or one that was read from JSON data. -/
theorem of_optional (p : α → Prop) {fields : Fields} (hjson : fields.AreJson) {name : Name}
    {read : Value → Checked α} {other a : α}
    (h : Entries.optional (fields.map fun (k, v) => (Value.text k, v)) name read other = .ok a)
    (hother : p other) (hread : ∀ v, v.IsJson → read v = .ok a → p a) : p a := by
  unfold Entries.optional at h
  split at h
  · rename_i v hv
    exact hread v (isJson_of_field? hjson hv) (under_eq_ok_iff.mp h)
  · exact Except.ok.inj h ▸ hother

/-! ## What belongs to no field -/

theorem isTaken_wire (entries : Entries) {names : List Name} {name : Name} (h : name ∈ names) :
    entries.isTaken names name.wire = true :=
  List.any_eq_true.mpr ⟨name, h, by simp⟩

/-- Where all wire names are there, no other key is taken for a field, not even the own name of one. -/
theorem isTaken_eq_false {entries : Entries} {names : List Name} {key : String}
    (hthere : ∀ name ∈ names, (Value.find? entries name.wire).isSome) (hkey : ∀ name ∈ names, key ≠ name.wire) :
    entries.isTaken names key = false := by
  refine List.any_eq_false.mpr fun name hname => ?_
  simp [hkey name hname, Option.isSome_iff_ne_none.mp (hthere name hname)]

/-- What is left over of named data is what was taken for no field. -/
theorem leftOver_ofFields (entries : Entries) (names : List Name) (fields : Fields) :
    entries.leftOver names (fields.map fun (k, v) => (Value.text k, v)) =
      .ok (fields.filter fun e => !entries.isTaken names e.1) := by
  induction fields with
  | nil => rfl
  | cons e fields ih =>
    rw [List.map_cons, Entries.leftOver, ih, List.filter_cons]
    cases entries.isTaken names e.1 <;> rfl

/-- JSON data under names that are no wire names of a record. -/
structure Kept (names : List Name) (extras : Fields) : Prop where
  areJson : extras.AreJson
  foreign : ∀ e ∈ extras, ∀ name ∈ names, e.1 ≠ name.wire

/-- **What is left over of JSON data** are JSON data under other names. -/
theorem kept_of_extras {names : List Name} {fields extras : Fields} (hjson : fields.AreJson)
    (h : Entries.extras (fields.map fun (k, v) => (Value.text k, v)) names = .ok extras) : Kept names extras := by
  rw [Entries.extras, leftOver_ofFields] at h
  obtain rfl := Except.ok.inj h
  refine ⟨fun e he => hjson e (List.mem_filter.mp he).1, fun e he name hname heq => ?_⟩
  have hfree := (List.mem_filter.mp he).2
  rw [heq, isTaken_wire _ hname] at hfree
  cases hfree

/-- The document of a record: its declared fields, then what belongs to none of them. -/
def document (declared extras : Fields) : Value := .ofFields (declared ++ extras)

/-- A document has its declared fields under their wire names. -/
theorem field?_document {declared : Fields} (extras : Fields) {name : Name} {v : Value}
    (h : declared.get? name.wire = some v) :
    Entries.field? ((declared ++ extras).map fun (k, v) => (Value.text k, v)) name = some v := by
  have happend : Keyed.get? (declared ++ extras) name.wire = some v := by
    rw [Keyed.get?] at h ⊢
    rw [List.find?_append, Option.map_or, h, Option.some_or]
  rw [field?_ofFields, happend, Option.some_or]

/-- A field that must be there is read from a document. -/
theorem required_document {declared : Fields} (extras : Fields) {name : Name} {read : Value → Checked α} {v : Value}
    {a : α} (h : declared.get? name.wire = some v) (ha : read v = .ok a) :
    Entries.required ((declared ++ extras).map fun (k, v) => (Value.text k, v)) name read = .ok a := by
  rw [Entries.required, field?_document extras h]
  exact under_eq_ok_iff.mpr ha

/-- A field that may be missing is read from a document, too. -/
theorem optional_document {declared : Fields} (extras : Fields) {name : Name} {read : Value → Checked α} {v : Value}
    {a : α} (other : α) (h : declared.get? name.wire = some v) (ha : read v = .ok a) :
    Entries.optional ((declared ++ extras).map fun (k, v) => (Value.text k, v)) name read other = .ok a := by
  rw [Entries.optional, field?_document extras h]
  exact under_eq_ok_iff.mpr ha

/-- **Of a document just that is left over** which stands behind the declared fields. -/
theorem extras_document {names : List Name} {declared extras : Fields} (hkeys : declared.keys = names.map (·.wire))
    (hkept : Kept names extras) :
    Entries.extras ((declared ++ extras).map fun (k, v) => (Value.text k, v)) names = .ok extras := by
  have hthere : ∀ name ∈ names,
      (Value.find? ((declared ++ extras).map fun (k, v) => (Value.text k, v)) name.wire).isSome := by
    intro name hname
    have hmem : name.wire ∈ declared.keys := hkeys ▸ List.mem_map_of_mem hname
    obtain ⟨d, hd, hwire⟩ := List.mem_map.mp hmem
    rw [find?_ofFields, Keyed.isSome_get?]
    exact List.any_eq_true.mpr ⟨d, List.mem_append_left _ hd, beq_iff_eq.mpr hwire⟩
  rw [Entries.extras, leftOver_ofFields, List.filter_append, List.filter_eq_nil_iff.mpr, List.filter_eq_self.mpr,
    List.nil_append]
  · intro e he
    rw [isTaken_eq_false hthere (hkept.foreign e he)]
    rfl
  · intro e he
    have hmem : e.1 ∈ names.map (·.wire) := hkeys ▸ List.mem_map_of_mem he
    obtain ⟨name, hname, hwire⟩ := List.mem_map.mp hmem
    rw [← hwire, isTaken_wire _ hname]
    exact Bool.false_ne_true

end Schema

end Chatflow
