import Chatflow.Value.Rendered
import Mathlib.Data.List.Basic

/-!
# Values that can be rendered

JSON has texts for keys.  Numbers, truth values and null are written as theirs; a container has none.  An integer has a
text unless it has too many digits, and containers must not lie too deep inside each other.  `Value.Renders` says what is
within these limits, however deep.

* `flaw?_eq_none_iff`: nothing is wrong with just these values.
* `exists_json_iff`, `exists_rendered_iff`: just these are written, and just these are rendered.
-/

namespace Chatflow

namespace Value

/-- Whether a value holds others. -/
def isContainer : Value → Bool
  | list _ => true
  | tuple _ => true
  | dictionary _ => true
  | _ => false

/-- A key that has a text: no container, and no integer with too many digits. -/
structure IsKey (k : Value) : Prop where
  single : k.isContainer = false
  short : ∀ n, k = int n → Decimal.isLong n = false

/-- A value that has a text where there is room for some containers inside each other. -/
inductive Renders : Nat → Value → Prop
  | null {room : Nat} : Renders room null
  | bool {room : Nat} {b : Bool} : Renders room (bool b)
  | int {room : Nat} {n : Int} (short : Decimal.isLong n = false) : Renders room (int n)
  | real {room : Nat} {x : Binary64} : Renders room (real x)
  | text {room : Nat} {s : String} : Renders room (text s)
  | list {room : Nat} {items : List Value} (each : ∀ item ∈ items, Renders room item) : Renders (room + 1) (list items)
  | tuple {room : Nat} {items : List Value} (each : ∀ item ∈ items, Renders room item) :
      Renders (room + 1) (tuple items)
  | dictionary {room : Nat} {entries : List (Value × Value)}
      (keys : ∀ e ∈ entries, IsKey e.1) (each : ∀ e ∈ entries, Renders room e.2) :
      Renders (room + 1) (dictionary entries)

theorem renders_int_iff {room : Nat} {n : Int} : (int n).Renders room ↔ Decimal.isLong n = false :=
  ⟨fun h => by cases h; assumption, .int⟩

theorem renders_list_iff {room : Nat} {items : List Value} :
    (list items).Renders (room + 1) ↔ ∀ item ∈ items, item.Renders room :=
  ⟨fun h => by cases h; assumption, .list⟩

theorem renders_tuple_iff {room : Nat} {items : List Value} :
    (tuple items).Renders (room + 1) ↔ ∀ item ∈ items, item.Renders room :=
  ⟨fun h => by cases h; assumption, .tuple⟩

theorem renders_dictionary_iff {room : Nat} {entries : List (Value × Value)} :
    (dictionary entries).Renders (room + 1) ↔ ∀ e ∈ entries, e.1.IsKey ∧ e.2.Renders room := by
  constructor
  · intro h
    cases h with
    | dictionary keys each => exact fun e he => ⟨keys e he, each e he⟩
  · exact fun h => .dictionary (fun e he => (h e he).1) fun e he => (h e he).2

/-- Where there is no room there is no container. -/
theorem not_renders_zero {v : Value} (h : v.isContainer = true) : ¬v.Renders 0 := by
  intro hv
  cases hv <;> cases h

theorem renders_ofFields_iff {room : Nat} {fields : Fields} :
    (ofFields fields).Renders (room + 1) ↔ ∀ e ∈ fields, e.2.Renders room := by
  rw [ofFields, renders_dictionary_iff, List.forall_mem_map]
  exact forall₂_congr fun e _ => and_iff_right ⟨rfl, nofun⟩

/-! ## What is wrong with a value -/

theorem intFlaw?_eq_none_iff {n : Int} : intFlaw? n = none ↔ Decimal.isLong n = false := by
  unfold intFlaw?
  cases Decimal.isLong n <;> simp

theorem keyFlaw?_eq_none_iff {k : Value} : keyFlaw? k = none ↔ k.IsKey := by
  constructor
  · intro h
    cases k with
    | int n => exact ⟨rfl, fun m hm => by cases hm; exact intFlaw?_eq_none_iff.mp h⟩
    | null | bool | real | text => exact ⟨rfl, nofun⟩
    | list | tuple | dictionary => cases h
  · rintro ⟨hsingle, hshort⟩
    cases k with
    | int n => exact intFlaw?_eq_none_iff.mpr (hshort n rfl)
    | null | bool | real | text => rfl
    | list | tuple | dictionary => cases hsingle

mutual

/-- **Nothing is wrong with just the values that have a text.** -/
theorem flaw?_eq_none_iff (room : Nat) (v : Value) : v.flaw? room = none ↔ v.Renders room := by
  match room, v with
  | _, .null => exact iff_of_true (by simp [flaw?]) .null
  | _, .bool _ => exact iff_of_true (by simp [flaw?]) .bool
  | _, .real _ => exact iff_of_true (by simp [flaw?]) .real
  | _, .text _ => exact iff_of_true (by simp [flaw?]) .text
  | _, .int n => rw [flaw?, intFlaw?_eq_none_iff, renders_int_iff]
  | 0, .list _ | 0, .tuple _ | 0, .dictionary _ =>
    rw [flaw?]
    exact iff_of_false nofun (not_renders_zero rfl)
  | room + 1, .list items => rw [flaw?, itemsFlaw?_eq_none_iff, renders_list_iff]
  | room + 1, .tuple items => rw [flaw?, itemsFlaw?_eq_none_iff, renders_tuple_iff]
  | room + 1, .dictionary entries => rw [flaw?, entriesFlaw?_eq_none_iff, renders_dictionary_iff]

theorem itemsFlaw?_eq_none_iff (room : Nat) (items : List Value) :
    itemsFlaw? room items = none ↔ ∀ item ∈ items, item.Renders room := by
  match items with
  | [] => simp [itemsFlaw?]
  | item :: items =>
    rw [itemsFlaw?, Option.or_eq_none_iff, flaw?_eq_none_iff room item, itemsFlaw?_eq_none_iff room items,
      List.forall_mem_cons]

theorem entriesFlaw?_eq_none_iff (room : Nat) (entries : List (Value × Value)) :
    entriesFlaw? room entries = none ↔ ∀ e ∈ entries, e.1.IsKey ∧ e.2.Renders room := by
  match entries with
  | [] => simp [entriesFlaw?]
  | (k, v) :: entries =>
    rw [entriesFlaw?, Option.or_eq_none_iff, Option.or_eq_none_iff, keyFlaw?_eq_none_iff, flaw?_eq_none_iff room v,
      entriesFlaw?_eq_none_iff room entries, List.forall_mem_cons, and_assoc]

end

end Value

/-! ## Writing and rendering -/

namespace Json

theorem exists_keyText? {k : Value} (h : k.IsKey) : ∃ text, keyText? k = some text := by
  obtain ⟨hsingle, -⟩ := h
  cases k <;> first | exact ⟨_, rfl⟩ | cases hsingle

mutual

/-- A value that has a text is written, in whatever style. -/
theorem exists_write (style : Style) (depth : Nat) {room : Nat} {v : Value} (h : v.Renders room) :
    ∃ text, write style depth v = some text := by
  match v, h with
  | .null, _ | .bool _, _ | .int _, _ | .real _, _ | .text _, _ =>
    rw [write]
    exact ⟨_, rfl⟩
  | .list _, .list each | .tuple _, .tuple each =>
    obtain ⟨texts, htexts⟩ := exists_writeItems style (depth + 1) each
    rw [write, htexts]
    exact ⟨_, rfl⟩
  | .dictionary _, .dictionary keys each =>
    obtain ⟨texts, htexts⟩ := exists_writeEntries style (depth + 1) fun e he => ⟨keys e he, each e he⟩
    rw [write, htexts]
    exact ⟨_, rfl⟩

theorem exists_writeItems (style : Style) (depth : Nat) {room : Nat} {items : List Value}
    (h : ∀ item ∈ items, item.Renders room) : ∃ texts, writeItems style depth items = some texts := by
  match items, h with
  | [], _ =>
    rw [writeItems]
    exact ⟨_, rfl⟩
  | _ :: _, h =>
    obtain ⟨hitem, hitems⟩ := List.forall_mem_cons.mp h
    obtain ⟨text, htext⟩ := exists_write style depth hitem
    obtain ⟨texts, htexts⟩ := exists_writeItems style depth hitems
    rw [writeItems, htext, htexts]
    exact ⟨_, rfl⟩

theorem exists_writeEntries (style : Style) (depth : Nat) {room : Nat} {entries : List (Value × Value)}
    (h : ∀ e ∈ entries, e.1.IsKey ∧ e.2.Renders room) : ∃ texts, writeEntries style depth entries = some texts := by
  match entries, h with
  | [], _ =>
    rw [writeEntries]
    exact ⟨_, rfl⟩
  | (_, _) :: _, h =>
    obtain ⟨⟨hkey, hvalue⟩, hentries⟩ := List.forall_mem_cons.mp h
    obtain ⟨key, hkeyText⟩ := exists_keyText? hkey
    obtain ⟨text, htext⟩ := exists_write style depth hvalue
    obtain ⟨texts, htexts⟩ := exists_writeEntries style depth hentries
    rw [writeEntries, hkeyText, htext, htexts]
    exact ⟨_, rfl⟩

end

end Json

namespace Value

/-- **Just the values that have a text are written as JSON**, in whatever style. -/
theorem exists_json_iff {style : Json.Style} {room : Nat} {v : Value} :
    (∃ s, v.json style room = .ok s) ↔ v.Renders room := by
  rw [← flaw?_eq_none_iff]
  constructor
  · rintro ⟨s, h⟩
    unfold json at h
    cases hflaw : v.flaw? room with
    | none => rfl
    | some fault => rw [hflaw] at h; cases h
  · intro hflaw
    obtain ⟨text, htext⟩ := Json.exists_write style 0 ((flaw?_eq_none_iff room v).mp hflaw)
    exact ⟨String.ofList text, by rw [json, hflaw, Json.print?, htext]; rfl⟩

/-- A value that has a text is written as that text. -/
theorem json_of_renders {style : Json.Style} {room : Nat} {v : Value} (h : v.Renders room) {text : List Char}
    (hwrite : Json.write style 0 v = some text) : v.json style room = .ok (String.ofList text) := by
  rw [json, (flaw?_eq_none_iff room v).mpr h, Json.print?, hwrite]
  rfl

/-- The text of an integer that has one. -/
theorem rendered_int {room : Nat} {n : Int} {s : String} (h : (int n).rendered room = .ok s) : s = toString n := by
  rw [rendered, intFlaw?] at h
  cases hlong : Decimal.isLong n with
  | true => simp [hlong] at h
  | false =>
    simp only [hlong] at h
    exact (Except.ok.inj h).symm

/-- **Just the values that have a text are rendered.** -/
theorem exists_rendered_iff {room : Nat} {v : Value} : (∃ s, v.rendered room = .ok s) ↔ v.Renders room := by
  cases v with
  | null => exact iff_of_true ⟨_, rfl⟩ .null
  | bool => exact iff_of_true ⟨_, rfl⟩ .bool
  | real => exact iff_of_true ⟨_, rfl⟩ .real
  | text => exact iff_of_true ⟨_, rfl⟩ .text
  | int n =>
    rw [renders_int_iff, ← intFlaw?_eq_none_iff, rendered]
    cases intFlaw? n with
    | none => exact iff_of_true ⟨_, rfl⟩ rfl
    | some fault => exact iff_of_false nofun nofun
  | list | tuple | dictionary => exact exists_json_iff

end Value

end Chatflow
