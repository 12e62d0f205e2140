import Chatflow.Number.Numeral
import Chatflow.Schema.Problem
import Chatflow.Text.Search

/-!
# Reading data as records

A reader takes a value and gives what it means or all problems with it.  Records are read from dictionaries: a field is
looked up under its wire name, then under its own name; keys that belong to no field are kept.

* `Checked.also`: the next part of a record; problems of all parts are collected.
* `Entries.required`, `Entries.optional`, `Entries.extras`: the parts of a record.
-/

namespace Chatflow.Schema

/-- What was read, or the problems with it. -/
abbrev Checked (α : Type) := Except (List Problem) α

namespace Checked

/-- Nothing is wrong. -/
def fine {α : Type} (a : α) : Checked α := .ok a

/-- A single flaw of the whole piece of data. -/
def flawed {α : Type} (flaw : Flaw) : Checked α := .error [.here flaw]

/-- Seen from one level further out. -/
def under {α : Type} (key : String) : Checked α → Checked α
  | .ok a => .ok a
  | .error ps => .error (ps.map (.under key))

/-- Applies what was read first to what was read next; when both have problems, all are kept. -/
def also {α β : Type} (f : Checked (α → β)) (x : Checked α) : Checked β :=
  match f, x with
  | .ok g, .ok a => .ok (g a)
  | .ok _, .error ps => .error ps
  | .error ps, .ok _ => .error ps
  | .error ps, .error qs => .error (ps ++ qs)

/-- What was read, or a report under a title. -/
def report {α : Type} (title : String) : Checked α → Except Report α
  | .ok a => .ok a
  | .error ps => .error ⟨title, ps⟩

end Checked

/-! ## Plain data -/

/-- A text. -/
def readText : Value → Checked String
  | .text s => .ok s
  | _ => .flawed .notText

/-- Null, or what another reader takes. -/
def orNull {α : Type} (read : Value → Checked α) : Value → Checked (Option α)
  | .null => .ok none
  | v => (read v).map some

/-- How a key appears in a path. -/
def keyPart : Value → String
  | .text s => s
  | .bool b => if b then "1" else "0"
  | v => v.literal

/-- The entries of a dictionary with texts for keys, each read by a reader. -/
def readEntries {α : Type} (read : Value → Checked α) : List (Value × Value) → Checked (Keyed α)
  | [] => .ok []
  | (k, v) :: entries =>
    let key : Checked String :=
      match k with
      | .text s => .ok s
      | k => (Checked.flawed .notText).under "[key]" |>.under (keyPart k)
    (Checked.fine fun name a rest => (name, a) :: rest).also key |>.also ((read v).under (keyPart k))
      |>.also (readEntries read entries)

/-- A dictionary with texts for keys. -/
def readKeyed {α : Type} (read : Value → Checked α) : Value → Checked (Keyed α)
  | .dictionary entries => readEntries read entries
  | _ => .flawed .notDictionary

/-- Items, the first of which stands at a position; how one is read may depend on its position. -/
def readItems {α : Type} (read : Nat → Value → Checked α) : Nat → List Value → Checked (List α)
  | _, [] => .ok []
  | n, v :: vs =>
    (Checked.fine List.cons).also ((read n v).under (toString n)) |>.also (readItems read (n + 1) vs)

/-- A list or tuple, each item of which is read by the reader for its position. -/
def readRow {α : Type} (read : Nat → Value → Checked α) : Value → Checked (List α)
  | .list items => readItems read 0 items
  | .tuple items => readItems read 0 items
  | _ => .flawed .notList

/-- A list or tuple. -/
def readList {α : Type} (read : Value → Checked α) : Value → Checked (List α) := readRow fun _ => read

/-- The blanks of Unicode, without the separators U+001C to U+001F. -/
def trimmed (cs : List Char) : List Char := Text.trimBy Numeral.isMargin cs

/-- A number in a text: in plain notation with blanks around it, or with single underscores between its characters. -/
def numeral? (cs : List Char) : Option Binary64 :=
  match Binary64.read? (trimmed cs) with
  | some x => some x
  | none =>
    if cs.head? = some '_' ∨ cs.getLast? = some '_' ∨ Text.occurs ['_', '_'] cs ∨ !cs.contains '_' then none
    else Binary64.read? (cs.filter (· != '_'))

/-- A double-precision number. -/
def readReal : Value → Checked Binary64
  | .real x => .ok x
  | .bool b => .ok (.ofRatio false (if b then 1 else 0) 1)
  | .int n => (Binary64.ofInt? n).elim (.flawed .notNumber) .ok
  | .text s =>
    match numeral? s.toList with
    | some x => .ok x
    | none => .flawed .unreadableNumber
  | _ => .flawed .notNumber

/-- A number between two bounds; what is no number lies below neither. -/
def readBetween (least greatest : Nat) (v : Value) : Checked Binary64 :=
  match readReal v with
  | .error ps => .error ps
  | .ok x =>
    let low := Binary64.ofRatio false least 1
    let high := Binary64.ofRatio false greatest 1
    if !(x.below high || x.same high) then .flawed (.tooLarge greatest)
    else if !(low.below x || low.same x) then .flawed (.tooSmall least)
    else .ok x

/-! ## Records -/

/-- The name of a field in data, and the name it may have instead. -/
structure Name where
  wire : String
  own : String

/-- A field with one name. -/
def Name.plain (name : String) : Name := ⟨name, name⟩

/-- The entries of a dictionary that is read as a record. -/
abbrev Entries := List (Value × Value)

namespace Entries

/-- The value of a field. -/
def field? (entries : Entries) (name : Name) : Option Value :=
  (Value.find? entries name.wire).or (Value.find? entries name.own)

/-- A field that must be there. -/
def required {α : Type} (entries : Entries) (name : Name) (read : Value → Checked α) : Checked α :=
  match entries.field? name with
  | some v => (read v).under name.wire
  | none => (Checked.flawed .missing).under name.wire

/-- A field that may be missing. -/
def optional {α : Type} (entries : Entries) (name : Name) (read : Value → Checked α) (other : α) : Checked α :=
  match entries.field? name with
  | some v => (read v).under name.wire
  | none => .ok other

/-- Whether a key was taken for a field. -/
def isTaken (entries : Entries) (names : List Name) (key : String) : Bool :=
  names.any fun name =>
    key == name.wire || (key == name.own && (Value.find? entries name.wire).isNone)

/-- What is left of a list of entries when those taken for fields are dropped. -/
def leftOver (entries : Entries) (names : List Name) : Entries → Checked Fields
  | [] => .ok []
  | (.text key, v) :: rest =>
    if isTaken entries names key then leftOver entries names rest
    else (leftOver entries names rest).map ((key, v) :: ·)
  | (k, _) :: rest =>
    (Checked.fine fun () fields => fields).also ((Checked.flawed .keyNotText).under (keyPart k))
      |>.also (leftOver entries names rest)

/-- The entries that belong to no field. -/
def extras (entries : Entries) (names : List Name) : Checked Fields := leftOver entries names entries

end Entries

/-- The entries of a record of the given title. -/
def entriesOf (title : String) : Value → Checked Entries
  | .dictionary entries => .ok entries
  | _ => .flawed (.notRecord title)

end Chatflow.Schema
