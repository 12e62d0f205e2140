import Chatflow.Schema.Reading
import Mathlib.Data.List.Pairwise

/-!
# The spelling of fields

A field is read under its wire name or under its own name.  To spell it the other way changes the key of one entry
(`Entries.respelled`).  When not both keys are there, entries are read the same in either spelling
(`Entries.alike_respelled`): each field has the value it had, and the same is left over.
-/

namespace Chatflow.Schema

/-- A key, with the own name of a field in place of its wire name. -/
def Name.respelled (name : Name) : Value → Value
  | .text s => .text (if s = name.wire then name.own else s)
  | k => k

/-- Entries in which a field stands under its own name in place of its wire name. -/
def Entries.respelled (entries : Entries) (name : Name) : Entries := entries.map fun (k, v) => (name.respelled k, v)

/-- Two fields share no spelling. -/
def Name.Apart (a b : Name) : Prop := a.wire ≠ b.wire ∧ a.wire ≠ b.own ∧ a.own ≠ b.wire ∧ a.own ≠ b.own

instance : DecidableRel Name.Apart := fun _ _ => inferInstanceAs (Decidable (_ ∧ _))

instance : Std.Symm Name.Apart := ⟨fun _ _ ⟨h₁, h₂, h₃, h₄⟩ => ⟨h₁.symm, h₃.symm, h₂.symm, h₄.symm⟩⟩

/-- Two lists of entries in which each field has the same value and the same is left over. -/
structure Alike (names : List Name) (entries more : Entries) : Prop where
  field? : ∀ name ∈ names, entries.field? name = more.field? name
  extras : entries.extras names = more.extras names

theorem find?_cons_text (s : String) (v : Value) (entries : Entries) (key : String) :
    Value.find? ((.text s, v) :: entries) key = if s = key then some v else Value.find? entries key := by
  by_cases h : s = key <;> simp [Value.find?, h]

namespace Entries

theorem respelled_cons_text (s : String) (v : Value) (rest : Entries) (name : Name) :
    respelled ((.text s, v) :: rest) name =
      (.text (if s = name.wire then name.own else s), v) :: rest.respelled name := rfl

/-- The wire name is gone, and entries under other keys stay where they are. -/
theorem find?_respelled (entries : Entries) {name : Name} {key : String} (hown : key ≠ name.own) :
    Value.find? (entries.respelled name) key = if key = name.wire then none else Value.find? entries key := by
  induction entries with
  | nil => exact (ite_self _).symm
  | cons e rest ih =>
    obtain ⟨k, v⟩ := e
    cases k with
    | text s =>
      rw [respelled_cons_text, find?_cons_text, find?_cons_text, ih]
      by_cases hs : s = name.wire
      · rw [if_pos hs, if_neg hown.symm]
        exact ite_congr rfl (fun _ => rfl) fun hkey => (if_neg (hs ▸ Ne.symm hkey)).symm
      · rw [if_neg hs]
        by_cases hkey : key = name.wire
        · rw [if_pos hkey, if_pos hkey, if_neg (hkey ▸ hs)]
        · rw [if_neg hkey, if_neg hkey]
    | _ => exact ih

variable {entries : Entries} {name : Name}

/-- Under its own name stands what stood under the wire name. -/
theorem find?_respelled_own (hown : Value.find? entries name.own = none) :
    Value.find? (entries.respelled name) name.own = Value.find? entries name.wire := by
  induction entries with
  | nil => rfl
  | cons e rest ih =>
    obtain ⟨k, v⟩ := e
    cases k with
    | text s =>
      rw [find?_cons_text] at hown
      have hs : s ≠ name.own := fun hs => Option.some_ne_none v ((if_pos hs).symm.trans hown)
      rw [if_neg hs] at hown
      rw [respelled_cons_text, find?_cons_text, find?_cons_text]
      by_cases hw : s = name.wire
      · rw [if_pos hw, if_pos rfl, if_pos hw]
      · rw [if_neg hw, if_neg hs, if_neg hw]
        exact ih hown
    | _ => exact ih hown

section Names

variable {names : List Name} (hne : name.own ≠ name.wire) (hapart : names.Pairwise Name.Apart) (hname : name ∈ names)
include hne hapart hname

theorem field?_respelled (hown : Value.find? entries name.own = none) {other : Name} (hother : other ∈ names) :
    (entries.respelled name).field? other = entries.field? other := by
  by_cases heq : other = name
  · subst heq
    rw [field?, field?, find?_respelled entries hne.symm, if_pos rfl, find?_respelled_own hown, hown, Option.or_none,
      Option.none_or]
  · obtain ⟨h₁, h₂, h₃, h₄⟩ := hapart.forall hother hname heq
    rw [field?, field?, find?_respelled entries h₂, find?_respelled entries h₄, if_neg h₁, if_neg h₃]

omit hne in
/-- A key that spells the field in neither way is taken for the same fields as before. -/
theorem isTaken_respelled {key : String} (hkey : key ≠ name.wire) (hkeyOwn : key ≠ name.own) :
    (entries.respelled name).isTaken names key = entries.isTaken names key := by
  rw [Bool.eq_iff_iff, isTaken, isTaken, List.any_eq_true, List.any_eq_true]
  refine exists_congr fun other => and_congr_right fun hother => ?_
  by_cases heq : other = name
  · subst heq
    simp [hkey, hkeyOwn]
  · obtain ⟨h₁, h₂, -, -⟩ := hapart.forall hother hname heq
    rw [find?_respelled entries h₂, if_neg h₁]

theorem leftOver_respelled {rest : Entries} (hrest : Value.find? rest name.own = none) :
    (entries.respelled name).leftOver names (rest.respelled name) = entries.leftOver names rest := by
  induction rest with
  | nil => rfl
  | cons e rest ih =>
    obtain ⟨k, v⟩ := e
    cases k with
    | text s =>
      rw [find?_cons_text] at hrest
      have hs : s ≠ name.own := fun hs => Option.some_ne_none v ((if_pos hs).symm.trans hrest)
      rw [if_neg hs] at hrest
      rw [respelled_cons_text, leftOver, leftOver]
      by_cases hw : s = name.wire
      · have htaken : entries.isTaken names s = true := List.any_eq_true.mpr ⟨name, hname, by simp [hw]⟩
        have htakenOwn : (entries.respelled name).isTaken names name.own = true :=
          List.any_eq_true.mpr ⟨name, hname, by simp [find?_respelled entries hne.symm]⟩
        rw [if_pos hw, if_pos htaken, if_pos htakenOwn]
        exact ih hrest
      · rw [if_neg hw, isTaken_respelled hapart hname hw hs]
        exact if_congr Iff.rfl (ih hrest) (congrArg _ (ih hrest))
    | _ => exact congrArg _ (ih hrest)

end Names

/-- A field whose names are the same has one spelling. -/
theorem respelled_of_eq (entries : Entries) (h : name.own = name.wire) : entries.respelled name = entries := by
  have hkey : ∀ k, name.respelled k = k := by
    intro k
    cases k with
    | text s =>
      rw [Name.respelled, h]
      split
      · rename_i hs
        rw [hs]
      · rfl
    | _ => rfl
  simp [respelled, hkey]

/-- **Entries are alike in either spelling of a field**, when not both keys are there. -/
theorem alike_respelled {names : List Name} (hapart : names.Pairwise Name.Apart) (hname : name ∈ names)
    (honly : name.own ≠ name.wire → Value.find? entries name.own = none) :
    Alike names (entries.respelled name) entries := by
  by_cases hne : name.own = name.wire
  · rw [respelled_of_eq entries hne]
    exact ⟨fun _ _ => rfl, rfl⟩
  · have hown := honly hne
    exact ⟨fun other hother => field?_respelled hne hapart hname hown hother,
      leftOver_respelled hne hapart hname hown⟩

end Entries

end Chatflow.Schema
