import Chatflow.Json.Reader
import Chatflow.Proofs.Keyed
import Chatflow.Proofs.Number.Decimal
import Chatflow.Proofs.Schema.Reading
import Chatflow.Proofs.Value.Rendering

/-!
# What is read can be written

The reader and the writer have the same limits.  What is read in some room has no integer with too many digits, texts for
keys, and containers that have room inside each other; so there is a text for it in that room again (`renders_of_read`).

* `isLong_of_digits`: so many digits make no longer number.
* `renders_of_reading`: the three readers that call each other, by induction on the number of their steps.
-/

namespace Chatflow

namespace Decimal

theorem ofDigits_lt {ds : List Char} (h : ∀ c ∈ ds, c.isDigit = true) : ofDigits ds < 10 ^ ds.length := by
  induction ds with
  | nil => exact Nat.one_pos
  | cons c ds ih =>
    obtain ⟨hc, hds⟩ := List.forall_mem_cons.mp h
    have hdigit : ofDigits [c] ≤ 9 := by
      simp only [Char.isDigit, Bool.and_eq_true, decide_eq_true_eq, UInt32.le_iff_toNat_le] at hc
      simp only [ofDigits_eq, Nat.ofDigitChars, List.foldl_cons, List.foldl_nil]
      have hhigh : c.toNat ≤ 57 := hc.2
      have hzero : '0'.toNat = 48 := rfl
      omega
    have hrest := ih hds
    calc ofDigits (c :: ds) = ofDigits [c] * 10 ^ ds.length + ofDigits ds := ofDigits_append [c] ds
      _ < ofDigits [c] * 10 ^ ds.length + 10 ^ ds.length := Nat.add_lt_add_left hrest _
      _ = (ofDigits [c] + 1) * 10 ^ ds.length := (Nat.succ_mul _ _).symm
      _ ≤ 10 * 10 ^ ds.length := Nat.mul_le_mul_right _ (Nat.succ_le_succ hdigit)
      _ = 10 ^ (c :: ds).length := by rw [List.length_cons, Nat.pow_succ, Nat.mul_comm]

/-- Digits that are not too many make no number that has too many, with or without a sign. -/
theorem isLong_of_digits {ds : List Char} (h : ∀ c ∈ ds, c.isDigit = true) (hshort : ¬longest < ds.length) {n : Int}
    (hn : n.natAbs = ofDigits ds) : isLong n = false := by
  rw [← Bool.not_eq_true, isLong_iff, hn, Nat.not_le]
  exact Nat.lt_of_lt_of_le (ofDigits_lt h) (Nat.pow_le_pow_right (by decide) (Nat.le_of_not_lt hshort))

end Decimal

namespace Json

theorem isDigit_of_takeWhole (cs : List Char) : ∀ c ∈ (takeWhole cs).1, c.isDigit = true := by
  unfold takeWhole
  split
  · exact List.forall_mem_singleton.mpr rfl
  · exact List.all_eq_true.mp List.all_takeWhile

variable {room : Nat} {v : Value} {cs rest : List Char}

theorem renders_of_readNumber {negative : Bool} {start : List Char}
    (h : readNumber negative start cs = .ok (v, rest)) : v.Renders room := by
  unfold readNumber at h
  dsimp only at h
  split at h
  · cases h
  · split at h
    · split at h
      · cases h
      · next hshort =>
        cases h
        refine .int (Decimal.isLong_of_digits (isDigit_of_takeWhole cs) hshort ?_)
        cases negative
        · exact Int.natAbs_natCast _
        · exact Int.natAbs_neg _
    · split at h <;> cases h
      exact .real

theorem renders_of_readScalar (h : readScalar cs = .ok (v, rest)) : v.Renders room := by
  have hwords : ∀ entry ∈ words, entry.2.Renders room := by
    simp only [words, List.forall_mem_cons]
    exact ⟨.null, .bool, .bool, .real, .real, .real, nofun⟩
  unfold readScalar at h
  split at h
  · rename_i hword
    cases h
    exact hwords _ (List.mem_of_find?_eq_some hword)
  · split at h
    · exact renders_of_readNumber h
    · exact renders_of_readNumber h

/-- What the readers give in a number of steps: values, items and entries that have a text. -/
structure Keeps (fuel : Nat) : Prop where
  value : ∀ {room cs v rest}, readValue fuel room cs = .ok (v, rest) → v.Renders room
  items : ∀ {room cs items rest}, readItems fuel room cs = .ok (items, rest) → ∀ item ∈ items, item.Renders room
  entries : ∀ {room fields cs all rest}, (∀ e ∈ fields, e.2.Renders room) →
    readEntries fuel room fields cs = .ok (all, rest) → ∀ e ∈ all, e.2.Renders room

theorem Keeps.succ_value {fuel : Nat} (ih : Keeps fuel) (h : readValue (fuel + 1) room cs = .ok (v, rest)) :
    v.Renders room := by
  unfold readValue at h
  split at h
  · cases h
  · obtain ⟨_, -, heq⟩ := map_eq_ok_iff.mp h
    cases heq
    exact .text
  · cases h
  · split at h
    · cases h
      exact .list nofun
    · obtain ⟨_, hitems, heq⟩ := map_eq_ok_iff.mp h
      cases heq
      cases ‹fuel + 1 = _›
      exact .list (ih.items hitems)
  · cases h
  · split at h
    · cases h
      exact .dictionary nofun nofun
    · obtain ⟨_, hfields, heq⟩ := map_eq_ok_iff.mp h
      cases heq
      cases ‹fuel + 1 = _›
      exact Value.renders_ofFields_iff.mpr (ih.entries (List.forall_mem_nil _) hfields)
  · exact renders_of_readScalar h

theorem Keeps.succ_items {fuel : Nat} (ih : Keeps fuel) {items : List Value}
    (h : readItems (fuel + 1) room cs = .ok (items, rest)) : ∀ item ∈ items, item.Renders room := by
  unfold readItems at h
  obtain ⟨⟨item, behind⟩, hitem, h⟩ := bind_eq_ok_iff.mp h
  have hfirst := ih.value hitem
  dsimp only at h
  split at h
  · cases h
    exact List.forall_mem_singleton.mpr hfirst
  · obtain ⟨⟨others, behind⟩, hothers, h⟩ := bind_eq_ok_iff.mp h
    cases h
    exact List.forall_mem_cons.mpr ⟨hfirst, ih.items hothers⟩
  · cases h

theorem Keeps.succ_entries {fuel : Nat} (ih : Keeps fuel) {fields all : Fields}
    (hfields : ∀ e ∈ fields, e.2.Renders room) (h : readEntries (fuel + 1) room fields cs = .ok (all, rest)) :
    ∀ e ∈ all, e.2.Renders room := by
  unfold readEntries at h
  split at h
  · cases h
  · cases ‹fuel + 1 = _›
    obtain ⟨⟨key, behind⟩, -, h⟩ := bind_eq_ok_iff.mp h
    dsimp only at h
    split at h
    · obtain ⟨⟨v, behind⟩, hv, h⟩ := bind_eq_ok_iff.mp h
      have hput : ∀ key, ∀ e ∈ Keyed.set _ key v, e.2.Renders _ := fun key => Keyed.forall_set hfields (ih.value hv)
      dsimp only at h
      split at h
      · cases h
        exact hput key
      · exact ih.entries (hput key) h
      · cases h
    · cases h
  · cases h

theorem renders_of_reading (fuel : Nat) : Keeps fuel := by
  induction fuel with
  | zero => exact ⟨nofun, nofun, nofun⟩
  | succ fuel ih => exact ⟨ih.succ_value, ih.succ_items, ih.succ_entries⟩

/-- **What is read has a text** where there is as much room. -/
theorem renders_of_read {text : String} (h : read room text = .ok v) : v.Renders room := by
  unfold read at h
  split at h
  · next hdocument =>
    cases h
    unfold readDocument at hdocument
    split at hdocument
    · cases hdocument
    · obtain ⟨⟨given, rest⟩, hgiven, hdocument⟩ := bind_eq_ok_iff.mp hdocument
      dsimp only at hdocument
      split at hdocument
      · cases hdocument
        exact (renders_of_reading _).value hgiven
      · cases hdocument
  · cases h
  · cases h

end Json

end Chatflow
