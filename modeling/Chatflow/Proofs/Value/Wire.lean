import Chatflow.Value.Wire
import Mathlib.Data.List.Basic

/-!
# JSON data on the wire

JSON data whose numbers are finite (`Value.IsJson`) are written as themselves, unless they are too deep.

* `Value.IsJson.wire`: as plain JSON data they are what they were.
* `Value.Written x shallow a`: a writer gives `a` where something is shallow, and reports that it is too deep elsewhere.
  Writers that are put together are written so when their parts are.
* `Fields.written`: named JSON data are.
-/

namespace Chatflow

namespace Value

/-- JSON data with finite numbers: the keys of dictionaries are texts, and none comes twice. -/
inductive IsJson : Value → Prop
  | null : IsJson .null
  | bool (b : Bool) : IsJson (.bool b)
  | int (n : Int) : IsJson (.int n)
  | real (negative : Bool) (units : Nat) (onGrid : Binary64.OnGrid units) :
      IsJson (.real (.finite negative units onGrid))
  | text (s : String) : IsJson (.text s)
  | list {items : List Value} (each : ∀ item ∈ items, IsJson item) : IsJson (.list items)
  | object {fields : Fields} (once : fields.keys.Nodup) (each : ∀ e ∈ fields, IsJson e.2) : IsJson (.ofFields fields)

end Value

/-- Named JSON data. -/
def Fields.AreJson (fields : Fields) : Prop := ∀ e ∈ fields, e.2.IsJson

namespace Value

theorem ofFields_injective : Function.Injective ofFields := by
  intro fields more h
  refine List.map_injective_iff.mpr ?_ (dictionary.inj h)
  rintro ⟨k, v⟩ ⟨l, w⟩ heq
  simpa using heq

/-- A dictionary in JSON data has texts for keys. -/
theorem IsJson.exists_fields {entries : List (Value × Value)} (h : (dictionary entries).IsJson) :
    ∃ fields : Fields, entries = fields.map (fun (k, v) => (Value.text k, v)) ∧ fields.AreJson := by
  generalize hv : dictionary entries = v at h
  cases h with
  | object once each => exact ⟨_, dictionary.inj hv, each⟩
  | _ => cases hv

theorem IsJson.areJson {fields : Fields} (h : (ofFields fields).IsJson) : fields.AreJson := by
  obtain ⟨more, hmore, hjson⟩ := h.exists_fields
  obtain rfl : fields = more := ofFields_injective (congrArg dictionary hmore)
  exact hjson

/-! ## What is written -/

theorem wires_eq_map (items : List Value) : wires items = items.map wire := by
  induction items with
  | nil => rfl
  | cons item items ih => rw [wires, ih, List.map_cons]

/-- Entries whose keys are new come behind those that were written before. -/
theorem wireEntries_of_nodup (written : Fields) {fields : Fields} (h : (written ++ fields).keys.Nodup) :
    wireEntries written (fields.map fun (k, v) => (text k, v)) = written ++ fields.map fun (k, v) => (k, v.wire) := by
  induction fields generalizing written with
  | nil => simp [wireEntries]
  | cons field fields ih =>
    obtain ⟨k, v⟩ := field
    have hnew : k ∉ written.keys := by
      intro hk
      rw [Keyed.keys, List.map_append] at h
      exact (List.nodup_append.mp h).2.2 k hk k List.mem_cons_self rfl
    have hstep : written.set (keyText (text k)) v.wire = written ++ [(k, v.wire)] := Keyed.set_of_not_mem hnew _
    rw [List.map_cons, wireEntries, hstep, ih]
    · simp
    · simpa [Keyed.keys] using h

/-- **JSON data are written as themselves.** -/
theorem IsJson.wire {v : Value} (h : v.IsJson) : v.wire = v := by
  induction h with
  | null | bool | int | real | text => rfl
  | list _ ih => rw [Value.wire, wires_eq_map, List.map_congr_left ih, List.map_id']
  | @object fields once _ ih =>
    have hsame : (fields.map fun (k, v) => (k, v.wire)) = fields := by
      conv_rhs => rw [← List.map_id' fields]
      exact List.map_congr_left fun e he => Prod.ext rfl (ih e he)
    rw [Value.ofFields, Value.wire, wireEntries_of_nodup [] once, hsame]
    rfl

/-! ## What is too deep to be written -/

/-- A writer gives something where a condition on depth holds, and reports that it is too deep elsewhere. -/
structure Written {α : Type} (x : Except Fault α) (shallow : Prop) (a : α) : Prop where
  eq_ok : shallow → x = .ok a
  eq_tooDeep : ¬ shallow → x = .error .tooDeep

namespace Written

variable {α β : Type}

/-- Two writers one after the other need what both need. -/
theorem bind {x : Except Fault α} {f : α → Except Fault β} {s t : Prop} {a : α} {b : β} (hx : Written x s a)
    (hf : Written (f a) t b) : Written (x >>= f) (s ∧ t) b := by
  refine ⟨fun ⟨hs, ht⟩ => ?_, fun hn => ?_⟩
  · rw [hx.eq_ok hs]
    exact hf.eq_ok ht
  · by_cases hs : s
    · rw [hx.eq_ok hs]
      exact hf.eq_tooDeep fun ht => hn ⟨hs, ht⟩
    · rw [hx.eq_tooDeep hs]
      rfl

/-- What is made of what was written needs no more. -/
theorem map {x : Except Fault α} {s : Prop} {a : α} (hx : Written x s a) (f : α → β) :
    Written (x >>= fun a => Pure.pure (f a)) s (f a) := by
  constructor
  · intro hs
    rw [hx.eq_ok hs]
    rfl
  · intro hs
    rw [hx.eq_tooDeep hs]
    rfl

/-- A writer for each item of a list. -/
theorem mapM {items : List α} {f : α → Except Fault β} {s : α → Prop} {g : α → β}
    (h : ∀ a ∈ items, Written (f a) (s a) (g a)) : Written (items.mapM f) (∀ a ∈ items, s a) (items.map g) := by
  induction items with
  | nil => exact ⟨fun _ => rfl, fun hn => absurd (fun _ ha => nomatch ha) hn⟩
  | cons a items ih =>
    obtain ⟨ha, hitems⟩ := List.forall_mem_cons.mp h
    rw [List.mapM_cons, List.forall_mem_cons]
    exact ha.bind ((ih hitems).map (g a :: ·))

end Written

theorem IsJson.written {v : Value} (h : v.IsJson) : Written v.onWire (v.depth ≤ maxDepth) v := by
  refine ⟨fun hs => ?_, fun hn => if_pos (Nat.lt_of_not_le hn)⟩
  rw [Value.onWire, if_neg (Nat.not_lt.mpr hs), h.wire]

end Value

namespace Fields

/-- No value lies too deep. -/
def Shallow (fields : Fields) : Prop := ∀ e ∈ fields, e.2.depth ≤ Value.maxDepth

/-- **Named JSON data are written as themselves** when none of them is too deep. -/
theorem AreJson.written {fields : Fields} (h : fields.AreJson) : Value.Written fields.onWire fields.Shallow fields := by
  have hall := Value.Written.mapM fun e he => (h e he).written.map (e.1, ·)
  rwa [List.map_id'] at hall

end Fields

end Chatflow
