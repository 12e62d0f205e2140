import Chatflow.Keyed
import Mathlib.Data.List.Induction

/-!
# The order of keyed lists

Putting values into a keyed list never takes a key away: the keys stay in their order, and the new ones come behind them
in the order in which they were put first (`Keyed.Puts`).  This holds of one value, of a row of them
(`Keyed.puts_foldl`), and of the entries of another list (`Keyed.puts_merge`).

* `Keyed.get?_merge`: of the values put under a key the last one is found.
* `Keyed.eq_map_keys`: a keyed list is its keys with what is found under them.
-/

namespace Chatflow.Keyed

variable {α β : Type} {names more : List String} {first second third : Keyed α}

/-- Values were put under just these names: the new ones among them stand behind the keys that were there, each once and
in order, and under any other name there is what there was. -/
structure Puts (names : List String) (first second : Keyed α) : Prop where
  keys : second.keys = first.keys ++ (names.removeAll first.keys).eraseDups
  others : ∀ name, name ∉ names → second.get? name = first.get? name

theorem Puts.refl (entries : Keyed α) : Puts [] entries entries := ⟨(List.append_nil _).symm, fun _ _ => rfl⟩

theorem puts_set (entries : Keyed α) (name : String) (v : α) : Puts [name] entries (entries.set name v) := by
  refine ⟨?_, fun other hother => ?_⟩
  · rw [keys_set]
    by_cases h : name ∈ entries.keys
    · simp [List.removeAll, h]
    · simp [List.removeAll, h, List.eraseDups_cons]
  · rw [get?_set, if_neg]
    rintro rfl
    exact hother List.mem_cons_self

theorem Puts.append (h : Puts names first second) (h' : Puts more second third) :
    Puts (names ++ more) first third := by
  refine ⟨?_, fun name hname => ?_⟩
  · -- A name of the second row is new when it is neither a first key nor among the new names of the first row.
    have hnew : more.removeAll second.keys = (more.removeAll first.keys).removeAll (names.removeAll first.keys) := by
      simp only [List.removeAll, List.filter_filter, h.keys]
      refine List.filter_congr fun name _ => ?_
      by_cases hold : name ∈ first.keys <;> simp [hold]
    have hall : (names ++ more).removeAll first.keys = names.removeAll first.keys ++ more.removeAll first.keys :=
      List.filter_append _ _
    rw [h'.keys, hnew, h.keys, hall, List.eraseDups_append, List.append_assoc]
  · rw [List.mem_append, not_or] at hname
    rw [h'.others name hname.2, h.others name hname.1]

/-- Values that are put one after the other; each may depend on those before. -/
theorem puts_foldl (key : β → String) (value : Keyed α → β → α) (items : List β) (entries : Keyed α) :
    Puts (items.map key) entries (items.foldl (fun acc item => acc.set (key item) (value acc item)) entries) := by
  induction items generalizing entries with
  | nil => exact .refl entries
  | cons item items ih => exact (puts_set entries (key item) (value entries item)).append (ih _)

/-- Put into an empty list, they make up its keys. -/
theorem keys_foldl (key : β → String) (value : Keyed α → β → α) (items : List β) :
    keys (items.foldl (fun acc item => acc.set (key item) (value acc item)) []) = (items.map key).eraseDups := by
  rw [(puts_foldl key value items []).keys]
  exact congrArg List.eraseDups List.removeAll_nil

theorem nodup_keys_foldl (key : β → String) (value : Keyed α → β → α) (items : List β) :
    (keys (items.foldl (fun acc item => acc.set (key item) (value acc item)) [])).Nodup := by
  induction items using List.reverseRecOn with
  | nil => exact List.nodup_nil
  | append_singleton rest item ih =>
    rw [List.foldl_append]
    exact nodup_keys_set ih (key item) _

theorem puts_merge (entries more : Keyed α) : Puts more.keys entries (entries.merge more) :=
  puts_foldl Prod.fst (fun _ entry => entry.2) more entries

theorem nodup_keys_merge {entries : Keyed α} (h : entries.keys.Nodup) (more : Keyed α) :
    (entries.merge more).keys.Nodup := by
  induction more generalizing entries with
  | nil => exact h
  | cons entry more ih => exact ih (nodup_keys_set h entry.1 entry.2)

/-- What holds of a value that is put in and of those that were there holds of all. -/
theorem forall_set {p : α → Prop} {entries : Keyed α} (h : ∀ e ∈ entries, p e.2) {name : String} {v : α} (hv : p v) :
    ∀ e ∈ entries.set name v, p e.2 := by
  induction entries with
  | nil => simpa [set] using hv
  | cons entry entries ih =>
    obtain ⟨k, w⟩ := entry
    obtain ⟨hw, hentries⟩ := List.forall_mem_cons.mp h
    rw [set]
    split
    · exact List.forall_mem_cons.mpr ⟨hv, hentries⟩
    · exact List.forall_mem_cons.mpr ⟨hw, ih hentries⟩

theorem forall_merge {p : α → Prop} {entries more : Keyed α} (h : ∀ e ∈ entries, p e.2) (hmore : ∀ e ∈ more, p e.2) :
    ∀ e ∈ entries.merge more, p e.2 := by
  induction more generalizing entries with
  | nil => exact h
  | cons entry more ih =>
    obtain ⟨hentry, hrest⟩ := List.forall_mem_cons.mp hmore
    exact ih (forall_set h hentry) hrest

/-- Of the values that are put under a key the last one is found. -/
theorem get?_merge (entries more : Keyed α) (name : String) :
    (entries.merge more).get? name =
      ((more.filter (·.1 == name)).getLast?.map (·.2)).or (entries.get? name) := by
  induction more using List.reverseRecOn with
  | nil => rfl
  | append_singleton rest entry ih =>
    obtain ⟨k, v⟩ := entry
    have hstep : entries.merge (rest ++ [(k, v)]) = (entries.merge rest).set k v := List.foldl_append
    rw [hstep, get?_set, ih, List.filter_append]
    by_cases h : k = name <;> simp [h]

theorem get?_cons (k : String) (v : α) (rest : Keyed α) (name : String) :
    get? ((k, v) :: rest) name = if k = name then some v else get? rest name := by
  by_cases h : k = name <;> simp [get?, h]

theorem isSome_get?_iff (entries : Keyed α) (name : String) : (entries.get? name).isSome = true ↔ name ∈ entries.keys := by
  rw [isSome_get?, has, List.any_eq_true]
  simp [keys]

theorem get?_of_not_mem {entries : Keyed α} {name : String} (h : name ∉ entries.keys) : entries.get? name = none := by
  rw [← isSome_get?_iff, Option.not_isSome_iff_eq_none] at h
  exact h

/-- Of entries whose keys differ, each takes the place of what was under its key. -/
theorem get?_merge_of_nodup (entries : Keyed α) {more : Keyed α} (h : more.keys.Nodup) (name : String) :
    (entries.merge more).get? name = (more.get? name).or (entries.get? name) := by
  induction more generalizing entries with
  | nil => rfl
  | cons entry more ih =>
    obtain ⟨k, v⟩ := entry
    obtain ⟨hnew, hmore⟩ := List.nodup_cons.mp h
    have hstep : entries.merge ((k, v) :: more) = (entries.set k v).merge more := rfl
    rw [hstep, ih _ hmore, get?_set, get?_cons]
    by_cases hk : k = name
    · subst hk
      rw [get?_of_not_mem hnew, if_pos rfl, if_pos rfl]
      rfl
    · rw [if_neg hk, if_neg hk]

theorem keys_filterMap_sublist (f : α → Option β) (entries : Keyed α) :
    (keys (entries.filterMap fun e => (f e.2).map (e.1, ·))).Sublist entries.keys := by
  induction entries with
  | nil => exact .slnil
  | cons entry entries ih =>
    cases hf : f entry.2 with
    | none => simpa [keys, hf] using ih.cons entry.1
    | some b => simpa [keys, hf] using ih

/-- What is made of entries whose keys differ is found under their keys. -/
theorem get?_filterMap (f : α → Option β) {entries : Keyed α} (h : entries.keys.Nodup) (name : String) :
    get? (entries.filterMap fun e => (f e.2).map (e.1, ·)) name = (entries.get? name).bind f := by
  induction entries with
  | nil => rfl
  | cons entry entries ih =>
    obtain ⟨k, v⟩ := entry
    obtain ⟨hnew, hentries⟩ := List.nodup_cons.mp h
    rw [get?_cons]
    cases hf : f v with
    | none =>
      rw [List.filterMap_cons_none (by simp [hf]), ih hentries]
      by_cases hk : k = name
      · subst hk
        rw [get?_of_not_mem hnew, if_pos rfl, Option.bind_some, hf]
        rfl
      · rw [if_neg hk]
    | some b =>
      rw [List.filterMap_cons_some (b := (k, b)) (by simp [hf]), get?_cons, ih hentries]
      by_cases hk : k = name
      · rw [if_pos hk, if_pos hk, Option.bind_some, hf]
      · rw [if_neg hk, if_neg hk]

/-- A keyed list is its keys with what is found under them. -/
theorem eq_map_keys {entries : Keyed α} (h : entries.keys.Nodup) {found : String → α}
    (hfound : ∀ name ∈ entries.keys, entries.get? name = some (found name)) :
    entries = entries.keys.map fun name => (name, found name) := by
  rw [keys, List.map_map]
  conv_lhs => rw [← List.map_id' entries]
  refine List.map_congr_left fun entry hentry => ?_
  have hget : entries.get? entry.1 = some entry.2 := (get?_eq_some_iff h).mpr hentry
  have hkey : entry.1 ∈ entries.keys := List.mem_map_of_mem hentry
  have hvalue : found entry.1 = entry.2 := Option.some.inj ((hfound _ hkey).symm.trans hget)
  simp [hvalue]

end Chatflow.Keyed
