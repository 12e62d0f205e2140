/-!
# Keyed lists

A list of pairs that is used as a dictionary: keys in the order in which they first came, each with its newest value.

* `get?_set` says what setting does to looking up.
* `keys_set` says what setting does to the keys.
* `get?_perm`: looking up does not depend on the order, as long as no key comes twice.
-/

namespace Chatflow

/-- Values under texts, in the order in which the texts came. -/
abbrev Keyed (α : Type) := List (String × α)

namespace Keyed

variable {α : Type}

/-- The value under a key. -/
def get? (entries : Keyed α) (name : String) : Option α := (entries.find? (·.1 == name)).map (·.2)

/-- Puts a value under a key: in place when the key is there, else at the end. -/
def set : Keyed α → String → α → Keyed α
  | [], name, v => [(name, v)]
  | (k, w) :: rest, name, v => if k = name then (k, v) :: rest else (k, w) :: set rest name v

/-- Puts all entries of another list, one after the other. -/
def merge (entries more : Keyed α) : Keyed α := more.foldl (fun acc (k, v) => acc.set k v) entries

/-- The keys in their order. -/
def keys (entries : Keyed α) : List String := entries.map (·.1)

/-- Whether there is a value under a key. -/
def has (entries : Keyed α) (name : String) : Bool := entries.any (·.1 == name)

theorem get?_singleton (name other : String) (v : α) :
    get? [(name, v)] other = if name = other then some v else none := by
  by_cases h : name = other <;> simp [get?, h]

theorem get?_set (entries : Keyed α) (name other : String) (v : α) :
    (entries.set name v).get? other = if name = other then some v else entries.get? other := by
  induction entries with
  | nil => by_cases h : name = other <;> simp [set, get?, h]
  | cons entry rest ih =>
    obtain ⟨k, w⟩ := entry
    by_cases hk : k = name
    · subst hk; by_cases h : k = other <;> simp [set, get?, h]
    · by_cases ho : k = other
      · subst ho; simp [set, get?, hk, Ne.symm hk]
      · simp only [get?] at ih; simpa [set, get?, hk, ho] using ih

/-- Of two values that are put under one key the second one stays. -/
theorem set_set (entries : Keyed α) (name : String) (v w : α) : (entries.set name v).set name w = entries.set name w := by
  induction entries with
  | nil => simp [set]
  | cons entry rest ih =>
    obtain ⟨k, u⟩ := entry
    by_cases hk : k = name <;> simp [set, hk, ih]

theorem keys_set (entries : Keyed α) (name : String) (v : α) :
    (entries.set name v).keys = if name ∈ entries.keys then entries.keys else entries.keys ++ [name] := by
  induction entries with
  | nil => simp [set, keys]
  | cons entry rest ih =>
    obtain ⟨k, w⟩ := entry
    by_cases hk : k = name
    · subst hk; simp [set, keys]
    · simp only [keys] at ih
      by_cases hm : name ∈ rest.map (·.1) <;> simp_all [set, keys, Ne.symm hk]

theorem set_of_not_mem {entries : Keyed α} {name : String} (h : name ∉ entries.keys) (v : α) :
    entries.set name v = entries ++ [(name, v)] := by
  induction entries with
  | nil => rfl
  | cons entry rest ih =>
    have hk : entry.1 ≠ name := fun hk => h (hk ▸ List.mem_cons_self)
    rw [set, if_neg hk, ih fun hrest => h (List.mem_cons_of_mem _ hrest)]
    rfl

theorem isSome_get? (entries : Keyed α) (name : String) : (entries.get? name).isSome = entries.has name := by
  rw [get?, Option.isSome_map, List.isSome_find?, has]

theorem nodup_keys_set {entries : Keyed α} (h : entries.keys.Nodup) (name : String) (v : α) :
    (entries.set name v).keys.Nodup := by
  rw [keys_set]
  split
  · exact h
  · rename_i hm
    refine List.nodup_append.mpr ⟨h, by simp, fun k hk other hother => ?_⟩
    rw [List.mem_singleton.mp hother]
    exact fun heq => hm (heq ▸ hk)

theorem get?_eq_some_iff {entries : Keyed α} (h : entries.keys.Nodup) {name : String} {v : α} :
    entries.get? name = some v ↔ (name, v) ∈ entries := by
  induction entries with
  | nil => simp [get?]
  | cons entry rest ih =>
    obtain ⟨k, w⟩ := entry
    obtain ⟨hk, hrest⟩ := List.nodup_cons.mp h
    by_cases hn : k = name
    · subst hn
      have hnot : (k, v) ∉ rest := fun hm => hk (List.mem_map.mpr ⟨_, hm, rfl⟩)
      simp [get?, hnot, eq_comm]
    · have hne : name ≠ k := Ne.symm hn
      simpa [get?, hn, hne] using ih hrest

/-- Looking up does not depend on the order. -/
theorem get?_perm {entries more : Keyed α} (h : entries.keys.Nodup) (hp : entries.Perm more) (name : String) :
    entries.get? name = more.get? name := by
  have hkeys : entries.keys.Perm more.keys := hp.map Prod.fst
  have hmore : more.keys.Nodup := hkeys.nodup_iff.mp h
  ext v
  rw [get?_eq_some_iff h, get?_eq_some_iff hmore, hp.mem_iff]

end Keyed

end Chatflow
