import Chatflow.Command.Inputs
import Chatflow.Proofs.Json.Scalars
import Chatflow.Proofs.Keyed

/-!
# Variables from the command line

The variables of a run are those of an object in JSON with pairs `KEY=VALUE` over them.  A pair is cut at its first equals
sign, of several pairs with one key the last one counts, and keys stay where they first came (`Seeds`).

* `putPairs_of_takenApart`: pairs are put one after the other, none is lost.
* `inputVariables_cases`: what is read of the object.
* `parseVariables_seeds_iff`: all this holds just when the text of the object does not go beyond the limits of the reader,
  which end the command in a fault of their own.
-/

namespace Chatflow

namespace Json

/-- What has no parts is no dictionary. -/
theorem readScalar_ne_dictionary {cs rest : List Char} {entries : List (Value × Value)} :
    readScalar cs ≠ .ok (.dictionary entries, rest) := by
  have hnumber : ∀ negative start ds, readNumber negative start ds ≠ .ok (.dictionary entries, rest) := by
    intro negative start ds h
    unfold readNumber at h
    dsimp only at h
    split_ifs at h
    · cases h
    · cases h
    · split at h <;> cases h
  intro h
  unfold readScalar at h
  split at h
  · rename_i w v hword
    have hplain : ∀ entry ∈ words, entry.2 ≠ .dictionary entries := by simp [words]
    cases h
    exact hplain _ (List.mem_of_find?_eq_some hword) rfl
  · split at h
    · exact hnumber _ _ _ h
    · exact hnumber _ _ _ h

theorem exists_fields_of_readValue {fuel room : Nat} {cs rest : List Char} {entries : List (Value × Value)}
    (h : readValue fuel room cs = .ok (.dictionary entries, rest)) :
    ∃ fields : Fields, Value.dictionary entries = .ofFields fields := by
  unfold readValue at h
  split at h
  · cases h
  · cases hread : readText _ _ <;> rw [hread] at h <;> cases h
  · cases h
  · split at h
    · cases h
    · cases hread : readItems _ _ _ <;> rw [hread] at h <;> cases h
  · cases h
  · split at h
    · cases h
      exact ⟨[], rfl⟩
    · cases hread : readEntries _ _ _ _ <;> rw [hread] at h <;> cases h
      exact ⟨_, rfl⟩
  · exact absurd h readScalar_ne_dictionary

/-- **A dictionary that is read has texts for keys.** -/
theorem exists_fields_of_read {room : Nat} {text : String} {entries : List (Value × Value)}
    (h : read room text = .ok (.dictionary entries)) : ∃ fields : Fields, Value.dictionary entries = .ofFields fields := by
  have hdocument : readDocument room text.toList = .ok (.dictionary entries) := by
    unfold read at h
    split at h <;> cases h
    assumption
  unfold readDocument at hdocument
  split_ifs at hdocument with hmark
  · cases hdocument
  · cases hread : readValue (2 * text.toList.length + 2) room (skip text.toList) with
    | error stop =>
      simp only [hread, bind, Except.bind] at hdocument
      cases hdocument
    | ok given =>
      obtain ⟨v, rest⟩ := given
      simp only [hread, bind, Except.bind] at hdocument
      split at hdocument <;> cases hdocument
      exact exists_fields_of_readValue hread

end Json

namespace Command

/-! ## Pairs -/

/-- Pairs taken apart: no key is empty, and none has an equals sign, so that each pair is cut at its first one. -/
structure TakenApart (pairs : List String) (entries : Keyed String) : Prop where
  spelled : pairs = entries.map fun (k, v) => k ++ "=" ++ v
  keys : ∀ k ∈ entries.keys, k ≠ "" ∧ '=' ∉ k.toList

/-- A text that is no pair: it has no equals sign, or begins with one. -/
def IsNoPair (pair : String) : Prop := '=' ∉ pair.toList ∨ pair.toList.head? = some '='

theorem parsePair_spelled {k : String} (hk : k ≠ "") (hsign : '=' ∉ k.toList) (v : String) :
    parsePair (.text (k ++ "=" ++ v)) = .ok (k, .text v) := by
  have hplain : ∀ c ∈ k.toList, (c != '=') = true := by
    intro c hc
    rw [bne_iff_ne]
    rintro rfl
    exact hsign hc
  have hlist : (k ++ "=" ++ v).toList = k.toList ++ '=' :: v.toList := by simp
  have htake : (k.toList ++ '=' :: v.toList).takeWhile (· != '=') = k.toList := by
    rw [List.takeWhile_append_of_pos hplain, List.takeWhile_cons_of_neg (by simp), List.append_nil]
  have hdrop : (k.toList ++ '=' :: v.toList).dropWhile (· != '=') = '=' :: v.toList := by
    rw [List.dropWhile_append_of_pos hplain, List.dropWhile_cons_of_neg (by simp)]
  have hne : k.toList.isEmpty = false := by simpa using hk
  simp [parsePair, hlist, htake, hdrop, hne]

theorem parsePair_of_noPair {pair : String} (h : IsNoPair pair) :
    parsePair (.text pair) = .error (.noPair pair) := by
  unfold parsePair
  dsimp only
  rcases h with hnone | hfirst
  · have hdrop : pair.toList.dropWhile (· != '=') = [] := by
      rw [List.dropWhile_eq_nil_iff]
      intro c hc
      rw [bne_iff_ne]
      rintro rfl
      exact hnone hc
    rw [hdrop]
  · obtain ⟨rest, hrest⟩ : ∃ rest, pair.toList = '=' :: rest := by
      cases hlist : pair.toList with
      | nil => simp [hlist] at hfirst
      | cons c rest =>
        rw [hlist, List.head?_cons, Option.some_inj] at hfirst
        exact ⟨rest, by rw [hfirst]⟩
    simp [hrest]

theorem exists_spelled {pair : String} (h : ¬IsNoPair pair) :
    ∃ k v, pair = k ++ "=" ++ v ∧ k ≠ "" ∧ '=' ∉ k.toList := by
  rw [IsNoPair, not_or, not_not] at h
  obtain ⟨hsign, hfirst⟩ := h
  obtain ⟨key, value, hlist, hkey⟩ := List.eq_append_cons_of_mem hsign
  refine ⟨String.ofList key, String.ofList value, ?_, ?_, by simpa using hkey⟩
  · rw [← String.toList_inj, hlist]
    simp
  · intro hempty
    have hnil : key = [] := by simpa using hempty
    exact hfirst (by rw [hlist, hnil]; rfl)

theorem exists_takenApart {pairs : List String} (h : ∀ pair ∈ pairs, ¬IsNoPair pair) :
    ∃ entries, TakenApart pairs entries := by
  induction pairs with
  | nil => exact ⟨[], rfl, nofun⟩
  | cons pair pairs ih =>
    obtain ⟨hpair, hpairs⟩ := List.forall_mem_cons.mp h
    obtain ⟨entries, hentries⟩ := ih hpairs
    obtain ⟨k, v, hspelled, hk⟩ := exists_spelled hpair
    refine ⟨(k, v) :: entries, ?_, List.forall_mem_cons.mpr ⟨hk, hentries.keys⟩⟩
    rw [hspelled, hentries.spelled]
    rfl

/-- **Pairs are put one after the other.** -/
theorem putPairs_of_takenApart {pairs : List String} {entries : Keyed String} (h : TakenApart pairs entries)
    (vars : Fields) :
    putPairs (pairs.map .text) vars = .ok (vars.merge (entries.map fun (k, v) => (k, .text v))) := by
  obtain ⟨hspelled, hkeys⟩ := h
  subst hspelled
  induction entries generalizing vars with
  | nil => rfl
  | cons entry entries ih =>
    obtain ⟨⟨hk, hsign⟩, hrest⟩ := List.forall_mem_cons.mp hkeys
    have hpair := parsePair_spelled hk hsign entry.2
    have hput := ih (vars.set entry.1 (.text entry.2)) hrest
    rw [List.map_cons, List.map_cons, putPairs, hpair]
    exact hput

/-- A text that is no pair ends the putting. -/
theorem putPairs_of_noPair {pairs : List String} (h : ∃ pair ∈ pairs, IsNoPair pair) (vars : Fields) :
    ∃ pair, putPairs (pairs.map .text) vars = .error (.noPair pair) := by
  induction pairs generalizing vars with
  | nil =>
    obtain ⟨pair, hpair, -⟩ := h
    cases hpair
  | cons first rest ih =>
    by_cases hfirst : IsNoPair first
    · refine ⟨first, ?_⟩
      rw [List.map_cons, putPairs, parsePair_of_noPair hfirst]
      rfl
    · obtain ⟨k, v, hspelled, hk, hsign⟩ := exists_spelled hfirst
      have hrest : ∃ pair ∈ rest, IsNoPair pair := by
        obtain ⟨pair, hpair, hno⟩ := h
        rcases List.mem_cons.mp hpair with rfl | hmem
        · exact absurd hno hfirst
        · exact ⟨pair, hmem, hno⟩
      obtain ⟨pair, hput⟩ := ih hrest (vars.set k (.text v))
      refine ⟨pair, ?_⟩
      rw [List.map_cons, putPairs, hspelled, parsePair_spelled hk hsign]
      exact hput

/-! ## The object -/

/-- What the input holds, read in some room: an object in JSON; nothing when there is no input, or an empty one. -/
def InputHolds (room : Nat) (input : Option String) (object : Fields) : Prop :=
  if input.getD "" = "" then object = [] else Json.read room (input.getD "") = .ok (.ofFields object)

/-- The input goes beyond a limit of the reader. -/
def InputBeyond (room : Nat) (input : Option String) (limit : Json.Limit) : Prop :=
  Json.read room (input.getD "") = .error (.beyond limit)

variable {room : Nat}

theorem inputVariables_of_empty {input : Option String} (h : input.getD "" = "") :
    inputVariables room (.ofText? input) = .ok [] := by
  cases input with
  | none => rfl
  | some text =>
    have htext : text = "" := h
    subst htext
    rfl

theorem inputVariables_of_text {input : Option String} (h : input.getD "" ≠ "") :
    inputVariables room (.ofText? input) = inputVariables room (.text (input.getD "")) := by
  cases input with
  | none => exact absurd rfl h
  | some text => rfl

theorem inputVariables_of_beyond {input : Option String} {limit : Json.Limit} (h : InputBeyond room input limit) :
    inputVariables room (.ofText? input) = .error (.beyond limit) := by
  have hempty : input.getD "" ≠ "" := by
    intro hempty
    rw [InputBeyond, hempty] at h
    cases h
  have hnone : (input.getD "").isEmpty = false := by simpa using hempty
  rw [inputVariables_of_text hempty, inputVariables, hnone, show Json.read _ _ = _ from h]
  rfl

theorem name_beyond_ne (limit : Json.Limit) : (Fault.beyond limit).name ≠ "AutoflowError" := by
  cases limit <;> simp [Fault.name]

/-- **What is read of the object**: it, or a fault in the words of a command, or a limit. -/
theorem inputVariables_cases (room : Nat) (input : Option String) :
    (∃ object, InputHolds room input object ∧ inputVariables room (.ofText? input) = .ok object) ∨
      ((∀ object, ¬InputHolds room input object) ∧ ∃ fault : Fault, fault.name = "AutoflowError" ∧
        inputVariables room (.ofText? input) = .error fault) ∨
      ((∀ object, ¬InputHolds room input object) ∧ ∃ limit, InputBeyond room input limit ∧
        inputVariables room (.ofText? input) = .error (.beyond limit)) := by
  by_cases hempty : input.getD "" = ""
  · have hholds : InputHolds room input [] := by
      unfold InputHolds
      rw [if_pos hempty]
    exact Or.inl ⟨[], hholds, inputVariables_of_empty hempty⟩
  rw [inputVariables_of_text hempty, inputVariables]
  have hnone : (input.getD "").isEmpty = false := by simpa using hempty
  have hholds : ∀ object, InputHolds room input object ↔
      Json.read room (input.getD "") = .ok (.ofFields object) := fun object =>
    iff_of_eq (if_neg hempty)
  simp only [hnone, hholds, InputBeyond]
  cases hread : Json.read room (input.getD "") with
  | error fault =>
    cases fault with
    | malformed mistake => exact Or.inr (Or.inl ⟨nofun, _, rfl, rfl⟩)
    | beyond limit => exact Or.inr (Or.inr ⟨nofun, limit, rfl, rfl⟩)
  | ok v =>
    cases v with
    | dictionary entries =>
      obtain ⟨object, hobject⟩ := Json.exists_fields_of_read hread
      refine Or.inl ⟨object, congrArg _ hobject, ?_⟩
      obtain rfl := Value.dictionary.inj hobject
      show Except.ok ((object.map fun entry => (Value.text entry.1, entry.2)).filterMap _) = .ok object
      rw [List.filterMap_map]
      exact congrArg Except.ok List.filterMap_some
    | _ => exact Or.inr (Or.inl ⟨nofun, _, rfl, rfl⟩)

theorem not_holds_of_beyond {input : Option String} {limit : Json.Limit} (h : InputBeyond room input limit)
    (object : Fields) : ¬InputHolds room input object := by
  rcases inputVariables_cases room input with ⟨_, -, hread⟩ | ⟨hnone, -⟩ | ⟨hnone, -⟩
  · cases hread.symm.trans (inputVariables_of_beyond h)
  · exact hnone object
  · exact hnone object

theorem parseVariables_of_beyond (pairs : List String) {input : Option String} {limit : Json.Limit}
    (h : InputBeyond room input limit) :
    parseVariables room (pairs.map .text) (.ofText? input) = .error (.beyond limit) := by
  unfold parseVariables
  rw [inputVariables_of_beyond h]
  rfl

/-! ## Both together -/

/-- **What becomes of pairs and an input.**  They are refused in the words of a command just when the input is given and
holds no object, or a text among the pairs is none.  Else, under a key stands what the last pair with it says, without
such a pair what the object says, and nothing without either; the keys of the object come first, in their order, and
behind them the new ones of the pairs in the order in which they first come. -/
structure Seeds (room : Nat) (pairs : List String) (input : Option String) (result : Except Fault Fields) : Prop where
  refused : (∃ fault, result = .error fault ∧ fault.name = "AutoflowError") ↔
    (∀ object, ¬InputHolds room input object) ∨ ∃ pair ∈ pairs, IsNoPair pair
  seeded : ¬((∀ object, ¬InputHolds room input object) ∨ ∃ pair ∈ pairs, IsNoPair pair) →
    ∃ object entries vars, InputHolds room input object ∧ TakenApart pairs entries ∧ result = .ok vars ∧
      (∀ k, vars.get? k = ((entries.filter (·.1 == k)).getLast?.map fun e => .text e.2).or (object.get? k)) ∧
      vars.keys = object.keys ++ (entries.keys.removeAll object.keys).eraseDups

/-- What is found, and in which order, when pairs are put over an object. -/
theorem merge_entries (object : Fields) (entries : Keyed String) :
    let vars := object.merge (entries.map fun (k, v) => (k, .text v))
    (∀ k, vars.get? k = ((entries.filter (·.1 == k)).getLast?.map fun e => .text e.2).or (object.get? k)) ∧
      vars.keys = object.keys ++ (entries.keys.removeAll object.keys).eraseDups := by
  have hkeys : Keyed.keys (entries.map fun (k, v) => (k, Value.text v)) = entries.keys := by
    simp [Keyed.keys]
  refine ⟨fun k => ?_, ?_⟩
  · rw [Keyed.get?_merge, List.filter_map, List.getLast?_map, Option.map_map]
    rfl
  · rw [(Keyed.puts_merge object _).keys, hkeys]

/-- Beyond a limit the input holds no object, but the fault is not one in the words of a command. -/
theorem not_seeds_of_beyond {pairs : List String} {input : Option String} {limit : Json.Limit}
    {result : Except Fault Fields} (h : InputBeyond room input limit) (hresult : result = .error (.beyond limit)) :
    ¬Seeds room pairs input result := by
  intro hseeds
  obtain ⟨fault, hfault, hname⟩ := hseeds.refused.mpr (Or.inl (not_holds_of_beyond h))
  obtain rfl : fault = .beyond limit := Except.error.inj (hfault.symm.trans hresult)
  exact name_beyond_ne limit hname

/-- **Pairs and an input become variables just as they should, unless the input goes beyond a limit of the reader.**
Where it does, that limit ends the command, in words that are not those of a command. -/
theorem parseVariables_seeds_iff (room : Nat) (pairs : List String) (input : Option String) :
    (Seeds room pairs input (parseVariables room (pairs.map .text) (.ofText? input)) ↔
        ∀ limit, ¬InputBeyond room input limit) ∧
      ∀ limit, InputBeyond room input limit →
        parseVariables room (pairs.map .text) (.ofText? input) = .error (.beyond limit) := by
  generalize hrun : parseVariables room (pairs.map .text) (.ofText? input) = result
  have hresult : ∀ {given}, inputVariables room (.ofText? input) = given →
      result = given >>= putPairs (pairs.map .text) := by
    rintro _ rfl
    exact hrun.symm
  have hlimit : ∀ limit, InputBeyond room input limit → result = .error (.beyond limit) := fun _ hbeyond =>
    hrun.symm.trans (parseVariables_of_beyond pairs hbeyond)
  refine ⟨⟨fun hseeds limit hbeyond => ?_, fun hwithin => ?_⟩, hlimit⟩
  · exact not_seeds_of_beyond hbeyond (hlimit limit hbeyond) hseeds
  · rcases inputVariables_cases room input with ⟨object, hholds, hread⟩ | ⟨hnone, fault, hname, hread⟩ |
      ⟨-, limit, hbeyond, -⟩
    · by_cases hpairs : ∃ pair ∈ pairs, IsNoPair pair
      · obtain ⟨pair, hput⟩ := putPairs_of_noPair hpairs object
        have herror : result = .error (.noPair pair) := (hresult hread).trans hput
        exact ⟨iff_of_true ⟨_, herror, rfl⟩ (Or.inr hpairs), fun hsound => absurd (Or.inr hpairs) hsound⟩
      · have hall : ∀ pair ∈ pairs, ¬IsNoPair pair := fun pair hpair hno => hpairs ⟨pair, hpair, hno⟩
        obtain ⟨entries, hentries⟩ := exists_takenApart hall
        have hok := (hresult hread).trans (putPairs_of_takenApart hentries object)
        refine ⟨iff_of_false ?_ ?_, fun _ => ?_⟩
        · rintro ⟨fault, hfault, -⟩
          cases hfault.symm.trans hok
        · rintro (hnone | hno)
          · exact hnone object hholds
          · exact hpairs hno
        · exact ⟨object, entries, _, hholds, hentries, hok, merge_entries object entries⟩
    · have herror : result = .error fault := hresult hread
      exact ⟨iff_of_true ⟨fault, herror, hname⟩ (Or.inl hnone), fun hsound => absurd (Or.inl hnone) hsound⟩
    · exact absurd hbeyond (hwithin limit)

/-! ## An input beyond the limits -/

theorem readDocument_ones {k : Nat} (hk : Decimal.longest < k + 1) :
    Json.readDocument room (List.replicate (k + 1) '1') = .error (.beyond (.digits (k + 1))) := by
  let ones := List.replicate k '1'
  have hdigits : ∀ c ∈ '1' :: ones, c.isDigit = true := by
    intro c hc
    rw [List.eq_of_mem_replicate (n := k + 1) hc]
    rfl
  have hnumber : Json.readScalar ('1' :: ones) = .error (.beyond (.digits (k + 1))) := by
    have hscalar := Json.readScalar_signed false (d := '1') rfl ones
    have hends : Json.Ends [] := nofun
    have hinteger := Json.readNumber_integer hdigits (List.cons_ne_nil '1' ones) (by simp) hends false ('1' :: ones)
    rw [List.append_nil, List.length_cons, List.length_replicate, if_pos hk] at hinteger
    exact hscalar.trans hinteger
  have hvalue := (Json.readValue_of_plain (c := '1') (by decide) (by decide) (by decide)
    (2 * ('1' :: ones).length + 1) room ones).trans hnumber
  have hskip : Json.skip ('1' :: ones) = '1' :: ones := List.dropWhile_cons_of_neg (by decide)
  show Json.readDocument room ('1' :: ones) = _
  unfold Json.readDocument
  rw [if_neg (by simp), hskip, hvalue]
  rfl

/-- A number of more digits than the reader takes. -/
def longNumber : String := String.ofList (List.replicate (Decimal.longest + 1) '1')

theorem inputBeyond_of_document {text : String} {limit : Json.Limit}
    (h : Json.readDocument room text.toList = .error (.beyond limit)) : InputBeyond room (some text) limit := by
  show Json.read room text = _
  unfold Json.read
  rw [h]

theorem inputBeyond_longNumber : InputBeyond room (some longNumber) (.digits (Decimal.longest + 1)) := by
  apply inputBeyond_of_document
  rw [longNumber, String.toList_ofList]
  exact readDocument_ones (Nat.lt_succ_self Decimal.longest)

/-- **A number that is too long is refused in other words.**  It is no object, but the fault is not that of a command. -/
theorem longNumber_not_refused :
    let room := 900
    parseVariables room [] (.ofText? (some longNumber)) = .error (.beyond (.digits (Decimal.longest + 1))) ∧
      (Fault.beyond (.digits (Decimal.longest + 1))).name = "ValueError" ∧
      ¬Seeds room [] (some longNumber) (parseVariables room [] (.ofText? (some longNumber))) := by
  intro room
  have hresult : parseVariables room [] (.ofText? (some longNumber)) = .error (.beyond (.digits (Decimal.longest + 1))) :=
    parseVariables_of_beyond [] inputBeyond_longNumber
  exact ⟨hresult, rfl, not_seeds_of_beyond inputBeyond_longNumber hresult⟩

end Command

end Chatflow
