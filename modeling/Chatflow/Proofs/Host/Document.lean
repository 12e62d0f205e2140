import Chatflow.Proofs.Command.Legible
import Chatflow.Proofs.Json.Limits

/-!
# The document of the settings

The settings come from a file that anyone may edit.  A file that is missing, malformed or no object means an empty
document (`Files.Void`).  Where the file is, its bytes and the limits of the reader may leave the settings without a
document (`Environment.Legible`).

* `isSome_unmarked?_iff`: which bytes are a text behind the mark.
* `document_of_void`: a file without settings gives an empty document.
* `exists_document_iff`: when there is a document.
* `renders_of_document`: what is in a document keeps within the limits of the reader.
-/

namespace Chatflow

/-! ## Bytes -/

theorem toList_loop (bytes : ByteArray) (i : Nat) (done : List UInt8) :
    ByteArray.toList.loop bytes i done = done.reverse ++ bytes.data.toList.drop i := by
  induction i, done using ByteArray.toList.loop.induct bytes with
  | case1 i done hi ih =>
    have hlength : i < bytes.data.toList.length := by simpa using hi
    have hget : bytes.get! i = bytes.data.toList[i] := getElem!_pos bytes.data i hi
    rw [ByteArray.toList.loop, if_pos hi, ih, List.drop_eq_getElem_cons hlength, hget, List.reverse_cons,
      List.append_assoc, List.singleton_append]
  | case2 i done hi =>
    have hlength : bytes.data.toList.length ≤ i := by simpa using hi
    rw [ByteArray.toList.loop, if_neg hi, List.drop_eq_nil_of_le hlength, List.append_nil]

theorem toList_eq_data (bytes : ByteArray) : bytes.toList = bytes.data.toList := toList_loop bytes 0 []

/-- The bytes of a text are that text, but for its line endings. -/
theorem Files.decode?_toUTF8 (s : String) : decode? s.toUTF8 = some (String.ofList (withLineFeeds s.toList)) := by
  unfold decode? String.fromUTF8?
  rw [dif_pos (show s.toUTF8.IsValidUTF8 from s.isValidUTF8)]
  rfl

namespace Environment

/-- The mark is the bytes of a character. -/
theorem utf8Encode_mark : [Char.ofNat 0xfeff].utf8Encode.data.toList = mark := rfl

/-- **Bytes are a text just when they are UTF-8**, but for a part of the mark alone. -/
theorem isSome_unmarked?_iff {bytes : ByteArray} :
    (unmarked? bytes).isSome = true ↔ bytes.toList <+: mark ∨ bytes.IsValidUTF8 := by
  unfold unmarked?
  dsimp only
  by_cases hpart : bytes.toList <+: mark
  · simp [hpart]
  rw [if_neg (by simpa using hpart), or_iff_right hpart]
  by_cases hmark : mark <+: bytes.toList
  · obtain ⟨rest, hrest⟩ := hmark
    have hbytes : [Char.ofNat 0xfeff].utf8Encode ++ ⟨rest.toArray⟩ = bytes := by
      refine ByteArray.ext (Array.toList_inj.mp ?_)
      rw [ByteArray.toList_data_append, utf8Encode_mark, ← toList_eq_data bytes, ← hrest]
    rw [if_pos (by simp [← hrest]), ← hrest, List.drop_left, Files.isSome_decode?_iff,
      ← ByteArray.isValidUTF8_utf8Encode_singleton_append_iff, hbytes]
  · rw [if_neg (by simpa using hmark), Files.isSome_decode?_iff]

end Environment

/-! ## The file -/

/-- A file can be read in some room: its path is not too long, its bytes are a text, and the text does not go beyond the
limits of the reader. -/
structure Files.Readable (files : Files) (room : Nat) (path : String) : Prop where
  short : files.read path ≠ .error .tooLong
  encoded : ∀ bytes, files.read path = .ok bytes → bytes.toList <+: Environment.mark ∨ bytes.IsValidUTF8
  bounded : ∀ bytes text limit, files.read path = .ok bytes → Environment.unmarked? bytes = some text →
    Json.read room text ≠ .error (.beyond limit)

namespace Files.Readable

variable {files : Files} {room : Nat} {path : String}

/-- Where there is no file, nothing hinders the reading. -/
theorem of_error {fault : FileFault} (hread : files.read path = .error fault) (hshort : fault ≠ .tooLong) :
    files.Readable room path where
  short h := hshort (Except.error.inj (hread.symm.trans h))
  encoded _ h := nomatch hread.symm.trans h
  bounded _ _ _ h := nomatch hread.symm.trans h

/-- A text within the limits can be read. -/
theorem of_text {bytes : ByteArray} {text : String} (hread : files.read path = .ok bytes)
    (hsaid : Environment.unmarked? bytes = some text) (hbounded : ∀ limit, Json.read room text ≠ .error (.beyond limit)) :
    files.Readable room path := by
  have hbytes : ∀ other, files.read path = .ok other → other = bytes := fun _ h => Except.ok.inj (h.symm.trans hread)
  refine ⟨fun h => (nomatch hread.symm.trans h), fun other hother => ?_, fun other said limit hother hsaid' => ?_⟩
  · rw [hbytes other hother, ← Environment.isSome_unmarked?_iff, hsaid]
    rfl
  · rw [hbytes other hother, hsaid] at hsaid'
    exact Option.some.inj hsaid' ▸ hbounded limit

end Files.Readable

/-- There are no settings at a path: no file, or a text that is no JSON or no object. -/
inductive Files.Void (files : Files) (room : Nat) (path : String) : Prop
  | absent {fault : FileFault} (read : files.read path = .error fault) (short : fault ≠ .tooLong)
  | malformed {bytes : ByteArray} {text : String} {mistake : Json.Mistake} (read : files.read path = .ok bytes)
      (said : Environment.unmarked? bytes = some text) (json : Json.read room text = .error (.malformed mistake))
  | noObject {bytes : ByteArray} {text : String} {v : Value} (read : files.read path = .ok bytes)
      (said : Environment.unmarked? bytes = some text) (json : Json.read room text = .ok v)
      (other : ∀ entries, v ≠ .dictionary entries)

namespace Environment

variable (env : Environment)

/-- The directory in which a path begins is known: when it is that of a user, the user has one, whose own path does not
begin so. -/
def Knows (path : String) : Prop :=
  ∀ first ∈ (path.splitOn "/").head?, first.startsWith "~" = true →
    ∃ home ∈ env.homeOf? (String.ofList (first.toList.drop 1)), (bareDirectory home).startsWith "~" = false

/-- The file of the settings can be found and read. -/
structure Legible : Prop where
  located : ∀ path ∈ env.lookup? "AUTOFLOW_CONFIG", path ≠ "" → env.Knows (Path.normalized path)
  readable : ∀ path, env.settingsPath = .ok path → env.files.Readable env.rooms.settings path

theorem exists_expand_iff (path : String) :
    (∃ expanded, env.expand path = .ok expanded) ↔ env.Knows (Path.normalized path) := by
  unfold expand Knows
  dsimp only
  cases (Path.normalized path).splitOn "/" with
  | nil => simp
  | cons first rest =>
    simp only [List.head?_cons, Option.mem_def, Option.some.injEq, forall_eq']
    generalize first.startsWith "~" = begins
    cases begins with
    | false => simp
    | true =>
      cases env.homeOf? (String.ofList (first.toList.drop 1)) with
      | none => simp
      | some home =>
        simp only [Option.some.injEq, exists_eq_left']
        generalize (bareDirectory home).startsWith "~" = again
        cases again <;> simp

theorem exists_settingsPath_iff : (∃ path, env.settingsPath = .ok path) ↔
    ∀ path ∈ env.lookup? "AUTOFLOW_CONFIG", path ≠ "" → env.Knows (Path.normalized path) := by
  unfold settingsPath
  cases env.lookup? "AUTOFLOW_CONFIG" with
  | none => simp
  | some path =>
    by_cases hempty : path = ""
    · simp [hempty]
    · simp [hempty, exists_expand_iff]

/-- What is read from a text means as a document of settings. -/
def documentOf : Except Json.Fault Value → Except Fault Fields
  | .ok (.dictionary entries) =>
    .ok (entries.filterMap fun (k, v) => match k with | .text s => some (s, v) | _ => none)
  | .ok _ | .error (.malformed _) => .ok []
  | .error (.beyond limit) => .error (.beyond limit)

section Found

variable {env} {path : String} (hpath : env.settingsPath = .ok path)

include hpath

theorem document_at : env.document =
    match env.files.read path with
    | .error .tooLong => .error (.unreachable .tooLong path)
    | .error _ => .ok []
    | .ok bytes =>
      match unmarked? bytes with
      | none => .error .undecodable
      | some text => documentOf (Json.read env.rooms.settings text) := by
  unfold document
  rw [hpath]
  rfl

theorem document_of_absent {fault : FileFault} (hread : env.files.read path = .error fault) (hshort : fault ≠ .tooLong) :
    env.document = .ok [] := by
  rw [document_at hpath, hread]
  cases fault with
  | tooLong => exact absurd rfl hshort
  | _ => rfl

variable {bytes : ByteArray} (hread : env.files.read path = .ok bytes)

include hread

theorem document_of_stray (hsaid : unmarked? bytes = none) : env.document = .error .undecodable := by
  rw [document_at hpath, hread]
  dsimp only
  rw [hsaid]

theorem document_of_text {text : String} (hsaid : unmarked? bytes = some text) :
    env.document = documentOf (Json.read env.rooms.settings text) := by
  rw [document_at hpath, hread]
  dsimp only
  rw [hsaid]

/-- The entries of an object are a document. -/
theorem document_of_object {text : String} (hsaid : unmarked? bytes = some text) {fields : Fields}
    (hjson : Json.read env.rooms.settings text = .ok (.ofFields fields)) : env.document = .ok fields := by
  rw [document_of_text hpath hread hsaid, hjson]
  exact congrArg Except.ok (List.filterMap_map.trans List.filterMap_some)

end Found

/-- A file without settings gives an empty document. -/
theorem document_of_void {path : String} (hpath : env.settingsPath = .ok path)
    (h : env.files.Void env.rooms.settings path) : env.document = .ok [] := by
  cases h with
  | absent read short => exact document_of_absent hpath read short
  | malformed read said json =>
    rw [document_of_text hpath read said, json]
    rfl
  | @noObject _ _ v read said json other =>
    rw [document_of_text hpath read said, json]
    cases v with
    | dictionary entries => exact absurd rfl (other entries)
    | _ => rfl

/-- What the file of the settings gives: a document when it can be read, else a fault. -/
theorem document_cases {path : String} (hpath : env.settingsPath = .ok path) :
    (env.files.Readable env.rooms.settings path ∧ ∃ doc, env.document = .ok doc) ∨
      (¬env.files.Readable env.rooms.settings path ∧ ∃ fault, env.document = .error fault) := by
  -- The cases are those of the reading: no bytes, bytes that are no text, a text that is no JSON.
  cases hread : env.files.read path with
  | error fault =>
    cases fault with
    | tooLong => exact Or.inr ⟨fun h => h.short hread, _, by rw [document_at hpath, hread]⟩
    | _ => exact Or.inl ⟨.of_error hread (by decide), _, document_of_absent hpath hread (by decide)⟩
  | ok bytes =>
    cases hsaid : unmarked? bytes with
    | none =>
      refine Or.inr ⟨fun h => ?_, _, document_of_stray hpath hread hsaid⟩
      have hsome := isSome_unmarked?_iff.mpr (h.encoded bytes hread)
      rw [hsaid] at hsome
      cases hsome
    | some text =>
      rw [document_of_text hpath hread hsaid]
      cases hjson : Json.read env.rooms.settings text with
      | ok v =>
        refine Or.inl ⟨.of_text hread hsaid (by simp [hjson]), ?_⟩
        cases v <;> exact ⟨_, rfl⟩
      | error fault =>
        cases fault with
        | malformed mistake => exact Or.inl ⟨.of_text hread hsaid (by simp [hjson]), _, rfl⟩
        | beyond limit => exact Or.inr ⟨fun h => h.bounded bytes text limit hread hsaid hjson, _, rfl⟩

/-- The entries of a document keep within the limits that what was read keeps within. -/
theorem renders_of_documentOf {x : Except Json.Fault Value} {room : Nat} {doc : Fields}
    (hx : ∀ v, x = .ok v → v.Renders room) (h : documentOf x = .ok doc) : ∀ e ∈ doc, ∃ room, e.2.Renders room := by
  unfold documentOf at h
  split at h
  · obtain rfl := Except.ok.inj h
    intro e he
    obtain ⟨⟨k, v⟩, hmem, hsome⟩ := List.mem_filterMap.mp he
    cases hx _ rfl with
    | dictionary keys each =>
      cases k with
      | text s =>
        obtain rfl := Option.some.inj hsome
        exact ⟨_, each _ hmem⟩
      | _ => cases hsome
  · cases h
    exact nofun
  · cases h
    exact nofun
  · cases h

/-- **What is in a document was read**, and keeps within the limits of the reader. -/
theorem renders_of_document {doc : Fields} (hdoc : env.document = .ok doc) : ∀ e ∈ doc, ∃ room, e.2.Renders room := by
  obtain ⟨path, hpath, -⟩ := bind_eq_ok_iff.mp hdoc
  rw [document_at hpath] at hdoc
  split at hdoc
  · cases hdoc
  · cases hdoc
    exact nofun
  · split at hdoc
    · cases hdoc
    · exact renders_of_documentOf (fun v hread => Json.renders_of_read hread) hdoc

/-- **There is a document just when the file of the settings can be found and read.** -/
theorem exists_document_iff : (∃ doc, env.document = .ok doc) ↔ env.Legible := by
  constructor
  · rintro ⟨doc, hdoc⟩
    have hlocated : ∃ path, env.settingsPath = .ok path := by
      obtain ⟨path, hpath, -⟩ := bind_eq_ok_iff.mp hdoc
      exact ⟨path, hpath⟩
    refine ⟨env.exists_settingsPath_iff.mp hlocated, fun path hpath => ?_⟩
    rcases env.document_cases hpath with ⟨hreadable, -⟩ | ⟨-, fault, hfault⟩
    · exact hreadable
    · cases hdoc.symm.trans hfault
  · intro h
    obtain ⟨path, hpath⟩ := env.exists_settingsPath_iff.mpr h.located
    rcases env.document_cases hpath with ⟨-, hdoc⟩ | ⟨hreadable, -⟩
    · exact hdoc
    · exact absurd (h.readable path hpath) hreadable

end Environment

end Chatflow
