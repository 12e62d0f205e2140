import Chatflow.Proofs.Command.Mistakes

/-!
# Files that can be read

What a command says of a file that it cannot use depends on whether the file is legible at all (`Files.Legible`): its
path holds no null, its bytes are UTF-8, and its text does not go beyond the limits of the reader, who has some room.
Everything else that may be wrong is told in the words of the command.  What is wrong with a file that is not legible is
not.

* `readValue_cases`: what reading a file gives, legible or not.
* `loads_iff_legible`: when workflows and histories are given or refused in the words of a command.
-/

namespace Chatflow

variable {α : Type}

/-- What is at a path can be read in some room: the path holds no null, and if there is a file, its bytes are UTF-8 and
its text does not go beyond the limits of the reader. -/
structure Files.Legible (files : Files) (room : Nat) (path : String) : Prop where
  named : Char.ofNat 0 ∉ path.toList
  encoded : ∀ bytes, files.read path = .ok bytes → bytes.IsValidUTF8
  bounded : ∀ bytes text limit, files.read path = .ok bytes → Files.decode? bytes = some text →
    Json.read room text ≠ .error (.beyond limit)

/-- A fault that reading a file raises by itself. -/
inductive Fault.IsRaw : Fault → Prop
  | named : IsRaw .nullInPath
  | encoded : IsRaw .undecodable
  | bounded (limit : Json.Limit) : IsRaw (.beyond limit)

theorem Fault.IsRaw.not_reported {fault : Fault} (h : fault.IsRaw) : fault.isReported = false := by
  cases h <;> rfl

theorem Files.isSome_decode?_iff {bytes : ByteArray} : (Files.decode? bytes).isSome = true ↔ bytes.IsValidUTF8 := by
  unfold decode? String.fromUTF8?
  by_cases h : bytes.IsValidUTF8 <;> simp [h]

namespace Command

/-- **What reading a file gives**: a value, or what is wrong with it, when it is legible; else a raw fault. -/
theorem readValue_cases (room : Nat) (files : Files) (path : String) :
    (files.Legible room path ∧ ∃ given, readValue room files path = .ok given) ∨
      (¬files.Legible room path ∧ ∃ fault : Fault, fault.IsRaw ∧ readValue room files path = .error fault) := by
  -- The cases are those of the reading: a name with a null, no bytes, bytes that are no text, a text that is no JSON.
  unfold readValue
  by_cases hnamed : Char.ofNat 0 ∈ path.toList
  · refine Or.inr ⟨fun h => h.named hnamed, _, .named, ?_⟩
    rw [if_pos (by simpa using hnamed)]
  rw [if_neg (by simpa using hnamed)]
  cases hread : files.read path with
  | error fault =>
    have hnone : ∀ bytes, files.read path ≠ .ok bytes := fun bytes hbytes => nomatch hread.symm.trans hbytes
    exact Or.inl ⟨⟨hnamed, fun bytes h => absurd h (hnone bytes), fun bytes _ _ h => absurd h (hnone bytes)⟩, _, rfl⟩
  | ok bytes =>
    have hbytes : ∀ {other}, files.read path = .ok other → other = bytes := fun h => Except.ok.inj (h.symm.trans hread)
    cases hdecode : Files.decode? bytes with
    | none =>
      refine Or.inr ⟨fun h => ?_, _, .encoded, by dsimp only; rw [hdecode]⟩
      have hsome := Files.isSome_decode?_iff.mpr (h.encoded bytes hread)
      rw [hdecode] at hsome
      cases hsome
    | some text =>
      have hlegible : (∀ limit, Json.read room text ≠ .error (.beyond limit)) → files.Legible room path := by
        intro hbounded
        refine ⟨hnamed, fun other hother => ?_, fun other said limit hother hsaid => ?_⟩
        · rw [hbytes hother, ← Files.isSome_decode?_iff, hdecode]
          rfl
        · rw [hbytes hother, hdecode] at hsaid
          exact Option.some.inj hsaid ▸ hbounded limit
      dsimp only
      rw [hdecode]
      dsimp only
      cases hjson : Json.read room text with
      | ok v => exact Or.inl ⟨hlegible fun limit h => (nomatch hjson.symm.trans h), _, rfl⟩
      | error fault =>
        cases fault with
        | malformed mistake =>
          refine Or.inl ⟨hlegible fun limit h => ?_, _, rfl⟩
          cases hjson.symm.trans h
        | beyond limit => exact Or.inr ⟨fun h => h.bounded bytes text limit hread hdecode hjson, _, .bounded limit, rfl⟩

/-- Something is given, or it is refused by a fault of a name, of which a command tells its user. -/
def Told (name : String) (x : Except Fault α) : Prop :=
  (∃ a, x = .ok a) ∨ ∃ fault, x = .error fault ∧ fault.name = name ∧ fault.isReported = true

/-- A raw fault is not told. -/
theorem Told.not_raw {name : String} {x : Except Fault α} (h : Told name x) {fault : Fault} (hraw : fault.IsRaw) :
    x ≠ .error fault := by
  rintro rfl
  rcases h with ⟨a, ha⟩ | ⟨other, hother, -, hreported⟩
  · cases ha
  · cases hother
    rw [hraw.not_reported] at hreported
    cases hreported

/-- A raw fault leaves whatever reads the file. -/
theorem loads_of_readValue_error {room : Nat} {files : Files} {path : String} {fault : Fault}
    (h : readValue room files (Path.normalized path) = .error fault) (clock : Clock) :
    loadWorkflow room files (.text path) = .error fault ∧ loadHistory room files clock (.text path) = .error fault := by
  constructor
  · unfold loadWorkflow pathOf
    dsimp only [bind, Except.bind]
    rw [h]
  · unfold loadHistory pathOf
    dsimp only [bind, Except.bind]
    rw [h]

/-- **A workflow is given, or refused in words, just when its file is legible**; else a raw fault is raised. -/
theorem loadWorkflow_cases (room : Nat) (files : Files) (path : String) :
    (files.Legible room (Path.normalized path) ∧ Told "WorkflowDefinitionError" (loadWorkflow room files (.text path))) ∨
      (¬files.Legible room (Path.normalized path) ∧
        ∃ fault : Fault, fault.IsRaw ∧ loadWorkflow room files (.text path) = .error fault) := by
  rcases readValue_cases room files (Path.normalized path) with ⟨hlegible, given, hgiven⟩ | ⟨hlegible, fault, hraw, hfault⟩
  · refine Or.inl ⟨hlegible, ?_⟩
    unfold loadWorkflow pathOf
    dsimp only [bind, Except.bind]
    rw [hgiven]
    dsimp only
    split
    · exact Or.inr ⟨_, rfl, rfl, rfl⟩
    · split
      · exact Or.inl ⟨_, rfl⟩
      · exact Or.inr ⟨_, rfl, rfl, rfl⟩
    · exact Or.inr ⟨_, rfl, rfl, rfl⟩
  · exact Or.inr ⟨hlegible, fault, hraw, (loads_of_readValue_error hfault fun _ => ⟨⟨0⟩, ""⟩).1⟩

/-- **A history is given, or refused in words, just when its file is legible**; else a raw fault is raised. -/
theorem loadHistory_cases (room : Nat) (files : Files) (clock : Clock) (path : String) :
    (files.Legible room (Path.normalized path) ∧ Told "AutoflowError" (loadHistory room files clock (.text path))) ∨
      (¬files.Legible room (Path.normalized path) ∧
        ∃ fault : Fault, fault.IsRaw ∧ loadHistory room files clock (.text path) = .error fault) := by
  rcases readValue_cases room files (Path.normalized path) with ⟨hlegible, given, hgiven⟩ | ⟨hlegible, fault, hraw, hfault⟩
  · refine Or.inl ⟨hlegible, ?_⟩
    unfold loadHistory pathOf
    dsimp only [bind, Except.bind]
    rw [hgiven]
    dsimp only
    split
    · exact Or.inr ⟨_, rfl, rfl, rfl⟩
    · split
      · exact Or.inl ⟨_, rfl⟩
      · exact Or.inr ⟨_, rfl, rfl, rfl⟩
  · exact Or.inr ⟨hlegible, fault, hraw, (loads_of_readValue_error hfault clock).2⟩

/-- What is told just when something holds, and raw otherwise, is told just when it holds. -/
theorem told_iff_of_cases {name : String} {x : Except Fault α} {legible : Prop}
    (h : (legible ∧ Told name x) ∨ (¬legible ∧ ∃ fault : Fault, fault.IsRaw ∧ x = .error fault)) :
    Told name x ↔ legible := by
  rcases h with ⟨hlegible, htold⟩ | ⟨hlegible, fault, hraw, hfault⟩
  · exact iff_of_true htold hlegible
  · exact iff_of_false (fun htold => htold.not_raw hraw hfault) hlegible

theorem reported_iff_of_cases {name : String} {x : Except Fault α} {legible : Prop}
    (h : (legible ∧ Told name x) ∨ (¬legible ∧ ∃ fault : Fault, fault.IsRaw ∧ x = .error fault)) {fault : Fault}
    (hx : x = .error fault) : fault.isReported = true ↔ legible := by
  subst hx
  rcases h with ⟨hlegible, ⟨a, ha⟩ | ⟨other, hother, -, hreported⟩⟩ | ⟨hlegible, other, hraw, hother⟩
  · cases ha
  · cases hother
    exact iff_of_true hreported hlegible
  · cases hother
    exact iff_of_false (by rw [hraw.not_reported]; simp) hlegible

/-- What a task cannot use is the file at a path, read in some room: that of its workflow or, behind a workflow that is
given, that of its history. -/
inductive Unusable (env : Environment) (clock : Clock) (path : String) : Task → Nat → Fault → Prop
  | workflow {task : Task} {fault : Fault} (asked : task.workflow = .text path)
      (unusable : loadWorkflow env.rooms.workflow env.files (.text path) = .error fault) :
      Unusable env clock path task env.rooms.workflow fault
  | history {task : ChatTask} {workflow : Workflow} {fault : Fault} (asked : task.history = .text path)
      (named : path ≠ "") (loaded : loadWorkflow env.rooms.workflow env.files task.workflow = .ok workflow)
      (unusable : loadHistory env.rooms.history env.files clock (.text path) = .error fault) :
      Unusable env clock path (.chat task) env.rooms.history fault

section Unusable

variable {env : Environment} {clock : Clock} {path : String} {task : Task} {room : Nat} {fault : Fault}
  (h : Unusable env clock path task room fault)
include h

theorem Unusable.mistake : Mistake env clock task fault := by
  cases h with
  | workflow asked unusable => exact .workflow (asked ▸ unusable)
  | history asked named loaded unusable =>
    refine .history loaded ?_ (asked ▸ unusable)
    rw [asked]
    simpa [Value.truthy] using named

/-- The fault of a file that cannot be used is one of which a command tells just when the file is legible. -/
theorem Unusable.reported_iff : fault.isReported = true ↔ env.files.Legible room (Path.normalized path) := by
  cases h with
  | workflow asked unusable => exact reported_iff_of_cases (loadWorkflow_cases _ env.files path) unusable
  | history asked named loaded unusable => exact reported_iff_of_cases (loadHistory_cases _ env.files clock path) unusable

end Unusable

/-- **Files are told to be of no use just when they are legible.**  Whatever is at a path, a workflow is given from
there, or refused as a flaw of its definition, exactly when the path and what is there are legible; and so is a history.
A command line that names a file of no use ends with the exit code for errors, and the error, exactly when the file is
legible; else the raw fault ends the program. -/
theorem loads_iff_legible (room : Nat) (files : Files) (clock : Clock) (path : String) :
    (Told "WorkflowDefinitionError" (loadWorkflow room files (.text path)) ↔ files.Legible room (Path.normalized path)) ∧
    (Told "AutoflowError" (loadHistory room files clock (.text path)) ↔ files.Legible room (Path.normalized path)) ∧
    ∀ (around : Surroundings) (words : List String) (invocation : Invocation) (journal : Journal) (fault : Fault),
      around.environment.files = files → around.clock = clock → Invocation.read words = .ok invocation →
      around.Opens invocation journal → Unusable around.environment clock path invocation.task room fault →
      let outcome := around.outcome words
      (outcome.exit = .ok 1 ↔ files.Legible room (Path.normalized path)) ∧
      (files.Legible room (Path.normalized path) → outcome.errors = "Error: " ++ fault.message ++ "\n") ∧
      (¬files.Legible room (Path.normalized path) → outcome.exit = .error fault) := by
  refine ⟨told_iff_of_cases (loadWorkflow_cases room files path),
    told_iff_of_cases (loadHistory_cases room files clock path), ?_⟩
  rintro around words invocation journal fault rfl rfl hread hopens hunusable outcome
  have houtcome : outcome = .ofFault "" fault :=
    (Surroundings.outcome_of_opens hread hopens).trans (Surroundings.perform_of_mistake hopens hunusable.mistake)
  rw [← hunusable.reported_iff, houtcome]
  refine ⟨exit_ofFault_iff, fun hreported => ?_, fun hraw => ?_⟩
  · rw [Outcome.ofFault_reported hreported]
  · unfold Outcome.ofFault
    rw [if_neg hraw]

/-! ## A file that is not legible -/

/-- A file with a byte that stands nowhere in UTF-8. -/
def strayByte : Files := { entries := [("w", some ⟨#[0xff]⟩)] }

theorem splitOn_w : "w".splitOn "/" = ["w"] := by
  unfold String.splitOn
  rw [if_neg (by decide)]
  unfold String.splitOnAux
  rw [if_neg (by decide)]
  unfold String.splitOnAux
  rfl

theorem normalized_w : Path.normalized "w" = "w" := by
  unfold Path.normalized Path.parts
  rw [splitOn_w]
  rfl

/-- **A stray byte ends the program.**  Neither a workflow nor a history is given from the file, and neither is refused
in words; the description of the workflow does not end with an exit code. -/
theorem strayByte_not_told :
    let clock : Clock := (Tick.mk ⟨0⟩ "x").forever
    let rooms : Rooms := ⟨900, 900, 900, 900, 900, 900, 900⟩
    loadWorkflow rooms.workflow strayByte (.text "w") = .error .undecodable ∧
      loadHistory rooms.history strayByte clock (.text "w") = .error .undecodable ∧
      ¬Told "WorkflowDefinitionError" (loadWorkflow rooms.workflow strayByte (.text "w")) ∧
      ¬Told "AutoflowError" (loadHistory rooms.history strayByte clock (.text "w")) ∧
      (info rooms strayByte (.text "w")).exit = .error .undecodable := by
  intro clock rooms
  have hread : ∀ room, readValue room strayByte (Path.normalized "w") = .error .undecodable := by
    intro room
    have hdecode : Files.decode? ⟨#[0xff]⟩ = none := by
      rw [← Option.isNone_iff_eq_none, ← Option.not_isSome, Bool.not_eq_true']
      rw [Bool.eq_false_iff, ne_eq, Files.isSome_decode?_iff]
      decide
    have hfile : strayByte.read "w" = .ok ⟨#[0xff]⟩ := rfl
    rw [normalized_w]
    unfold readValue
    rw [if_neg (by decide), hfile]
    dsimp only
    rw [hdecode]
  have hworkflow := (loads_of_readValue_error (hread rooms.workflow) clock).1
  have hhistory := (loads_of_readValue_error (hread rooms.history) clock).2
  refine ⟨hworkflow, hhistory, fun h => h.not_raw .encoded hworkflow, fun h => h.not_raw .encoded hhistory, ?_⟩
  unfold info
  rw [hworkflow]
  rfl

end Command

end Chatflow
