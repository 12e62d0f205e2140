import Chatflow.Proofs.Journal.Members
import Chatflow.Proofs.Text.Colours

/-!
# Colours in structured entries

The structured form leaves colour sequences out of the message, of the fault and of those details that are texts
(`Entry.Tells`).  One is left exactly where a colour sequence had others between its own characters
(`colours_left_iff`).
-/

namespace Chatflow

open Text

namespace Entry

/-- A structured entry tells a text under a name: the message, unless the trace has something under that name, the fault
or a detail. -/
inductive Tells (entry : Entry) : String → String → Prop
  | message (free : "message" ∉ entry.trace.keys) : Tells entry "message" entry.record.message
  | exception {fault : Fault} (failed : entry.record.fault = some fault) : Tells entry "exception" fault.shown
  | detail {name s : String} (mem : (name, .text s) ∈ carried entry.record) : Tells entry name s

/-- **What an entry tells is written without its colour sequences.** -/
theorem get?_members_of_tells {entry : Entry} {name s : String} (h : entry.Tells name s) (now : Moment) :
    (entry.members now).get? name = some (.text (uncoloured s)) := by
  cases h with
  | message free =>
    have hdetail : (details entry.record).get? "message" = none := get?_details entry.record "message"
    have htrace := (Keyed.puts_merge (head now entry.record) entry.trace).others "message" free
    rw [get?_members now entry (by decide), hdetail, htrace]
    rfl
  | exception failed => exact get?_members_exception now entry failed
  | detail mem =>
    have hname : name ∈ (carried entry.record).keys := List.mem_map_of_mem mem
    have hcarried : (carried entry.record).get? name = some (.text s) :=
      (Keyed.get?_eq_some_iff (nodup_carried entry.record)).mpr mem
    have hne : name ≠ "exception" := by
      rintro rfl
      rw [keys_carried] at hname
      revert hname
      decide
    rw [get?_members now entry hne, get?_details, hcarried]
    rfl

/-- **A colour sequence is left in a text exactly where it had others between its own characters.**  Exactly then a
second pass would change the text, and an entry that tells it is written with a colour. -/
theorem colours_left_iff (s : String) :
    (Coloured (uncoloured s).toList ↔ Broken s.toList) ∧ (uncoloured (uncoloured s) = uncoloured s ↔ ¬Broken s.toList) ∧
      ∀ now (entry : Entry) name, entry.Tells name s →
        ∃ shown, (entry.members now).get? name = some (.text shown) ∧ (Coloured shown.toList ↔ Broken s.toList) := by
  have hleft : Coloured (uncoloured s).toList ↔ Broken s.toList := by
    rw [toList_uncoloured, coloured_stripped_iff]
  refine ⟨hleft, ?_, fun now entry name htells => ?_⟩
  · rw [← String.toList_inj, toList_uncoloured, toList_uncoloured, stripped_stripped_iff]
  · exact ⟨uncoloured s, get?_members_of_tells htells now, hleft⟩

/-- A change to red with a change back between its characters. -/
def splitRed : String := String.ofList [escape, '[', escape, '[', '0', 'm', '3', '1', 'm']

/-- The change to red. -/
def red : String := String.ofList [escape, '[', '3', '1', 'm']

/-- An entry whose message is the broken one. -/
def ofSplitRed : Entry := ⟨[], { level := Record.informing, source := "engine", message := splitRed }⟩

theorem colours_left_iff_splitRed :
    ∃ shown, (ofSplitRed.members ⟨0⟩).get? "message" = some (.text shown) ∧
      (Coloured shown.toList ↔ Broken splitRed.toList) :=
  (colours_left_iff splitRed).2.2 ⟨0⟩ ofSplitRed "message" (.message nofun)

theorem uncoloured_splitRed : uncoloured splitRed = red := by
  rw [← String.toList_inj, toList_uncoloured, splitRed, red, String.toList_ofList, String.toList_ofList]
  decide

theorem uncoloured_red : uncoloured red = "" := by
  rw [← String.toList_inj, toList_uncoloured, red, String.toList_ofList]
  rfl

theorem coloured_red : Coloured red.toList := by
  have hcolour : IsColour [escape, '[', '3', '1', 'm'] := ⟨['3', '1'], List.all_eq_true.mp rfl, rfl⟩
  exact ⟨_, hcolour, [], [], by simp [red]⟩

/-- **What stands on both sides of a colour sequence may be another one.**  Leaving the colours out of a text leaves one
there, a second pass changes the text, and an entry with that message is written with a colour. -/
theorem splitRed_keeps_red :
    uncoloured splitRed = red ∧ Coloured (uncoloured splitRed).toList ∧
      uncoloured (uncoloured splitRed) ≠ uncoloured splitRed ∧
      (ofSplitRed.members ⟨0⟩).get? "message" = some (.text red) := by
  have htells : ofSplitRed.Tells "message" splitRed := .message nofun
  have hmessage := get?_members_of_tells htells ⟨0⟩
  have hne : "" ≠ red := by
    intro heq
    have hlist := congrArg String.toList heq
    rw [red, String.toList_ofList] at hlist
    cases hlist
  rw [uncoloured_splitRed] at hmessage ⊢
  rw [uncoloured_red]
  exact ⟨rfl, coloured_red, hne, hmessage⟩

end Entry

end Chatflow
