import Chatflow.Proofs.Condition.Phrases

/-!
# References in conditions and in templates

A template takes a reference for its name, whatever blanks stand around the name.  A condition drops the braces and
keeps the blanks, so it means the variable whose name has them (`means_inner`).  So a reference means the same in both
when no blanks stand between its braces, and only then (`reference_agrees_iff`).
-/

namespace Chatflow

open Template (Token braced putVariables putVariable)
open Text (Apart Trimmed occurs lower)

namespace Condition

/-- A literal without quotes, keywords and blanks at its ends. -/
structure Plain (literal : String) : Prop where
  unquoted : Apart Phrase.quotes literal.toList
  wordless : ∀ keyword : Keyword, occurs keyword.word literal.toList = false
  trimmed : Trimmed literal.toList

/-- A reference means a value: conditions that ask it for a plain literal hold just when that is the text of the value,
or occurs in it in any case. -/
def Means (room : Nat) (reference : String) (vars : Fields) (v : Value) : Prop :=
  ∀ literal, Plain literal →
    ((evaluate room (reference ++ " equals '" ++ literal ++ "'") vars).result = .ok true ↔ v.rendered room = .ok literal) ∧
    ((evaluate room (reference ++ " contains '" ++ literal ++ "'") vars).result = .ok true ↔
      ∃ text, v.rendered room = .ok text ∧ occurs (lower literal.toList) (lower text.toList) = true)

section Reference

variable {room : Nat} (t : Token) (hname : ∀ keyword : Keyword, occurs keyword.word t.name = false)

/-- A variable is put in for a reference whatever blanks it has. -/
theorem putVariables_written (v : Value) :
    putVariables room [(String.ofList t.name, v)] t.written = (v.rendered room).map String.toList := by
  have hput : ∀ new, putVariable (String.ofList t.name).toList new t.written = new := by
    intro new
    have hhit := Template.placeholder_token t.name_braceless t.name_trimmed t []
    have hall := Text.replaceAll_append_of_hit new t.written_ne_nil (hhit.trans (if_pos rfl))
    rw [String.toList_ofList]
    rwa [List.append_nil, Text.replaceAll_nil, List.append_nil] at hall
  unfold putVariables
  cases v.rendered room with
  | error fault => rfl
  | ok text => exact congrArg Except.ok (hput text.toList)

include hname

/-- **A condition means the variable whose name is all that stands between the braces.** -/
theorem means_inner (vars : Fields) :
    Means room (String.ofList t.written) vars ((vars.get? (String.ofList t.inner)).getD .null) := by
  have hreference : ∀ keyword : Keyword, occurs keyword.word (String.ofList t.written).toList = false := by
    intro keyword
    rw [String.toList_ofList, keyword.occurs_written, hname]
  have hread : Phrase.bare Phrase.braces ((String.ofList t.written).toList ++ [' ']) = String.ofList t.inner := by
    rw [String.toList_ofList]
    exact Phrase.bare_braced t.braceless_inner
  have hq : '\'' ∈ Phrase.quotes := by decide
  intro literal hplain
  have hequals := Phrase.ofText?_spelled_equals hq hreference hplain.wordless
  obtain ⟨hcontains, -⟩ := Phrase.ofText?_spelled_contains hq (hreference .contains) (hplain.wordless .contains)
  rw [hread, Phrase.unquoted_eq_self_iff.mpr hplain.unquoted] at hequals hcontains
  constructor
  · rw [← Phrase.equals_holds_iff]
    exact iff_of_eq (congrArg (·.result = .ok true) (evaluate_of_phrase hequals vars))
  · rw [← Phrase.contains_holds_iff]
    exact iff_of_eq (congrArg (·.result = .ok true) (evaluate_of_phrase hcontains vars))

/-- **A reference means the same in conditions as in templates just when it has no blanks.**  A template puts the text of
a variable in for every reference to it.  A condition takes a reference for the variable whose name has the blanks. -/
theorem reference_agrees_iff (room : Nat) :
    (∀ v, putVariables room [(String.ofList t.name, v)] t.written = (v.rendered room).map String.toList) ∧
    (∀ vars, Means room (String.ofList t.written) vars ((vars.get? (String.ofList t.inner)).getD .null)) ∧
    ((∀ (vars : Fields) v, vars.get? (String.ofList t.name) = some v → Means room (String.ofList t.written) vars v) ↔
      t.lead = [] ∧ t.trail = []) := by
  refine ⟨putVariables_written t, means_inner t hname, fun hmeans => ?_, fun hbare vars v hv => ?_⟩
  · -- a variable whose text is `x`, alone: with blanks nothing is found for the reference
    let vars : Fields := [(String.ofList t.name, .text "x")]
    have hplain : Plain "x" := ⟨by decide, fun keyword => by cases keyword <;> decide, by decide⟩
    have hfound : vars.get? (String.ofList t.name) = some (.text "x") := by rw [Keyed.get?_singleton, if_pos rfl]
    have htrue := ((hmeans vars _ hfound) "x" hplain).1.mpr rfl
    have hrendered := ((means_inner t hname vars) "x" hplain).1.mp htrue
    by_cases hinner : String.ofList t.name = String.ofList t.inner
    · exact ((Token.inner_eq_iff t.name_trimmed).mp (String.ofList_inj.mp hinner).symm).1
    · rw [Keyed.get?_singleton, if_neg hinner] at hrendered
      exact absurd (Except.ok.inj hrendered) (by decide)
  · have hinner : t.inner = t.name := (Token.inner_eq_iff t.name_trimmed).mpr ⟨hbare, rfl⟩
    have hmeans : Means room _ vars _ := means_inner t hname vars
    rwa [hinner, hv] at hmeans

end Reference

/-- A reference without blanks means its variable. -/
theorem reference_agrees_iff_topic :
    let t := Token.bare "topic".toList (by decide) (by decide)
    let vars : Fields := [("topic", .text "Billing issue")]
    (∀ keyword : Keyword, occurs keyword.word t.name = false) ∧
      Means 0 (String.ofList t.written) vars (.text "Billing issue") ∧
      (evaluate 0 (String.ofList t.written ++ " contains '" ++ "billing" ++ "'") vars).result = .ok true := by
  intro t vars
  have hname : ∀ keyword : Keyword, occurs keyword.word t.name = false := fun keyword => by cases keyword <;> decide
  obtain ⟨-, -, hagrees⟩ := reference_agrees_iff t hname 0
  have hfound : vars.get? (String.ofList t.name) = some (.text "Billing issue") := by
    rw [Keyed.get?_singleton, if_pos (by decide)]
  have hmeans : Means 0 (String.ofList t.written) vars (.text "Billing issue") := hagrees.mpr ⟨rfl, rfl⟩ vars _ hfound
  have hplain : Plain "billing" := ⟨by decide, fun keyword => by cases keyword <;> decide, by decide⟩
  exact ⟨hname, hmeans, (hmeans "billing" hplain).2.mpr ⟨_, rfl, by decide⟩⟩

/-- **Blanks in a reference change what a condition means by it**: a template puts the text of the variable in, and the
condition finds nothing. -/
theorem spacedReference_differs :
    let vars : Fields := [("v", .text "x")]
    let reference := "\x7b\x7b v \x7d\x7d"
    putVariables 0 vars reference.toList = .ok "x".toList ∧
      (evaluate 0 (reference ++ " equals 'x'") vars).result = .ok false ∧
      (evaluate 0 (reference ++ " contains 'x'") vars).result = .ok false := by
  decide

end Condition

end Chatflow
