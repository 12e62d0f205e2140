import Chatflow.Proofs.Condition.Phrases

/-!
# Literals in quotes

What a condition with `equals` makes of a literal in quotes.  Quotes are dropped wherever they stand, so an apostrophe
inside the literal is lost; and the keyword `contains` goes first wherever it stands, so a literal with that word in it
makes the condition one on another variable (`Diverted`).  So the condition asks for just the literal when that has
neither, and only then (`equals_exact_iff`).
-/

namespace Chatflow

open Template (Braceless braced closing opening placeholderOf)
open Text (Apart Blank Trimmed occurs)

namespace Condition

variable {room : Nat} {name literal : String}

/-- A condition with `equals` and a literal in double quotes holds just when the text of the variable is the literal
without apostrophes, unless the other keyword is in the literal. -/
theorem equals_holds_unquoted (hb : Braceless name.toList)
    (hname : ∀ keyword : Keyword, occurs keyword.word name.toList = false)
    (hl : ∀ keyword : Keyword, occurs keyword.word literal.toList = false) (vars : Fields) :
    (evaluate room (placeholderOf name ++ " equals \"" ++ literal ++ "\"") vars).result = .ok true ↔
      ((vars.get? name).getD .null).rendered room = .ok (Phrase.unquoted literal) := by
  have hreference : ∀ keyword : Keyword, occurs keyword.word (placeholderOf name).toList = false := fun keyword => by
    rw [Template.toList_placeholderOf, keyword.occurs_braced, hname]
  have hread : Phrase.bare Phrase.braces ((placeholderOf name).toList ++ [' ']) = name := by
    rw [Template.toList_placeholderOf, Phrase.bare_braced hb, String.ofList_toList]
  have hphrase := Phrase.ofText?_spelled_equals (by decide : '"' ∈ Phrase.quotes) hreference hl
  rw [hread] at hphrase
  rw [← Phrase.equals_holds_iff]
  exact iff_of_eq (congrArg (·.result = .ok true) (evaluate_of_phrase hphrase vars))

/-- A condition is one on another variable than the one of a name, and on what stands behind `contains`. -/
def Diverted (room : Nat) (condition name : String) : Prop :=
  ∃ other part, other ≠ name ∧
    ∀ vars : Fields, evaluate room condition vars = ((vars.get? other).getD .null).compare room "contains" (.text part)

/-- The name that a condition means by a reference with all that stands behind it up to some place in the literal. -/
theorem bare_through (hb : Braceless name.toList) (left : List Char) :
    ∃ tail, Phrase.bare Phrase.braces (braced name.toList ++ " equals ".toList ++ '"' :: left) =
      name ++ " equals \"" ++ String.ofList tail := by
  let front := braced name.toList ++ " equals \"".toList
  have hform : braced name.toList ++ " equals ".toList ++ '"' :: left = front ++ left := by
    simp only [front, List.append_assoc]
    rfl
  have hends : front = ['{'] ++ (['{'] ++ name.toList ++ "\x7d\x7d equals ".toList) ++ ['"'] := by
    simp [front, braced, opening, closing]
  have htrimmed : Trimmed front := hends ▸ Phrase.trimmed_between (by decide) (by decide) _
  have hne : front ≠ [] := by simp [hends]
  refine ⟨(Text.trimEnd Text.isBlank left).filter fun c => !Phrase.braces.contains c, ?_⟩
  have hmiddle : " equals \"".toList.filter (fun c => !Phrase.braces.contains c) = " equals \"".toList := by decide
  rw [hform, Phrase.bare, Text.trim_append htrimmed hne, ← String.toList_inj]
  simp only [front, List.filter_append, Phrase.filter_braced hb, hmiddle, String.toList_ofList, String.toList_append]

/-- What stands before `contains` in the literal is taken for a part of the reference. -/
theorem diverted_of_contains (hb : Braceless name.toList) (hname : occurs Keyword.contains.word name.toList = false)
    (hl : occurs Keyword.contains.word literal.toList = true) :
    Diverted room (placeholderOf name ++ " equals \"" ++ literal ++ "\"") name := by
  let front := braced name.toList ++ " equals ".toList
  have hform : (placeholderOf name ++ " equals \"" ++ literal ++ "\"").toList =
      front ++ '"' :: (literal.toList ++ ['"']) := by
    simp only [String.toList_append, Template.toList_placeholderOf, front, List.append_assoc]
    rfl
  have hfront : occurs Keyword.contains.word front = false := by
    have hrest : occurs Keyword.contains.word (Keyword.equals.word ++ [' ']) = false := by decide
    show occurs _ (braced name.toList ++ ' ' :: (Keyword.equals.word ++ [' '])) = false
    rw [Text.occurs_append_cons Keyword.contains.blank_notMem_word, Keyword.occurs_braced, hname, hrest]
    rfl
  have hbehind : occurs Keyword.contains.word (literal.toList ++ ['"']) = true :=
    Text.occurs_iff.mpr ((Text.occurs_iff.mp hl).trans (List.prefix_append _ _).isInfix)
  obtain ⟨⟨left, right⟩, hcut⟩ := Option.isSome_iff_exists.mp ((Text.isSome_cutAt? _ _).trans hbehind)
  have hphrase : Phrase.around? .contains (front ++ '"' :: (literal.toList ++ ['"'])) =
      some ⟨.contains, Phrase.bare Phrase.braces (front ++ '"' :: left),
        Phrase.bare Phrase.quotes (Text.before Keyword.contains.word right)⟩ := by
    rw [Phrase.around?, Text.cutAt?_append_cons (by decide) hfront, hcut]
    rfl
  have hother : Phrase.bare Phrase.braces (front ++ '"' :: left) ≠ name := by
    obtain ⟨tail, htail⟩ := bare_through hb left
    intro heq
    have hlength := congrArg String.length (htail.symm.trans heq)
    have hmiddle : " equals \"".length = 9 := by decide
    rw [String.length_append, String.length_append] at hlength
    omega
  exact ⟨_, _, hother, evaluate_contains (by rw [Phrase.ofText?, hform, hphrase]; rfl)⟩

/-- A condition asks whether the text of a variable is just a literal. -/
def Exact (room : Nat) (condition name literal : String) : Prop :=
  ∀ (vars : Fields) v, vars.get? name = some v →
    ((evaluate room condition vars).result = .ok true ↔ v.rendered room = .ok literal)

/-- What an exact condition says of a text that is alone among the variables. -/
theorem Exact.alone {condition : String} (h : Exact room condition name literal) (text : String) :
    (evaluate room condition [(name, .text text)]).result = .ok true ↔ text = literal := by
  have hfound : Keyed.get? [(name, Value.text text)] name = some (.text text) := by
    rw [Keyed.get?_singleton, if_pos rfl]
  exact (h _ _ hfound).trans ⟨Except.ok.inj, fun heq => congrArg Except.ok heq⟩

/-- A condition that does not see the variable cannot tell the literal from another text. -/
theorem Diverted.not_exact {condition : String} (h : Diverted room condition name) :
    ¬Exact room condition name literal := by
  obtain ⟨other, part, hother, heval⟩ := h
  intro hexact
  have hblind : ∀ text, evaluate room condition [(name, .text text)] =
      Value.null.compare room "contains" (.text part) := by
    intro text
    rw [heval, Keyed.get?_singleton, if_neg (Ne.symm hother)]
    rfl
  have htrue := (hexact.alone literal).mpr rfl
  rw [hblind, ← hblind (literal ++ "x")] at htrue
  have hlength := congrArg String.length ((hexact.alone _).mp htrue)
  rw [String.length_append] at hlength
  exact absurd hlength (by simp)

/-- **A condition asks for just the literal in quotes when that has neither an apostrophe nor `contains`, and only
then.**  Apostrophes are dropped like the quotes around the literal, and with `contains` in the literal the condition is
one on another variable. -/
theorem equals_exact_iff (room : Nat) (name literal : String) (hb : Braceless name.toList)
    (hname : ∀ keyword : Keyword, occurs keyword.word name.toList = false) (hquote : '"' ∉ literal.toList)
    (hequals : occurs Keyword.equals.word literal.toList = false) :
    let condition := placeholderOf name ++ " equals \"" ++ literal ++ "\""
    (occurs Keyword.contains.word literal.toList = false → ∀ vars : Fields,
      ((evaluate room condition vars).result = .ok true ↔
        ((vars.get? name).getD .null).rendered room = .ok (Phrase.unquoted literal))) ∧
    (occurs Keyword.contains.word literal.toList = true → Diverted room condition name) ∧
    (Exact room condition name literal ↔
      '\'' ∉ literal.toList ∧ occurs Keyword.contains.word literal.toList = false) := by
  intro condition
  have hplain : occurs Keyword.contains.word literal.toList = false → ∀ vars : Fields,
      ((evaluate room condition vars).result = .ok true ↔
        ((vars.get? name).getD .null).rendered room = .ok (Phrase.unquoted literal)) := fun hcontains =>
    equals_holds_unquoted hb hname fun keyword => by cases keyword <;> assumption
  have hdiverted : occurs Keyword.contains.word literal.toList = true → Diverted room condition name :=
    diverted_of_contains hb (hname .contains)
  refine ⟨hplain, hdiverted, fun hexact => ?_, fun ⟨hapostrophe, hcontains⟩ vars v hv => ?_⟩
  · cases hcontains : occurs Keyword.contains.word literal.toList with
    | true => exact absurd hexact (hdiverted hcontains).not_exact
    | false =>
      have hrendered := (hplain hcontains _).mp ((hexact.alone literal).mpr rfl)
      rw [Keyed.get?_singleton, if_pos rfl] at hrendered
      have hnone := Phrase.unquoted_eq_self_iff.mp (Except.ok.inj hrendered).symm
      exact ⟨fun hmem => hnone '\'' hmem (by decide), rfl⟩
  · have hnone : Apart Phrase.quotes literal.toList := by
      intro c hc hmem
      rcases List.mem_cons.mp hmem with rfl | hmem
      · exact hapostrophe hc
      · exact hquote (List.mem_singleton.mp hmem ▸ hc)
    rw [hplain hcontains, Phrase.unquoted_eq_self_iff.mpr hnone, hv]
    rfl

/-- A literal with blanks and braces in it. -/
theorem equals_exact_iff_status :
    let literal := "in \x7b progress"
    Braceless "status".toList ∧ (∀ keyword : Keyword, occurs keyword.word "status".toList = false) ∧
      '"' ∉ literal.toList ∧ occurs Keyword.equals.word literal.toList = false ∧
      '\'' ∉ literal.toList ∧ occurs Keyword.contains.word literal.toList = false ∧
      Exact 0 (placeholderOf "status" ++ " equals \"" ++ literal ++ "\"") "status" literal := by
  intro literal
  have hb : Braceless "status".toList := by decide
  have hname : ∀ keyword : Keyword, occurs keyword.word "status".toList = false := fun keyword => by
    cases keyword <;> decide
  have hquote : '"' ∉ literal.toList := by decide
  have hequals : occurs Keyword.equals.word literal.toList = false := by decide
  have hspared : '\'' ∉ literal.toList ∧ occurs Keyword.contains.word literal.toList = false := by decide
  obtain ⟨-, -, hexact⟩ := equals_exact_iff 0 "status" literal hb hname hquote hequals
  exact ⟨hb, hname, hquote, hequals, hspared.1, hspared.2, hexact.mpr hspared⟩

/-- **Some literals in quotes are not asked for**: one with an apostrophe, and one with the other keyword in it.  The
variable has the very text, and neither condition holds. -/
theorem quotedLiteral_misread :
    let condition (literal : String) := placeholderOf "v" ++ " equals \"" ++ literal ++ "\""
    (evaluate 0 (condition "don't") [("v", .text "don't")]).result = .ok false ∧
      (evaluate 0 (condition "contains errors") [("v", .text "contains errors")]).result = .ok false := by
  decide

end Condition

end Chatflow
