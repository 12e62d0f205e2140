import Chatflow.Proofs.Template.Token
import Chatflow.Proofs.Text.Cutting

/-!
# Phrases that are written out

A condition in words is a reference to a variable, a keyword between blanks, and a literal in quotes
(`Phrase.spelled`).  What stands around the two is no part of a keyword, so the condition is cut where it was put
together (`around?_spelled`), even when a second keyword follows (`around?_spelled_append`).  Then the reference is read
without braces (`bare_braced`) and the literal without quotes.

* `ofText?_spelled_contains`, `ofText?_spelled_equals`: the phrase of such a condition.
* `contains_eq_compare`: a condition with `contains` comes to the comparison of that name.
-/

namespace Chatflow

open Template (Braceless Token braced opening closing placeholderOf)
open Text (Apart Blank Trimmed occurs)

/-! ## Keywords -/

namespace Keyword

variable (keyword : Keyword)

theorem word_ne_nil : keyword.word ≠ [] := by cases keyword <;> decide

theorem blank_notMem_word : ' ' ∉ keyword.word := by cases keyword <;> decide

/-- What stands around names and literals is not in a keyword. -/
theorem apart_marks : Apart keyword.word [' ', '{', '}', '\'', '"'] := by cases keyword <;> decide

theorem apart_of_blank {cs : List Char} (h : Blank cs) : Apart keyword.word cs := by
  have hword : keyword.word.any Text.isBlank = false := by cases keyword <;> decide
  exact fun c hc hmem => List.any_eq_false.mp hword c hmem (h c hc)

theorem occurs_braced (inner : List Char) : occurs keyword.word (braced inner) = occurs keyword.word inner := by
  have hopen : Apart keyword.word opening := fun c hc => keyword.apart_marks c (by simp_all [opening])
  have hclose : Apart keyword.word closing := fun c hc => keyword.apart_marks c (by simp_all [closing])
  exact Text.occurs_between hopen hclose keyword.word_ne_nil

theorem occurs_written (t : Token) : occurs keyword.word t.written = occurs keyword.word t.name := by
  rw [Token.written, occurs_braced, Token.inner]
  exact Text.occurs_between (keyword.apart_of_blank t.lead_blank) (keyword.apart_of_blank t.trail_blank)
    keyword.word_ne_nil

end Keyword

namespace Phrase

/-! ## Dropping what stands around -/

/-- The braces that a reference may stand in. -/
def braces : List Char := ['{', '}']

/-- The quotes that a literal may stand in. -/
def quotes : List Char := ['\'', '"']

/-- A literal without quotes. -/
def unquoted (literal : String) : String := String.ofList (literal.toList.filter fun c => !quotes.contains c)

theorem filter_of_apart {dropped cs : List Char} (h : Apart dropped cs) :
    cs.filter (fun c => !dropped.contains c) = cs := by
  refine List.filter_eq_self.mpr fun c hc => ?_
  simpa using h c hc

/-- A literal is the same without quotes when it has none, and only then. -/
theorem unquoted_eq_self_iff {literal : String} : unquoted literal = literal ↔ Apart quotes literal.toList := by
  rw [unquoted, ← String.toList_inj, String.toList_ofList]
  refine ⟨fun h c hc => ?_, filter_of_apart⟩
  simpa using List.filter_eq_self.mp h c hc

theorem apart_braces {cs : List Char} (h : Braceless cs) : Apart braces cs := by
  intro c hc hmem
  rcases List.mem_cons.mp hmem with rfl | hmem
  · exact h.1 hc
  · exact h.2 (List.mem_singleton.mp hmem ▸ hc)

theorem bare_pad (dropped : List Char) {lead cs trail : List Char} (hl : Blank lead) (ht : Blank trail)
    (h : Trimmed cs) : bare dropped (lead ++ cs ++ trail) = String.ofList (cs.filter fun c => !dropped.contains c) := by
  rw [bare, Text.trim_pad hl ht h]

theorem trimmed_between {first last : Char} (hfirst : Text.isBlank first = false) (hlast : Text.isBlank last = false)
    (cs : List Char) : Trimmed ([first] ++ cs ++ [last]) := by
  refine ⟨fun c hc => ?_, fun c hc => ?_⟩
  · obtain rfl := Option.some.inj hc
    exact hfirst
  · rw [List.getLast?_concat] at hc
    obtain rfl := Option.some.inj hc
    exact hlast

/-- A name alone is read as it is. -/
theorem bare_name {cs : List Char} (hb : Braceless cs) (hn : Trimmed cs) :
    bare braces (cs ++ [' ']) = String.ofList cs := by
  have hpad := bare_pad braces (by decide : Blank []) (by decide : Blank [' ']) hn
  rwa [List.nil_append, filter_of_apart (apart_braces hb)] at hpad

theorem filter_braced {cs : List Char} (hb : Braceless cs) : (braced cs).filter (fun c => !braces.contains c) = cs := by
  rw [braced, List.filter_append, List.filter_append, filter_of_apart (apart_braces hb)]
  exact List.append_nil cs

/-- A reference in double braces is read as all that stands between them, blanks included. -/
theorem bare_braced {cs : List Char} (hb : Braceless cs) : bare braces (braced cs ++ [' ']) = String.ofList cs := by
  have hform : braced cs = ['{'] ++ (['{'] ++ cs ++ ['}']) ++ ['}'] := by simp [braced, opening, closing]
  have htrimmed : Trimmed (braced cs) := hform ▸ trimmed_between (by decide) (by decide) _
  have hpad := bare_pad braces (by decide : Blank []) (by decide : Blank [' ']) htrimmed
  rwa [List.nil_append, filter_braced hb] at hpad

/-- A literal in quotes is read without quotes, those inside it included. -/
theorem bare_quoted {quote : Char} (hq : quote ∈ quotes) (literal : String) {trail : List Char} (ht : Blank trail) :
    bare quotes ([' '] ++ ([quote] ++ literal.toList ++ [quote]) ++ trail) = unquoted literal := by
  have hquotes : quotes.any Text.isBlank = false := by decide
  have hquote : Text.isBlank quote = false := Bool.eq_false_iff.mpr (List.any_eq_false.mp hquotes quote hq)
  have hnone : [quote].filter (fun c => !quotes.contains c) = [] := by simpa using hq
  rw [bare_pad quotes (by decide : Blank [' ']) ht (trimmed_between hquote hquote _),
    List.filter_append, List.filter_append, hnone, List.nil_append, List.append_nil]
  rfl

/-! ## Conditions that are put together -/

/-- The condition that asks a reference for a literal in quotes. -/
def spelled (reference : String) (keyword : Keyword) (quote : Char) (literal : String) : String :=
  reference ++ String.ofList (' ' :: (keyword.word ++ [' ', quote])) ++ literal ++ String.ofList [quote]

example : spelled "topic" .contains '\'' "refund" = "topic contains 'refund'" := by decide

theorem toList_spelled (reference : String) (keyword : Keyword) (quote : Char) (literal : String) :
    (spelled reference keyword quote literal).toList =
      reference.toList ++ ' ' :: (keyword.word ++ ' ' :: ([quote] ++ literal.toList ++ [quote])) := by
  simp [spelled]

/-- The phrase around the first keyword of a text. -/
theorem around?_of_words {keyword : Keyword} {left : List Char} (h : occurs keyword.word left = false)
    (right : List Char) : around? keyword (left ++ ' ' :: (keyword.word ++ right)) =
      some ⟨keyword, bare braces (left ++ [' ']), bare quotes (Text.before keyword.word right)⟩ := by
  rw [around?, Text.cutAt?_append_cons keyword.blank_notMem_word h, Text.cutAt?_append_self]
  rfl

theorem around?_eq_none {keyword : Keyword} {text : List Char} (h : occurs keyword.word text = false) :
    around? keyword text = none := by
  rw [around?, Text.cutAt?_eq_none h]
  rfl

section Spelled

variable {reference literal : String} {quote : Char} (hq : quote ∈ quotes)
include hq

theorem occurs_quoted (keyword : Keyword) (cs : List Char) :
    occurs keyword.word ([quote] ++ cs ++ [quote]) = occurs keyword.word cs := by
  have hquotes : Apart keyword.word quotes := by cases keyword <;> decide
  have hquote : Apart keyword.word [quote] := fun c hc => hquotes c (List.mem_singleton.mp hc ▸ hq)
  exact Text.occurs_between hquote hquote keyword.word_ne_nil

/-- A keyword occurs in a condition where it occurs in one of the parts. -/
theorem occurs_spelled (sought keyword : Keyword) :
    occurs sought.word (spelled reference keyword quote literal).toList =
      (occurs sought.word reference.toList || (occurs sought.word keyword.word || occurs sought.word literal.toList)) := by
  have hblank := sought.blank_notMem_word
  rw [toList_spelled, Text.occurs_append_cons hblank, Text.occurs_append_cons hblank, occurs_quoted hq]

variable {keyword : Keyword} (hr : occurs keyword.word reference.toList = false)
  (hl : occurs keyword.word literal.toList = false)
include hr hl

/-- **A condition is cut where it was put together.** -/
theorem around?_spelled : around? keyword (spelled reference keyword quote literal).toList =
    some ⟨keyword, bare braces (reference.toList ++ [' ']), unquoted literal⟩ := by
  have hliteral : occurs keyword.word (' ' :: ([quote] ++ literal.toList ++ [quote])) = false := by
    rw [Text.occurs_cons keyword.blank_notMem_word keyword.word_ne_nil, occurs_quoted hq, hl]
  have hbare := bare_quoted hq literal (by decide : Blank [])
  rw [List.append_nil] at hbare
  rw [toList_spelled, around?_of_words hr, Text.before_of_not_occurs hliteral, ← hbare]
  rfl

/-- A second keyword ends the literal, whatever stands behind it. -/
theorem around?_spelled_append (more : List Char) :
    around? keyword ((spelled reference keyword quote literal).toList ++ ' ' :: (keyword.word ++ more)) =
      some ⟨keyword, bare braces (reference.toList ++ [' ']), unquoted literal⟩ := by
  have hliteral : occurs keyword.word (' ' :: ([quote] ++ literal.toList ++ [quote])) = false := by
    rw [Text.occurs_cons keyword.blank_notMem_word keyword.word_ne_nil, occurs_quoted hq, hl]
  have hform : (spelled reference keyword quote literal).toList ++ ' ' :: (keyword.word ++ more) =
      reference.toList ++ ' ' :: (keyword.word ++
        ((' ' :: ([quote] ++ literal.toList ++ [quote])) ++ ' ' :: (keyword.word ++ more))) := by
    simp [toList_spelled]
  rw [hform, around?_of_words hr, Text.before_append_cons keyword.blank_notMem_word hliteral,
    ← bare_quoted hq literal (by decide : Blank [' '])]
  rfl

end Spelled

/-! ## Phrases of conditions -/

section Phrases

variable {reference literal : String} {quote : Char} (hq : quote ∈ quotes)
include hq

theorem ofText?_spelled_contains (hr : occurs Keyword.contains.word reference.toList = false)
    (hl : occurs Keyword.contains.word literal.toList = false) :
    let phrase : Phrase := ⟨.contains, bare braces (reference.toList ++ [' ']), unquoted literal⟩
    ofText? (spelled reference .contains quote literal) = some phrase ∧
      ∀ more, ofText? (spelled reference .contains quote literal ++ " contains " ++ more) = some phrase := by
  refine ⟨by rw [ofText?, around?_spelled hq hr hl]; rfl, fun more => ?_⟩
  have hform : (spelled reference .contains quote literal ++ " contains " ++ more).toList =
      (spelled reference .contains quote literal).toList ++ ' ' :: (Keyword.contains.word ++ ' ' :: more.toList) := by
    simp only [String.toList_append, List.append_assoc]
    rfl
  rw [ofText?, hform, around?_spelled_append hq hr hl]
  rfl

/-- With `equals` there is such a phrase when `contains`, which goes first, occurs nowhere. -/
theorem ofText?_spelled_equals (hr : ∀ keyword : Keyword, occurs keyword.word reference.toList = false)
    (hl : ∀ keyword : Keyword, occurs keyword.word literal.toList = false) :
    ofText? (spelled reference .equals quote literal) =
      some ⟨.equals, bare braces (reference.toList ++ [' ']), unquoted literal⟩ := by
  have hcontains : occurs Keyword.contains.word (spelled reference .equals quote literal).toList = false := by
    rw [occurs_spelled hq, hr, hl]
    decide
  rw [ofText?, around?_eq_none hcontains, around?_spelled hq (hr .equals) (hl .equals)]
  rfl

end Phrases

/-! ## What phrases ask -/

variable {room : Nat}

theorem equals_holds_iff {name literal : String} {vars : Fields} :
    (Phrase.mk .equals name literal).holds room vars = .ok true ↔
      ((vars.get? name).getD .null).rendered room = .ok literal := by
  unfold Phrase.holds
  dsimp only
  cases ((vars.get? name).getD .null).rendered room with
  | error fault => exact ⟨nofun, nofun⟩
  | ok text =>
    show Except.ok (text == literal) = .ok true ↔ _
    simp

theorem contains_holds_iff {name literal : String} {vars : Fields} :
    (Phrase.mk .contains name literal).holds room vars = .ok true ↔
      ∃ text, ((vars.get? name).getD .null).rendered room = .ok text ∧
        occurs (Text.lower literal.toList) (Text.lower text.toList) = true := by
  unfold Phrase.holds Value.contains
  dsimp only
  cases ((vars.get? name).getD .null).rendered room with
  | error fault => exact ⟨nofun, nofun⟩
  | ok text =>
    show Except.ok (occurs (Text.lower literal.toList) (Text.lower text.toList)) = .ok true ↔ _
    simp

end Phrase

theorem Condition.evaluate_of_phrase {text : String} {phrase : Phrase} (h : Phrase.ofText? text = some phrase)
    (vars : Fields) : evaluate room text vars = ⟨phrase.holds room vars, []⟩ := by
  rw [evaluate, h]

theorem Condition.evaluate_contains {text name literal : String}
    (h : Phrase.ofText? text = some ⟨.contains, name, literal⟩) (vars : Fields) :
    evaluate room text vars = ((vars.get? name).getD .null).compare room "contains" (.text literal) := by
  rw [evaluate_of_phrase h]
  rfl

namespace Condition

/-- A condition with `contains` comes to the comparison when its reference is read as the name. -/
theorem evaluate_spelled_contains {reference name literal : String} {quote : Char} (hq : quote ∈ Phrase.quotes)
    (hr : occurs Keyword.contains.word reference.toList = false)
    (hread : Phrase.bare Phrase.braces (reference.toList ++ [' ']) = name)
    (hl : occurs Keyword.contains.word literal.toList = false) (hquotes : Apart Phrase.quotes literal.toList)
    (vars : Fields) :
    let condition := Phrase.spelled reference .contains quote literal
    evaluate room condition vars = ((vars.get? name).getD .null).compare room "contains" (.text literal) ∧
      ∀ more, evaluate room (condition ++ " contains " ++ more) vars = evaluate room condition vars := by
  obtain ⟨hphrase, hmore⟩ := Phrase.ofText?_spelled_contains hq hr hl
  rw [hread, Phrase.unquoted_eq_self_iff.mpr hquotes] at hphrase hmore
  exact ⟨evaluate_contains hphrase vars, fun more => by rw [evaluate_contains (hmore more), evaluate_contains hphrase]⟩

/-- **A condition with `contains` comes to the comparison of that name.**  When neither the name nor the literal has the
word, the name is one that references can have, and the literal has no quotes, it does not matter whether the name
stands in braces and which quotes there are, nor what follows behind the word once more. -/
theorem contains_eq_compare (room : Nat) (vars : Fields) (name literal : String) (hb : Braceless name.toList)
    (hn : Trimmed name.toList) (hname : occurs Keyword.contains.word name.toList = false)
    (hliteral : occurs Keyword.contains.word literal.toList = false) (hquotes : Apart Phrase.quotes literal.toList) :
    ∀ condition ∈ [name ++ " contains '" ++ literal ++ "'", placeholderOf name ++ " contains \"" ++ literal ++ "\""],
      evaluate room condition vars = ((vars.get? name).getD .null).compare room "contains" (.text literal) ∧
      ∀ more, evaluate room (condition ++ " contains " ++ more) vars = evaluate room condition vars := by
  have hplain : Phrase.bare Phrase.braces (name.toList ++ [' ']) = name :=
    (Phrase.bare_name hb hn).trans String.ofList_toList
  have hbraced : Phrase.bare Phrase.braces ((placeholderOf name).toList ++ [' ']) = name := by
    rw [Template.toList_placeholderOf, Phrase.bare_braced hb, String.ofList_toList]
  have hreference : occurs Keyword.contains.word (placeholderOf name).toList = false := by
    rw [Template.toList_placeholderOf, Keyword.occurs_braced, hname]
  intro condition hcondition
  rcases List.mem_cons.mp hcondition with rfl | hcondition
  · exact evaluate_spelled_contains (by decide : '\'' ∈ Phrase.quotes) hname hplain hliteral hquotes vars
  · obtain rfl := List.mem_singleton.mp hcondition
    exact evaluate_spelled_contains (by decide : '"' ∈ Phrase.quotes) hreference hbraced hliteral hquotes vars

/-- A literal with the other keyword, a brace and blanks in it. -/
theorem contains_eq_compare_topic :
    let vars : Fields := [("topic", .text "Billing equals \x7bPAIN\x7d")]
    let literal := "EQUALS \x7bpain"
    Braceless "topic".toList ∧ Trimmed "topic".toList ∧ occurs Keyword.contains.word "topic".toList = false ∧
      occurs Keyword.contains.word literal.toList = false ∧ Apart Phrase.quotes literal.toList ∧
      (evaluate 0 (placeholderOf "topic" ++ " contains \"" ++ literal ++ "\"") vars).result = .ok true ∧
      (evaluate 0 ("topic contains '" ++ literal ++ "'" ++ " contains " ++ "refund") vars).result = .ok true := by
  intro vars literal
  have hb : Braceless "topic".toList := by decide
  have hn : Trimmed "topic".toList := by decide
  have hname : occurs Keyword.contains.word "topic".toList = false := by decide
  have hliteral : occurs Keyword.contains.word literal.toList = false := by decide
  have hquotes : Apart Phrase.quotes literal.toList := by decide
  have hcompare : (((vars.get? "topic").getD .null).compare 0 "contains" (.text literal)).result = .ok true := by decide
  have hall := contains_eq_compare 0 vars "topic" literal hb hn hname hliteral hquotes
  obtain ⟨hplain, hmore⟩ := hall _ List.mem_cons_self
  obtain ⟨hbraced, -⟩ := hall _ (List.mem_cons_of_mem _ List.mem_cons_self)
  refine ⟨hb, hn, hname, hliteral, hquotes, ?_, ?_⟩
  · rw [hbraced, hcompare]
  · exact (congrArg Logged.result ((hmore "refund").trans hplain)).trans hcompare

end Condition

end Chatflow
