import Chatflow.Proofs.Condition.Comparing
import Chatflow.Proofs.Text.Lowering
import Chatflow.Proofs.Text.Search

/-!
# Parts that occur letter by letter

A value contains another one when the lower case of one text occurs in the lower case of the other.  A part that stands
in a text as it is may still be missed, since a capital sigma at the end of the part is lowered to its final form and
the same sigma inside a word is not.

A part is found wherever its sigmas keep their forms, and wherever it occurs at all exactly when all forms are decided
in the part itself (`contains_verbatim_iff`).
-/

namespace Chatflow

namespace Value

open Text (lower Kept Settled)

variable {room : Nat}

theorem answer_contains {whole part : Value} {w p : String} (hw : whole.rendered room = .ok w)
    (hp : part.rendered room = .ok p) :
    whole.answer room "contains" part = .ok (Text.occurs (lower p.toList) (lower w.toList)) := by
  have hanswer : whole.answer room "contains" part = whole.contains room part := rfl
  rw [hanswer, contains, hp, hw]
  rfl

theorem answer_contains_iff {whole part : Value} {w p : String} (hw : whole.rendered room = .ok w)
    (hp : part.rendered room = .ok p) :
    whole.answer room "contains" part = .ok true ↔ lower p.toList <:+: lower w.toList := by
  rw [answer_contains hw hp, Except.ok.injEq, Text.occurs_iff]

/-- A part is found where its capital sigmas keep their forms. -/
theorem contains_of_kept {whole part : Value} {w p : String} {before behind : List Char}
    (hw : whole.rendered room = .ok w) (hp : part.rendered room = .ok p) (hplace : w.toList = before ++ p.toList ++ behind)
    (h : Kept before p.toList behind) : whole.answer room "contains" part = .ok true := by
  rw [answer_contains_iff hw hp, hplace]
  exact Text.infix_of_kept h

/-- **A part is found wherever its capital sigmas keep their forms, and in every text that it occurs in exactly when the
part itself decides them.** -/
theorem contains_verbatim_iff (room : Nat) {part : Value} {p : String} (hp : part.rendered room = .ok p) :
    (∀ (whole : Value) (w : String) (before behind : List Char), whole.rendered room = .ok w →
      w.toList = before ++ p.toList ++ behind → Kept before p.toList behind →
        whole.answer room "contains" part = .ok true) ∧
    ((∀ (whole : Value) (w : String), whole.rendered room = .ok w → p.toList <:+: w.toList →
        whole.answer room "contains" part = .ok true) ↔ Settled p.toList) := by
  refine ⟨fun whole w before behind hw hplace h => contains_of_kept hw hp hplace h, ?_, ?_⟩
  · intro hfound
    by_contra hopen
    -- a letter in front of the part, or behind it, makes a text that the part occurs in and is not found in
    have hmiss : ∀ cs, p.toList <:+: cs → lower p.toList <:+: lower cs := by
      intro cs hcs
      have hrendered : (text (String.ofList cs)).rendered room = .ok (String.ofList cs) := rfl
      have hone := hfound (text (String.ofList cs)) (String.ofList cs) hrendered (by rwa [String.toList_ofList])
      rwa [answer_contains_iff hrendered hp, String.toList_ofList] at hone
    rcases Text.exists_not_infix hopen with hbehind | hbefore
    · exact hbehind (hmiss _ (List.suffix_cons ..).isInfix)
    · exact hbefore (hmiss _ (List.prefix_append ..).isInfix)
  · intro hsettled whole w hw hinfix
    obtain ⟨before, behind, hplace⟩ := hinfix
    exact contains_of_kept hw hp hplace.symm (hsettled.kept before behind)

/-- A word without a sigma is found in another case, and inside another word. -/
theorem contains_verbatim_iff_refund :
    (text "refund").rendered 0 = .ok "refund" ∧
      (text "Refunds and refunds").answer 0 "contains" (text "refund") = .ok true := by
  have hsettled : Settled "refund".toList := Text.settled_of_not_mem (by decide)
  exact ⟨rfl, (contains_verbatim_iff 0 rfl).2.mpr hsettled (text "Refunds and refunds") _ rfl
    ⟨"Refunds and ".toList, "s".toList, by decide⟩⟩

/-- The letters beside the sigmas below. -/
theorem meetsCased_omicron (cs : List Char) : Text.meetsCased ('Ο' :: cs) = true := by
  have hstop : Text.isCaseIgnorable 'Ο' = false := by
    unfold Text.isCaseIgnorable Text.inRanges
    rw [← Array.any_toList]
    decide +kernel
  exact (Text.meetsCased_cons_of_stop hstop cs).trans (by decide +kernel)

theorem meetsCased_mu (cs : List Char) : Text.meetsCased ('Μ' :: cs) = true := by
  have hstop : Text.isCaseIgnorable 'Μ' = false := by
    unfold Text.isCaseIgnorable Text.inRanges
    rw [← Array.any_toList]
    decide +kernel
  exact (Text.meetsCased_cons_of_stop hstop cs).trans (by decide +kernel)

/-- The sigma at the end of the part is lowered to its final form, the same one inside the word is not. -/
theorem contains_misses_sigma :
    (text "ΚΟΣΜΟΣ").rendered 0 = .ok "ΚΟΣΜΟΣ" ∧ (text "ΚΟΣ").rendered 0 = .ok "ΚΟΣ" ∧
      "ΚΟΣ".toList <:+: "ΚΟΣΜΟΣ".toList ∧ (text "ΚΟΣΜΟΣ").answer 0 "contains" (text "ΚΟΣ") = .ok false := by
  have hkappa : Text.lowerChar 'Κ' = ['κ'] := by decide +kernel
  have homicron : Text.lowerChar 'Ο' = ['ο'] := by decide +kernel
  have hmu : Text.lowerChar 'Μ' = ['μ'] := by decide +kernel
  have hend : Text.meetsCased [] = false := rfl
  have hpart : lower "ΚΟΣ".toList = "κος".toList := by
    simp only [String.reduceToList, lower, Text.lowerFrom, hkappa, homicron, meetsCased_omicron, hend]
    decide
  have hwhole : lower "ΚΟΣΜΟΣ".toList = "κοσμος".toList := by
    simp only [String.reduceToList, lower, Text.lowerFrom, hkappa, homicron, hmu, meetsCased_omicron, meetsCased_mu,
      hend]
    decide
  refine ⟨rfl, rfl, ⟨[], "ΜΟΣ".toList, by decide⟩, ?_⟩
  rw [answer_contains rfl rfl, hpart, hwhole]
  decide

end Value

end Chatflow
