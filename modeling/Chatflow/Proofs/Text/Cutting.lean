import Chatflow.Proofs.Text.Search

/-!
# Cutting texts at words

Where a word occurs in a text that is put together from pieces.  A word does not straddle a character that it does not
have (`infix_append_cons_iff`), so that such characters keep the occurrences in two pieces apart, and a text is cut
there as its first piece is, or else as the second (`cutAt?_append_cons`).
-/

namespace Chatflow.Text

variable {w as bs : List Char} {c : Char}

/-! ## Where a word occurs -/

theorem prefix_append_cons_iff (hc : c ∉ w) : w <+: as ++ c :: bs ↔ w <+: as := by
  have hmiddle : as ++ [c] <+: as ++ c :: bs := ⟨bs, by simp⟩
  refine ⟨fun h => ?_, fun h => h.trans (List.prefix_append as _)⟩
  rcases List.prefix_or_prefix_of_prefix h hmiddle with hshort | hlong
  · rcases List.prefix_concat_iff.mp hshort with rfl | hp
    · exact absurd (List.mem_append_right as (List.mem_singleton.mpr rfl)) hc
    · exact hp
  · exact absurd (hlong.mem (List.mem_append_right as (List.mem_singleton.mpr rfl))) hc

/-- **A word does not straddle a character that it does not have.** -/
theorem infix_append_cons_iff (hc : c ∉ w) : w <:+: as ++ c :: bs ↔ w <:+: as ∨ w <:+: bs := by
  induction as with
  | nil =>
    have hhead : w <+: c :: bs ↔ w <:+: [] := by
      rw [← List.nil_append (c :: bs), prefix_append_cons_iff hc, List.infix_nil, List.prefix_nil]
    rw [List.nil_append, List.infix_cons_iff, hhead]
  | cons a as ih =>
    have hhead : w <+: a :: as ++ c :: bs ↔ w <+: a :: as := prefix_append_cons_iff hc
    rw [List.cons_append] at hhead ⊢
    rw [List.infix_cons_iff, hhead, ih, List.infix_cons_iff, or_assoc]

/-- Whether no character of a text is in a word. -/
def Apart (w cs : List Char) : Prop := ∀ c ∈ cs, c ∉ w

instance (w cs : List Char) : Decidable (Apart w cs) := List.decidableBAll _ cs

theorem infix_append_of_apart_left (h : Apart w as) (hw : w ≠ []) : w <:+: as ++ bs ↔ w <:+: bs := by
  induction as with
  | nil => rfl
  | cons a as ih =>
    have ha : a ∉ w := h a List.mem_cons_self
    have hrest := ih fun c hc => h c (List.mem_cons_of_mem a hc)
    rw [List.cons_append, ← List.nil_append (a :: (as ++ bs)), infix_append_cons_iff ha, hrest, List.infix_nil]
    exact or_iff_right hw

theorem infix_append_of_apart_right (h : Apart w bs) (hw : w ≠ []) : w <:+: as ++ bs ↔ w <:+: as := by
  have hreverse : Apart w.reverse bs.reverse := fun c hc hcw =>
    h c (List.mem_reverse.mp hc) (List.mem_reverse.mp hcw)
  have hne : w.reverse ≠ [] := fun hnil => hw (List.reverse_eq_nil_iff.mp hnil)
  rw [← List.reverse_infix, List.reverse_append, infix_append_of_apart_left hreverse hne, List.reverse_infix]

/-- Characters that a word does not have make no difference around a text. -/
theorem occurs_between {cs : List Char} (ha : Apart w as) (hb : Apart w bs) (hw : w ≠ []) :
    occurs w (as ++ cs ++ bs) = occurs w cs := by
  rw [Bool.eq_iff_iff, occurs_iff, occurs_iff, infix_append_of_apart_right hb hw, infix_append_of_apart_left ha hw]

theorem occurs_cons (hc : c ∉ w) (hw : w ≠ []) (cs : List Char) : occurs w (c :: cs) = occurs w cs := by
  have hapart : Apart w [c] := fun d hd => List.mem_singleton.mp hd ▸ hc
  rw [Bool.eq_iff_iff, occurs_iff, occurs_iff, ← List.singleton_append, infix_append_of_apart_left hapart hw]

theorem occurs_append_cons (hc : c ∉ w) : occurs w (as ++ c :: bs) = (occurs w as || occurs w bs) := by
  rw [Bool.eq_iff_iff, Bool.or_eq_true, occurs_iff, occurs_iff, occurs_iff, infix_append_cons_iff hc]

theorem occurs_eq_false_iff {cs : List Char} : occurs w cs = false ↔ ¬w <:+: cs := by
  rw [← Bool.not_eq_true, occurs_iff]

theorem ne_nil_of_occurs_eq_false {cs : List Char} (h : occurs w cs = false) : w ≠ [] := by
  rintro rfl
  exact occurs_eq_false_iff.mp h (List.nil_infix)

/-! ## Cutting -/

theorem cutAt?_append_self (w bs : List Char) : cutAt? w (w ++ bs) = some ([], bs) := by
  cases hw : w ++ bs with
  | nil =>
    obtain ⟨rfl, rfl⟩ := List.append_eq_nil_iff.mp hw
    rfl
  | cons d rest =>
    have hp : w.isPrefixOf (d :: rest) = true := List.isPrefixOf_iff_prefix.mpr ⟨bs, hw⟩
    rw [cutAt?, if_pos hp, ← hw, List.drop_left]

theorem cutAt?_cons_of_not_starts {cs : List Char} (h : ¬w <+: c :: cs) :
    cutAt? w (c :: cs) = (cutAt? w cs).map fun cut => (c :: cut.1, cut.2) := by
  rw [cutAt?, if_neg fun hp => h (List.isPrefixOf_iff_prefix.mp hp)]

theorem isSome_cutAt? (w cs : List Char) : (cutAt? w cs).isSome = occurs w cs := by
  induction cs with
  | nil => cases h : w.isEmpty <;> simp [cutAt?, occurs, h]
  | cons c cs ih =>
    by_cases hp : w <+: c :: cs
    · obtain ⟨rest, hrest⟩ := hp
      rw [← hrest, cutAt?_append_self, occurs_iff.mpr (List.prefix_append w rest).isInfix]
      rfl
    · have hpre : w.isPrefixOf (c :: cs) = false := by rwa [← Bool.not_eq_true, List.isPrefixOf_iff_prefix]
      rw [cutAt?_cons_of_not_starts hp, Option.isSome_map, ih, occurs, hpre, Bool.false_or]

theorem cutAt?_eq_none {cs : List Char} (h : occurs w cs = false) : cutAt? w cs = none := by
  rw [← Option.isNone_iff_eq_none, ← Option.not_isSome, isSome_cutAt?, h]
  rfl

/-- **A text is cut behind a piece without the word and a character that the word does not have.** -/
theorem cutAt?_append_cons (hc : c ∉ w) (h : occurs w as = false) :
    cutAt? w (as ++ c :: bs) = (cutAt? w bs).map fun cut => (as ++ c :: cut.1, cut.2) := by
  induction as with
  | nil =>
    have hhead : w <+: [] ++ c :: bs ↔ w <+: [] := prefix_append_cons_iff hc
    exact cutAt?_cons_of_not_starts fun hp => ne_nil_of_occurs_eq_false h (List.prefix_nil.mp (hhead.mp hp))
  | cons a as ih =>
    have hnot := occurs_eq_false_iff.mp h
    have hhead : w <+: a :: as ++ c :: bs ↔ w <+: a :: as := prefix_append_cons_iff hc
    have hrest : occurs w as = false := occurs_eq_false_iff.mpr fun hi => hnot (List.infix_cons hi)
    rw [List.cons_append] at hhead ⊢
    rw [cutAt?_cons_of_not_starts fun hp => hnot (hhead.mp hp).isInfix, ih hrest, Option.map_map]
    rfl

theorem before_of_not_occurs {cs : List Char} (h : occurs w cs = false) : before w cs = cs := by
  rw [before, cutAt?_eq_none h]
  rfl

/-- What stands before the first of two occurrences does not depend on what stands behind it. -/
theorem before_append_cons (hc : c ∉ w) (h : occurs w as = false) (bs : List Char) :
    before w (as ++ c :: (w ++ bs)) = as ++ [c] := by
  rw [before, cutAt?_append_cons hc h, cutAt?_append_self]
  rfl

end Chatflow.Text
