import Chatflow.Text.Colour
import Chatflow.Proofs.Text.Search

/-!
# What is left of colour sequences

Colour sequences never overlap, since the character that begins one stands nowhere else in it; so one pass takes out
all that a text holds.  What stood on both sides of one is then joined, and that may make a new one: just where a
colour sequence had others between its own characters (`Broken`).

* `coloured_stripped_iff`: when a colour sequence is left.
* `stripped_stripped_iff`: when a second pass would change nothing.
-/

namespace Chatflow.Text

/-! ## Colour sequences -/

/-- A colour sequence, as a whole text. -/
def IsColour (cs : List Char) : Prop :=
  ∃ numbers, (∀ c ∈ numbers, isColourNumber c = true) ∧ cs = escape :: '[' :: (numbers ++ ['m'])

/-- A text in which a colour sequence occurs. -/
def Coloured (cs : List Char) : Prop := ∃ w, IsColour w ∧ w <:+: cs

/-- The second text is the first one with any number of colour sequences before each of its characters. -/
inductive Interrupted : List Char → List Char → Prop
  | done : Interrupted [] []
  | next {c : Char} {gaps : List (List Char)} {cs text : List Char} (hgaps : ∀ gap ∈ gaps, IsColour gap)
      (h : Interrupted cs text) : Interrupted (c :: cs) (gaps.flatten ++ c :: text)

/-- A text in which a colour sequence occurs with others between its characters. -/
def Broken (cs : List Char) : Prop :=
  ∃ tail text, IsColour (escape :: tail) ∧ Interrupted tail text ∧ text ≠ tail ∧ escape :: text <:+: cs

variable {w cs rest : List Char} {c : Char}

theorem IsColour.exists_cons (h : IsColour w) : ∃ tail, w = escape :: tail ∧ escape ∉ tail := by
  obtain ⟨numbers, hnumbers, rfl⟩ := h
  refine ⟨_, rfl, ?_⟩
  have hnot : escape ∉ numbers := fun hmem => Bool.noConfusion (hnumbers escape hmem)
  have hbracket : escape ≠ '[' := by decide
  have hlast : escape ≠ 'm' := by decide
  simp [hnot, hbracket, hlast]

theorem IsColour.ne_nil (h : IsColour w) : w ≠ [] := by
  obtain ⟨tail, rfl, -⟩ := h.exists_cons
  exact List.cons_ne_nil _ _

theorem colourSequence_append (h : IsColour w) (rest : List Char) : colourSequence (w ++ rest) = some w.length := by
  obtain ⟨numbers, hnumbers, rfl⟩ := h
  have htake : (numbers ++ 'm' :: rest).takeWhile isColourNumber = numbers := by
    rw [List.takeWhile_append_of_pos hnumbers, List.takeWhile_cons_of_neg (by decide), List.append_nil]
  have hdrop : (numbers ++ 'm' :: rest).dropWhile isColourNumber = 'm' :: rest := by
    rw [List.dropWhile_append_of_pos hnumbers, List.dropWhile_cons_of_neg (by decide)]
  have happend : escape :: '[' :: (numbers ++ ['m']) ++ rest = escape :: '[' :: (numbers ++ 'm' :: rest) := by simp
  rw [happend, colourSequence, if_pos rfl, hdrop, htake]
  simp

/-- A colour sequence begins no longer one. -/
theorem IsColour.eq_of_prefix {v : List Char} (hw : IsColour w) (hv : IsColour v) (h : w <+: v) : w = v := by
  obtain ⟨rest, rfl⟩ := h
  have hlong := colourSequence_append hv []
  rw [List.append_nil, colourSequence_append hw rest, Option.some_inj] at hlong
  exact (List.prefix_append w rest).eq_of_length hlong

theorem isColour_of_colourSequence {n : Nat} (h : colourSequence cs = some n) :
    ∃ w rest, IsColour w ∧ cs = w ++ rest := by
  unfold colourSequence at h
  split at h
  · rename_i c text
    split_ifs at h with hc
    split at h
    · rename_i rest hdrop
      refine ⟨escape :: '[' :: (text.takeWhile isColourNumber ++ ['m']), rest,
        ⟨_, fun d hd => List.mem_takeWhile_imp hd, rfl⟩, ?_⟩
      have hsplit := List.takeWhile_append_dropWhile (p := isColourNumber) (l := text)
      rw [hdrop] at hsplit
      simp [hc, hsplit]
    · cases h
  · cases h

/-- No match begins where no colour sequence does. -/
theorem colourSequence_eq_none_iff : colourSequence cs = none ↔ ∀ w, IsColour w → ¬w <+: cs := by
  constructor
  · rintro hnone w hw ⟨rest, rfl⟩
    rw [colourSequence_append hw] at hnone
    cases hnone
  · intro hall
    cases hfound : colourSequence cs with
    | none => rfl
    | some n =>
      obtain ⟨w, rest, hw, rfl⟩ := isColour_of_colourSequence hfound
      exact absurd (List.prefix_append w rest) (hall w hw)

theorem colourSequence_of_ne (hc : c ≠ escape) (cs : List Char) : colourSequence (c :: cs) = none := by
  rw [colourSequence_eq_none_iff]
  intro w hw hp
  obtain ⟨tail, rfl, -⟩ := hw.exists_cons
  exact hc (List.cons_prefix_cons.mp hp).1.symm

/-- Induction along a text as a pass goes through it: a whole colour sequence at once, any other character alone. -/
theorem pass_induction {p : List Char → Prop} (nil : p [])
    (colour : ∀ w rest, IsColour w → p rest → p (w ++ rest))
    (other : ∀ c cs, colourSequence (c :: cs) = none → p cs → p (c :: cs)) (cs : List Char) : p cs := by
  induction hn : cs.length using Nat.strongRecOn generalizing cs with
  | ind n ih =>
    subst hn
    cases hfound : colourSequence cs with
    | some k =>
      obtain ⟨w, rest, hw, rfl⟩ := isColour_of_colourSequence hfound
      have hlt : rest.length < (w ++ rest).length := by
        have hpos := List.length_pos_iff.mpr hw.ne_nil
        rw [List.length_append]
        omega
      exact colour w rest hw (ih _ hlt rest rfl)
    | none =>
      cases cs with
      | nil => exact nil
      | cons c cs => exact other c cs hfound (ih _ (Nat.lt_succ_self _) cs rfl)

/-! ## One pass -/

/-- The characters of a text without its colour sequences. -/
def stripped (cs : List Char) : List Char := replaceAll colourSequence [] cs

theorem toList_uncoloured (s : String) : (uncoloured s).toList = stripped s.toList := String.toList_ofList

theorem stripped_colour_append (h : IsColour w) (rest : List Char) : stripped (w ++ rest) = stripped rest :=
  replaceAll_append_of_hit [] h.ne_nil (colourSequence_append h rest)

theorem stripped_cons (h : colourSequence (c :: cs) = none) : stripped (c :: cs) = c :: stripped cs :=
  replaceAll_cons_of_none [] h

theorem stripped_gaps_append {gaps : List (List Char)} (h : ∀ gap ∈ gaps, IsColour gap) (rest : List Char) :
    stripped (gaps.flatten ++ rest) = stripped rest := by
  induction gaps with
  | nil => rfl
  | cons gap gaps ih =>
    obtain ⟨hgap, hgaps⟩ := List.forall_mem_cons.mp h
    rw [List.flatten_cons, List.append_assoc, stripped_colour_append hgap, ih hgaps]

/-- What lacks a character ends before it. -/
theorem prefix_of_not_mem {word before behind : List Char} {c : Char} (hc : c ∉ word)
    (h : word <+: before ++ c :: behind) : word <+: before := by
  obtain ⟨more, happend⟩ := h
  rcases List.append_eq_append_iff.mp happend with ⟨rest, rfl, -⟩ | ⟨onward, rfl, honward⟩
  · exact List.prefix_append word rest
  · cases onward with
    | nil => simp
    | cons d onward =>
      obtain ⟨rfl, -⟩ := List.cons.inj honward
      exact absurd (by simp) hc

/-- The character that begins a colour sequence cuts a text: no colour sequence reaches across. -/
theorem stripped_append_escape (before behind : List Char) :
    stripped (before ++ escape :: behind) = stripped before ++ stripped (escape :: behind) := by
  induction before using pass_induction with
  | nil => rfl
  | colour w rest hw ih =>
    rw [List.append_assoc, stripped_colour_append hw, stripped_colour_append hw, ih]
  | other c cs hnone ih =>
    have hcut : colourSequence (c :: (cs ++ escape :: behind)) = none := by
      rw [colourSequence_eq_none_iff] at hnone ⊢
      intro w hw hp
      obtain ⟨tail, rfl, htail⟩ := hw.exists_cons
      obtain ⟨rfl, hprefix⟩ := List.cons_prefix_cons.mp hp
      exact hnone _ hw (List.cons_prefix_cons.mpr ⟨rfl, prefix_of_not_mem htail hprefix⟩)
    rw [List.cons_append, stripped_cons hcut, stripped_cons hnone, ih, List.cons_append]

/-! ## What a pass leaves -/

theorem stripped_interrupted {text : List Char} (hcs : escape ∉ cs) (h : Interrupted cs text) (rest : List Char) :
    stripped (text ++ rest) = cs ++ stripped rest := by
  induction h with
  | done => rfl
  | @next c gaps cs text hgaps htext ih =>
    rw [List.mem_cons, not_or] at hcs
    have hnone := colourSequence_of_ne (Ne.symm hcs.1) (text ++ rest)
    rw [List.append_assoc, stripped_gaps_append hgaps, List.cons_append, stripped_cons hnone, ih hcs.2, List.cons_append]

/-- A character that is left had only colour sequences before it. -/
theorem exists_of_stripped_cons (h : stripped cs = c :: rest) :
    ∃ (gaps : List (List Char)) (behind : List Char), (∀ gap ∈ gaps, IsColour gap) ∧ cs = gaps.flatten ++ c :: behind ∧
      colourSequence (c :: behind) = none ∧ stripped behind = rest := by
  induction cs using pass_induction with
  | nil => cases h
  | colour w cs hw ih =>
    rw [stripped_colour_append hw] at h
    obtain ⟨gaps, behind, hgaps, rfl, hnone, hrest⟩ := ih h
    refine ⟨w :: gaps, behind, List.forall_mem_cons.mpr ⟨hw, hgaps⟩, ?_, hnone, hrest⟩
    rw [List.flatten_cons, List.append_assoc]
  | other d cs hnone ih =>
    rw [stripped_cons hnone] at h
    obtain ⟨rfl, hrest⟩ := List.cons.inj h
    exact ⟨[], cs, nofun, rfl, hnone, hrest⟩

/-- What is left at the start of a text is what the text begins with, interrupted. -/
theorem exists_of_stripped_append {word : List Char} (h : stripped cs = word ++ rest) :
    ∃ text behind, Interrupted word text ∧ cs = text ++ behind ∧ stripped behind = rest := by
  induction word generalizing cs with
  | nil => exact ⟨[], cs, .done, rfl, h⟩
  | cons c word ih =>
    obtain ⟨gaps, behind, hgaps, rfl, -, hbehind⟩ := exists_of_stripped_cons h
    obtain ⟨text, more, htext, rfl, hmore⟩ := ih hbehind
    exact ⟨gaps.flatten ++ c :: text, more, .next hgaps htext, by simp, hmore⟩

/-- Characters that something interrupts stand apart from one on. -/
theorem Interrupted.eq_or_escape {text : List Char} (h : Interrupted cs text) :
    text = cs ∨ ∃ start last more behind, cs = start ++ last :: more ∧ text = start ++ escape :: behind := by
  induction h with
  | done => exact Or.inl rfl
  | @next c gaps cs text hgaps htext ih =>
    cases gaps with
    | nil =>
      rcases ih with rfl | ⟨start, last, more, behind, rfl, rfl⟩
      · exact Or.inl rfl
      · exact Or.inr ⟨c :: start, last, more, behind, rfl, rfl⟩
    | cons gap gaps =>
      obtain ⟨tail, rfl, -⟩ := (hgaps gap List.mem_cons_self).exists_cons
      exact Or.inr ⟨[], c, cs, tail ++ (gaps.flatten ++ c :: text), rfl, by simp⟩

/-- Interrupted, a colour sequence is none any more. -/
theorem colourSequence_interrupted {tail text : List Char} (hcolour : IsColour (escape :: tail))
    (h : Interrupted tail text) (hne : text ≠ tail) (rest : List Char) :
    colourSequence (escape :: (text ++ rest)) = none := by
  obtain rfl | ⟨start, last, more, behind, htail, rfl⟩ := h.eq_or_escape
  · exact absurd rfl hne
  rw [colourSequence_eq_none_iff]
  intro w hw hp
  obtain ⟨word, rfl, hword⟩ := hw.exists_cons
  have hover : word <+: start ++ escape :: (behind ++ rest) := by simpa using (List.cons_prefix_cons.mp hp).2
  have hstart : word <+: start := prefix_of_not_mem hword hover
  have hwhole : word <+: tail := hstart.trans (htail ▸ List.prefix_append start _)
  -- It would be all of the sequence, which goes on behind the place where it is interrupted.
  have hsame := congrArg List.length (hw.eq_of_prefix hcolour (List.cons_prefix_cons.mpr ⟨rfl, hwhole⟩))
  have hlength := hstart.length_le
  simp only [htail, List.length_append, List.length_cons] at hsame
  omega

/-- **A colour sequence is left exactly when one had others between its characters.** -/
theorem coloured_stripped_iff (cs : List Char) : Coloured (stripped cs) ↔ Broken cs := by
  constructor
  · rintro ⟨w, hw, start, rest, happend⟩
    rw [List.append_assoc] at happend
    obtain ⟨before, behind, -, rfl, hbehind⟩ := exists_of_stripped_append happend.symm
    obtain ⟨tail, rfl, -⟩ := hw.exists_cons
    obtain ⟨gaps, more, -, rfl, hnone, hmore⟩ := exists_of_stripped_cons hbehind
    obtain ⟨text, last, htext, rfl, -⟩ := exists_of_stripped_append hmore
    refine ⟨tail, text, hw, htext, ?_, before ++ gaps.flatten, last, by simp⟩
    -- Were nothing between its characters, the pass would have taken it out.
    rintro rfl
    have hsome := colourSequence_append hw last
    rw [List.cons_append, hnone] at hsome
    cases hsome
  · rintro ⟨tail, text, hcolour, htext, hne, before, behind, rfl⟩
    obtain ⟨_, heq, hescape⟩ := hcolour.exists_cons
    obtain rfl := (List.cons.inj heq).2
    refine ⟨escape :: tail, hcolour, stripped before, stripped behind, ?_⟩
    have hnone := colourSequence_interrupted hcolour htext hne behind
    have hpass : stripped (escape :: (text ++ behind)) = escape :: (tail ++ stripped behind) := by
      rw [stripped_cons hnone, stripped_interrupted hescape htext]
    rw [List.append_assoc before, List.cons_append, stripped_append_escape, hpass]
    simp

theorem length_stripped_le (cs : List Char) : (stripped cs).length ≤ cs.length := by
  induction cs using pass_induction with
  | nil => exact Nat.le_refl 0
  | colour w rest hw ih =>
    rw [stripped_colour_append hw, List.length_append]
    omega
  | other c cs hnone ih =>
    rw [stripped_cons hnone, List.length_cons, List.length_cons]
    omega

/-- A pass changes nothing exactly where no colour sequence occurs. -/
theorem stripped_eq_self_iff (cs : List Char) : stripped cs = cs ↔ ¬Coloured cs := by
  constructor
  · rintro hself ⟨w, hw, before, behind, rfl⟩
    obtain ⟨tail, rfl, -⟩ := hw.exists_cons
    have hcut := stripped_append_escape before (tail ++ behind)
    have htake := stripped_colour_append hw behind
    rw [List.cons_append] at htake
    have hlength : (stripped (before ++ escape :: tail ++ behind)).length =
        (stripped before).length + (stripped behind).length := by
      rw [List.append_assoc, List.cons_append, hcut, htake, List.length_append]
    have hbefore := length_stripped_le before
    have hbehind := length_stripped_le behind
    rw [hself] at hlength
    simp only [List.length_append, List.length_cons] at hlength
    omega
  · intro hnone
    refine replaceAll_of_none [] fun tail _ hsuffix => colourSequence_eq_none_iff.mpr fun w hw hp => ?_
    exact hnone ⟨w, hw, hp.isInfix.trans hsuffix.isInfix⟩

/-- **A second pass changes nothing exactly when the first one left no colour sequence.** -/
theorem stripped_stripped_iff (cs : List Char) : stripped (stripped cs) = stripped cs ↔ ¬Broken cs := by
  rw [stripped_eq_self_iff, coloured_stripped_iff]

end Chatflow.Text
