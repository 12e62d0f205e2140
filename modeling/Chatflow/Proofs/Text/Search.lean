import Mathlib.Data.List.TakeWhile
import Chatflow.Text.Blank
import Chatflow.Text.Search

/-!
# Searching and trimming, piece by piece

How `replaceAll` and `findAll` go through a text that is put together from pieces.  A piece in which no match begins is
passed over (`replaceAll_append_of_none`), and a piece that is a match is replaced as a whole
(`replaceAll_append_of_hit`).

* `replaceAll_word_self`: when putting a text in for a word of its own changes nothing.
* `trim_pad`: trimming takes away just the blanks around a text that has none at its ends.
-/

namespace Chatflow.Text

/-! ## Replacing -/

section Replace

variable {pattern : List Char → Option Nat} (new : List Char)

@[simp] theorem replaceAll_nil : replaceAll pattern new [] = [] := rfl

variable (pattern) in
theorem replaceFrom_length_append (cs rest : List Char) :
    replaceFrom pattern new cs.length (cs ++ rest) = replaceAll pattern new rest := by
  induction cs with
  | nil => rfl
  | cons c cs ih => exact ih

theorem replaceAll_cons_of_none {c : Char} {cs : List Char} (h : pattern (c :: cs) = none) :
    replaceAll pattern new (c :: cs) = c :: replaceAll pattern new cs := by
  simp only [replaceAll, replaceFrom, h]

/-- A match is replaced as a whole. -/
theorem replaceAll_append_of_hit {w rest : List Char} (hw : w ≠ [])
    (h : pattern (w ++ rest) = some w.length) :
    replaceAll pattern new (w ++ rest) = new ++ replaceAll pattern new rest := by
  obtain ⟨c, cs, rfl⟩ := List.exists_cons_of_ne_nil hw
  rw [List.cons_append, List.length_cons] at h
  rw [← replaceFrom_length_append pattern new cs rest]
  simp only [replaceAll, List.cons_append, replaceFrom, h]

/-- A piece in which no match begins is passed over. -/
theorem replaceAll_append_of_none {cs rest : List Char}
    (h : ∀ tail, tail ≠ [] → tail <:+ cs → pattern (tail ++ rest) = none) :
    replaceAll pattern new (cs ++ rest) = cs ++ replaceAll pattern new rest := by
  induction cs with
  | nil => rfl
  | cons c cs ih =>
    have hhead : pattern (c :: (cs ++ rest)) = none := h (c :: cs) (List.cons_ne_nil c cs) List.suffix_rfl
    rw [List.cons_append, replaceAll_cons_of_none new hhead, List.cons_append,
      ih fun tail hne hs => h tail hne (hs.trans (List.suffix_cons c cs))]

/-- A text in which no match begins stays as it is. -/
theorem replaceAll_of_none {cs : List Char} (h : ∀ tail, tail ≠ [] → tail <:+ cs → pattern tail = none) :
    replaceAll pattern new cs = cs := by
  have happend : ∀ tail, tail ≠ [] → tail <:+ cs → pattern (tail ++ []) = none := by simpa using h
  simpa using replaceAll_append_of_none new happend

end Replace

/-! ## Finding -/

section Find

variable {α : Type} {pattern : List Char → Option (α × Nat)}

variable (pattern) in
theorem findFrom_length_append (cs rest : List Char) :
    findFrom pattern cs.length (cs ++ rest) = findAll pattern rest := by
  induction cs with
  | nil => rfl
  | cons c cs ih => exact ih

theorem findAll_append_of_hit {w rest : List Char} {a : α} (hw : w ≠ [])
    (h : pattern (w ++ rest) = some (a, w.length)) : findAll pattern (w ++ rest) = a :: findAll pattern rest := by
  obtain ⟨c, cs, rfl⟩ := List.exists_cons_of_ne_nil hw
  rw [List.cons_append, List.length_cons] at h
  rw [← findFrom_length_append pattern cs rest]
  simp only [findAll, List.cons_append, findFrom, h]

theorem findAll_append_of_none {cs rest : List Char}
    (h : ∀ tail, tail ≠ [] → tail <:+ cs → pattern (tail ++ rest) = none) :
    findAll pattern (cs ++ rest) = findAll pattern rest := by
  induction cs with
  | nil => rfl
  | cons c cs ih =>
    have hhead : pattern (c :: (cs ++ rest)) = none := h (c :: cs) (List.cons_ne_nil c cs) List.suffix_rfl
    have hrest := ih fun tail hne hs => h tail hne (hs.trans (List.suffix_cons c cs))
    rw [List.cons_append, ← hrest]
    simp only [findAll, findFrom, hhead]

end Find

/-! ## Words -/

section Word

variable {w : List Char}

theorem word_eq_none {cs : List Char} (h : ¬w <+: cs) : word w cs = none :=
  if_neg fun hp => h (List.isPrefixOf_iff_prefix.mp hp)

theorem word_append (w rest : List Char) : word w (w ++ rest) = some w.length :=
  if_pos (List.isPrefixOf_iff_prefix.mpr (List.prefix_append w rest))

theorem occurs_iff {cs : List Char} : occurs w cs = true ↔ w <:+: cs := by
  induction cs with
  | nil => simp [occurs]
  | cons c cs ih => rw [occurs, Bool.or_eq_true, ih, List.isPrefixOf_iff_prefix, List.infix_cons_iff]

/-- A text without a word stays as it is. -/
theorem replaceAll_word_of_not_occurs (new : List Char) {cs : List Char} (h : occurs w cs = false) :
    replaceAll (word w) new cs = cs := by
  refine replaceAll_of_none new fun tail _ hs => word_eq_none fun hp => ?_
  have hocc : occurs w cs = true := occurs_iff.mpr (hp.isInfix.trans hs.isInfix)
  rw [h] at hocc
  cases hocc

/-- Putting in a text that is no shorter than the word makes nothing shorter, and makes a text that holds the word
longer by what the new text is longer. -/
theorem length_replaceAll_word (hw : w ≠ []) (new : List Char) (hl : w.length ≤ new.length) (cs : List Char) :
    cs.length ≤ (replaceAll (word w) new cs).length ∧
      (occurs w cs = true → cs.length + new.length ≤ (replaceAll (word w) new cs).length + w.length) := by
  induction hn : cs.length using Nat.strongRecOn generalizing cs with
  | ind n ih =>
    subst hn
    -- Replacing goes on behind a hit, so the induction is on the length and not on the text.
    by_cases hp : w <+: cs
    · obtain ⟨rest, rfl⟩ := hp
      have hlt : rest.length < (w ++ rest).length := by
        have hpos := List.length_pos_iff.mpr hw
        rw [List.length_append]
        omega
      obtain ⟨hle, -⟩ := ih _ hlt rest rfl
      rw [replaceAll_append_of_hit new hw (word_append w rest), List.length_append, List.length_append]
      exact ⟨by omega, fun _ => by omega⟩
    cases cs with
    | nil => exact ⟨Nat.le_refl 0, fun ho => absurd (List.infix_nil.mp (occurs_iff.mp ho)) hw⟩
    | cons c cs =>
      obtain ⟨hle, hocc⟩ := ih cs.length (Nat.lt_succ_self _) cs rfl
      rw [replaceAll_cons_of_none new (word_eq_none hp), List.length_cons, List.length_cons]
      refine ⟨by omega, fun ho => ?_⟩
      rcases List.infix_cons_iff.mp (occurs_iff.mp ho) with hp' | hi
      · exact absurd hp' hp
      · have hrest := hocc (occurs_iff.mpr hi)
        omega

/-- **Putting a text in for a word changes that text unless the word is not in it, or is all of it.** -/
theorem replaceAll_word_self (hw : w ≠ []) (cs : List Char) :
    replaceAll (word w) cs cs = cs ↔ cs = w ∨ occurs w cs = false := by
  constructor
  · intro h
    cases ho : occurs w cs with
    | false => exact Or.inr rfl
    | true =>
      obtain ⟨before, behind, happend⟩ := occurs_iff.mp ho
      have hlen : before.length + w.length + behind.length = cs.length := by
        rw [← happend, List.length_append, List.length_append]
      obtain ⟨-, hlong⟩ := length_replaceAll_word hw cs (by omega) cs
      -- The length stays, so the text is no longer than the word: nothing stands before the word or behind it.
      have hshort := hlong ho
      rw [h] at hshort
      obtain rfl : before = [] := List.eq_nil_of_length_eq_zero (by omega)
      obtain rfl : behind = [] := List.eq_nil_of_length_eq_zero (by omega)
      exact Or.inl (by simpa using happend.symm)
  · rintro (rfl | h)
    · have hhit := replaceAll_append_of_hit cs hw (word_append cs [])
      simpa using hhit
    · exact replaceAll_word_of_not_occurs cs h

end Word

/-! ## Trimming -/

/-- A text without blanks at its ends. -/
def Trimmed (cs : List Char) : Prop :=
  (∀ c ∈ cs.head?, isBlank c = false) ∧ ∀ c ∈ cs.getLast?, isBlank c = false

instance (cs : List Char) : Decidable (Trimmed cs) :=
  @instDecidableAnd _ _ (Option.decidableForallMem _) (Option.decidableForallMem _)

/-- A text of nothing but blanks. -/
def Blank (cs : List Char) : Prop := ∀ c ∈ cs, isBlank c = true

instance (cs : List Char) : Decidable (Blank cs) := List.decidableBAll _ cs

theorem trimStart_pad {lead cs : List Char} (hl : Blank lead) (h : ∀ c ∈ cs.head?, isBlank c = false) :
    trimStart isBlank (lead ++ cs) = cs := by
  rw [trimStart, List.dropWhile_append_of_pos hl]
  cases cs with
  | nil => rfl
  | cons c cs => exact List.dropWhile_cons_of_neg (by simp [h c rfl])

/-- Trimming takes away just the blanks around a text that has none at its ends. -/
theorem trim_pad {lead cs trail : List Char} (hl : Blank lead) (ht : Blank trail) (h : Trimmed cs) :
    trim (lead ++ cs ++ trail) = cs := by
  have hstart : trimStart isBlank (lead ++ cs ++ trail) = if cs = [] then [] else cs ++ trail := by
    cases cs with
    | nil =>
      rw [List.append_nil, if_pos rfl, trimStart, List.dropWhile_eq_nil_iff]
      intro c hc
      exact (List.mem_append.mp hc).elim (hl c) (ht c)
    | cons c cs =>
      have hhead : ∀ d ∈ (c :: cs ++ trail).head?, isBlank d = false := h.1
      rw [List.append_assoc, trimStart_pad hl hhead, if_neg (List.cons_ne_nil c cs)]
  have hreverse : ∀ c ∈ cs.reverse.head?, isBlank c = false := by
    rw [List.head?_reverse]
    exact h.2
  rw [trim, trimBy, hstart]
  by_cases hcs : cs = []
  · rw [if_pos hcs, hcs]
    rfl
  · have hblank : Blank trail.reverse := fun c hc => ht c (List.mem_reverse.mp hc)
    rw [if_neg hcs, trimEnd, List.reverse_append]
    show (trimStart isBlank (trail.reverse ++ cs.reverse)).reverse = cs
    rw [trimStart_pad hblank hreverse, List.reverse_reverse]

/-- A text without blanks at its ends keeps all of it when something stands behind. -/
theorem trim_append {cs : List Char} (h : Trimmed cs) (hne : cs ≠ []) (rest : List Char) :
    trim (cs ++ rest) = cs ++ trimEnd isBlank rest := by
  have hstart : trimStart isBlank (cs ++ rest) = cs ++ rest := by
    obtain ⟨c, cs, rfl⟩ := List.exists_cons_of_ne_nil hne
    exact List.dropWhile_cons_of_neg (by simp [h.1 c rfl])
  have hreverse : cs.reverse.dropWhile isBlank = cs.reverse := by
    obtain ⟨c, ds, hcs⟩ := List.exists_cons_of_ne_nil fun hnil => hne (List.reverse_eq_nil_iff.mp hnil)
    have hlast : c ∈ cs.getLast? := by
      rw [← List.head?_reverse, hcs]
      rfl
    rw [hcs]
    exact List.dropWhile_cons_of_neg (by simp [h.2 c hlast])
  rw [trim, trimBy, hstart, trimEnd, trimEnd, List.reverse_append, List.dropWhile_append, hreverse]
  cases hdrop : rest.reverse.dropWhile isBlank with
  | nil => simp
  | cons d ds => simp

/-- Blanks around a text make none without blanks at its ends, unless there are none around it. -/
theorem eq_of_pad {lead cs trail whole : List Char} (hl : Blank lead) (ht : Blank trail) (h : Trimmed whole)
    (hw : lead ++ cs ++ trail = whole) : cs = whole := by
  have hlead : lead = [] := by
    cases lead with
    | nil => rfl
    | cons c lead =>
      have hblank := hl c List.mem_cons_self
      subst hw
      rw [h.1 c rfl] at hblank
      cases hblank
  have htrail : trail = [] := by
    rcases List.eq_nil_or_concat trail with rfl | ⟨trail, c, rfl⟩
    · rfl
    · have hblank := ht c (by simp)
      have hlast : c ∈ whole.getLast? := by
        rw [← hw, List.concat_eq_append, ← List.append_assoc, List.getLast?_concat]
        rfl
      rw [h.2 c hlast] at hblank
      cases hblank
  rw [← hw, hlead, htrail, List.nil_append, List.append_nil]

end Chatflow.Text
