import Chatflow.Text.Case
import Mathlib.Data.List.Infix

/-!
# The lower case of a part of a text

Only a capital sigma is lowered by what stands around it.  So a part of a text is lowered as it is alone exactly when
each capital sigma in it keeps its form there (`lowerBetween_eq_iff`).

A form is decided inside the part when characters that case rules do not ignore stand on both sides of the sigma, or one
that settles the matter on one side (`Decided`).  Where it is not, an `A` before the part or behind it changes the form
(`exists_changed`), and then the part is no longer found in lower case (`not_infix_of_changed_before`,
`not_infix_of_changed_behind`).
-/

namespace Chatflow.Text

/-! ## Lowering in place -/

/-- Whether a capital sigma ends a word: by what stands before it, the nearest first, and what stands behind it. -/
def isFinal (before behind : List Char) : Bool := meetsCased before && !meetsCased behind

/-- The lower case of a character that stands between others. -/
def lowerOne (before : List Char) (c : Char) (behind : List Char) : List Char :=
  if c = 'Σ' then [if isFinal before behind then 'ς' else 'σ'] else lowerChar c

/-- The lower case of a text that stands between others. -/
def lowerBetween (before : List Char) : List Char → List Char → List Char
  | [], _ => []
  | c :: cs, behind => lowerOne before c (cs ++ behind) ++ lowerBetween (c :: before) cs behind

theorem lowerFrom_append (before cs behind : List Char) :
    lowerFrom before (cs ++ behind) = lowerBetween before cs behind ++ lowerFrom (cs.reverse ++ before) behind := by
  induction cs generalizing before with
  | nil => rfl
  | cons c cs ih =>
    have hrest := ih (c :: before)
    rw [List.cons_append, lowerFrom, hrest, List.reverse_cons, List.append_assoc cs.reverse]
    exact (List.append_assoc _ _ _).symm

theorem lower_eq_lowerBetween (cs : List Char) : lower cs = lowerBetween [] cs [] := by
  have h := lowerFrom_append [] cs []
  rwa [List.append_nil, lowerFrom, List.append_nil] at h

/-- A part of a text is lowered among what stands around it. -/
theorem lower_append_append (before cs behind : List Char) :
    lower (before ++ cs ++ behind) =
      lowerBetween [] before (cs ++ behind) ++ lowerBetween before.reverse cs behind ++
        lowerFrom (cs.reverse ++ before.reverse) behind := by
  have hbefore := lowerFrom_append [] before (cs ++ behind)
  rw [List.append_nil, lowerFrom_append before.reverse] at hbefore
  rw [List.append_assoc, List.append_assoc]
  exact hbefore

theorem lowerBetween_append (before cs ds behind : List Char) :
    lowerBetween before (cs ++ ds) behind =
      lowerBetween before cs (ds ++ behind) ++ lowerBetween (cs.reverse ++ before) ds behind := by
  induction cs generalizing before with
  | nil => rfl
  | cons c cs ih =>
    have hrest := ih (c :: before)
    rw [List.cons_append, lowerBetween, hrest, lowerBetween, List.append_assoc cs ds, List.reverse_cons,
      List.append_assoc cs.reverse]
    exact (List.append_assoc _ _ _).symm

theorem lowerOne_length (before behind before' behind' : List Char) (c : Char) :
    (lowerOne before c behind).length = (lowerOne before' c behind').length := by
  unfold lowerOne
  split_ifs <;> rfl

/-- What stands around a text does not change how long its lower case is. -/
theorem lowerBetween_length (before behind before' behind' cs : List Char) :
    (lowerBetween before cs behind).length = (lowerBetween before' cs behind').length := by
  induction cs generalizing before before' with
  | nil => rfl
  | cons c cs ih =>
    rw [lowerBetween, lowerBetween, List.length_append, List.length_append,
      lowerOne_length before (cs ++ behind) before' (cs ++ behind') c, ih (c :: before) (c :: before')]

theorem lowerOne_eq_iff {before behind before' behind' : List Char} {c : Char} :
    lowerOne before c behind = lowerOne before' c behind' ↔
      (c = 'Σ' → isFinal before behind = isFinal before' behind') := by
  unfold lowerOne
  by_cases hc : c = 'Σ'
  · rw [if_pos hc, if_pos hc]
    cases isFinal before behind <;> cases isFinal before' behind' <;> simp [hc]
  · rw [if_neg hc, if_neg hc]
    exact iff_of_true rfl fun h => absurd h hc

/-- **A text is lowered alike in two places exactly when each capital sigma has one form in both.** -/
theorem lowerBetween_eq_iff {before behind before' behind' cs : List Char} :
    lowerBetween before cs behind = lowerBetween before' cs behind' ↔
      ∀ front back, cs = front ++ 'Σ' :: back →
        isFinal (front.reverse ++ before) (back ++ behind) = isFinal (front.reverse ++ before') (back ++ behind') := by
  induction cs generalizing before before' with
  | nil => exact iff_of_true rfl fun front back h => by simp at h
  | cons c cs ih =>
    have hsplit : lowerBetween before (c :: cs) behind = lowerBetween before' (c :: cs) behind' ↔
        lowerOne before c (cs ++ behind) = lowerOne before' c (cs ++ behind') ∧
          lowerBetween (c :: before) cs behind = lowerBetween (c :: before') cs behind' :=
      ⟨fun h => List.append_inj h (lowerOne_length _ _ _ _ c), fun h => congrArg₂ _ h.1 h.2⟩
    rw [hsplit, lowerOne_eq_iff, ih]
    constructor
    · rintro ⟨hfirst, hrest⟩ front back h
      rcases List.cons_eq_append_iff.mp h with ⟨rfl, hback⟩ | ⟨front, rfl, hcs⟩
      · obtain ⟨rfl, rfl⟩ := List.cons.inj hback
        exact hfirst rfl
      · have hone := hrest front back hcs
        rwa [List.reverse_cons, List.append_assoc, List.append_assoc]
    · intro h
      refine ⟨fun hc => h [] cs (by rw [hc]; rfl), fun front back hcs => ?_⟩
      have hone := h (c :: front) back (by rw [hcs]; rfl)
      rwa [List.reverse_cons, List.append_assoc, List.append_assoc] at hone

/-! ## What decides a form -/

/-- Whether a text has a character that case rules do not look through. -/
def closed (cs : List Char) : Bool := cs.any fun c => !isCaseIgnorable c

theorem meetsCased_cons_of_stop {c : Char} (h : isCaseIgnorable c = false) (cs : List Char) :
    meetsCased (c :: cs) = isCased c := by
  rw [meetsCased, List.dropWhile_cons_of_neg (by rw [h]; exact Bool.false_ne_true)]

theorem meetsCased_cons_of_skip {c : Char} (h : isCaseIgnorable c = true) (cs : List Char) :
    meetsCased (c :: cs) = meetsCased cs := by
  rw [meetsCased, meetsCased, List.dropWhile_cons_of_pos h]

theorem closed_cons (c : Char) (cs : List Char) : closed (c :: cs) = (!isCaseIgnorable c || closed cs) :=
  List.any_cons

theorem meetsCased_append (cs ds : List Char) :
    meetsCased (cs ++ ds) = if closed cs then meetsCased cs else meetsCased ds := by
  induction cs with
  | nil => rfl
  | cons c cs ih =>
    rw [List.cons_append, closed_cons]
    cases hc : isCaseIgnorable c with
    | true =>
      rw [meetsCased_cons_of_skip hc, meetsCased_cons_of_skip hc, ih]
      rfl
    | false =>
      rw [meetsCased_cons_of_stop hc, meetsCased_cons_of_stop hc]
      rfl

theorem meetsCased_of_not_closed {cs : List Char} (h : closed cs = false) : meetsCased cs = false := by
  have happend := meetsCased_append cs []
  rwa [List.append_nil, h, if_neg Bool.false_ne_true] at happend

/-- What stands beside a capital sigma decides its form, whatever follows on either side. -/
def Decided (front back : List Char) : Prop :=
  (closed front = true ∧ closed back = true) ∨ (closed front = true ∧ meetsCased front = false) ∨
    meetsCased back = true

theorem Decided.isFinal_append {front back : List Char} (h : Decided front back) (before behind : List Char) :
    isFinal (front ++ before) (back ++ behind) = isFinal front back := by
  unfold isFinal
  rw [meetsCased_append front, meetsCased_append back]
  rcases h with ⟨hfront, hback⟩ | ⟨hfront, hmeet⟩ | hmeet
  · rw [if_pos hfront, if_pos hback]
  · rw [if_pos hfront, hmeet]
    rfl
  · have hback : closed back = true := by
      by_contra hopen
      rw [meetsCased_of_not_closed (Bool.eq_false_iff.mpr hopen)] at hmeet
      cases hmeet
    rw [if_pos hback, hmeet]
    simp

/-- Where a form is not decided, a letter on one side or the other changes it. -/
theorem isFinal_changes {front back letters : List Char} (hletters : meetsCased letters = true)
    (h : ¬Decided front back) :
    isFinal (front ++ letters) back ≠ isFinal front back ∨ isFinal front (back ++ letters) ≠ isFinal front back := by
  simp only [Decided, not_or, not_and] at h
  obtain ⟨hboth, hfront, hback⟩ := h
  have hback : meetsCased back = false := Bool.eq_false_iff.mpr hback
  unfold isFinal
  rw [meetsCased_append front, meetsCased_append back, hletters, hback]
  cases hclosed : closed front with
  | false =>
    left
    rw [if_neg Bool.false_ne_true, meetsCased_of_not_closed hclosed]
    decide
  | true =>
    right
    have hopen : closed back = false := Bool.eq_false_iff.mpr (hboth hclosed)
    have hmeet : meetsCased front = true := eq_true_of_ne_false (hfront hclosed)
    rw [hopen, if_neg Bool.false_ne_true, hmeet]
    decide

/-! ## Parts of a text -/

/-- Each capital sigma of a part has the form that it has when the part stands alone. -/
def Kept (before part behind : List Char) : Prop :=
  ∀ front back, part = front ++ 'Σ' :: back →
    isFinal (front.reverse ++ before.reverse) (back ++ behind) = isFinal front.reverse back

/-- The form of each capital sigma of a text is decided in the text itself. -/
def Settled (part : List Char) : Prop :=
  ∀ front back, part = front ++ 'Σ' :: back → Decided front.reverse back

theorem kept_iff {before part behind : List Char} :
    Kept before part behind ↔ lowerBetween before.reverse part behind = lower part := by
  rw [lower_eq_lowerBetween, lowerBetween_eq_iff]
  simp only [List.append_nil]
  rfl

theorem Settled.kept {part : List Char} (h : Settled part) (before behind : List Char) : Kept before part behind :=
  fun front back hpart => (h front back hpart).isFinal_append before.reverse behind

/-- A text without capital sigmas leaves nothing to be decided. -/
theorem settled_of_not_mem {part : List Char} (h : 'Σ' ∉ part) : Settled part := by
  rintro front back rfl
  exact absurd (List.mem_append_right front (List.mem_cons_self ..)) h

/-- **A part that keeps its forms is found in lower case.** -/
theorem infix_of_kept {before part behind : List Char} (h : Kept before part behind) :
    lower part <:+: lower (before ++ part ++ behind) := by
  rw [lower_append_append, kept_iff.mp h]
  exact ⟨_, _, rfl⟩

/-! ## Letters that change a form -/

/-- The letter `a` ends every search for a neighbour. -/
theorem not_isCaseIgnorable {c : Char} (hc : c = 'a' ∨ c = 'A') : isCaseIgnorable c = false := by
  unfold isCaseIgnorable inRanges
  rw [← Array.any_toList]
  rcases hc with rfl | rfl <;> decide +kernel

theorem closed_of_mem {cs : List Char} {c : Char} (hc : c = 'a' ∨ c = 'A') (h : c ∈ cs) : closed cs = true := by
  refine List.any_eq_true.mpr ⟨c, h, ?_⟩
  rw [not_isCaseIgnorable hc]
  rfl

theorem meetsCased_letter : meetsCased ['A'] = true := by
  rw [meetsCased_cons_of_stop (not_isCaseIgnorable (Or.inr rfl))]
  rfl

theorem eq_of_ofNat_eq {n : Nat} (h : Char.ofNat n = 'a') : n = 97 := by
  have hn : (Char.ofNat n).toNat = 97 := congrArg Char.toNat h
  by_cases hvalid : n.isValidChar
  · rw [Char.ofNat, dif_pos hvalid] at hn
    exact hn
  · rw [Char.ofNat, dif_neg hvalid] at hn
    cases hn

/-- No run of capitals beyond ASCII reaches down to the small `a`. -/
theorem shift_lowercaseRuns_ne {n : Nat} (hn : 128 ≤ n) : shift lowercaseRuns n ≠ 97 := by
  have hruns : ∀ run ∈ lowercaseRuns.toList, run.2.1 < 128 ∨ 97 < (run.1 : Int) + run.2.2.2 := by decide +kernel
  unfold shift
  split
  · rename_i first last stride distance hfind
    have hrun := Array.find?_some hfind
    have hmem := hruns _ (Array.mem_of_find?_eq_some hfind).val
    simp only [Bool.and_eq_true, decide_eq_true_eq] at hrun hmem
    omega
  · omega

/-- Only the letter `a` becomes a small `a`. -/
theorem eq_of_mem_lowerChar {c : Char} (h : 'a' ∈ lowerChar c) : c = 'a' ∨ c = 'A' := by
  have hascii : ∀ n < 128, (Char.ofNat n).toLower = 'a' → Char.ofNat n = 'a' ∨ Char.ofNat n = 'A' := by decide
  unfold lowerChar at h
  split_ifs at h with hsmall hdotted
  · have hc := hascii c.toNat hsmall
    rw [Char.ofNat_toNat] at hc
    exact hc (List.mem_singleton.mp h).symm
  · exact absurd h (by decide)
  · have hshift := eq_of_ofNat_eq (List.mem_singleton.mp h).symm
    exact absurd hshift (shift_lowercaseRuns_ne (by omega))

theorem eq_of_mem_lowerOne {before behind : List Char} {c : Char} (h : 'a' ∈ lowerOne before c behind) :
    c = 'a' ∨ c = 'A' := by
  unfold lowerOne at h
  split_ifs at h
  · exact absurd h (by decide)
  · exact absurd h (by decide)
  · exact eq_of_mem_lowerChar h

theorem exists_lowerOne (before behind : List Char) (c : Char) : ∃ d ds, lowerOne before c behind = d :: ds := by
  unfold lowerOne lowerChar
  split_ifs <;> exact ⟨_, _, rfl⟩

/-- Behind a letter, a part that does not keep its forms is not found. -/
theorem not_infix_behind_letter {part : List Char} (h : ¬Kept ['A'] part []) :
    ¬lower part <:+: lower ('A' :: part) := by
  have hwhole : lower ('A' :: part) = 'a' :: lowerBetween ['A'] part [] := by
    have happend := lowerFrom_append ['A'] part []
    rw [List.append_nil, lowerFrom, List.append_nil] at happend
    exact congrArg (List.cons 'a') happend
  rw [hwhole, List.infix_cons_iff]
  rintro (hstart | hlater)
  · refine h fun front back hpart => ?_
    cases part with
    | nil => simp at hpart
    | cons c cs =>
      obtain ⟨d, ds, hd⟩ := exists_lowerOne [] (cs ++ []) c
      rw [lower_eq_lowerBetween, lowerBetween, hd, List.cons_append, List.cons_prefix_cons] at hstart
      have hc : c = 'a' ∨ c = 'A' :=
        eq_of_mem_lowerOne (hstart.1 ▸ hd ▸ List.mem_cons_self .. : 'a' ∈ lowerOne [] c (cs ++ []))
      have hfront : c ∈ front.reverse := by
        rcases List.cons_eq_append_iff.mp hpart with ⟨rfl, hback⟩ | ⟨front, rfl, -⟩
        · rcases hc with rfl | rfl <;> simp at hback
        · simp
      unfold isFinal
      rw [meetsCased_append, if_pos (closed_of_mem hc hfront), List.append_nil]
  · refine h (kept_iff.mpr (hlater.eq_of_length ?_).symm)
    rw [lower_eq_lowerBetween]
    exact lowerBetween_length ..

/-- Before a letter, a part that does not keep its forms is not found. -/
theorem not_infix_before_letter {part : List Char} (h : ¬Kept [] part ['A']) :
    ¬lower part <:+: lower (part ++ ['A']) := by
  have hwhole : lower (part ++ ['A']) = lowerBetween [] part ['A'] ++ ['a'] := lowerFrom_append [] part ['A']
  rw [hwhole, List.infix_concat_iff]
  rintro (hend | hearlier)
  · refine h fun front back hpart => ?_
    rcases List.eq_nil_or_concat part with rfl | ⟨cs, c, rfl⟩
    · simp at hpart
    · rw [List.concat_eq_append] at hpart hend
      have hlower : lower (cs ++ [c]) = lowerBetween [] cs [c] ++ lowerOne cs.reverse c [] := by
        rw [lower_eq_lowerBetween, lowerBetween_append, lowerBetween, lowerBetween]
        simp only [List.append_nil]
      obtain ⟨d, ds, hd⟩ := exists_lowerOne cs.reverse [] c
      have hlast : (lowerOne cs.reverse c []).getLast? = some 'a' := by
        obtain ⟨lead, hlead⟩ := hend
        have hlast := congrArg List.getLast? hlead
        rw [List.getLast?_concat, hlower, hd, List.getLast?_append, List.getLast?_append, List.getLast?_cons] at hlast
        rw [hd, List.getLast?_cons]
        exact hlast
      have hc : c = 'a' ∨ c = 'A' := eq_of_mem_lowerOne (List.mem_of_getLast? hlast)
      have hback : c ∈ back := by
        rcases List.eq_nil_or_concat back with rfl | ⟨back, e, rfl⟩
        · obtain ⟨-, hsigma⟩ := List.append_inj' hpart rfl
          rcases hc with rfl | rfl <;> simp at hsigma
        · rw [List.concat_eq_append, ← List.cons_append, ← List.append_assoc] at hpart
          obtain ⟨-, hlast⟩ := List.append_inj' hpart rfl
          simp [List.singleton_inj.mp hlast]
      unfold isFinal
      rw [meetsCased_append back, if_pos (closed_of_mem hc hback), List.reverse_nil, List.append_nil]
  · refine h (kept_iff.mpr (hearlier.eq_of_length ?_).symm)
    rw [lower_eq_lowerBetween]
    exact lowerBetween_length ..

/-- **Where a form is not decided, one letter hides the part.** -/
theorem exists_not_infix {part : List Char} (h : ¬Settled part) :
    ¬lower part <:+: lower ('A' :: part) ∨ ¬lower part <:+: lower (part ++ ['A']) := by
  unfold Settled at h
  push Not at h
  obtain ⟨front, back, hpart, hdecided⟩ := h
  rcases isFinal_changes meetsCased_letter hdecided with hchange | hchange
  · refine Or.inl (not_infix_behind_letter fun hkept => hchange ?_)
    have hone := hkept front back hpart
    rwa [List.append_nil] at hone
  · refine Or.inr (not_infix_before_letter fun hkept => hchange ?_)
    have hone := hkept front back hpart
    rwa [List.reverse_nil, List.append_nil] at hone

end Chatflow.Text
