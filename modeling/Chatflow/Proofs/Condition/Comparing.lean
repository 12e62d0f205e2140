import Chatflow.Condition
import Chatflow.Proofs.Schema.Reading
import Chatflow.Proofs.Value.Sameness

/-!
# Comparisons agree with each other

Equality goes by the values, then by their numbers, then by their texts, and order by the numbers only.  Values that are
equal are still never above or below each other: what is the same value or has the same text stands for a number at the
same place (`position_of_looselyEqual`).  When a number is compared with what stands for a number, the numbers decide
(`looselyEqual_of_numbers`), so that one of the three comparisons holds.

Equality is symmetric (`looselyEqual_comm`); where both values lack a text, it ends in the fault of the first one.
-/

namespace Chatflow

theorem Binary64.exists_position {x : Binary64} (h : x.isNan = false) : ∃ p, x.position = some p := by
  cases x with
  | nan => cases h
  | infinite negative => exact ⟨_, position_infinite negative⟩
  | finite negative units onGrid => exact ⟨_, position_finite negative units onGrid⟩

theorem Binary64.isNan_eq_true_iff {x : Binary64} : x.isNan = true ↔ x.position = none := by
  cases x with
  | nan => exact iff_of_true rfl rfl
  | infinite negative =>
    rw [position_infinite]
    exact iff_of_false nofun nofun
  | finite negative units onGrid =>
    rw [position_finite]
    exact iff_of_false nofun nofun

theorem Binary64.same_of_position {x y : Binary64} (h : x.isNan = false) (hposition : y.position = x.position) :
    x.same y = true := by
  obtain ⟨p, hp⟩ := exists_position h
  exact same_iff.mpr ⟨p, hp, hposition.trans hp⟩

theorem Binary64.same_self {x : Binary64} (h : x.isNan = false) : x.same x = true := same_of_position h rfl

theorem Binary64.isNan_of_same {x y : Binary64} (h : x.same y = true) : x.isNan = false ∧ y.isNan = false := by
  obtain ⟨p, hx, hy⟩ := same_iff.mp h
  constructor <;> rw [Bool.eq_false_iff, Ne, isNan_eq_true_iff] <;> simp [hx, hy]

namespace Value

open Binary64 (same_comm)

/-- Whether two values appear as one text. -/
def sameText (room : Nat) (left right : Value) : Except Fault Bool := do
  let s ← left.rendered room
  let t ← right.rendered room
  return s == t

/-- Whether two values stand for one number; where one of them stands for none, their texts decide. -/
def sameNumeral (room : Nat) (left right : Value) : Except Fault Bool := do
  let x ← left.number
  let y ← right.number
  if !x.isNan && !y.isNan then return x.same y
  left.sameText room right

variable {room : Nat}

/-! ## Equality, step by step -/

theorem looselyEqual_null_left {w : Value} (h : w ≠ null) : null.looselyEqual room w = .ok false := by
  cases w with
  | null => exact absurd rfl h
  | _ => rfl

theorem looselyEqual_null_right {v : Value} (h : v ≠ null) : v.looselyEqual room null = .ok false := by
  cases v with
  | null => exact absurd rfl h
  | _ => rfl

/-- Null apart, values go by themselves, then by their numbers, then by their texts. -/
theorem looselyEqual_eq {v w : Value} (hv : v ≠ null) (hw : w ≠ null) :
    v.looselyEqual room w =
      if v.same w then .ok true
      else if v.isNumeric || w.isNumeric then v.sameNumeral room w
      else v.sameText room w := by
  unfold looselyEqual
  split
  · exact absurd rfl hv
  · exact absurd rfl hv
  · exact absurd rfl hw
  · rfl

theorem looselyEqual_of_same {v w : Value} (h : v.same w = true) : v.looselyEqual room w = .ok true := by
  by_cases hv : v = null
  · subst hv
    rw [same_null_iff.mp h]
    rfl
  · have hw : w ≠ null := by
      rintro rfl
      cases v <;> first | exact hv rfl | cases h
    rw [looselyEqual_eq hv hw, if_pos h]

theorem looselyEqual_of_not_same {v w : Value} (h : v.same w = false) (hv : v ≠ null) (hw : w ≠ null) :
    v.looselyEqual room w = if v.isNumeric || w.isNumeric then v.sameNumeral room w else v.sameText room w := by
  rw [looselyEqual_eq hv hw, h, if_neg Bool.false_ne_true]

/-! ## Symmetry -/

theorem tooLarge_of_number {v : Value} {fault : Fault} (h : v.number = .error fault) : fault = .tooLarge := by
  cases v with
  | int n =>
    rw [number] at h
    cases hn : Binary64.ofInt? n with
    | none =>
      rw [hn] at h
      exact (Except.error.inj h).symm
    | some x =>
      rw [hn] at h
      cases h
  | _ => cases h

/-- Texts are compared in either order alike, but for the fault when neither value has one. -/
theorem sameText_comm (v w : Value) : (v.sameText room w).toOption = (w.sameText room v).toOption := by
  unfold sameText
  cases v.rendered room <;> cases w.rendered room <;> try rfl
  exact congrArg some Bool.beq_comm

theorem sameNumeral_comm (v w : Value) : (v.sameNumeral room w).toOption = (w.sameNumeral room v).toOption := by
  unfold sameNumeral
  cases v.number with
  | error fault => cases w.number <;> rfl
  | ok x =>
    cases w.number with
    | error fault => rfl
    | ok y =>
      dsimp only [bind, Except.bind]
      rw [same_comm x y, Bool.and_comm]
      split
      · rfl
      · exact sameText_comm v w

/-- **Loose equality is symmetric**, but for the fault that it ends in. -/
theorem looselyEqual_comm {v w : Value} (hv : v.KeysDiffer) (hw : w.KeysDiffer) :
    (v.looselyEqual room w).toOption = (w.looselyEqual room v).toOption := by
  by_cases hnv : v = null
  · subst hnv
    by_cases hnw : w = null
    · rw [hnw]
    · rw [looselyEqual_null_left hnw, looselyEqual_null_right hnw]
  · by_cases hnw : w = null
    · subst hnw
      rw [looselyEqual_null_left hnv, looselyEqual_null_right hnv]
    · rw [looselyEqual_eq hnv hnw, looselyEqual_eq hnw hnv, same_comm_of_keysDiffer hv hw, Bool.or_comm]
      split_ifs
      · rfl
      · exact sameNumeral_comm v w
      · exact sameText_comm v w

theorem greaterThan_eq_lessThan (v w : Value) : v.greaterThan w = w.lessThan v := by
  unfold greaterThan lessThan
  cases hv : v.number with
  | error fault =>
    obtain rfl := tooLarge_of_number hv
    cases hw : w.number with
    | error fault =>
      obtain rfl := tooLarge_of_number hw
      rfl
    | ok y => rfl
  | ok x => cases w.number <;> rfl

/-! ## Numbers that decide -/

theorem lessThan_of_numbers {v w : Value} {x y : Binary64} (hx : v.number = .ok x) (hy : w.number = .ok y) :
    v.lessThan w = .ok (x.below y) := by
  unfold lessThan
  rw [hx, hy]
  rfl

theorem ne_null_of_number {v : Value} {x : Binary64} (hx : v.number = .ok x) (hn : x.isNan = false) : v ≠ null := by
  rintro rfl
  obtain rfl := Except.ok.inj hx
  cases hn

theorem sameNumeral_of_numbers {v w : Value} {x y : Binary64} (hx : v.number = .ok x) (hy : w.number = .ok y)
    (hxn : x.isNan = false) (hyn : y.isNan = false) : v.sameNumeral room w = .ok (x.same y) := by
  rw [sameNumeral, hx, hy]
  dsimp only [bind, Except.bind]
  rw [hxn, hyn]
  rfl

theorem sameNumeral_of_nan {v w : Value} {x y : Binary64} (hx : v.number = .ok x) (hy : w.number = .ok y)
    (h : x.isNan = true ∨ y.isNan = true) : v.sameNumeral room w = v.sameText room w := by
  have hand : (!x.isNan && !y.isNan) = false := by
    rw [Bool.and_eq_false_iff, Bool.not_eq_false', Bool.not_eq_false']
    exact h
  rw [sameNumeral, hx, hy]
  dsimp only [bind, Except.bind]
  rw [hand]
  rfl

/-- **When a number is compared with what stands for a number, their numbers decide.** -/
theorem looselyEqual_of_numbers {v w : Value} {x y : Binary64} (hx : v.number = .ok x) (hy : w.number = .ok y)
    (hxn : x.isNan = false) (hyn : y.isNan = false) (hnumeric : (v.isNumeric || w.isNumeric) = true) :
    v.looselyEqual room w = .ok (x.same y) := by
  cases hsame : v.same w with
  | true =>
    have hposition := position_of_same hsame hx hy
    rw [looselyEqual_of_same hsame, Binary64.same_of_position hxn hposition.symm]
  | false =>
    rw [looselyEqual_of_not_same hsame (ne_null_of_number hx hxn) (ne_null_of_number hy hyn), if_pos hnumeric,
      sameNumeral_of_numbers hx hy hxn hyn]

/-! ## Equality next to order -/

theorem position_of_sameNumeral {v w : Value} {x y : Binary64} (h : v.sameNumeral room w = .ok true)
    (hx : v.number = .ok x) (hy : w.number = .ok y) :
    x.position = y.position ∨ x.position = none ∨ y.position = none := by
  cases hxn : x.isNan with
  | true => exact Or.inr (Or.inl (Binary64.isNan_eq_true_iff.mp hxn))
  | false =>
    cases hyn : y.isNan with
    | true => exact Or.inr (Or.inr (Binary64.isNan_eq_true_iff.mp hyn))
    | false =>
      rw [sameNumeral_of_numbers hx hy hxn hyn] at h
      obtain ⟨p, hp, hq⟩ := Binary64.same_iff.mp (Except.ok.inj h)
      exact Or.inl (hp.trans hq.symm)

theorem position_of_sameText {v w : Value} {x y : Binary64} (h : v.sameText room w = .ok true)
    (hv : v.isNumeric = false) (hw : w.isNumeric = false) (hx : v.number = .ok x) (hy : w.number = .ok y) :
    x.position = y.position ∨ x.position = none ∨ y.position = none := by
  cases v with
  | bool | int | real => cases hv
  | text s =>
    cases w with
    | bool | int | real => cases hw
    | text t =>
      obtain rfl : s = t := beq_iff_eq.mp (Except.ok.inj h)
      rw [Except.ok.inj (hx.symm.trans hy)]
      exact Or.inl rfl
    | _ =>
      obtain rfl := Except.ok.inj hy
      exact Or.inr (Or.inr rfl)
  | _ =>
    obtain rfl := Except.ok.inj hx
    exact Or.inr (Or.inl rfl)

/-- **Values that are equal stand for numbers at the same place**, unless one of them stands for none. -/
theorem position_of_looselyEqual {v w : Value} {x y : Binary64} (h : v.looselyEqual room w = .ok true)
    (hx : v.number = .ok x) (hy : w.number = .ok y) :
    x.position = y.position ∨ x.position = none ∨ y.position = none := by
  cases hsame : v.same w with
  | true => exact Or.inl (position_of_same hsame hx hy)
  | false =>
    by_cases hv : v = null
    · subst hv
      obtain rfl := Except.ok.inj hx
      exact Or.inr (Or.inl rfl)
    by_cases hw : w = null
    · subst hw
      obtain rfl := Except.ok.inj hy
      exact Or.inr (Or.inr rfl)
    rw [looselyEqual_of_not_same hsame hv hw] at h
    split_ifs at h with hnumeric
    · exact position_of_sameNumeral h hx hy
    · rw [Bool.not_eq_true, Bool.or_eq_false_iff] at hnumeric
      exact position_of_sameText h hnumeric.1 hnumeric.2 hx hy

theorem below_eq_false {x y : Binary64} (h : x.position = y.position ∨ x.position = none ∨ y.position = none) :
    x.below y = false := by
  unfold Binary64.below
  rcases h with h | h | h
  · rw [h]
    cases y.position with
    | none => rfl
    | some q => exact decide_eq_false (Int.lt_irrefl q)
  · rw [h]
  · rw [h]
    cases x.position <;> rfl

theorem not_lessThan_of_position {v w : Value}
    (h : ∀ x y, v.number = .ok x → w.number = .ok y →
      x.position = y.position ∨ x.position = none ∨ y.position = none) : v.lessThan w ≠ .ok true := by
  intro hless
  obtain ⟨x, hx, hrest⟩ := bind_eq_ok_iff.mp hless
  obtain ⟨y, hy, hbelow⟩ := bind_eq_ok_iff.mp hrest
  have hpure := Except.ok.inj hbelow
  rw [below_eq_false (h x y hx hy)] at hpure
  cases hpure

theorem not_lessThan_of_looselyEqual {v w : Value} (h : v.looselyEqual room w = .ok true) : v.lessThan w ≠ .ok true :=
  not_lessThan_of_position fun _ _ hx hy => position_of_looselyEqual h hx hy

theorem not_greaterThan_of_looselyEqual {v w : Value} (h : v.looselyEqual room w = .ok true) :
    v.greaterThan w ≠ .ok true := by
  rw [greaterThan_eq_lessThan]
  exact not_lessThan_of_position fun _ _ hy hx => (position_of_looselyEqual h hx hy).imp Eq.symm Or.symm

theorem not_lessThan_of_greaterThan {v w : Value} (h : v.greaterThan w = .ok true) : v.lessThan w ≠ .ok true := by
  intro hless
  obtain ⟨x, hx, hrest⟩ := bind_eq_ok_iff.mp h
  obtain ⟨y, hy, habove⟩ := bind_eq_ok_iff.mp hrest
  rw [lessThan_of_numbers hx hy] at hless
  have hup := Except.ok.inj habove
  have hdown := Except.ok.inj hless
  unfold Binary64.below at hup hdown
  cases hp : x.position with
  | none =>
    rw [hp] at hdown
    cases hdown
  | some p =>
    cases hq : y.position with
    | none =>
      rw [hp, hq] at hdown
      cases hdown
    | some q =>
      rw [hp, hq] at hup hdown
      have hlt := of_decide_eq_true hup
      have hgt := of_decide_eq_true hdown
      omega

/-- Numbers lie in order or at the same place. -/
theorem same_below_cases {x y : Binary64} (hx : x.isNan = false) (hy : y.isNan = false) :
    (x.same y = true ∧ y.below x = false ∧ x.below y = false) ∨
      (x.same y = false ∧ y.below x = true ∧ x.below y = false) ∨
        (x.same y = false ∧ y.below x = false ∧ x.below y = true) := by
  obtain ⟨p, hp⟩ := Binary64.exists_position hx
  obtain ⟨q, hq⟩ := Binary64.exists_position hy
  unfold Binary64.same Binary64.below
  rw [hp, hq]
  dsimp only
  rcases Int.lt_trichotomy p q with h | h | h
  · exact Or.inr (Or.inr ⟨beq_false_of_ne (by omega), decide_eq_false (by omega), decide_eq_true h⟩)
  · exact Or.inl ⟨beq_iff_eq.mpr h, decide_eq_false (by omega), decide_eq_false (by omega)⟩
  · exact Or.inr (Or.inl ⟨beq_false_of_ne (by omega), decide_eq_true h, decide_eq_false (by omega)⟩)

/-! ## The comparisons by name -/

/-- What the comparison of a name says. -/
def answer (room : Nat) (left : Value) (name : String) (right : Value) : Except Fault Bool :=
  (left.compare room name right).result

/-- Equality and the two orders. -/
def trichotomy : List String := ["equals", "greater_than", "less_than"]

section Named

variable (v w : Value)

theorem answer_equals : v.answer room "equals" w = v.looselyEqual room w := rfl

theorem answer_not_equals : v.answer room "not_equals" w = (v.looselyEqual room w).map not := rfl

end Named

/-- At most one of the three comparisons holds. -/
theorem answer_unique {v w : Value} {name other : String} (hname : name ∈ trichotomy) (hother : other ∈ trichotomy)
    (h : v.answer room name w = .ok true) (h' : v.answer room other w = .ok true) : name = other := by
  simp only [trichotomy, List.mem_cons, List.not_mem_nil, or_false] at hname hother
  rcases hname with rfl | rfl | rfl <;> rcases hother with rfl | rfl | rfl
  · rfl
  · exact absurd h' (not_greaterThan_of_looselyEqual h)
  · exact absurd h' (not_lessThan_of_looselyEqual h)
  · exact absurd h (not_greaterThan_of_looselyEqual h')
  · rfl
  · exact absurd h' (not_lessThan_of_greaterThan h)
  · exact absurd h (not_lessThan_of_looselyEqual h')
  · exact absurd h (not_lessThan_of_greaterThan h')
  · rfl

/-- One of them holds when a number is compared with what stands for a number. -/
theorem exists_answer {v w : Value} {x y : Binary64} (hx : v.number = .ok x) (hy : w.number = .ok y)
    (hxn : x.isNan = false) (hyn : y.isNan = false) (hnumeric : (v.isNumeric || w.isNumeric) = true) :
    ∃ name ∈ trichotomy, ∀ other ∈ trichotomy, v.answer room other w = .ok (decide (other = name)) := by
  have hequal : v.answer room "equals" w = .ok (x.same y) := looselyEqual_of_numbers hx hy hxn hyn hnumeric
  have hgreater : v.answer room "greater_than" w = .ok (y.below x) :=
    (greaterThan_eq_lessThan v w).trans (lessThan_of_numbers hy hx)
  have hless : v.answer room "less_than" w = .ok (x.below y) := lessThan_of_numbers hx hy
  simp only [trichotomy, List.forall_mem_cons, hequal, hgreater, hless]
  rcases same_below_cases hxn hyn with ⟨h, h', h''⟩ | ⟨h, h', h''⟩ | ⟨h, h', h''⟩ <;> rw [h, h', h'']
  · exact ⟨"equals", by decide, rfl, rfl, rfl, nofun⟩
  · exact ⟨"greater_than", by decide, rfl, rfl, rfl, nofun⟩
  · exact ⟨"less_than", by decide, rfl, rfl, rfl, nofun⟩

/-- **The comparisons are consistent.**  At most one of the three holds, and exactly one between a number and what
stands for a number; equality and its negation are symmetric, but for the faults that they end in; an order read
backwards is the other order. -/
theorem compare_consistent (room : Nat) {v w : Value} (hv : v.KeysDiffer) (hw : w.KeysDiffer) :
    (∀ name ∈ trichotomy, ∀ other ∈ trichotomy,
      v.answer room name w = .ok true → v.answer room other w = .ok true → name = other) ∧
    (∀ x y, v.number = .ok x → w.number = .ok y → x.isNan = false → y.isNan = false →
      (v.isNumeric || w.isNumeric) = true →
        ∃ name ∈ trichotomy, ∀ other ∈ trichotomy, v.answer room other w = .ok (decide (other = name))) ∧
    (v.answer room "equals" w).toOption = (w.answer room "equals" v).toOption ∧
    (v.answer room "not_equals" w).toOption = (w.answer room "not_equals" v).toOption ∧
    v.answer room "not_equals" w = (v.answer room "equals" w).map not ∧
    v.answer room "greater_than" w = w.answer room "less_than" v := by
  have hcomm : (v.looselyEqual room w).toOption = _ := looselyEqual_comm hv hw
  have hmap : ∀ answer : Except Fault Bool, (answer.map not).toOption = answer.toOption.map not := by
    rintro (_ | _) <;> rfl
  refine ⟨fun _ hname _ hother => answer_unique hname hother, fun _ _ => exists_answer, hcomm, ?_, rfl,
    greaterThan_eq_lessThan v w⟩
  rw [answer_not_equals, answer_not_equals, hmap, hmap, hcomm]

/-- Dictionaries are compared whatever the order and kind of their keys; an integer beyond `2 ^ 53` equals the text of
the number that it is rounded to. -/
theorem compare_consistent_mixed :
    (dictionary [(int 1, text "a"), (int 2, text "b")]).answer 0 "equals"
        (dictionary [(int 2, text "b"), (bool true, text "a")]) = .ok true ∧
    (dictionary [(int 2, text "b"), (bool true, text "a")]).answer 0 "equals"
        (dictionary [(int 1, text "a"), (int 2, text "b")]) = .ok true ∧
    ∃ name ∈ trichotomy, ∀ other ∈ trichotomy,
      (int 9007199254740993).answer 0 other (text "9007199254740992") = .ok (decide (other = name)) := by
  have hleft : (dictionary [(int 1, text "a"), (int 2, text "b")]).KeysDiffer :=
    keysDiffer_of_plain (by simp [same, sameNumber, whole?]) (by simp [isContainer])
  have hright : (dictionary [(int 2, text "b"), (bool true, text "a")]).KeysDiffer :=
    keysDiffer_of_plain (by simp [same, sameNumber, whole?]) (by simp [isContainer])
  have hequal : (dictionary [(int 1, text "a"), (int 2, text "b")]).answer 0 "equals"
      (dictionary [(int 2, text "b"), (bool true, text "a")]) = .ok true := by
    rw [answer_equals]
    exact looselyEqual_of_same (by simp [same, sameEntries, sameNumber, whole?])
  have hsymm := (compare_consistent 0 hleft hright).2.2.1
  have hbig : (int 9007199254740993).KeysDiffer := .plain rfl
  have htext : (text "9007199254740992").KeysDiffer := .plain rfl
  have hx : (int 9007199254740993).number = .ok (.ofRatio false 9007199254740993 1) := by decide +kernel
  have hy : (text "9007199254740992").number = .ok (.ofRatio false 9007199254740992 1) := by decide +kernel
  have hone := (compare_consistent 0 hbig htext).2.1 _ _ hx hy (Binary64.isNan_ofUnits _ _ _)
    (Binary64.isNan_ofUnits _ _ _) rfl
  rw [hequal] at hsymm
  have hback : ∀ answer : Except Fault Bool, some true = answer.toOption → answer = .ok true := by
    rintro (_ | answer) h
    · cases h
    · exact congrArg Except.ok (Option.some.inj h).symm
  exact ⟨hequal, hback _ hsymm, hone⟩

end Value

end Chatflow
