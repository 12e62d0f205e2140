import Chatflow.Proofs.Condition.Comparing
import Chatflow.Proofs.Number.Notation

/-!
# Values and their own texts

The text of a number is read as a number at the same place (`same_of_ownText`): an integer is rounded as its digits are,
a double-precision number is what the shortest digits are rounded to, and an integral one loses nothing but the sign of
zero.  So every value equals its own text, and another text only when both stand for one number
(`looselyEqual_text_iff`).
-/

namespace Chatflow

namespace Value

open Binary64 (same_comm same_of_position same_self isNan_of_same)

variable {room : Nat}

/-! ## Texts that are read -/

theorem number_of_clean {cs : List Char} (h : ∀ c ∈ cs, Numeral.Clean c) (hne : cs ≠ []) :
    (text (String.ofList cs)).number = .ok ((Binary64.read? cs).getD .nan) := by
  have htrim : Text.trim (String.ofList cs).toList = cs := by
    rw [String.toList_ofList]
    exact Numeral.trimBy_eq_self fun c hc => Numeral.isBlank_of_clean (h c hc)
  have hempty : ¬cs.isEmpty = true := by simpa using hne
  rw [number, htrim, if_neg hempty, Numeral.real?, Numeral.plain?_of_clean h]
  rfl

theorem clean_of_mem_signChars {negative : Bool} {c : Char} (h : c ∈ signChars negative) : Numeral.Clean c := by
  cases negative with
  | true =>
    rw [List.mem_singleton.mp h]
    decide
  | false => cases h

/-- Digits with a sign stand for the number nearest to what they spell. -/
theorem number_signed (n : Figures) (negative : Bool) :
    (text (String.ofList (signChars negative ++ n.chars))).number = .ok (Decimal.nearest negative n.decimal) := by
  have hclean : ∀ c ∈ signChars negative ++ n.chars, Numeral.Clean c := fun c hc =>
    (List.mem_append.mp hc).elim clean_of_mem_signChars n.clean_chars
  have hne : signChars negative ++ n.chars ≠ [] := by
    obtain ⟨c, cs, hchars, -⟩ := n.exists_chars_eq_cons
    rw [hchars]
    exact List.append_ne_nil_of_right_ne_nil _ (List.cons_ne_nil c cs)
  rw [number_of_clean hclean hne, n.read?_signed]
  rfl

/-- **The text of an integer stands for what the integer is rounded to.** -/
theorem number_toString (n : Int) : (text (toString n)).number = .ok (.ofRatio (decide (n < 0)) n.natAbs 1) := by
  obtain ⟨w, hchars, hdecimal⟩ := exists_figures_integer n.natAbs
  have hratio : (⟨n.natAbs, 0⟩ : Decimal).ratio = (n.natAbs, 1) := congrArg (·, 1) (Nat.mul_one _)
  rw [toString_int, ← hchars, number_signed, hdecimal, Decimal.nearest_eq_ofRatio, hratio]

/-- **The text of a finite number stands for that very number.** -/
theorem number_text_finite (layout : Layout) (negative : Bool) {units : Nat} (h : Binary64.OnGrid units) :
    (text ((Binary64.finite negative units h).text layout)).number = .ok (.finite negative units h) := by
  obtain ⟨w, hchars, hunits⟩ := exists_figures_magnitude layout h.2
  have hnearest : Decimal.nearest negative w.decimal = .finite negative units h := by
    rw [Decimal.nearest_eq_ofRatio]
    exact Binary64.ofUnits_of_nearest negative h hunits
  rw [Binary64.text, sign_append, ← hchars, number_signed, hnearest]

/-! ## Numbers and their texts -/

/-- The text of a double-precision number stands for a number at its place. -/
theorem position_of_realText {x y : Binary64} {s : String} (hxn : x.isNan = false) (hs : (real x).rendered room = .ok s)
    (hy : (text s).number = .ok y) : y.position = x.position := by
  rw [rendered] at hs
  obtain rfl := Except.ok.inj hs
  split_ifs at hy with hinteger
  · -- shown as an integer, a negative zero loses its sign, and with it nothing of its place
    obtain rfl := Except.ok.inj ((number_toString x.truncate).symm.trans hy)
    exact Binary64.position_ofRatio (Binary64.sameInt_truncate hinteger)
  · cases x with
    | nan => cases hxn
    | infinite negative =>
      have hword : (text ((Binary64.infinite negative).text displayedNumber)).number = .ok (.infinite negative) := by
        cases negative <;> decide +kernel
      rw [Except.ok.inj (hword.symm.trans hy)]
    | finite negative units h =>
      rw [Except.ok.inj ((number_text_finite displayedNumber negative h).symm.trans hy)]

/-- **A number and its text stand for numbers at one place**, when they stand for numbers at all. -/
theorem same_of_ownText {v : Value} {s : String} {x y : Binary64} (hnumeric : v.isNumeric = true)
    (hs : v.rendered room = .ok s) (hx : v.number = .ok x) (hy : (text s).number = .ok y)
    (hxn : x.isNan = false) (hyn : y.isNan = false) : x.same y = true := by
  refine same_of_position hxn ?_
  cases v with
  | bool b =>
    -- the words for truth values are no numerals
    have hword : (text (toString b)).number = .ok .nan := by cases b <;> decide +kernel
    obtain rfl := Except.ok.inj hs
    obtain rfl := Except.ok.inj (hword.symm.trans hy)
    cases hyn
  | int n =>
    obtain rfl := rendered_int hs
    obtain rfl := Except.ok.inj ((number_toString n).symm.trans hy)
    rw [(Binary64.ofInt?_eq_some_iff.mp (ofInt?_of_number rfl hx)).1]
  | real z =>
    obtain rfl := Except.ok.inj hx
    exact position_of_realText hxn hs hy
  | _ => cases hnumeric

/-! ## Values and texts -/

theorem same_text_comm (v : Value) (t : String) : v.same (text t) = (text t).same v := by
  cases v with
  | text s =>
    rw [same, same]
    exact Bool.beq_comm
  | _ => simp [same, sameNumber, whole?]

theorem sameText_text_comm (v : Value) (t : String) : (text t).sameText room v = v.sameText room (text t) := by
  unfold sameText
  cases v.rendered room with
  | error fault => rfl
  | ok s => exact congrArg Except.ok Bool.beq_comm

theorem sameNumeral_text_comm (v : Value) (t : String) :
    (text t).sameNumeral room v = v.sameNumeral room (text t) := by
  obtain ⟨y, hy⟩ : ∃ y, (text t).number = .ok y := ⟨_, rfl⟩
  rw [sameNumeral, sameNumeral, hy, sameText_text_comm]
  cases v.number with
  | error fault => rfl
  | ok x =>
    dsimp only [bind, Except.bind]
    rw [same_comm y x, Bool.and_comm]

theorem looselyEqual_text_comm (v : Value) (t : String) : (text t).looselyEqual room v = v.looselyEqual room (text t) := by
  have htext : text t ≠ null := nofun
  by_cases hv : v = null
  · rw [hv, looselyEqual_null_left htext, looselyEqual_null_right htext]
  · rw [looselyEqual_eq htext hv, looselyEqual_eq hv htext, same_text_comm, Bool.or_comm,
      sameNumeral_text_comm, sameText_text_comm]

theorem sameText_text {v : Value} {s : String} (hs : v.rendered room = .ok s) (t : String) :
    v.sameText room (text t) = .ok (s == t) := by
  rw [sameText, hs]
  rfl

/-- **A value and a text** go by the numbers that they stand for, when the value is a number and both stand for one, and
by the value's own text else. -/
theorem looselyEqual_text {v : Value} {s t : String} {x y : Binary64} (hv : v ≠ null) (hs : v.rendered room = .ok s)
    (hx : v.number = .ok x) (hy : (text t).number = .ok y) :
    v.looselyEqual room (text t) =
      .ok (if v.isNumeric = true ∧ x.isNan = false ∧ y.isNan = false then x.same y else s == t) := by
  split_ifs with hnumbers
  · obtain ⟨hnumeric, hxn, hyn⟩ := hnumbers
    exact looselyEqual_of_numbers hx hy hxn hyn (by rw [hnumeric, Bool.true_or])
  · cases hsame : v.same (text t) with
    | true =>
      rw [same_text_comm] at hsame
      obtain rfl := same_text_iff.mp hsame
      obtain rfl : t = s := Except.ok.inj hs
      rw [looselyEqual_of_same (same_text_iff.mpr rfl), beq_self_eq_true]
    | false =>
      rw [looselyEqual_of_not_same hsame hv nofun, ← sameText_text hs t]
      split_ifs with hnumeric
      · refine sameNumeral_of_nan hx hy ?_
        rw [or_iff_not_and_not, Bool.not_eq_true, Bool.not_eq_true]
        exact fun hnan => hnumbers ⟨(Bool.or_eq_true _ _).mp hnumeric |>.resolve_right Bool.false_ne_true, hnan⟩
      · rfl

/-- A number or truth value and a text are read as the same double; blank text is read as zero. -/
def SharesNumber (v : Value) (t : String) : Prop :=
  v.isNumeric = true ∧ ∃ x y, v.number = .ok x ∧ (text t).number = .ok y ∧ x.same y = true

theorem exists_number {v : Value} (hsize : ∀ n, v = int n → (Binary64.ofInt? n).isSome = true) :
    ∃ x, v.number = .ok x := by
  cases v with
  | int n =>
    obtain ⟨x, hx⟩ := Option.isSome_iff_exists.mp (hsize n rfl)
    refine ⟨x, ?_⟩
    rw [number, hx]
    rfl
  | _ => exact ⟨_, rfl⟩

/-- A value equals a text exactly when that is its own one or is read as the same number. -/
theorem looselyEqual_text_iff {v : Value} {s : String} (hv : v ≠ null) (hs : v.rendered room = .ok s)
    (hsize : ∀ n, v = int n → (Binary64.ofInt? n).isSome = true) (t : String) :
    v.looselyEqual room (text t) = .ok true ↔ t = s ∨ v.SharesNumber t := by
  obtain ⟨x, hx⟩ := exists_number hsize
  obtain ⟨y, hy⟩ : ∃ y, (text t).number = .ok y := ⟨_, rfl⟩
  rw [looselyEqual_text hv hs hx hy, Except.ok.injEq]
  constructor
  · split_ifs with hnumbers
    · exact fun h => Or.inr ⟨hnumbers.1, x, y, hx, hy, h⟩
    · exact fun h => Or.inl (beq_iff_eq.mp h).symm
  · rintro (rfl | ⟨hnumeric, x', y', hx', hy', h⟩)
    · split_ifs with hnumbers
      · exact same_of_ownText hnumbers.1 hs hx hy hnumbers.2.1 hnumbers.2.2
      · exact beq_self_eq_true t
    · obtain rfl := Except.ok.inj (hx.symm.trans hx')
      obtain rfl := Except.ok.inj (hy.symm.trans hy')
      rw [if_pos ⟨hnumeric, isNan_of_same h⟩, h]

/-- **A value equals its own text, from either side, and any other text exactly when both stand for one number.** -/
theorem looselyEqual_ownText (room : Nat) {v : Value} {s : String} (hv : v ≠ null) (hs : v.rendered room = .ok s)
    (hsize : ∀ n, v = int n → (Binary64.ofInt? n).isSome = true) :
    v.looselyEqual room (text s) = .ok true ∧ (text s).looselyEqual room v = .ok true ∧
      ∀ t, (v.looselyEqual room (text t) = .ok true ↔ t = s ∨ v.SharesNumber t) ∧
        ((text t).looselyEqual room v = .ok true ↔ t = s ∨ v.SharesNumber t) := by
  have hown : v.looselyEqual room (text s) = .ok true := (looselyEqual_text_iff hv hs hsize s).mpr (Or.inl rfl)
  refine ⟨hown, (looselyEqual_text_comm v s).trans hown, fun t => ⟨looselyEqual_text_iff hv hs hsize t, ?_⟩⟩
  rw [looselyEqual_text_comm]
  exact looselyEqual_text_iff hv hs hsize t

theorem looselyEqual_ownText_thirty :
    (int 30).looselyEqual 0 (text "30") = .ok true ∧ (text "30").looselyEqual 0 (int 30) = .ok true ∧
      (int 30).looselyEqual 0 (text "3e1") = .ok true ∧ (text "thirty").looselyEqual 0 (int 30) ≠ .ok true := by
  have hsize : ∀ n, int 30 = int n → (Binary64.ofInt? n).isSome = true := by
    rintro n hn
    obtain rfl := int.inj hn
    decide +kernel
  have hx : (int 30).number = .ok (.ofRatio false 30 1) := by decide +kernel
  have hy : (text "3e1").number = .ok (.ofRatio false 30 1) := by decide +kernel
  have hword : (text "thirty").number = .ok .nan := by decide +kernel
  obtain ⟨hown, hback, hall⟩ := looselyEqual_ownText 0 (v := int 30) (s := "30") nofun rfl hsize
  refine ⟨hown, hback, (hall "3e1").1.mpr (Or.inr ⟨rfl, _, _, hx, hy, same_self (Binary64.isNan_ofUnits _ _ _)⟩), ?_⟩
  rw [Ne, (hall "thirty").2, not_or]
  refine ⟨by decide, ?_⟩
  rintro ⟨-, x, y, -, hy, hsame⟩
  obtain rfl := Except.ok.inj (hword.symm.trans hy)
  exact Bool.noConfusion (isNan_of_same hsame).2

/-- Another text than the own one of a number may stand for it. -/
theorem one_equals_longer_text :
    (int 1).rendered 0 = .ok "1" ∧ (int 1).looselyEqual 0 (text "1.0") = .ok true ∧ "1.0" ≠ "1" := by
  have hx : (int 1).number = .ok (.ofRatio false 1 1) := by decide +kernel
  have hy : (text "1.0").number = .ok (.ofRatio false 1 1) := by decide +kernel
  have hn := Binary64.isNan_ofUnits false (1 * Binary64.one) 1
  refine ⟨rfl, ?_, by decide⟩
  rw [looselyEqual_of_numbers hx hy hn hn rfl]
  exact congrArg _ (same_self hn)

end Value

end Chatflow
