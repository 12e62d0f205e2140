import Chatflow.Number.Numeral
import Chatflow.Proofs.Number.Decimal

/-!
# Numbers in figures

A numeral of printable ASCII characters without underscores is read as it stands (`Numeral.plain?_of_clean`).  Digits
with a point and a power of ten (`Figures`) are read as the decimal number that they spell (`Figures.read?_chars`).

The texts of numbers are of this kind, in positional and in scientific notation, and what they spell is rounded to the
number itself (`exists_figures_magnitude`); so are the texts of integers (`exists_figures_integer`).
-/

namespace Chatflow

/-! ## Printable characters -/

namespace Numeral

/-- A printable ASCII character other than the blank and the underscore. -/
def Clean (c : Char) : Prop := 0x20 < c.toNat ∧ c.toNat < 0x7f ∧ c ≠ '_'

instance : DecidablePred Clean := fun c => inferInstanceAs (Decidable (0x20 < c.toNat ∧ c.toNat < 0x7f ∧ c ≠ '_'))

theorem toNat_of_isDigit {c : Char} (h : c.isDigit = true) : 48 ≤ c.toNat ∧ c.toNat ≤ 57 := by
  simp only [Char.isDigit, Bool.and_eq_true, decide_eq_true_eq] at h
  exact h

theorem clean_of_isDigit {c : Char} (h : c.isDigit = true) : Clean c := by
  obtain ⟨hlow, hhigh⟩ := toNat_of_isDigit h
  refine ⟨by omega, by omega, ?_⟩
  rintro rfl
  cases h

theorem isBlank_of_clean {c : Char} (h : Clean c) : Text.isBlank c = false := by
  have hapart : ∀ range ∈ Text.blanks, range.2 ≤ 0x20 ∨ 0x7f ≤ range.1 := by decide
  obtain ⟨hlow, hhigh, -⟩ := h
  rw [Text.isBlank, List.any_eq_false]
  intro range hrange
  rw [Bool.and_eq_true, decide_eq_true_eq, decide_eq_true_eq]
  have := hapart range hrange
  omega

theorem isMargin_of_clean {c : Char} (h : Clean c) : isMargin c = false := by
  rw [isMargin, isBlank_of_clean h, Bool.false_and]

theorem asciiDigit_of_clean {c : Char} (h : Clean c) : Text.asciiDigit c = c :=
  if_pos (Nat.lt_trans h.2.1 (by decide))

theorem trimBy_eq_self {p : Char → Bool} {cs : List Char} (h : ∀ c ∈ cs, p c = false) : Text.trimBy p cs = cs := by
  have hdrop : ∀ ds : List Char, (∀ c ∈ ds, p c = false) → ds.dropWhile p = ds := by
    rintro (_ | ⟨d, ds⟩) hds
    · rfl
    · exact List.dropWhile_cons_of_neg (by rw [hds d List.mem_cons_self]; exact Bool.false_ne_true)
  rw [Text.trimBy, Text.trimStart, hdrop cs h, Text.trimEnd, hdrop cs.reverse fun c hc => h c (List.mem_reverse.mp hc),
    List.reverse_reverse]

theorem withoutUnderscores?_of_clean {cs : List Char} (h : ∀ c ∈ cs, Clean c) {previous : Char} (hp : previous ≠ '_') :
    withoutUnderscores? previous cs = some cs := by
  induction cs generalizing previous with
  | nil => rw [withoutUnderscores?, if_neg hp]
  | cons c cs ih =>
    have hc := (h c List.mem_cons_self).2.2
    rw [withoutUnderscores?, if_neg hc, if_neg (by simp [hp]), ih (fun d hd => h d (List.mem_cons_of_mem c hd)) hc]
    rfl

/-- **A clean numeral is read as it stands.** -/
theorem plain?_of_clean {cs : List Char} (h : ∀ c ∈ cs, Clean c) : plain? cs = some cs := by
  have hdigits : cs.map Text.asciiDigit = cs := by
    rw [List.map_congr_left fun c hc => asciiDigit_of_clean (h c hc), List.map_id']
  rw [plain?, hdigits, trimBy_eq_self fun c hc => isMargin_of_clean (h c hc)]
  exact withoutUnderscores?_of_clean h (by decide)

end Numeral

/-! ## Digits, a point and a power of ten -/

theorem Decimal.span_digits {ds rest : List Char} (hd : ∀ c ∈ ds, c.isDigit = true)
    (hr : ∀ c ∈ rest.head?, c.isDigit = false) :
    (ds ++ rest).takeWhile Char.isDigit = ds ∧ (ds ++ rest).dropWhile Char.isDigit = rest := by
  rw [List.takeWhile_append_of_pos hd, List.dropWhile_append_of_pos hd]
  cases rest with
  | nil => exact ⟨List.append_nil ds, rfl⟩
  | cons c cs =>
    have hc : ¬c.isDigit = true := by rw [hr c rfl]; exact Bool.false_ne_true
    rw [List.takeWhile_cons_of_neg hc, List.dropWhile_cons_of_neg hc]
    exact ⟨List.append_nil ds, rfl⟩

/-- A number in figures: the digits before the point, those behind it, and those of the power of ten with its sign
(`true` for a minus). -/
structure Figures where
  whole : List Char
  fraction : List Char
  power : Option (Bool × List Char)
  whole_ne : whole ≠ []
  whole_digits : ∀ c ∈ whole, c.isDigit = true
  fraction_digits : ∀ c ∈ fraction, c.isDigit = true
  power_digits : ∀ p ∈ power, p.2 ≠ [] ∧ ∀ c ∈ p.2, c.isDigit = true

namespace Figures

/-- The characters from the point on; without digits behind it there is none. -/
def point : List Char → List Char
  | [] => []
  | ds => '.' :: ds

/-- The characters of a power of ten. -/
def tail : Option (Bool × List Char) → List Char
  | none => []
  | some (negative, ds) => 'e' :: (if negative then '-' else '+') :: ds

/-- The power of ten. -/
def exponent : Option (Bool × List Char) → Int
  | none => 0
  | some (negative, ds) => if negative then -(Decimal.ofDigits ds : Int) else Decimal.ofDigits ds

/-- All its characters. -/
def chars (n : Figures) : List Char := n.whole ++ (point n.fraction ++ tail n.power)

/-- The decimal number that they spell. -/
def decimal (n : Figures) : Decimal :=
  ⟨Decimal.ofDigits (n.whole ++ n.fraction), exponent n.power - n.fraction.length⟩

theorem head_tail {p : Option (Bool × List Char)} {c : Char} (h : c ∈ (tail p).head?) : c = 'e' := by
  cases p with
  | none => cases h
  | some p => exact (Option.some.inj h).symm

theorem readExponent?_tail {p : Option (Bool × List Char)}
    (h : ∀ q ∈ p, q.2 ≠ [] ∧ ∀ c ∈ q.2, c.isDigit = true) : Decimal.readExponent? (tail p) = some (exponent p) := by
  cases p with
  | none => rfl
  | some p =>
    obtain ⟨negative, ds⟩ := p
    obtain ⟨hne, hds⟩ := h _ rfl
    have hempty : ds.isEmpty = false := by simpa using hne
    have hall : ds.all Char.isDigit = true := List.all_eq_true.mpr hds
    cases negative <;> simp [tail, exponent, Decimal.readExponent?, Decimal.takeSign, hempty, hall]

theorem takeFraction_point {ds : List Char} (hd : ∀ c ∈ ds, c.isDigit = true) (p : Option (Bool × List Char)) :
    Decimal.takeFraction (point ds ++ tail p) = (ds, tail p) := by
  cases ds with
  | nil =>
    cases p with
    | none => rfl
    | some p => rfl
  | cons d ds =>
    have hstop : ∀ c ∈ (tail p).head?, c.isDigit = false := by
      intro c hc
      rw [head_tail hc]
      rfl
    obtain ⟨htake, hdrop⟩ := Decimal.span_digits hd hstop
    exact Prod.ext htake hdrop

/-- **Digits are read as what they spell.** -/
theorem read?_chars (n : Figures) : Decimal.read? n.chars = some n.decimal := by
  have hstop : ∀ c ∈ (point n.fraction ++ tail n.power).head?, c.isDigit = false := by
    intro c hc
    cases hf : n.fraction with
    | nil =>
      rw [hf] at hc
      rw [head_tail hc]
      rfl
    | cons d ds =>
      rw [hf] at hc
      obtain rfl := Option.some.inj hc
      rfl
  obtain ⟨htake, hdrop⟩ := Decimal.span_digits n.whole_digits hstop
  have hwhole : n.whole.isEmpty = false := by simpa using n.whole_ne
  unfold Decimal.read? chars
  rw [htake, hdrop, takeFraction_point n.fraction_digits]
  dsimp only
  rw [hwhole, Bool.false_and, if_neg Bool.false_ne_true, readExponent?_tail n.power_digits]
  rfl

theorem clean_chars (n : Figures) {c : Char} (h : c ∈ n.chars) : Numeral.Clean c := by
  rcases List.mem_append.mp h with h | h
  · exact Numeral.clean_of_isDigit (n.whole_digits c h)
  rcases List.mem_append.mp h with h | h
  · cases hf : n.fraction with
    | nil =>
      rw [hf] at h
      cases h
    | cons d ds =>
      rw [hf] at h
      rcases List.mem_cons.mp h with rfl | h
      · decide
      · exact Numeral.clean_of_isDigit (n.fraction_digits c (hf ▸ h))
  · cases hp : n.power with
    | none =>
      rw [hp] at h
      cases h
    | some p =>
      obtain ⟨negative, ds⟩ := p
      rw [hp] at h
      rcases List.mem_cons.mp h with rfl | h
      · decide
      rcases List.mem_cons.mp h with rfl | h
      · cases negative <;> decide
      · exact Numeral.clean_of_isDigit ((n.power_digits _ hp).2 c h)

theorem exists_chars_eq_cons (n : Figures) : ∃ c cs, n.chars = c :: cs ∧ c.isDigit = true := by
  obtain ⟨c, cs, hwhole⟩ := List.exists_cons_of_ne_nil n.whole_ne
  refine ⟨c, cs ++ (point n.fraction ++ tail n.power), ?_, n.whole_digits c (hwhole ▸ List.mem_cons_self)⟩
  rw [chars, hwhole, List.cons_append]

end Figures

/-! ## Signs -/

/-- The characters of a sign. -/
def signChars (negative : Bool) : List Char := if negative then ['-'] else []

theorem sign_append (negative : Bool) (cs : List Char) :
    (if negative then "-" else "") ++ String.ofList cs = String.ofList (signChars negative ++ cs) := by
  rw [String.ofList_append]
  cases negative <;> rfl

theorem toString_int (n : Int) :
    toString n = String.ofList (signChars (decide (n < 0)) ++ Nat.toDigits 10 n.natAbs) := by
  rw [← sign_append, ← Nat.repr_eq_ofList_toDigits]
  cases n with
  | ofNat m =>
    have hnegative : decide (Int.ofNat m < 0) = false := decide_eq_false (Int.not_lt.mpr (Int.natCast_nonneg m))
    rw [hnegative]
    exact (String.empty_append).symm
  | negSucc m =>
    have hnegative : decide (Int.negSucc m < 0) = true := decide_eq_true (Int.negSucc_lt_zero m)
    rw [hnegative]
    rfl

theorem Decimal.takeSign_signChars (negative : Bool) {c : Char} (hc : c.isDigit = true) (cs : List Char) :
    takeSign (signChars negative ++ c :: cs) = (negative, c :: cs) := by
  cases negative with
  | true => rfl
  | false =>
    have hminus : c ≠ '-' := by rintro rfl; cases hc
    have hplus : c ≠ '+' := by rintro rfl; cases hc
    exact takeSign.eq_3 (c :: cs) (fun _ h => hminus (List.cons.inj h).1) fun _ h => hplus (List.cons.inj h).1

theorem toLower_of_isDigit {c : Char} (h : c.isDigit = true) : c.toLower = c := by
  have hrange := Numeral.toNat_of_isDigit h
  refine dif_neg fun hupper => ?_
  have hlow : 65 ≤ c.toNat := hupper.1
  omega

/-- No word that begins with a letter is read from digits. -/
theorem Binary64.wordOf_ne {c d : Char} (hc : c.isDigit = true) (hd : d.isDigit = false) (cs ds : List Char) :
    wordOf (c :: cs) ≠ String.ofList (d :: ds) := by
  rw [wordOf, List.map_cons, toLower_of_isDigit hc]
  intro h
  rw [(List.cons.inj (String.ofList_injective h)).1, hd] at hc
  cases hc

/-- **A sign and digits are read as the number nearest to what they spell.** -/
theorem Figures.read?_signed (n : Figures) (negative : Bool) :
    Binary64.read? (signChars negative ++ n.chars) = some (Decimal.nearest negative n.decimal) := by
  obtain ⟨c, cs, hchars, hc⟩ := n.exists_chars_eq_cons
  have hread := n.read?_chars
  rw [hchars] at hread ⊢
  have hinf : Binary64.wordOf (c :: cs) ≠ "inf" := Binary64.wordOf_ne hc rfl cs ['n', 'f']
  have hinfinity : Binary64.wordOf (c :: cs) ≠ "infinity" :=
    Binary64.wordOf_ne hc rfl cs ['n', 'f', 'i', 'n', 'i', 't', 'y']
  have hnan : Binary64.wordOf (c :: cs) ≠ "nan" := Binary64.wordOf_ne hc rfl cs ['a', 'n']
  unfold Binary64.read?
  rw [Decimal.takeSign_signChars negative hc cs]
  dsimp only
  rw [if_neg (not_or_intro hinf hinfinity), if_neg hnan, hread]
  rfl

/-! ## The texts of numbers -/

theorem Figures.point_of_ne_nil {ds : List Char} (h : ds ≠ []) : point ds = '.' :: ds := by
  cases ds with
  | nil => exact absurd rfl h
  | cons d ds => rfl

theorem isDigit_of_mem_zeros {k : Nat} {c : Char} (h : c ∈ List.replicate k '0') : c.isDigit = true := by
  rw [List.eq_of_mem_replicate h]
  rfl

theorem isDigit_of_mem_append {xs ys : List Char} (hx : ∀ c ∈ xs, c.isDigit = true) (hy : ∀ c ∈ ys, c.isDigit = true) :
    ∀ c ∈ xs ++ ys, c.isDigit = true :=
  fun c hc => (List.mem_append.mp hc).elim (hx c) (hy c)

/-- Zeros in front of digits change nothing. -/
theorem Decimal.ofDigits_zeros_append (k : Nat) (ds : List Char) :
    ofDigits (List.replicate k '0' ++ ds) = ofDigits ds := by
  rw [ofDigits_append, ofDigits_zeros, Nat.zero_mul, Nat.zero_add]

section Layouts

open Decimal (ofDigits ofLeading)

variable {ds : List Char} (hne : ds ≠ []) (hd : ∀ c ∈ ds, c.isDigit = true)

include hne hd

/-- Positional notation below one. -/
theorem exists_figures_below_one {first : Int} (h : first < 0) :
    ∃ n : Figures, n.chars = Layout.positional ds first ∧ n.decimal = ofLeading ds first := by
  let zeros := List.replicate (-first - 1).toNat '0'
  have hdigits := isDigit_of_mem_append (fun c hc => isDigit_of_mem_zeros hc : ∀ c ∈ zeros, c.isDigit = true) hd
  have hfraction : zeros ++ ds ≠ [] := List.append_ne_nil_of_right_ne_nil zeros hne
  refine ⟨⟨['0'], zeros ++ ds, none, List.cons_ne_nil _ _, fun _ => isDigit_of_mem_zeros (k := 1), hdigits, nofun⟩, ?_, ?_⟩
  · rw [Layout.positional, if_pos h, Figures.chars, Figures.point_of_ne_nil hfraction]
    exact congrArg (['0'] ++ ·) (List.append_nil _)
  · have hcoefficient : ofDigits (['0'] ++ (zeros ++ ds)) = ofDigits ds := by
      rw [← List.append_assoc]
      exact Decimal.ofDigits_zeros_append _ ds
    have hscale : (0 : Int) - (zeros ++ ds).length = first + 1 - ds.length := by
      rw [List.length_append, List.length_replicate]
      omega
    rw [Figures.decimal, hcoefficient, Figures.exponent, hscale, ofLeading]

/-- Positional notation of a whole number. -/
theorem exists_figures_whole {first : Int} (h : ¬first < 0) (hshort : ds.length ≤ (first + 1).toNat) :
    ∃ n : Figures,
      n.chars = Layout.positional ds first ∧ n.decimal.nearestUnits = (ofLeading ds first).nearestUnits := by
  let k := (first + 1).toNat - ds.length
  have hdigits := isDigit_of_mem_append hd fun c hc => isDigit_of_mem_zeros (k := k) hc
  have hwhole : ds ++ List.replicate k '0' ≠ [] := List.append_ne_nil_of_left_ne_nil hne _
  refine ⟨⟨ds ++ List.replicate k '0', ['0'], none, hwhole, hdigits, fun _ => isDigit_of_mem_zeros (k := 1), nofun⟩, ?_, ?_⟩
  · rw [Layout.positional, if_neg h]
    dsimp only
    rw [List.take_of_length_le hshort, List.drop_of_length_le hshort]
    rfl
  · -- the zeros up to the point and the one behind it go into the scale
    have hcoefficient : ofDigits (ds ++ List.replicate k '0' ++ ['0']) = ofDigits ds * 10 ^ (k + 1) := by
      have hzeros : List.replicate k '0' ++ ['0'] = List.replicate (k + 1) '0' := List.replicate_succ'.symm
      rw [List.append_assoc, hzeros, Decimal.ofDigits_append, Decimal.ofDigits_zeros, List.length_replicate,
        Nat.add_zero]
    have hscale : (0 : Int) - 1 + (k + 1 : Nat) = first + 1 - ds.length := by omega
    have hdecimal : Decimal.nearestUnits ⟨ofDigits ds * 10 ^ (k + 1), 0 - 1⟩ = (ofLeading ds first).nearestUnits := by
      rw [Decimal.nearestUnits_shift, hscale, ofLeading]
    rw [Figures.decimal, hcoefficient]
    exact hdecimal

/-- Positional notation with digits on both sides of the point. -/
theorem exists_figures_mixed {first : Int} (h : ¬first < 0) (hlong : (first + 1).toNat < ds.length) :
    ∃ n : Figures, n.chars = Layout.positional ds first ∧ n.decimal = ofLeading ds first := by
  let k := (first + 1).toNat
  have hwhole : ds.take k ≠ [] := by
    rw [Ne, List.take_eq_nil_iff, not_or]
    exact ⟨by omega, hne⟩
  have hfraction : ds.drop k ≠ [] := by
    rw [Ne, List.drop_eq_nil_iff]
    omega
  refine ⟨⟨ds.take k, ds.drop k, none, hwhole, fun c hc => hd c (List.mem_of_mem_take hc),
    fun c hc => hd c (List.mem_of_mem_drop hc), nofun⟩, ?_, ?_⟩
  · have hzeros : k - ds.length = 0 := by omega
    have hempty : (ds.drop k).isEmpty = false := by simpa using hlong
    rw [Layout.positional, if_neg h, Figures.chars, Figures.point_of_ne_nil hfraction]
    dsimp only
    rw [hzeros, hempty]
    simp [Figures.tail, k]
  · have hscale : (0 : Int) - (ds.drop k).length = first + 1 - ds.length := by
      rw [List.length_drop]
      omega
    rw [Figures.decimal, List.take_append_drop, Figures.exponent, hscale, ofLeading]

/-- **Positional notation** spells digits and the place of the first one. -/
theorem exists_figures_positional (first : Int) :
    ∃ n : Figures,
      n.chars = Layout.positional ds first ∧ n.decimal.nearestUnits = (ofLeading ds first).nearestUnits := by
  by_cases h : first < 0
  · obtain ⟨n, hchars, hdecimal⟩ := exists_figures_below_one hne hd h
    exact ⟨n, hchars, congrArg _ hdecimal⟩
  · rcases Nat.lt_or_ge (first + 1).toNat ds.length with hlong | hshort
    · obtain ⟨n, hchars, hdecimal⟩ := exists_figures_mixed hne hd h hlong
      exact ⟨n, hchars, congrArg _ hdecimal⟩
    · exact exists_figures_whole hne hd h hshort

/-- **Scientific notation** spells them as well. -/
theorem exists_figures_scientific (first : Int) :
    ∃ n : Figures, n.chars = Layout.scientific ds first ∧ n.decimal = ofLeading ds first := by
  let power := Nat.toDigits 10 first.natAbs
  let zeros := List.replicate (2 - power.length) '0'
  obtain ⟨d, rest, rfl⟩ := List.exists_cons_of_ne_nil hne
  have hpower : zeros ++ power ≠ [] ∧ ∀ c ∈ zeros ++ power, c.isDigit = true :=
    ⟨List.append_ne_nil_of_right_ne_nil zeros Nat.toDigits_ne_nil,
      isDigit_of_mem_append (fun _ => isDigit_of_mem_zeros) fun _ =>
        Nat.isDigit_of_mem_toDigits (by decide) (by decide)⟩
  refine ⟨⟨[d], rest, some (decide (first < 0), zeros ++ power), List.cons_ne_nil _ _,
    fun c hc => hd c (List.mem_cons.mpr (Or.inl (List.mem_singleton.mp hc))),
    fun c hc => hd c (List.mem_cons_of_mem d hc), ?_⟩, ?_, ?_⟩
  · rintro p hp
    obtain rfl := Option.some.inj hp
    exact hpower
  · cases rest with
    | nil => simp [Figures.chars, Figures.point, Figures.tail, Layout.scientific, zeros, power]
    | cons e rest => simp [Figures.chars, Figures.point, Figures.tail, Layout.scientific, zeros, power]
  · have hvalue : ofDigits (zeros ++ power) = first.natAbs := by
      rw [Decimal.ofDigits_zeros_append, Decimal.ofDigits_toDigits]
    have hexponent : Figures.exponent (some (decide (first < 0), zeros ++ power)) = first := by
      rw [Figures.exponent, hvalue]
      split_ifs with hnegative <;> simp only [decide_eq_true_eq] at hnegative <;> omega
    have hscale : first - rest.length = first + 1 - (d :: rest).length := by
      rw [List.length_cons]
      omega
    rw [Figures.decimal, hexponent, ofLeading, ← hscale]
    rfl

end Layouts

theorem Layout.magnitude_zero (layout : Layout) : layout.magnitude 0 = ['0', '.', '0'] := by
  rw [magnitude, if_pos rfl]

theorem Layout.magnitude_of_ne_zero (layout : Layout) {u : Nat} (hu : u ≠ 0) :
    layout.magnitude u = positional (Decimal.shortest u).digits.1 (Decimal.shortest u).digits.2 ∨
      layout.magnitude u = scientific (Decimal.shortest u).digits.1 (Decimal.shortest u).digits.2 := by
  rw [magnitude, if_neg hu]
  dsimp only
  split_ifs
  · exact Or.inl rfl
  · exact Or.inr rfl

/-- **The text of a magnitude spells a decimal number that is rounded to it.** -/
theorem exists_figures_magnitude (layout : Layout) {u : Nat} (h : Binary64.gap u ∣ u) :
    ∃ n : Figures, n.chars = layout.magnitude u ∧ n.decimal.nearestUnits = u := by
  by_cases hu : u = 0
  · rw [hu, layout.magnitude_zero]
    have hzero : ∀ c ∈ ['0'], c.isDigit = true := fun _ => isDigit_of_mem_zeros (k := 1)
    refine ⟨⟨['0'], ['0'], none, List.cons_ne_nil _ _, hzero, hzero, nofun⟩, rfl, Decimal.nearestUnits_zero ?_⟩
    exact Decimal.ofDigits_zeros 2
  · have hne := Decimal.digits_ne_nil (Decimal.coefficient_shortest_ne_zero h hu)
    have hdigits : ∀ c ∈ (Decimal.shortest u).digits.1, c.isDigit = true := fun _ => Decimal.isDigit_of_mem_digits
    have hunits := (Decimal.nearestUnits_ofLeading_digits _).trans (Decimal.nearestUnits_shortest h)
    rcases layout.magnitude_of_ne_zero hu with hlayout | hlayout <;> rw [hlayout]
    · obtain ⟨n, hchars, hn⟩ := exists_figures_positional hne hdigits (Decimal.shortest u).digits.2
      exact ⟨n, hchars, hn.trans hunits⟩
    · obtain ⟨n, hchars, hn⟩ := exists_figures_scientific hne hdigits (Decimal.shortest u).digits.2
      exact ⟨n, hchars, (congrArg _ hn).trans hunits⟩

/-- **The text of an integer spells it.** -/
theorem exists_figures_integer (m : Nat) : ∃ n : Figures, n.chars = Nat.toDigits 10 m ∧ n.decimal = ⟨m, 0⟩ := by
  refine ⟨⟨Nat.toDigits 10 m, [], none, Nat.toDigits_ne_nil,
    fun c hc => Nat.isDigit_of_mem_toDigits (by decide) (by decide) hc, nofun, nofun⟩, List.append_nil _, ?_⟩
  rw [Figures.decimal, List.append_nil, Decimal.ofDigits_toDigits]
  rfl

end Chatflow
