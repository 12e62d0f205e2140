import Chatflow.Json.Reader
import Chatflow.Json.Printer
import Chatflow.Proofs.Number.Notation

/-!
# Numbers and words in JSON

What the reader makes of values without parts.  A value is followed by nothing, or by a comma or a closing bracket
(`Ends`), so that the reader takes just its characters.

* `readNumber_integer`: digits are read as an integer, unless there are too many of them.
* `readNumber_figures`: figures with a point or a power of ten are read as the number nearest to what they spell.
* `readNumber_magnitude`: the text of a magnitude is read as that magnitude.
-/

namespace Chatflow

open Decimal (ofDigits)

/-! ## Leading digits -/

/-- The digits of a positive integer do not begin with a zero. -/
theorem Decimal.head_toDigits_ne {n : Nat} (hn : 0 < n) : ∀ c ∈ (Nat.toDigits 10 n).head?, c ≠ '0' := by
  induction n using Nat.strongRecOn with
  | ind n ih =>
    rcases Nat.lt_or_ge n 10 with hsmall | hlarge
    · have hdigit : ∀ d < 10, 0 < d → Nat.digitChar d ≠ '0' := by decide
      rw [Nat.toDigits_of_lt_base hsmall]
      rintro c ⟨⟩
      exact hdigit n hsmall hn
    · have hquotient : 0 < n / 10 := by omega
      have hhead := ih (n / 10) (by omega) hquotient
      obtain ⟨d, ds, hds⟩ := List.exists_cons_of_ne_nil (Nat.toDigits_ne_nil (b := 10) (n := n / 10))
      rw [Nat.toDigits_of_base_le (by decide) hlarge]
      rw [hds] at hhead ⊢
      exact hhead

/-- Nor do the digits that are kept of it. -/
theorem Decimal.head_digits_ne {d : Decimal} (h : d.coefficient ≠ 0) : ∀ c ∈ d.digits.1.head?, c ≠ '0' := by
  obtain ⟨k, hk⟩ := d.exists_digits_append
  have hhead := head_toDigits_ne (Nat.pos_of_ne_zero h)
  obtain ⟨c, cs, hds⟩ := List.exists_cons_of_ne_nil (digits_ne_nil h)
  rw [hk, hds] at hhead
  rw [hds]
  exact hhead

namespace Layout

theorem positional_cases (c : Char) (ds : List Char) (first : Int) :
    (∃ rest, positional (c :: ds) first = '0' :: '.' :: rest) ∨ ∃ rest, positional (c :: ds) first = c :: rest := by
  unfold positional
  split_ifs with hfirst
  · exact Or.inl ⟨_, rfl⟩
  · obtain ⟨k, hk⟩ : ∃ k, (first + 1).toNat = k + 1 := ⟨first.toNat, by omega⟩
    dsimp only
    rw [hk, List.take_succ_cons]
    exact Or.inr ⟨_, rfl⟩

theorem mem_positional (ds : List Char) (first : Int) : '.' ∈ positional ds first := by
  unfold positional
  split_ifs <;> simp

theorem mem_scientific (ds : List Char) (first : Int) : 'e' ∈ scientific ds first := by
  unfold scientific
  simp

/-- The text of a magnitude begins with a zero only where the point follows. -/
theorem magnitude_cases (layout : Layout) {u : Nat} (h : Binary64.gap u ∣ u) :
    (∃ rest, layout.magnitude u = '0' :: '.' :: rest) ∨ ∃ c rest, layout.magnitude u = c :: rest ∧ c ≠ '0' := by
  by_cases hu : u = 0
  · rw [hu, layout.magnitude_zero]
    exact Or.inl ⟨['0'], rfl⟩
  have hcoefficient := Decimal.coefficient_shortest_ne_zero h hu
  have hlayout := layout.magnitude_of_ne_zero hu
  have hhead := Decimal.head_digits_ne hcoefficient
  have hne := Decimal.digits_ne_nil hcoefficient
  generalize (Decimal.shortest u).digits = digits at hlayout hhead hne
  obtain ⟨ds, first⟩ := digits
  obtain ⟨c, ds, rfl⟩ := List.exists_cons_of_ne_nil hne
  have hc : c ≠ '0' := hhead c rfl
  rcases hlayout with hpositional | hscientific
  · rw [hpositional]
    rcases positional_cases c ds first with hbelow | ⟨rest, hrest⟩
    · exact Or.inl hbelow
    · exact Or.inr ⟨c, rest, hrest, hc⟩
  · rw [hscientific]
    exact Or.inr ⟨c, _, rfl, hc⟩

/-- The text of a magnitude has a point or a power of ten. -/
theorem mem_magnitude (layout : Layout) (u : Nat) : '.' ∈ layout.magnitude u ∨ 'e' ∈ layout.magnitude u := by
  by_cases hu : u = 0
  · rw [hu, layout.magnitude_zero]
    decide
  rcases layout.magnitude_of_ne_zero hu with hlayout | hlayout <;> rw [hlayout]
  · exact Or.inl (mem_positional _ _)
  · exact Or.inr (mem_scientific _ _)

end Layout

namespace Json

/-! ## What follows a value -/

/-- What may follow a value: nothing, a comma, or a closing bracket. -/
def Ends (rest : List Char) : Prop := ∀ c ∈ rest.head?, c = ',' ∨ c = ']' ∨ c = '}'

theorem Ends.isDigit {rest : List Char} (h : Ends rest) : ∀ c ∈ rest.head?, c.isDigit = false := by
  intro c hc
  rcases h c hc with rfl | rfl | rfl <;> rfl

theorem takePlaces_of_ends {rest : List Char} (h : Ends rest) : takePlaces rest = ([], rest) := by
  cases rest with
  | nil => rfl
  | cons c cs => rcases h c rfl with rfl | rfl | rfl <;> rfl

theorem takePower_of_ends {rest : List Char} (h : Ends rest) : takePower rest = ([], rest) := by
  cases rest with
  | nil => rfl
  | cons c cs => rcases h c rfl with rfl | rfl | rfl <;> simp [takePower]

/-! ## Numbers -/

theorem takeWhole_append {ds rest : List Char} (hd : ∀ c ∈ ds, c.isDigit = true)
    (hlead : ds.head? = some '0' → ds = ['0']) (hrest : ∀ c ∈ rest.head?, c.isDigit = false) :
    takeWhole (ds ++ rest) = (ds, rest) := by
  obtain ⟨htake, hdrop⟩ := Decimal.span_digits hd hrest
  by_cases hzero : ds.head? = some '0'
  · rw [hlead hzero]
    rfl
  · have hother : ∀ cs, ds ++ rest ≠ '0' :: cs := by
      intro cs heq
      cases ds with
      | nil =>
        rw [List.nil_append] at heq
        rw [heq] at hrest
        exact Bool.noConfusion (hrest '0' rfl)
      | cons c ds => exact hzero (congrArg some (List.cons.inj heq).1)
    rw [takeWhole.eq_2 _ fun cs heq => hother cs heq, htake, hdrop]

/-- **Digits are read as an integer**, unless there are too many of them. -/
theorem readNumber_integer {ds rest : List Char} (hd : ∀ c ∈ ds, c.isDigit = true) (hne : ds ≠ [])
    (hlead : ds.head? = some '0' → ds = ['0']) (hrest : Ends rest) (negative : Bool) (start : List Char) :
    readNumber negative start (ds ++ rest) =
      if Decimal.longest < ds.length then .error (.beyond (.digits ds.length))
      else .ok (.int (if negative then -(ofDigits ds : Int) else ofDigits ds), rest) := by
  have hempty : ¬ds.isEmpty = true := by simpa using hne
  unfold readNumber
  rw [takeWhole_append hd hlead hrest.isDigit]
  dsimp only
  rw [takePlaces_of_ends hrest]
  dsimp only
  rw [takePower_of_ends hrest]
  dsimp only
  rw [if_neg hempty]
  rfl

theorem takePlaces_point {ds rest : List Char} (hd : ∀ c ∈ ds, c.isDigit = true)
    (hrest : ∀ c ∈ rest.head?, c.isDigit = false ∧ c ≠ '.') :
    takePlaces (Figures.point ds ++ rest) = (Figures.point ds, rest) := by
  cases ds with
  | nil =>
    cases rest with
    | nil => rfl
    | cons c cs => exact takePlaces.eq_2 _ fun _ h => (hrest c rfl).2 (List.cons.inj h).1
  | cons d ds =>
    obtain ⟨htake, hdrop⟩ := Decimal.span_digits hd fun c hc => (hrest c hc).1
    show takePlaces ('.' :: (d :: ds ++ rest)) = ('.' :: d :: ds, rest)
    rw [takePlaces, htake, hdrop]
    rfl

theorem takePower_tail {p : Option (Bool × List Char)} (hp : ∀ q ∈ p, q.2 ≠ [] ∧ ∀ c ∈ q.2, c.isDigit = true)
    {rest : List Char} (hrest : Ends rest) : takePower (Figures.tail p ++ rest) = (Figures.tail p, rest) := by
  cases p with
  | none => exact takePower_of_ends hrest
  | some p =>
    obtain ⟨negative, ds⟩ := p
    obtain ⟨hne, hds⟩ := hp _ rfl
    obtain ⟨htake, hdrop⟩ := Decimal.span_digits hds hrest.isDigit
    have hempty : ds.isEmpty = false := by simpa using hne
    cases negative <;> simp [Figures.tail, takePower, takePowerSign, htake, hdrop, hempty]

/-- **Figures with a point or a power of ten are read as the number nearest to what they spell.** -/
theorem readNumber_figures (n : Figures) (hlead : n.whole.head? = some '0' → n.whole = ['0'])
    (hreal : n.fraction ≠ [] ∨ n.power ≠ none) {rest : List Char} (hrest : Ends rest) (negative : Bool)
    (start : List Char) :
    readNumber negative start (n.chars ++ rest) = .ok (.real (n.decimal.nearest negative), rest) := by
  have htail : ∀ c ∈ (Figures.tail n.power ++ rest).head?, c.isDigit = false ∧ c ≠ '.' := by
    intro c hc
    cases hp : n.power with
    | none =>
      rw [hp] at hc
      refine ⟨hrest.isDigit c hc, ?_⟩
      rcases hrest c hc with rfl | rfl | rfl <;> decide
    | some p =>
      rw [hp] at hc
      obtain rfl : 'e' = c := Option.some.inj hc
      decide
  have hpoint : ∀ c ∈ (Figures.point n.fraction ++ (Figures.tail n.power ++ rest)).head?, c.isDigit = false := by
    intro c hc
    cases hf : n.fraction with
    | nil =>
      rw [hf] at hc
      exact (htail c hc).1
    | cons d ds =>
      rw [hf] at hc
      obtain rfl : '.' = c := Option.some.inj hc
      rfl
  have hsome : ((Figures.point n.fraction).isEmpty && (Figures.tail n.power).isEmpty) = false := by
    rcases hreal with hfraction | hpower
    · rw [Figures.point_of_ne_nil hfraction]
      rfl
    · obtain ⟨p, hp⟩ := Option.ne_none_iff_exists'.mp hpower
      rw [hp, Bool.and_comm]
      rfl
  have hempty : ¬n.whole.isEmpty = true := by simpa using n.whole_ne
  have hchars : n.whole ++ Figures.point n.fraction ++ Figures.tail n.power = n.chars := List.append_assoc _ _ _
  unfold readNumber
  rw [show n.chars ++ rest = n.whole ++ (Figures.point n.fraction ++ (Figures.tail n.power ++ rest)) by
    simp [Figures.chars], takeWhole_append n.whole_digits hlead hpoint]
  dsimp only
  rw [takePlaces_point n.fraction_digits htail]
  dsimp only
  rw [takePower_tail n.power_digits hrest]
  dsimp only
  rw [if_neg hempty, hsome, if_neg Bool.false_ne_true, hchars, n.read?_chars]

/-- **The text of a magnitude is read as it.** -/
theorem readNumber_magnitude (layout : Layout) (negative : Bool) {units : Nat} (h : Binary64.OnGrid units)
    {rest : List Char} (hrest : Ends rest) (start : List Char) :
    readNumber negative start (layout.magnitude units ++ rest) = .ok (.real (.finite negative units h), rest) := by
  obtain ⟨n, hchars, hunits⟩ := exists_figures_magnitude layout h.2
  have hlead : n.whole.head? = some '0' → n.whole = ['0'] := by
    intro hzero
    obtain ⟨c, ds, hwhole⟩ := List.exists_cons_of_ne_nil n.whole_ne
    rw [hwhole, List.head?_cons, Option.some_inj] at hzero
    subst hzero
    have htext : layout.magnitude units = '0' :: (ds ++ (Figures.point n.fraction ++ Figures.tail n.power)) := by
      rw [← hchars, Figures.chars, hwhole, List.cons_append]
    cases ds with
    | nil => exact hwhole
    | cons d ds =>
      have hdigit : d.isDigit = true := n.whole_digits d (by rw [hwhole]; simp)
      rcases layout.magnitude_cases h.2 with ⟨more, hmore⟩ | ⟨c, more, hmore, hc⟩
      · rw [hmore] at htext
        simp only [List.cons_append, List.cons.injEq, true_and] at htext
        rw [← htext.1] at hdigit
        cases hdigit
      · rw [hmore] at htext
        exact absurd (List.cons.inj htext).1 hc
  have hreal : n.fraction ≠ [] ∨ n.power ≠ none := by
    by_contra hnone
    rw [not_or, not_not, not_not] at hnone
    have hdigits : ∀ c ∈ layout.magnitude units, c.isDigit = true := by
      rw [← hchars, Figures.chars, hnone.1, hnone.2]
      simpa [Figures.point, Figures.tail] using n.whole_digits
    rcases layout.mem_magnitude units with hpoint | hpower
    · exact Bool.noConfusion (hdigits _ hpoint)
    · exact Bool.noConfusion (hdigits _ hpower)
  have hnearest : Decimal.nearest negative n.decimal = .finite negative units h := by
    rw [Decimal.nearest_eq_ofRatio]
    exact Binary64.ofUnits_of_nearest negative h hunits
  rw [← hchars, readNumber_figures n hlead hreal hrest negative start, hnearest]

/-! ## Values without parts -/

theorem ne_of_isDigit {c d : Char} (hc : c.isDigit = true) (hd : d.isDigit = false) : c ≠ d := by
  rintro rfl
  exact Bool.noConfusion (hd.symm.trans hc)

/-- A value that begins neither with a quote nor with a bracket has no parts. -/
theorem readValue_of_plain {c : Char} (hquote : c ≠ '"') (hbracket : c ≠ '[') (hbrace : c ≠ '{') (fuel room : Nat)
    (cs : List Char) : readValue (fuel + 1) room (c :: cs) = readScalar (c :: cs) := by
  rw [readValue.eq_def]
  split <;> simp_all

theorem readValue_signed (negative : Bool) {d : Char} (hd : d.isDigit = true) (cs : List Char) (fuel room : Nat) :
    readValue (fuel + 1) room (signChars negative ++ d :: cs) = readScalar (signChars negative ++ d :: cs) := by
  have hne : ∀ {c : Char}, c.isDigit = false → d ≠ c := ne_of_isDigit hd
  cases negative with
  | false => exact readValue_of_plain (hne rfl) (hne rfl) (hne rfl) fuel room cs
  | true => exact readValue_of_plain (by decide) (by decide) (by decide) fuel room (d :: cs)

/-- A sign and digits are no word. -/
theorem readScalar_signed (negative : Bool) {d : Char} (hd : d.isDigit = true) (cs : List Char) :
    readScalar (signChars negative ++ d :: cs) =
      readNumber negative (signChars negative ++ d :: cs) (d :: cs) := by
  have hletter : ∀ {c : Char}, c.isDigit = false → c ≠ d := fun hc => (ne_of_isDigit hd hc).symm
  have hminus : d ≠ '-' := ne_of_isDigit hd rfl
  have hword : ∀ e ∈ words, ¬e.1.isPrefixOf (signChars negative ++ d :: cs) = true := by
    have hn : 'n' ≠ d := hletter rfl
    have ht : 't' ≠ d := hletter rfl
    have hf : 'f' ≠ d := hletter rfl
    have hN : 'N' ≠ d := hletter rfl
    have hI : 'I' ≠ d := hletter rfl
    cases negative <;> simp [words, signChars, hn, ht, hf, hN, hI, hminus.symm]
  unfold readScalar
  split
  · rename_i w v hfound
    exact absurd (List.find?_some hfound) (hword _ (List.mem_of_find?_eq_some hfound))
  · cases negative with
    | true => rfl
    | false =>
      split
      · rename_i hhead
        exact absurd (List.cons.inj hhead).1 hminus
      · rfl

/-- **The text of an integer is read as it**, unless it has too many digits. -/
theorem readScalar_int (n : Int) {rest : List Char} (hrest : Ends rest) :
    readScalar ((toString n).toList ++ rest) =
      if Decimal.longest < Decimal.width n.natAbs then .error (.beyond (.digits (Decimal.width n.natAbs)))
      else .ok (.int n, rest) := by
  obtain ⟨d, ds, hds⟩ := List.exists_cons_of_ne_nil (Nat.toDigits_ne_nil (b := 10) (n := n.natAbs))
  have hdigits : ∀ c ∈ d :: ds, c.isDigit = true := fun c hc =>
    Nat.isDigit_of_mem_toDigits (b := 10) (n := n.natAbs) (by decide) (by decide) (hds ▸ hc)
  have hlead : (d :: ds).head? = some '0' → d :: ds = ['0'] := by
    intro hzero
    rcases Nat.eq_zero_or_pos n.natAbs with hnone | hpos
    · rw [← hds, hnone]
      rfl
    · exact absurd (Option.some.inj hzero) (Decimal.head_toDigits_ne hpos d (by rw [hds]; rfl))
  have hvalue : (if decide (n < 0) = true then -(ofDigits (d :: ds) : Int) else ofDigits (d :: ds)) = n := by
    rw [← hds, Decimal.ofDigits_toDigits]
    simp only [decide_eq_true_eq]
    split_ifs <;> omega
  rw [toString_int, String.toList_ofList, List.append_assoc, hds, List.cons_append,
    readScalar_signed _ (hdigits d List.mem_cons_self), ← List.cons_append,
    readNumber_integer hdigits (List.cons_ne_nil d ds) hlead hrest, hvalue, Decimal.width, hds]

/-- **The text of a number is read as that number.** -/
theorem readScalar_real (x : Binary64) {rest : List Char} (hrest : Ends rest) :
    readScalar ((x.text number).toList ++ rest) = .ok (.real x, rest) := by
  cases x with
  | nan => rfl
  | infinite negative => cases negative <;> rfl
  | finite negative units h =>
    obtain ⟨n, hchars, -⟩ := exists_figures_magnitude number h.2
    obtain ⟨d, ds, hds, hd⟩ := n.exists_chars_eq_cons
    rw [hchars] at hds
    rw [Binary64.text, sign_append, String.toList_ofList, List.append_assoc, hds, List.cons_append,
      readScalar_signed negative hd, ← List.cons_append, ← hds, readNumber_magnitude number negative h hrest]

end Json

end Chatflow
