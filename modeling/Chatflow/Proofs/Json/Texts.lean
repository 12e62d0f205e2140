import Mathlib.Tactic.SplitIfs
import Chatflow.Json.Printer
import Chatflow.Json.Reader

/-!
# Texts in JSON

In the style of one line a text is written in printable ASCII: other characters are escaped by their code units, of
which a character beyond U+FFFF has two (`units`).  The reader takes these code units back and joins them again.

* `readText_quoted`: a text in quotes is read as it.
* `isPlain_of_mem_quoted`: all its characters are printable ASCII.
-/

namespace Chatflow.Json

/-! ## Hexadecimal digits -/

/-- The digits of a number below 16⁴, the first ones zero where it is smaller. -/
theorem hex_four {n : Nat} (h : n < 0x10000) :
    Text.hex 4 n = [n / 0x1000, n / 0x100 % 0x10, n / 0x10 % 0x10, n % 0x10].map Nat.digitChar := by
  have hstep : ∀ {m : Nat}, 16 ≤ m → Nat.toDigits 16 m = Nat.toDigits 16 (m / 16) ++ [Nat.digitChar (m % 16)] :=
    fun hm => Nat.toDigits_of_base_le (by decide) hm
  have hlast : ∀ {m : Nat}, m < 16 → Nat.toDigits 16 m = [Nat.digitChar m] := fun hm => Nat.toDigits_of_lt_base hm
  have hsecond : n / 16 / 16 = n / 256 := by omega
  have hfirst : n / 256 / 16 = n / 4096 := by omega
  unfold Text.hex
  rcases Nat.lt_or_ge n 16 with h1 | h1
  · have h2 : n / 16 = 0 := by omega
    have h3 : n / 256 = 0 := by omega
    have h4 : n / 4096 = 0 := by omega
    rw [hlast h1, h2, h3, h4, Nat.mod_eq_of_lt h1]
    rfl
  rw [hstep h1]
  rcases Nat.lt_or_ge (n / 16) 16 with h2 | h2
  · have h3 : n / 256 = 0 := by omega
    have h4 : n / 4096 = 0 := by omega
    rw [hlast h2, h3, h4, Nat.mod_eq_of_lt h2]
    rfl
  rw [hstep h2, hsecond]
  rcases Nat.lt_or_ge (n / 256) 16 with h3 | h3
  · have h4 : n / 4096 = 0 := by omega
    rw [hlast h3, h4, Nat.mod_eq_of_lt h3]
    rfl
  have h4 : n / 4096 < 16 := by omega
  rw [hstep h3, hfirst, hlast h4]
  rfl

theorem hexValue?_digitChar {d : Nat} (h : d < 0x10) : hexValue? (Nat.digitChar d) = some d := by
  have hall : ∀ d < 0x10, hexValue? (Nat.digitChar d) = some d := by decide
  exact hall d h

/-! ## Code units -/

/-- The code units of a character. -/
def units (c : Char) : List Nat :=
  if c.toNat < 0x10000 then [c.toNat]
  else [0xd800 + (c.toNat - 0x10000) / 0x400, 0xdc00 + (c.toNat - 0x10000) % 0x400]

variable {opening more : List Char} {done : List Nat} {c : Char} {n : Nat}

/-- An escaped code unit is read as it, unless it ends the text. -/
theorem readCodes_unitEscape (hn : n < 0x10000) (hmore : more ≠ []) :
    readCodes opening .plain done (unitEscape n ++ more) = readCodes opening .plain (n :: done) more := by
  have hempty : ¬more.isEmpty = true := by simpa using hmore
  have h1 : hexValue? (Nat.digitChar (n / 0x1000)) = some (n / 0x1000) := hexValue?_digitChar (by omega)
  have h2 : hexValue? (Nat.digitChar (n / 0x100 % 0x10)) = some (n / 0x100 % 0x10) := hexValue?_digitChar (by omega)
  have h3 : hexValue? (Nat.digitChar (n / 0x10 % 0x10)) = some (n / 0x10 % 0x10) := hexValue?_digitChar (by omega)
  have h4 : hexValue? (Nat.digitChar (n % 0x10)) = some (n % 0x10) := hexValue?_digitChar (by omega)
  have hvalue : 16 * (16 * (16 * (n / 0x1000) + n / 0x100 % 0x10) + n / 0x10 % 0x10) + n % 0x10 = n := by omega
  simp [unitEscape, hex_four hn, readCodes, h1, h2, h3, h4, hempty, hvalue]

/-- A character has a code point outside the surrogates. -/
theorem toNat_valid (c : Char) : c.toNat < 0xd800 ∨ 0xe000 ≤ c.toNat ∧ c.toNat < 0x110000 := by
  have hvalid : c.toNat.isValidChar := c.valid
  simp only [Nat.isValidChar] at hvalid
  omega

theorem readCodes_unitEscapes {high low : Nat} (hhigh : high < 0x10000) (hlow : low < 0x10000) (hmore : more ≠ []) :
    readCodes opening .plain done ((unitEscape high ++ unitEscape low) ++ more) =
      readCodes opening .plain ([high, low].reverse ++ done) more := by
  have hrest : unitEscape low ++ more ≠ [] := by simp [unitEscape]
  rw [List.append_assoc, readCodes_unitEscape hhigh hrest, readCodes_unitEscape hlow hmore]
  rfl

theorem readCodes_charEscape (hmore : more ≠ []) :
    readCodes opening .plain done (charEscape c ++ more) =
      readCodes opening .plain ((units c).reverse ++ done) more := by
  have hvalid := toNat_valid c
  by_cases hc : c.toNat < 0x10000
  · rw [charEscape, units, if_pos hc, if_pos hc]
    exact readCodes_unitEscape hc hmore
  · have hhigh : 0xd800 + (c.toNat - 0x10000) / 0x400 < 0x10000 := by omega
    have hlow : 0xdc00 + (c.toNat - 0x10000) % 0x400 < 0x10000 := by omega
    rw [charEscape, units, if_neg hc, if_neg hc]
    exact readCodes_unitEscapes hhigh hlow hmore

/-- **A character inside quotes is read as its code units.** -/
theorem readCodes_escaped (c : Char) (hmore : more ≠ []) :
    readCodes opening .plain done (escaped true c ++ more) =
      readCodes opening .plain ((units c).reverse ++ done) more := by
  have hascii : c.toNat < 0x80 → units c = [c.toNat] := fun h => if_pos (by omega)
  unfold escaped
  split_ifs with hquote hline hreturn htab hback hfeed hescape
  · rcases hquote with rfl | rfl <;> rw [hascii (by decide)] <;> rfl
  · subst hline
    rfl
  · subst hreturn
    rfl
  · subst htab
    rfl
  · rw [hascii (by omega), hback]
    rfl
  · rw [hascii (by omega), hfeed]
    rfl
  · exact readCodes_charEscape hmore
  · have hplain : ¬c.toNat < 0x20 ∧ c.toNat ≤ 0x7e := by simpa using hescape
    rw [not_or] at hquote
    rw [hascii (by omega), List.singleton_append, readCodes, if_neg hquote.1, if_neg hquote.2, if_neg hplain.1]
    rfl

theorem readCodes_flatMap (cs rest : List Char) :
    readCodes opening .plain done (cs.flatMap (escaped true) ++ '"' :: rest) =
      .ok (done.reverse ++ cs.flatMap units, rest) := by
  induction cs generalizing done with
  | nil => simp [readCodes]
  | cons c cs ih =>
    rw [List.flatMap_cons, List.append_assoc, readCodes_escaped c (by simp), ih]
    simp

theorem joined_units (c : Char) (ns : List Nat) : joined (units c ++ ns) = c :: joined ns := by
  have hvalid := toNat_valid c
  unfold units
  split_ifs with hc
  · have hchar : charOf c.toNat = c := by
      rw [charOf, if_neg (by omega), Char.ofNat_toNat]
    cases ns with
    | nil => exact congrArg (· :: []) hchar
    | cons n ns =>
      rw [List.singleton_append, joined, if_neg (by omega), hchar]
  · have hchar : 0x10000 + (0xd800 + (c.toNat - 0x10000) / 0x400 - 0xd800) * 0x400 +
        (0xdc00 + (c.toNat - 0x10000) % 0x400 - 0xdc00) = c.toNat := by omega
    rw [List.cons_append, List.cons_append, List.nil_append, joined, if_pos (by omega), hchar, Char.ofNat_toNat]

theorem joined_flatMap (cs : List Char) : joined (cs.flatMap units) = cs := by
  induction cs with
  | nil => rfl
  | cons c cs ih => rw [List.flatMap_cons, joined_units, ih]

/-- **A text in quotes is read as that text.** -/
theorem readText_quoted (opening cs rest : List Char) :
    readText opening (cs.flatMap (escaped true) ++ '"' :: rest) = .ok (String.ofList cs, rest) := by
  rw [readText, readCodes_flatMap]
  simp [Except.map, joined_flatMap]

/-! ## Printable ASCII -/

/-- A printable character of ASCII, so neither a line break nor another control character. -/
def IsPlain (c : Char) : Prop := 0x20 ≤ c.toNat ∧ c.toNat ≤ 0x7e

instance (c : Char) : Decidable (IsPlain c) := instDecidableAnd

theorem isPlain_of_all {cs : List Char} (h : cs.all (fun c => decide (IsPlain c)) = true) :
    ∀ c ∈ cs, IsPlain c :=
  fun c hc => of_decide_eq_true (List.all_eq_true.mp h c hc)

theorem isPlain_digitChar {d : Nat} (h : d < 0x10) : IsPlain (Nat.digitChar d) := by
  have hall : ∀ d < 0x10, IsPlain (Nat.digitChar d) := by decide
  exact hall d h

theorem isPlain_of_mem_unitEscape {d : Char} (hn : n < 0x10000) (hd : d ∈ unitEscape n) : IsPlain d := by
  rw [unitEscape, hex_four hn] at hd
  simp only [List.map_cons, List.map_nil, List.mem_cons, List.not_mem_nil, or_false] at hd
  rcases hd with rfl | rfl | rfl | rfl | rfl | rfl
  · decide
  · decide
  · exact isPlain_digitChar (by omega)
  · exact isPlain_digitChar (by omega)
  · exact isPlain_digitChar (by omega)
  · exact isPlain_digitChar (by omega)

theorem isPlain_of_mem_charEscape {d : Char} (hd : d ∈ charEscape c) : IsPlain d := by
  have hvalid := toNat_valid c
  by_cases hc : c.toNat < 0x10000
  · rw [charEscape, if_pos hc] at hd
    exact isPlain_of_mem_unitEscape hc hd
  · rw [charEscape, if_neg hc] at hd
    rcases List.mem_append.mp hd with hd | hd
    · exact isPlain_of_mem_unitEscape (by omega) hd
    · exact isPlain_of_mem_unitEscape (by omega) hd

theorem isPlain_of_mem_escaped {d : Char} (hd : d ∈ escaped true c) : IsPlain d := by
  unfold escaped at hd
  split_ifs at hd with hquote hline hreturn htab hback hfeed hescape
  · rcases hquote with rfl | rfl <;> exact isPlain_of_all (by decide) d hd
  · subst hline
    exact isPlain_of_all (by decide) d hd
  · subst hreturn
    exact isPlain_of_all (by decide) d hd
  · exact isPlain_of_all (by decide) d hd
  · exact isPlain_of_all (by decide) d hd
  · exact isPlain_of_all (by decide) d hd
  · exact isPlain_of_mem_charEscape hd
  · obtain rfl := List.mem_singleton.mp hd
    have hplain : ¬d.toNat < 0x20 ∧ d.toNat ≤ 0x7e := by simpa using hescape
    exact ⟨by omega, hplain.2⟩

/-- **A text in quotes is printable ASCII.** -/
theorem isPlain_of_mem_quoted {cs : List Char} {d : Char} (hd : d ∈ quoted true cs) : IsPlain d := by
  rw [quoted, List.mem_append, List.mem_cons] at hd
  rcases hd with (rfl | hd) | hd
  · decide
  · obtain ⟨c, -, hc⟩ := List.mem_flatMap.mp hd
    exact isPlain_of_mem_escaped hc
  · obtain rfl := List.mem_singleton.mp hd
    decide

end Chatflow.Json
