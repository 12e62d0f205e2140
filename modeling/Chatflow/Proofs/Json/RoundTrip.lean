import Chatflow.Proofs.Json.Scalars
import Chatflow.Proofs.Json.Texts
import Chatflow.Proofs.Value.Rendering
import Chatflow.Proofs.Value.Wire

/-!
# JSON data on one line

JSON data written on one line are printable ASCII, and the reader takes them back.  It has two limits, though: an integer
must not have too many digits, and there must be room for the containers that lie inside each other
(`Value.Renders`).  These are the limits under which data can be written, too.

* `write_line`: JSON data have a line.
* `isPlain_of_mem_line`: all its characters are printable ASCII.
* `read_line`: within the limits it is read as the data, and beyond them the reader reports a limit.
-/

namespace Chatflow.Json

/-- What is read where a condition holds; elsewhere a limit is reported. -/
structure Yields {α : Type} (x : Except Stop α) (fits : Prop) (a : α) : Prop where
  eq_ok : fits → x = .ok a
  eq_beyond : ¬fits → ∃ limit, x = .error (.beyond limit)

namespace Yields

variable {α β : Type} {x : Except Stop α} {s t : Prop} {a : α}

theorem of_eq (h : x = .ok a) (hs : s) : Yields x s a := ⟨fun _ => h, fun hn => absurd hs hn⟩

/-- Two readers one after the other need what both need. -/
theorem bind {f : α → Except Stop β} {b : β} (hx : Yields x s a) (hf : Yields (f a) t b) :
    Yields (x >>= f) (s ∧ t) b := by
  refine ⟨fun ⟨hs, ht⟩ => ?_, fun hn => ?_⟩
  · rw [hx.eq_ok hs]
    exact hf.eq_ok ht
  · by_cases hs : s
    · rw [hx.eq_ok hs]
      exact hf.eq_beyond fun ht => hn ⟨hs, ht⟩
    · obtain ⟨limit, hlimit⟩ := hx.eq_beyond hs
      rw [hlimit]
      exact ⟨limit, rfl⟩

theorem map (hx : Yields x s a) (f : α → β) : Yields (x.map f) s (f a) := by
  refine ⟨fun hs => ?_, fun hs => ?_⟩
  · rw [hx.eq_ok hs]
    rfl
  · obtain ⟨limit, hlimit⟩ := hx.eq_beyond hs
    rw [hlimit]
    exact ⟨limit, rfl⟩

theorem congr (h : Yields x s a) (hiff : s ↔ t) : Yields x t a :=
  ⟨fun ht => h.eq_ok (hiff.mpr ht), fun ht => h.eq_beyond fun hs => ht (hiff.mp hs)⟩

end Yields

/-! ## Lines -/

/-- Texts with commas between them. -/
def row (texts : List (List Char)) : List Char := List.intercalate [',', ' '] texts

/-- A value on one line. -/
def line (v : Value) : List Char := (write .line 0 v).getD []

/-- An entry of a dictionary on one line. -/
def entryLine (e : String × Value) : List Char := quoted true e.1.toList ++ ':' :: ' ' :: line e.2

theorem enclose_line (depth : Nat) (first last : Char) (items : List (List Char)) :
    Style.line.enclose depth first last items = first :: (row items ++ [last]) := by
  cases items with
  | nil => rfl
  | cons item items => simp [Style.enclose, Style.lineBreak, Style.line, row]

/-- The line of a value does not depend on its depth. -/
def Written (v : Value) : Prop := ∀ depth, write .line depth v = some (line v)

theorem writeItems_line {items : List Value} (h : ∀ item ∈ items, Written item) (depth : Nat) :
    writeItems .line depth items = some (items.map line) := by
  induction items with
  | nil => rfl
  | cons item items ih =>
    obtain ⟨hitem, hitems⟩ := List.forall_mem_cons.mp h
    rw [writeItems, hitem, ih hitems]
    rfl

theorem writeEntries_line {fields : Fields} (h : ∀ e ∈ fields, Written e.2) (depth : Nat) :
    writeEntries .line depth (fields.map fun (k, v) => (Value.text k, v)) = some (fields.map entryLine) := by
  induction fields with
  | nil => rfl
  | cons e fields ih =>
    obtain ⟨he, hfields⟩ := List.forall_mem_cons.mp h
    rw [List.map_cons, writeEntries, keyText?, he, ih hfields]
    rfl

theorem write_list {items : List Value} (h : ∀ item ∈ items, Written item) (depth : Nat) :
    write .line depth (.list items) = some ('[' :: (row (items.map line) ++ [']'])) := by
  rw [write, writeItems_line h, Option.map_some, enclose_line]

theorem write_ofFields {fields : Fields} (h : ∀ e ∈ fields, Written e.2) (depth : Nat) :
    write .line depth (.ofFields fields) = some ('{' :: (row (fields.map entryLine) ++ ['}'])) := by
  rw [Value.ofFields, write, writeEntries_line h, Option.map_some, enclose_line]

/-- **JSON data have a line.** -/
theorem write_line {v : Value} (h : v.IsJson) : Written v := by
  induction h with
  | null | bool | int | real | text => exact fun _ => rfl
  | list _ ih =>
    intro depth
    rw [write_list ih, line, write_list ih, Option.getD_some]
  | object _ _ ih =>
    intro depth
    rw [write_ofFields ih, line, write_ofFields ih, Option.getD_some]

theorem line_list {items : List Value} (h : ∀ item ∈ items, item.IsJson) :
    line (.list items) = '[' :: (row (items.map line) ++ [']']) := by
  rw [line, write_list fun item hitem => write_line (h item hitem), Option.getD_some]

theorem line_ofFields {fields : Fields} (h : fields.AreJson) :
    line (.ofFields fields) = '{' :: (row (fields.map entryLine) ++ ['}']) := by
  rw [line, write_ofFields fun e he => write_line (h e he), Option.getD_some]

/-! ## Printable ASCII -/

theorem isPlain_of_clean {c : Char} (h : Numeral.Clean c) : IsPlain c := by
  obtain ⟨hlow, hhigh, -⟩ := h
  exact ⟨by omega, by omega⟩

theorem isPlain_of_mem_sign {negative : Bool} {c : Char} (h : c ∈ signChars negative) : IsPlain c := by
  cases negative with
  | false => cases h
  | true =>
    obtain rfl := List.mem_singleton.mp h
    decide

theorem isPlain_of_mem_row {texts : List (List Char)} (h : ∀ text ∈ texts, ∀ c ∈ text, IsPlain c) :
    ∀ c ∈ row texts, IsPlain c := by
  induction texts with
  | nil => nofun
  | cons text texts ih =>
    obtain ⟨htext, htexts⟩ := List.forall_mem_cons.mp h
    cases texts with
    | nil => simpa [row] using htext
    | cons next texts =>
      intro c hc
      rw [row, List.intercalate_cons_cons, List.mem_append, List.mem_append] at hc
      rcases hc with (hc | hc) | hc
      · exact htext c hc
      · exact isPlain_of_all (by decide) c hc
      · exact ih htexts c hc

theorem isPlain_of_mem_enclosed {first last c : Char} {inside : List Char} (hfirst : IsPlain first)
    (hlast : IsPlain last) (hinside : ∀ c ∈ inside, IsPlain c) (h : c ∈ first :: (inside ++ [last])) : IsPlain c := by
  rcases List.mem_cons.mp h with rfl | h
  · exact hfirst
  rcases List.mem_append.mp h with h | h
  · exact hinside c h
  · exact List.mem_singleton.mp h ▸ hlast

/-- **The line of JSON data is printable ASCII.** -/
theorem isPlain_of_mem_line {v : Value} (h : v.IsJson) : ∀ c ∈ line v, IsPlain c := by
  induction h with
  | null => exact isPlain_of_all (by decide)
  | bool b => cases b <;> exact isPlain_of_all (by decide)
  | int n =>
    intro c hc
    rw [line, write, Option.getD_some, toString_int, String.toList_ofList, List.mem_append] at hc
    rcases hc with hc | hc
    · exact isPlain_of_mem_sign hc
    · exact isPlain_of_clean (Numeral.clean_of_isDigit (Nat.isDigit_of_mem_toDigits (by decide) (by decide) hc))
  | real negative units onGrid =>
    intro c hc
    obtain ⟨n, hchars, -⟩ := exists_figures_magnitude number onGrid.2
    rw [line, write, Option.getD_some, Binary64.text, sign_append, String.toList_ofList, List.mem_append, ← hchars] at hc
    rcases hc with hc | hc
    · exact isPlain_of_mem_sign hc
    · exact isPlain_of_clean (n.clean_chars hc)
  | text s => exact fun c hc => isPlain_of_mem_quoted hc
  | list each ih =>
    intro c hc
    rw [line_list each] at hc
    refine isPlain_of_mem_enclosed (by decide) (by decide) (isPlain_of_mem_row ?_) hc
    intro text htext
    obtain ⟨item, hitem, rfl⟩ := List.mem_map.mp htext
    exact ih item hitem
  | object once each ih =>
    intro c hc
    rw [line_ofFields each] at hc
    refine isPlain_of_mem_enclosed (by decide) (by decide) (isPlain_of_mem_row ?_) hc
    intro text htext d hd
    obtain ⟨e, he, rfl⟩ := List.mem_map.mp htext
    rcases List.mem_append.mp hd with hd | hd
    · exact isPlain_of_mem_quoted hd
    rcases List.mem_cons.mp hd with rfl | hd
    · decide
    rcases List.mem_cons.mp hd with rfl | hd
    · decide
    · exact ih e he d hd

/-! ## Reading a line -/

/-- How lines and entries begin: with no blank and no closing bracket. -/
def Starts (cs : List Char) : Prop := ∃ c rest, cs = c :: rest ∧ isSpace c = false ∧ c ≠ ']' ∧ c ≠ '}'

theorem skip_cons {c : Char} (hc : isSpace c = false) (cs : List Char) : skip (c :: cs) = c :: cs :=
  List.dropWhile_cons_of_neg (by simp [hc])

theorem starts_of_isDigit {c : Char} (hc : c.isDigit = true) (cs : List Char) : Starts (c :: cs) := by
  have hne : ∀ {d : Char}, d.isDigit = false → c ≠ d := ne_of_isDigit hc
  have hspace : isSpace c = false := by
    simp [isSpace, hne (d := ' ') rfl, hne (d := '\t') rfl, hne (d := '\n') rfl, hne (d := '\r') rfl]
  exact ⟨c, cs, rfl, hspace, hne rfl, hne rfl⟩

theorem starts_signed (negative : Bool) {c : Char} (hc : c.isDigit = true) (cs : List Char) :
    Starts (signChars negative ++ c :: cs) := by
  cases negative with
  | false => exact starts_of_isDigit hc cs
  | true => exact ⟨'-', c :: cs, rfl, by decide, by decide, by decide⟩

theorem line_int (n : Int) : ∃ negative d ds, d.isDigit = true ∧ line (.int n) = signChars negative ++ d :: ds := by
  obtain ⟨d, ds, hds⟩ := List.exists_cons_of_ne_nil (Nat.toDigits_ne_nil (b := 10) (n := n.natAbs))
  have hdigit : d.isDigit = true :=
    Nat.isDigit_of_mem_toDigits (b := 10) (n := n.natAbs) (by decide) (by decide) (by simp [hds])
  refine ⟨decide (n < 0), d, ds, hdigit, ?_⟩
  rw [line, write, Option.getD_some, toString_int, String.toList_ofList, hds]

theorem line_finite (negative : Bool) {units : Nat} (onGrid : Binary64.OnGrid units) :
    ∃ d ds, d.isDigit = true ∧ line (.real (.finite negative units onGrid)) = signChars negative ++ d :: ds := by
  obtain ⟨n, hchars, -⟩ := exists_figures_magnitude number onGrid.2
  obtain ⟨d, ds, hds, hdigit⟩ := n.exists_chars_eq_cons
  refine ⟨d, ds, hdigit, ?_⟩
  rw [line, write, Option.getD_some, Binary64.text, sign_append, String.toList_ofList, ← hchars, hds]

theorem starts_line {v : Value} (h : v.IsJson) : Starts (line v) := by
  cases h with
  | null => exact ⟨'n', _, rfl, by decide, by decide, by decide⟩
  | bool b =>
    cases b with
    | false => exact ⟨'f', _, rfl, by decide, by decide, by decide⟩
    | true => exact ⟨'t', _, rfl, by decide, by decide, by decide⟩
  | int n =>
    obtain ⟨negative, d, ds, hdigit, hline⟩ := line_int n
    rw [hline]
    exact starts_signed negative hdigit ds
  | real negative units onGrid =>
    obtain ⟨d, ds, hdigit, hline⟩ := line_finite negative onGrid
    rw [hline]
    exact starts_signed negative hdigit ds
  | text s => exact ⟨'"', _, rfl, by decide, by decide, by decide⟩
  | list each => exact ⟨'[', _, line_list each, by decide, by decide, by decide⟩
  | object _ each => exact ⟨'{', _, line_ofFields each, by decide, by decide, by decide⟩

theorem starts_entryLine (e : String × Value) : Starts (entryLine e) :=
  ⟨'"', _, rfl, by decide, by decide, by decide⟩

variable {cs rest : List Char}

theorem Starts.append (h : Starts cs) (rest : List Char) : Starts (cs ++ rest) := by
  obtain ⟨c, cs, rfl, hc⟩ := h
  exact ⟨c, cs ++ rest, rfl, hc⟩

theorem Starts.skip (h : Starts cs) : skip cs = cs := by
  obtain ⟨c, cs, rfl, hc, -⟩ := h
  exact skip_cons hc cs

theorem starts_row {texts : List (List Char)} (hne : texts ≠ []) (h : ∀ text ∈ texts, Starts text) :
    Starts (row texts) := by
  obtain ⟨text, texts, rfl⟩ := List.exists_cons_of_ne_nil hne
  have htext := h text List.mem_cons_self
  cases texts with
  | nil => simpa [row] using htext
  | cons next texts =>
    rw [row, List.intercalate_cons_cons, List.append_assoc]
    exact htext.append _

/-- Nothing is skipped before a row, and one blank where it stands behind a comma. -/
theorem skip_row {texts : List (List Char)} (hne : texts ≠ []) (h : ∀ text ∈ texts, Starts text) (rest : List Char) :
    skip (row texts ++ rest) = row texts ++ rest ∧ skip (' ' :: (row texts ++ rest)) = row texts ++ rest := by
  have hskip : skip (row texts ++ rest) = row texts ++ rest := ((starts_row hne h).append rest).skip
  exact ⟨hskip, hskip⟩

theorem row_cons_cons (text next : List Char) (texts : List (List Char)) :
    row (text :: next :: texts) = text ++ ',' :: ' ' :: row (next :: texts) := by
  simp [row]

theorem row_singleton (text : List Char) : row [text] = text := List.intercalate_singleton

theorem ends_comma : Ends (',' :: rest) := by
  rintro c ⟨⟩
  exact Or.inl rfl

theorem ends_bracket : Ends (']' :: rest) := by
  rintro c ⟨⟩
  exact Or.inr (Or.inl rfl)

theorem ends_brace : Ends ('}' :: rest) := by
  rintro c ⟨⟩
  exact Or.inr (Or.inr rfl)

/-- A value is read from its line as far as it is within the limits. -/
def Legible (v : Value) : Prop :=
  ∀ (fuel room : Nat) (rest : List Char), (line v).length ≤ fuel → Ends rest →
    Yields (readValue (fuel + 1) room (line v ++ rest)) (v.Renders room) (v, rest)

/-- **The items of a list are read one after the other.** -/
theorem readItems_row {items : List Value} (hne : items ≠ []) (hstarts : ∀ item ∈ items, Starts (line item))
    (h : ∀ item ∈ items, Legible item) (fuel room : Nat) (rest : List Char)
    (hfuel : (row (items.map line)).length ≤ fuel) :
    Yields (readItems (fuel + 2) room (row (items.map line) ++ ']' :: rest)) (∀ item ∈ items, item.Renders room)
      (items, rest) := by
  induction items generalizing fuel with
  | nil => exact absurd rfl hne
  | cons item items ih =>
    obtain ⟨hitem, hitems⟩ := List.forall_mem_cons.mp h
    obtain ⟨-, hothers⟩ := List.forall_mem_cons.mp hstarts
    rw [readItems]
    cases items with
    | nil =>
      rw [List.map_cons, List.map_nil, row_singleton] at hfuel ⊢
      have hfirst := hitem fuel room (']' :: rest) hfuel ends_bracket
      have hlast : Yields (.ok ([item], rest)) True ([item], rest) := .of_eq rfl trivial
      exact (hfirst.bind hlast).congr (by simp)
    | cons next items =>
      have hbegin : ∀ text ∈ (next :: items).map line, Starts text := by simpa using hothers
      obtain ⟨-, hskip⟩ := skip_row (by simp) hbegin (']' :: rest)
      rw [List.map_cons, List.map_cons, row_cons_cons, ← List.map_cons] at hfuel ⊢
      simp only [List.length_append, List.length_cons] at hfuel
      obtain ⟨fuel, rfl⟩ : ∃ k, fuel = k + 1 := ⟨fuel - 1, by omega⟩
      have hrest := ih (List.cons_ne_nil next items) hothers hitems fuel (by omega)
      rw [← hskip] at hrest
      have hall := hrest.bind (f := fun read => .ok (item :: read.1, read.2)) (.of_eq rfl trivial)
      have hfirst := hitem (fuel + 1) room (',' :: ' ' :: (row ((next :: items).map line) ++ ']' :: rest)) (by omega)
        ends_comma
      rw [List.append_assoc]
      exact (hfirst.bind hall).congr (by simp)

/-- The name of an entry is read, and what stands behind it is left to do. -/
theorem readEntries_entryLine (e : String × Value) (hstarts : Starts (line e.2)) (fuel room : Nat) (done : Fields)
    (behind : List Char) :
    readEntries (fuel + 1) room done (entryLine e ++ behind) =
      (readValue fuel room (line e.2 ++ behind) >>= fun (v, rest) =>
        match skip rest with
        | '}' :: rest => .ok (done.set e.1 v, rest)
        | ',' :: rest => readEntries fuel room (done.set e.1 v) (skip rest)
        | rest => .error (.at .comma rest)) := by
  have hskip : skip (' ' :: (line e.2 ++ behind)) = line e.2 ++ behind := (hstarts.append behind).skip
  have hline : entryLine e ++ behind =
      '"' :: (e.1.toList.flatMap (escaped true) ++ '"' :: ':' :: ' ' :: (line e.2 ++ behind)) := by
    simp [entryLine, quoted]
  rw [hline, readEntries, readText_quoted, String.ofList_toList]
  conv_rhs => rw [← hskip]
  rfl

/-- **The entries of a dictionary are read one after the other**, behind those that were read before. -/
theorem readEntries_row {fields : Fields} (hne : fields ≠ []) (hstarts : ∀ e ∈ fields, Starts (line e.2))
    (h : ∀ e ∈ fields, Legible e.2) (done : Fields) (honce : (done ++ fields).keys.Nodup) (fuel room : Nat)
    (rest : List Char) (hfuel : (row (fields.map entryLine)).length ≤ fuel) :
    Yields (readEntries (fuel + 2) room done (row (fields.map entryLine) ++ '}' :: rest)) (∀ e ∈ fields, e.2.Renders room)
      (done ++ fields, rest) := by
  induction fields generalizing fuel done with
  | nil => exact absurd rfl hne
  | cons e fields ih =>
    obtain ⟨he, hfields⟩ := List.forall_mem_cons.mp h
    obtain ⟨hfirst, hothers⟩ := List.forall_mem_cons.mp hstarts
    have hnew : e.1 ∉ done.keys := by
      intro hmem
      rw [Keyed.keys, List.map_append] at honce
      exact (List.nodup_append.mp honce).2.2 e.1 hmem e.1 List.mem_cons_self rfl
    have hset : done.set e.1 e.2 = done ++ [e] := Keyed.set_of_not_mem hnew e.2
    cases fields with
    | nil =>
      rw [List.map_cons, List.map_nil, row_singleton] at hfuel ⊢
      simp only [entryLine, List.length_append, List.length_cons] at hfuel
      rw [readEntries_entryLine e hfirst, ← hset]
      have hvalue := he fuel room ('}' :: rest) (by omega) ends_brace
      have hlast : Yields (.ok (done.set e.1 e.2, rest)) True (done.set e.1 e.2, rest) := .of_eq rfl trivial
      exact (hvalue.bind hlast).congr (by simp)
    | cons next fields =>
      have hbegin : ∀ text ∈ (next :: fields).map entryLine, Starts text :=
        List.forall_mem_map.mpr fun e _ => starts_entryLine e
      obtain ⟨-, hskip⟩ := skip_row (by simp) hbegin ('}' :: rest)
      rw [List.map_cons, List.map_cons, row_cons_cons, ← List.map_cons] at hfuel ⊢
      simp only [List.length_append, List.length_cons] at hfuel
      obtain ⟨fuel, rfl⟩ : ∃ k, fuel = k + 1 := ⟨fuel - 1, by omega⟩
      have hmore : (done.set e.1 e.2 ++ next :: fields).keys.Nodup := by simpa [hset] using honce
      have hrest := ih (List.cons_ne_nil next fields) hothers hfields (done.set e.1 e.2) hmore fuel (by omega)
      rw [← hskip] at hrest
      have hlength : (entryLine e).length = (quoted true e.1.toList).length + ((line e.2).length + 2) := by
        simp [entryLine]
      have hvalue := he (fuel + 1) room (',' :: ' ' :: (row ((next :: fields).map entryLine) ++ '}' :: rest)) (by omega)
        ends_comma
      have hall : done ++ e :: next :: fields = done.set e.1 e.2 ++ next :: fields := by simp [hset]
      rw [List.append_assoc, List.cons_append, List.cons_append, readEntries_entryLine e hfirst, hall]
      exact (hvalue.bind hrest).congr (by simp)

/-! ## Reading JSON data -/

theorem readValue_quoted (cs : List Char) (fuel room : Nat) (rest : List Char) :
    readValue (fuel + 1) room (quoted true cs ++ rest) = .ok (.text (String.ofList cs), rest) := by
  have hquoted : quoted true cs ++ rest = '"' :: (cs.flatMap (escaped true) ++ '"' :: rest) := by simp [quoted]
  rw [hquoted, readValue, readText_quoted]
  rfl

theorem readValue_bracket (h : Starts cs) (fuel room : Nat) :
    readValue (fuel + 1) (room + 1) ('[' :: cs) =
      (readItems fuel room cs).map fun (items, rest) => (.list items, rest) := by
  obtain ⟨c, cs, rfl, hspace, hbracket, -⟩ := h
  rw [readValue, skip_cons hspace]
  split
  · rename_i heq
    exact absurd (List.cons.inj heq).1 hbracket
  · rfl

theorem readValue_brace (h : Starts cs) (fuel room : Nat) :
    readValue (fuel + 1) (room + 1) ('{' :: cs) =
      (readEntries fuel room [] cs).map fun (fields, rest) => (.ofFields fields, rest) := by
  obtain ⟨c, cs, rfl, hspace, -, hbrace⟩ := h
  rw [readValue, skip_cons hspace]
  split
  · rename_i heq
    exact absurd (List.cons.inj heq).1 hbrace
  · rfl

theorem legible_list {items : List Value} (each : ∀ item ∈ items, item.IsJson) (h : ∀ item ∈ items, Legible item) :
    Legible (.list items) := by
  intro fuel room rest hfuel _
  rw [line_list each] at hfuel ⊢
  simp only [List.length_cons, List.length_append, List.length_nil] at hfuel
  obtain ⟨fuel, rfl⟩ : ∃ k, fuel = k + 2 := ⟨fuel - 2, by omega⟩
  have happend : '[' :: (row (items.map line) ++ [']']) ++ rest = '[' :: (row (items.map line) ++ ']' :: rest) := by simp
  rw [happend]
  cases room with
  | zero => exact ⟨nofun, fun _ => ⟨_, rfl⟩⟩
  | succ room =>
    by_cases hne : items = []
    · subst hne
      exact .of_eq rfl (.list nofun)
    · have hstarts : ∀ item ∈ items, Starts (line item) := fun item hitem => starts_line (each item hitem)
      have hbegin : Starts (row (items.map line)) := starts_row (by simpa using hne) (by simpa using hstarts)
      have hitems := readItems_row hne hstarts h fuel room rest (by omega)
      rw [readValue_bracket (hbegin.append _)]
      exact (hitems.map _).congr Value.renders_list_iff.symm

theorem legible_ofFields {fields : Fields} (once : fields.keys.Nodup) (each : fields.AreJson)
    (h : ∀ e ∈ fields, Legible e.2) : Legible (.ofFields fields) := by
  intro fuel room rest hfuel _
  rw [line_ofFields each] at hfuel ⊢
  simp only [List.length_cons, List.length_append, List.length_nil] at hfuel
  obtain ⟨fuel, rfl⟩ : ∃ k, fuel = k + 2 := ⟨fuel - 2, by omega⟩
  have happend : '{' :: (row (fields.map entryLine) ++ ['}']) ++ rest =
      '{' :: (row (fields.map entryLine) ++ '}' :: rest) := by simp
  rw [happend]
  cases room with
  | zero => exact ⟨nofun, fun _ => ⟨_, rfl⟩⟩
  | succ room =>
    by_cases hne : fields = []
    · subst hne
      exact .of_eq rfl (.dictionary nofun nofun)
    · have hstarts : ∀ e ∈ fields, Starts (line e.2) := fun e he => starts_line (each e he)
      have hbegin : Starts (row (fields.map entryLine)) :=
        starts_row (by simpa using hne) (List.forall_mem_map.mpr fun e _ => starts_entryLine e)
      have hentries := readEntries_row hne hstarts h [] once fuel room rest (by omega)
      rw [readValue_brace (hbegin.append _)]
      exact (hentries.map _).congr Value.renders_ofFields_iff.symm

/-- **JSON data are read from their line** as far as they are within the limits. -/
theorem legible {v : Value} (h : v.IsJson) : Legible v := by
  induction h with
  | list each ih => exact legible_list each ih
  | object once each ih => exact legible_ofFields once each ih
  | null =>
    intro fuel room rest _ _
    exact .of_eq rfl .null
  | bool b =>
    intro fuel room rest _ _
    cases b <;> exact .of_eq rfl .bool
  | int n =>
    intro fuel room rest _ hrest
    obtain ⟨negative, d, ds, hdigit, hline⟩ := line_int n
    have hread : readValue (fuel + 1) room (line (.int n) ++ rest) = readScalar (line (.int n) ++ rest) := by
      rw [hline, List.append_assoc, List.cons_append, readValue_signed negative hdigit]
    rw [hread, line, write, Option.getD_some, readScalar_int n hrest]
    have hshort : (Value.int n).Renders room ↔ ¬Decimal.longest < Decimal.width n.natAbs := by
      rw [Value.renders_int_iff, Decimal.isLong, decide_eq_false_iff_not]
    exact ⟨fun hfits => if_neg (hshort.mp hfits), fun hlong => ⟨_, if_pos (not_not.mp (mt hshort.mpr hlong))⟩⟩
  | real negative units onGrid =>
    intro fuel room rest _ hrest
    obtain ⟨d, ds, hdigit, hline⟩ := line_finite negative onGrid
    have hread : readValue (fuel + 1) room (line (.real (.finite negative units onGrid)) ++ rest) =
        readScalar (line (.real (.finite negative units onGrid)) ++ rest) := by
      rw [hline, List.append_assoc, List.cons_append, readValue_signed negative hdigit]
    rw [hread, line, write, Option.getD_some]
    exact .of_eq (readScalar_real (.finite negative units onGrid) hrest) .real
  | text s =>
    intro fuel room rest _ _
    refine .of_eq ?_ .text
    rw [line, write, Option.getD_some]
    exact (readValue_quoted s.toList fuel room rest).trans (by rw [String.ofList_toList])

/-- **The line of JSON data is read as them**, unless they go beyond a limit of the reader, which is then reported. -/
theorem read_line {v : Value} (h : v.IsJson) (room : Nat) :
    (v.Renders room → read room (String.ofList (line v)) = .ok v) ∧
      (¬v.Renders room → ∃ limit, read room (String.ofList (line v)) = .error (.beyond limit)) := by
  obtain ⟨c, cs, hcs, hspace, -⟩ := starts_line h
  have hmark : (line v).head? ≠ some (Char.ofNat 0xfeff) := by
    rw [hcs, List.head?_cons, ne_eq, Option.some_inj]
    rintro rfl
    have hplain := isPlain_of_mem_line h (Char.ofNat 0xfeff) (by simp [hcs])
    revert hplain
    decide
  have hskip : skip (line v) = line v := by
    rw [hcs, skip_cons hspace]
  have hread := legible h (2 * (line v).length + 1) room [] (by omega) nofun
  rw [List.append_nil] at hread
  unfold read readDocument
  rw [String.toList_ofList, if_neg hmark, hskip]
  refine ⟨fun hfits => ?_, fun hbeyond => ?_⟩
  · rw [hread.eq_ok hfits]
    rfl
  · obtain ⟨limit, hlimit⟩ := hread.eq_beyond hbeyond
    rw [hlimit]
    exact ⟨limit, rfl⟩

end Chatflow.Json
