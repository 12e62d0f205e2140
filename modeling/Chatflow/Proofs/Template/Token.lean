import Chatflow.Proofs.Text.Search
import Chatflow.Template

/-!
# Placeholders and the texts between them

A template written as a row of pieces (`Piece`): texts without braces, and placeholders (`Token`), each a name with
blanks around it between double braces.  Every pattern of this library begins with a double brace (`Opens`), so that
no match begins inside a piece, and on a placeholder each says just what one expects:

* `placeholder_token`: the pattern of a variable matches the placeholders with its name, all of them and nothing more.
* `word_token`: the pattern of a name matches the placeholders that hold just that name, without blanks.
* `anyPlaceholder_token`: the pattern of any placeholder finds the name.
* `replaceAll_append_braced`, `replaceAll_append_plain`: what does not match is passed over.
-/

namespace Chatflow.Template

open Text (Blank Trimmed)

/-- A text without braces. -/
def Braceless (cs : List Char) : Prop := '{' ∉ cs ∧ '}' ∉ cs

instance (cs : List Char) : Decidable (Braceless cs) := inferInstanceAs (Decidable (_ ∧ _))

theorem Braceless.append {as bs : List Char} (ha : Braceless as) (hb : Braceless bs) : Braceless (as ++ bs) :=
  ⟨fun h => (List.mem_append.mp h).elim ha.1 hb.1, fun h => (List.mem_append.mp h).elim ha.2 hb.2⟩

theorem Braceless.of_blank {cs : List Char} (h : Blank cs) : Braceless cs := by
  refine ⟨fun hc => ?_, fun hc => ?_⟩
  · exact absurd (h _ hc) (by decide)
  · exact absurd (h _ hc) (by decide)

/-- A text between double braces. -/
def braced (inner : List Char) : List Char := opening ++ inner ++ closing

theorem braced_append (inner rest : List Char) : braced inner ++ rest = opening ++ (inner ++ (closing ++ rest)) := by
  simp only [braced, List.append_assoc]

theorem length_braced (inner : List Char) : (braced inner).length = opening.length + inner.length + closing.length := by
  simp only [braced, List.length_append]

theorem braced_prefix_iff {inner rest : List Char} :
    braced inner <+: opening ++ rest ↔ inner ++ closing <+: rest := by
  rw [braced, List.append_assoc, List.prefix_append_right_inj]

theorem braced_prefix_braced_iff {inner other : List Char} :
    braced inner <+: braced other ↔ inner ++ closing <+: other ++ closing := by
  rw [braced, braced, List.append_assoc, List.append_assoc, List.prefix_append_right_inj]

/-- The placeholder of a name, without blanks. -/
def placeholderOf (name : String) : String := String.ofList (braced name.toList)

theorem toList_placeholderOf (name : String) : (placeholderOf name).toList = braced name.toList := String.toList_ofList

/-- A placeholder: a name between double braces, with blanks around it. -/
structure Token where
  lead : List Char
  name : List Char
  trail : List Char
  lead_blank : Blank lead
  trail_blank : Blank trail
  name_braceless : Braceless name
  name_trimmed : Trimmed name

namespace Token

/-- What stands between the braces. -/
def inner (t : Token) : List Char := t.lead ++ t.name ++ t.trail

/-- A placeholder as it is written. -/
def written (t : Token) : List Char := braced t.inner

theorem braceless_inner (t : Token) : Braceless t.inner :=
  ((Braceless.of_blank t.lead_blank).append t.name_braceless).append (.of_blank t.trail_blank)

theorem trim_inner (t : Token) : Text.trim t.inner = t.name :=
  Text.trim_pad t.lead_blank t.trail_blank t.name_trimmed

theorem written_ne_nil (t : Token) : t.written ≠ [] := List.cons_ne_nil _ _

/-- A placeholder without blanks. -/
def bare (name : List Char) (hb : Braceless name) (hn : Trimmed name) : Token :=
  ⟨[], name, [], fun _ => nofun, fun _ => nofun, hb, hn⟩

theorem written_bare {name : List Char} (hb : Braceless name) (hn : Trimmed name) :
    (bare name hb hn).written = braced name := by
  rw [written, inner, bare, List.nil_append, List.append_nil]

/-- A placeholder holds just a name when there are no blanks around it. -/
theorem inner_eq_iff {t : Token} {name : List Char} (h : Trimmed name) :
    t.inner = name ↔ (t.lead = [] ∧ t.trail = []) ∧ t.name = name := by
  constructor
  · intro hi
    have hname : t.name = name := by
      have hnone : Blank [] := fun _ => nofun
      have hpad := Text.trim_pad hnone hnone h
      rw [← t.trim_inner, hi]
      simpa using hpad
    have hlen := congrArg List.length hi
    rw [inner, hname, List.length_append, List.length_append] at hlen
    exact ⟨⟨List.eq_nil_of_length_eq_zero (by omega), List.eq_nil_of_length_eq_zero (by omega)⟩, hname⟩
  · rintro ⟨⟨hl, ht⟩, hn⟩
    rw [inner, hl, ht, hn, List.nil_append, List.append_nil]

end Token

/-- A piece of a template: a text without braces, or a placeholder. -/
inductive Piece where
  | plain (cs : List Char) (braceless : Braceless cs)
  | token (t : Token)

/-- A piece as it is written. -/
def Piece.written : Piece → List Char
  | .plain cs _ => cs
  | .token t => t.written

/-- The text of a row of pieces. -/
def written (pieces : List Piece) : List Char := pieces.flatMap Piece.written

/-! ## Where a match begins -/

/-- A pattern whose matches all begin with a double brace. -/
def Opens {α : Type} (pattern : List Char → Option α) : Prop := ∀ cs, ¬opening <+: cs → pattern cs = none

theorem opens_placeholder (name : List Char) : Opens (placeholder name) := by
  intro cs h
  have hopen : opening.isPrefixOf cs = false := by rwa [← Bool.not_eq_true, List.isPrefixOf_iff_prefix]
  rw [placeholder, if_pos (by rw [hopen]; rfl)]

theorem opens_word (rest : List Char) : Opens (Text.word (opening ++ rest)) := fun _ h =>
  Text.word_eq_none fun hp => h ((List.prefix_append opening rest).trans hp)

theorem opens_anyPlaceholder : Opens anyPlaceholder := by
  intro cs h
  have hopen : opening.isPrefixOf cs = false := by rwa [← Bool.not_eq_true, List.isPrefixOf_iff_prefix]
  rw [anyPlaceholder, if_pos (by rw [hopen]; rfl)]

/-- No match begins in a text without opening braces. -/
theorem Opens.eq_none_of_suffix {α : Type} {pattern : List Char → Option α} (ho : Opens pattern)
    {cs rest tail : List Char} (h : '{' ∉ cs) (hne : tail ≠ []) (hs : tail <:+ cs) :
    pattern (tail ++ rest) = none := by
  refine ho _ fun hp => h ?_
  obtain ⟨c, tail, rfl⟩ := List.exists_cons_of_ne_nil hne
  obtain rfl : '{' = c := (List.cons_prefix_cons.mp hp).1
  exact hs.mem List.mem_cons_self

/-- A text without double braces stays as it is. -/
theorem Opens.replaceAll_of_not_occurs {pattern : List Char → Option Nat} (ho : Opens pattern) (new : List Char)
    {cs : List Char} (h : Text.occurs opening cs = false) : Text.replaceAll pattern new cs = cs := by
  refine Text.replaceAll_of_none new fun tail _ hs => ho tail fun hp => ?_
  have hocc : Text.occurs opening cs = true := Text.occurs_iff.mpr (hp.isInfix.trans hs.isInfix)
  rw [h] at hocc
  cases hocc

/-- When no match begins at a text between double braces, none begins inside it. -/
theorem Opens.eq_none_of_suffix_braced {α : Type} {pattern : List Char → Option α} (ho : Opens pattern)
    {inner rest tail : List Char} (hb : Braceless inner) (h : pattern (braced inner ++ rest) = none)
    (hne : tail ≠ []) (hs : tail <:+ braced inner) : pattern (tail ++ rest) = none := by
  have hinside : '{' ∉ inner ++ closing := fun hm => (List.mem_append.mp hm).elim hb.1 (by decide)
  have hwritten : braced inner = '{' :: '{' :: (inner ++ closing) := rfl
  rw [hwritten] at hs
  rcases List.suffix_cons_iff.mp hs with rfl | hs
  · exact h
  rcases List.suffix_cons_iff.mp hs with rfl | hs
  · -- the second brace: what follows it is no opening brace
    refine ho _ fun hp => hinside ?_
    have htwo : ['{'] <+: inner ++ closing ++ rest := (List.cons_prefix_cons.mp hp).2
    cases hc : inner ++ closing with
    | nil => simp [closing] at hc
    | cons c cs =>
      rw [hc] at htwo
      rw [(List.cons_prefix_cons.mp htwo).1]
      exact List.mem_cons_self
  · exact ho.eq_none_of_suffix hinside hne hs

section Replace

variable {pattern : List Char → Option Nat} (ho : Opens pattern) (new : List Char)
include ho

theorem replaceAll_append_plain {cs : List Char} (h : Braceless cs) (rest : List Char) :
    Text.replaceAll pattern new (cs ++ rest) = cs ++ Text.replaceAll pattern new rest :=
  Text.replaceAll_append_of_none new fun _ hne hs => ho.eq_none_of_suffix h.1 hne hs

theorem replaceAll_append_braced {inner rest : List Char} (hb : Braceless inner)
    (h : pattern (braced inner ++ rest) = none) :
    Text.replaceAll pattern new (braced inner ++ rest) = braced inner ++ Text.replaceAll pattern new rest :=
  Text.replaceAll_append_of_none new fun _ hne hs => ho.eq_none_of_suffix_braced hb h hne hs

end Replace

/-! ## Where a match ends -/

/-- When a closed text and a longer one both begin a text, the longer one holds a closing brace. -/
theorem mem_of_closed {u v text : List Char} (hu : u ++ closing <+: text) (hv : v <+: text)
    (h : u.length < v.length) : '}' ∈ v := by
  have hbrace : u ++ ['}'] <+: u ++ closing := ⟨['}'], by simp [closing]⟩
  have hp : u ++ ['}'] <+: v := by
    refine List.prefix_of_prefix_length_le (hbrace.trans hu) hv ?_
    rw [List.length_append]
    exact h
  exact hp.mem (List.mem_append_right u (List.mem_singleton.mpr rfl))

/-- Two closed texts without closing braces that begin the same text are the same. -/
theorem eq_of_closed {u v text : List Char} (hu : u ++ closing <+: text) (hv : v ++ closing <+: text)
    (hu' : '}' ∉ u) (hv' : '}' ∉ v) : u = v := by
  have hup : u <+: text := (List.prefix_append u closing).trans hu
  have hvp : v <+: text := (List.prefix_append v closing).trans hv
  rcases Nat.lt_trichotomy u.length v.length with h | h | h
  · exact absurd (mem_of_closed hu hvp h) hv'
  · exact (List.prefix_of_prefix_length_le hup hvp (Nat.le_of_eq h)).eq_of_length h
  · exact absurd (mem_of_closed hv hup h) hu'

/-! ## The pattern of a variable -/

theorem placeholderAfter_eq_some {name rest : List Char} {blanks n : Nat}
    (h : placeholderAfter name (opening ++ rest) blanks = some n) :
    ∃ trail, Blank trail ∧ name ++ trail ++ closing <+: rest.drop blanks ∧
      n = opening.length + blanks + name.length + trail.length + closing.length := by
  rw [placeholderAfter, ← List.drop_drop, List.drop_left] at h
  simp only [Bool.not_eq_true', ← Bool.not_eq_true, List.isPrefixOf_iff_prefix] at h
  split at h
  · cases h
  rename_i hname
  obtain ⟨behind, hbehind⟩ := not_not.mp hname
  rw [← hbehind, List.drop_left] at h
  obtain ⟨tail, htail⟩ := List.takeWhile_prefix Text.isBlank (l := behind)
  split at h
  · rename_i hclose
    refine ⟨behind.takeWhile Text.isBlank, fun c hc => List.mem_takeWhile_imp hc, ?_, (Option.some.inj h).symm⟩
    have hdrop : behind.drop (behind.takeWhile Text.isBlank).length = tail := by
      generalize behind.takeWhile Text.isBlank = gap at htail
      rw [← htail, List.drop_left]
    rw [hdrop] at hclose
    obtain ⟨after, rfl⟩ := hclose
    rw [← hbehind, List.append_assoc, List.prefix_append_right_inj]
    exact ⟨after, by rw [List.append_assoc, htail]⟩
  · cases h

/-- What the pattern of a variable matches is its name between double braces, with blanks around it. -/
theorem placeholder_eq_some {name cs : List Char} {n : Nat} (h : placeholder name cs = some n) :
    ∃ lead trail, Blank lead ∧ Blank trail ∧ braced (lead ++ name ++ trail) <+: cs ∧
      n = (braced (lead ++ name ++ trail)).length := by
  by_cases hopen : opening <+: cs
  · obtain ⟨rest, rfl⟩ := hopen
    have hp : opening.isPrefixOf (opening ++ rest) = true :=
      List.isPrefixOf_iff_prefix.mpr (List.prefix_append opening rest)
    rw [placeholder, if_neg (by rw [hp]; nofun), List.drop_left] at h
    -- The pattern tries the most blanks first and gives some back; whichever number it settles on, they are blanks.
    obtain ⟨blanks, hmem, hafter⟩ := List.exists_of_findSome?_eq_some h
    rw [List.mem_reverse, List.mem_range] at hmem
    obtain ⟨trail, ht, hclose, rfl⟩ := placeholderAfter_eq_some hafter
    have hlen : (rest.take blanks).length = blanks := by
      have hle := (List.takeWhile_prefix Text.isBlank (l := rest)).length_le
      rw [List.length_take]
      omega
    have hlead : rest.take blanks <+: rest.takeWhile Text.isBlank :=
      List.prefix_of_prefix_length_le (List.take_prefix blanks rest) (List.takeWhile_prefix _) (by omega)
    refine ⟨rest.take blanks, trail, fun c hc => List.mem_takeWhile_imp (hlead.mem hc), ht, ?_, ?_⟩
    · have hwhole : rest.take blanks ++ (name ++ trail ++ closing) <+: rest.take blanks ++ rest.drop blanks :=
        (List.prefix_append_right_inj _).mpr hclose
      rw [List.take_append_drop] at hwhole
      rw [braced_prefix_iff]
      simpa only [List.append_assoc] using hwhole
    · simp only [length_braced, List.length_append, hlen]
      omega
  · rw [opens_placeholder name cs hopen] at h
    cases h

/-- The pattern of a variable matches wherever its name stands between double braces, with blanks around it. -/
theorem placeholder_ne_none {name lead trail : List Char} (hl : Blank lead) (ht : Blank trail) (rest : List Char) :
    placeholder name (braced (lead ++ name ++ trail) ++ rest) ≠ none := by
  have htext : braced (lead ++ name ++ trail) ++ rest =
      opening ++ (lead ++ (name ++ (trail ++ (closing ++ rest)))) := by
    simp only [braced, List.append_assoc]
  have hgap : (trail ++ (closing ++ rest)).takeWhile Text.isBlank = trail := by
    rw [List.takeWhile_append_of_pos ht]
    exact List.append_nil trail
  have hstart : ∀ as bs : List Char, as.isPrefixOf (as ++ bs) = true := fun as bs =>
    List.isPrefixOf_iff_prefix.mpr (List.prefix_append as bs)
  rw [htext]
  have hafter : placeholderAfter name (opening ++ (lead ++ (name ++ (trail ++ (closing ++ rest))))) lead.length ≠
      none := by
    simp only [placeholderAfter, ← List.drop_drop, List.drop_left, hstart, hgap]
    exact nofun
  intro hnone
  rw [placeholder, if_neg (by rw [hstart]; nofun), List.drop_left] at hnone
  refine hafter (List.findSome?_eq_none_iff.mp hnone lead.length ?_)
  rw [List.mem_reverse, List.mem_range, List.takeWhile_append_of_pos hl, List.length_append]
  omega

/-- **The pattern of a variable matches the placeholders with its name, all of each and nothing more.** -/
theorem placeholder_token {name : List Char} (hb : Braceless name) (hn : Trimmed name) (t : Token)
    (rest : List Char) :
    placeholder name (t.written ++ rest) = if t.name = name then some t.written.length else none := by
  -- A match cannot reach over the end of the placeholder: neither inside holds a closing brace.
  have hinner : ∀ lead trail, Blank lead → Blank trail →
      braced (lead ++ name ++ trail) <+: t.written ++ rest → lead ++ name ++ trail = t.inner := by
    intro lead trail hl ht hp
    have hbrace : Braceless (lead ++ name ++ trail) := ((Braceless.of_blank hl).append hb).append (.of_blank ht)
    rw [Token.written, braced_append, braced_prefix_iff, ← List.append_assoc] at hp
    exact eq_of_closed hp (List.prefix_append _ _) hbrace.2 t.braceless_inner.2
  by_cases h : t.name = name
  · subst h
    obtain ⟨n, hn'⟩ := Option.ne_none_iff_exists'.mp (placeholder_ne_none t.lead_blank t.trail_blank rest)
    obtain ⟨lead, trail, hl, ht, hp, hlen⟩ := placeholder_eq_some hn'
    rw [hinner lead trail hl ht hp] at hlen
    rw [if_pos rfl]
    exact hn'.trans (congrArg some hlen)
  · rw [if_neg h, Option.eq_none_iff_forall_ne_some]
    intro n hn'
    obtain ⟨lead, trail, hl, ht, hp, -⟩ := placeholder_eq_some hn'
    refine h ?_
    rw [← t.trim_inner, ← hinner lead trail hl ht hp, Text.trim_pad hl ht hn]

/-! ## The patterns of names and of any placeholder -/

/-- The pattern of a name matches the placeholders that hold just that name. -/
theorem word_token {name : List Char} (hb : Braceless name) (t : Token) (rest : List Char) :
    Text.word (braced name) (t.written ++ rest) = if t.inner = name then some t.written.length else none := by
  by_cases h : t.inner = name
  · rw [if_pos h, Token.written, h, Text.word_append]
  · rw [if_neg h]
    refine Text.word_eq_none fun hp => h ?_
    rw [Token.written, braced_append, braced_prefix_iff, ← List.append_assoc] at hp
    exact eq_of_closed (List.prefix_append _ _) hp t.braceless_inner.2 hb.2

/-- The pattern of any placeholder finds the name. -/
theorem anyPlaceholder_token (t : Token) (rest : List Char) :
    anyPlaceholder (t.written ++ rest) = some (String.ofList t.name, t.written.length) := by
  have hopen : opening.isPrefixOf (opening ++ (t.inner ++ (closing ++ rest))) = true :=
    List.isPrefixOf_iff_prefix.mpr (List.prefix_append _ _)
  have hinner : (t.inner ++ (closing ++ rest)).takeWhile (fun c => c != '{' && c != '}') = t.inner := by
    rw [List.takeWhile_append_of_pos]
    · exact List.append_nil t.inner
    · intro c hc
      have hl : c ≠ '{' := fun h => t.braceless_inner.1 (h ▸ hc)
      have hr : c ≠ '}' := fun h => t.braceless_inner.2 (h ▸ hc)
      simp [hl, hr]
  have hclose : closing.isPrefixOf (closing ++ rest) = true :=
    List.isPrefixOf_iff_prefix.mpr (List.prefix_append _ _)
  rw [Token.written, braced_append, length_braced, anyPlaceholder, if_neg (by rw [hopen]; nofun)]
  simp only [List.drop_left, hinner, ← List.drop_drop, hclose, if_true, t.trim_inner, Option.some.injEq,
    Prod.mk.injEq, true_and]
  omega

end Chatflow.Template
