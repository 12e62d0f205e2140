import Mathlib.Data.List.Forall2
import Chatflow.Proofs.Template.Token

/-!
# A template as a row of passes

A template is filled in by passes over the whole text (`Pass`): one for each variable, in order, and one for each name
that every template knows (`fill_eq_passes`).

A pass is clean when it takes placeholders as a whole and puts in a text without braces (`Pass.Clean`).  Clean passes
work piece by piece (`applyAll_written`): a placeholder becomes the text of the first pass that takes it, in which the
later passes find nothing, or it stays as it is.
-/

namespace Chatflow.Template

/-- A pass over a text: all that a pattern matches gives way to a new text. -/
structure Pass where
  pattern : List Char → Option Nat
  new : List Char

namespace Pass

/-- A text after a pass. -/
def apply (pass : Pass) (text : List Char) : List Char := Text.replaceAll pass.pattern pass.new text

/-- A text after some passes, one after the other. -/
def applyAll (passes : List Pass) (text : List Char) : List Char :=
  passes.foldl (fun text pass => pass.apply text) text

/-- The pass that puts a text in for a variable. -/
def ofVariable (entry : String × String) : Pass := ⟨placeholder entry.1.toList, entry.2.toList⟩

/-- The pass that puts a text in for a name right between double braces. -/
def ofName (entry : String × String) : Pass := ⟨Text.word (braced entry.1.toList), entry.2.toList⟩

theorem apply_ofName (name new : String) (text : List Char) :
    (ofName (name, new)).apply text = putName name new.toList text := rfl

@[simp] theorem applyAll_nil (text : List Char) : applyAll [] text = text := rfl

@[simp] theorem applyAll_cons (pass : Pass) (passes : List Pass) (text : List Char) :
    applyAll (pass :: passes) text = applyAll passes (pass.apply text) := rfl

theorem applyAll_append (passes more : List Pass) (text : List Char) :
    applyAll (passes ++ more) text = applyAll more (applyAll passes text) :=
  List.foldl_append

theorem applyAll_empty (passes : List Pass) : applyAll passes [] = [] := by
  induction passes with
  | nil => rfl
  | cons pass passes ih => exact ih

/-! ## The passes of a context -/

/-- The texts of variables. -/
def shown (room : Nat) (vars : Fields) : Except Value.Fault (Keyed String) :=
  vars.mapM fun entry => return (entry.1, ← entry.2.rendered room)

/-- The names that every template knows, and their texts. -/
def ownTexts (now : Moment) (user : String) (context : Context) : Keyed String :=
  ("user_id", user) :: ("timestamp", now.iso) ::
    match context.lastMessage with
    | none => []
    | some m => [("last_message", m.content), ("message", m.content)]

/-- All passes: those of the variables, then those of the names that every template knows. -/
def all (now : Moment) (texts : Keyed String) (user : String) (context : Context) : List Pass :=
  texts.map ofVariable ++ (ownTexts now user context).map ofName

variable {room : Nat}

theorem shown_cons (name : String) (v : Value) (vars : Fields) :
    shown room ((name, v) :: vars) = do
      let text ← v.rendered room
      let texts ← shown room vars
      return (name, text) :: texts := by
  rw [shown, List.mapM_cons]
  cases v.rendered room <;> rfl

theorem shown_append (vars more : Fields) :
    shown room (vars ++ more) = do
      let texts ← shown room vars
      let others ← shown room more
      return texts ++ others := by
  rw [shown, List.mapM_append]
  rfl

/-- The texts of variables are the variables, each with its value rendered. -/
theorem shown_eq_ok_iff {vars : Fields} {texts : Keyed String} :
    shown room vars = .ok texts ↔ List.Forall₂ (fun e t => e.1 = t.1 ∧ e.2.rendered room = .ok t.2) vars texts := by
  induction vars generalizing texts with
  | nil =>
    rw [List.forall₂_nil_left_iff]
    exact ⟨fun h => (Except.ok.inj h).symm, fun h => congrArg Except.ok h.symm⟩
  | cons entry vars ih =>
    obtain ⟨name, v⟩ := entry
    rw [shown_cons, List.forall₂_cons_left_iff]
    constructor
    · intro h
      cases hv : v.rendered room with
      | error fault => rw [hv] at h; cases h
      | ok text =>
        cases hs : shown room vars with
        | error fault => rw [hv, hs] at h; cases h
        | ok others =>
          rw [hv, hs] at h
          exact ⟨(name, text), others, ⟨rfl, rfl⟩, ih.mp hs, (Except.ok.inj h).symm⟩
    · rintro ⟨⟨name', text⟩, others, ⟨rfl, hv⟩, hrest, rfl⟩
      have hshown : shown room vars = .ok others := ih.mpr hrest
      rw [hv, hshown]
      rfl

/-- Variables that can all be rendered have their texts. -/
theorem exists_shown {vars : Fields} (h : ∀ e ∈ vars, ∃ text, e.2.rendered room = .ok text) :
    ∃ texts, shown room vars = .ok texts := by
  induction vars with
  | nil => exact ⟨[], rfl⟩
  | cons entry vars ih =>
    obtain ⟨text, htext⟩ := h entry List.mem_cons_self
    obtain ⟨texts, htexts⟩ := ih fun e he => h e (List.mem_cons_of_mem _ he)
    exact ⟨(entry.1, text) :: texts, by rw [shown_cons, htext, htexts]; rfl⟩

theorem mem_shown {vars : Fields} {texts : Keyed String} (h : shown room vars = .ok texts) {name text : String}
    (hm : (name, text) ∈ texts) : ∃ v, (name, v) ∈ vars ∧ v.rendered room = .ok text := by
  rw [shown_eq_ok_iff] at h
  induction h with
  | nil => cases hm
  | @cons entry shownEntry vars texts hhead _ ih =>
    obtain ⟨hname, hv⟩ := hhead
    rcases List.mem_cons.mp hm with rfl | hrest
    · obtain ⟨name', v⟩ := entry
      obtain rfl : name' = name := hname
      exact ⟨v, List.mem_cons_self, hv⟩
    · obtain ⟨v, hmem, hr⟩ := ih hrest
      exact ⟨v, List.mem_cons_of_mem _ hmem, hr⟩

/-- What is shown under a name is what stands under it, rendered. -/
theorem get?_shown {vars : Fields} {texts : Keyed String} (h : shown room vars = .ok texts) (name : String) :
    (vars.get? name).map (·.rendered room) = (texts.get? name).map .ok := by
  rw [shown_eq_ok_iff] at h
  induction h with
  | nil => rfl
  | @cons entry text vars texts hhead _ ih =>
    obtain ⟨hname, hv⟩ := hhead
    by_cases hn : entry.1 = name
    · have hn' : text.1 = name := hname ▸ hn
      simp [Keyed.get?, hn, hn', hv]
    · have hn' : text.1 ≠ name := fun h => hn (hname.trans h)
      simpa [Keyed.get?, hn, hn'] using ih

theorem putVariables_eq_passes (vars : Fields) (text : List Char) :
    putVariables room vars text = (shown room vars).map fun texts => applyAll (texts.map ofVariable) text := by
  induction vars generalizing text with
  | nil => rfl
  | cons entry vars ih =>
    obtain ⟨name, v⟩ := entry
    rw [putVariables, shown_cons]
    cases v.rendered room with
    | error fault => rfl
    | ok new =>
      show putVariables room vars (putVariable name.toList new.toList text) = _
      rw [ih]
      cases shown room vars <;> rfl

/-- **Filling in a template is a row of passes.** -/
theorem fill_eq_passes (now : Moment) (template : String) (context : Context) :
    fill room now template context = do
      let texts ← shown room context.vars
      let user ← context.user.value.rendered room
      return String.ofList (applyAll (all now texts user context) template.toList) := by
  rw [fill, putVariables_eq_passes]
  cases shown room context.vars with
  | error fault => rfl
  | ok texts =>
    cases context.user.value.rendered room with
    | error fault => rfl
    | ok user =>
      cases h : context.lastMessage <;>
        simp only [all, ownTexts, h, applyAll_append, List.map_cons, List.map_nil, applyAll_cons, apply_ofName,
          applyAll_nil, Except.map, Except.bind, bind, pure, Except.pure]

theorem opens_ofVariable (entry : String × String) : Opens (ofVariable entry).pattern := opens_placeholder _

theorem opens_ofName (entry : String × String) : Opens (ofName entry).pattern := by
  rw [ofName, braced, List.append_assoc]
  exact opens_word _

/-! ## Clean passes -/

/-- Whether a pass takes a placeholder. -/
def takes (pass : Pass) (t : Token) : Bool := (pass.pattern t.written).isSome

/-- A pass that takes placeholders as a whole and puts in a text without braces. -/
structure Clean (pass : Pass) : Prop where
  opens : Opens pass.pattern
  braceless : Braceless pass.new
  whole : ∀ t rest, pass.pattern (t.written ++ rest) = if pass.takes t then some t.written.length else none

theorem takes_ofVariable {name : String} (hb : Braceless name.toList) (hn : Text.Trimmed name.toList) (new : String)
    (t : Token) : (ofVariable (name, new)).takes t = decide (t.name = name.toList) := by
  have htoken := placeholder_token hb hn t []
  rw [List.append_nil] at htoken
  show (placeholder name.toList t.written).isSome = _
  rw [htoken]
  by_cases h : t.name = name.toList <;> simp [h]

theorem takes_ofName {name : String} (hb : Braceless name.toList) (new : String) (t : Token) :
    (ofName (name, new)).takes t = decide (t.inner = name.toList) := by
  have htoken := word_token hb t []
  rw [List.append_nil] at htoken
  show (Text.word (braced name.toList) t.written).isSome = _
  rw [htoken]
  by_cases h : t.inner = name.toList <;> simp [h]

theorem clean_ofVariable {name new : String} (hb : Braceless name.toList) (hn : Text.Trimmed name.toList)
    (hnew : Braceless new.toList) : (ofVariable (name, new)).Clean := by
  refine ⟨opens_ofVariable _, hnew, fun t rest => ?_⟩
  rw [takes_ofVariable hb hn]
  simpa [ofVariable] using placeholder_token hb hn t rest

theorem clean_ofName {name new : String} (hb : Braceless name.toList) (hnew : Braceless new.toList) :
    (ofName (name, new)).Clean := by
  refine ⟨opens_ofName _, hnew, fun t rest => ?_⟩
  rw [takes_ofName hb]
  simpa [ofName] using word_token hb t rest

/-- What a placeholder becomes: the text of the first pass that takes it, or itself. -/
def settle (passes : List Pass) (t : Token) : List Char :=
  match passes.find? (·.takes t) with
  | some pass => pass.new
  | none => t.written

/-- What a piece becomes. -/
def settlePiece (passes : List Pass) : Piece → List Char
  | .plain cs _ => cs
  | .token t => settle passes t

section Clean

variable {passes : List Pass} (hclean : ∀ pass ∈ passes, pass.Clean)
include hclean

theorem applyAll_plain {cs : List Char} (h : Braceless cs) (rest : List Char) :
    applyAll passes (cs ++ rest) = cs ++ applyAll passes rest := by
  induction passes generalizing rest with
  | nil => rfl
  | cons pass passes ih =>
    have hpass := hclean pass List.mem_cons_self
    rw [applyAll_cons, apply, replaceAll_append_plain hpass.opens _ h]
    exact ih (fun p hp => hclean p (List.mem_cons_of_mem _ hp)) _

theorem applyAll_token (t : Token) (rest : List Char) :
    applyAll passes (t.written ++ rest) = settle passes t ++ applyAll passes rest := by
  induction passes generalizing rest with
  | nil => rfl
  | cons pass passes ih =>
    have hpass := hclean pass List.mem_cons_self
    have hrest : ∀ p ∈ passes, p.Clean := fun p hp => hclean p (List.mem_cons_of_mem _ hp)
    have hwhole := hpass.whole t rest
    rw [applyAll_cons, applyAll_cons, settle, List.find?_cons, apply]
    cases ht : pass.takes t with
    | true =>
      -- The text that was put in has no braces, so the later passes pass over it.
      rw [ht, if_pos rfl] at hwhole
      rw [Text.replaceAll_append_of_hit _ t.written_ne_nil hwhole]
      exact applyAll_plain hrest hpass.braceless _
    | false =>
      -- The placeholder stays for the later passes.
      rw [ht, if_neg Bool.false_ne_true] at hwhole
      rw [Token.written, replaceAll_append_braced hpass.opens _ t.braceless_inner hwhole]
      exact ih hrest _

/-- **Clean passes work piece by piece.** -/
theorem applyAll_written (pieces : List Piece) :
    applyAll passes (written pieces) = pieces.flatMap (settlePiece passes) := by
  induction pieces with
  | nil => exact applyAll_empty passes
  | cons piece pieces ih =>
    have hwritten : written (piece :: pieces) = piece.written ++ written pieces := rfl
    rw [hwritten, List.flatMap_cons, ← ih]
    cases piece with
    | plain cs h => exact applyAll_plain hclean h _
    | token t => exact applyAll_token hclean t _

end Clean

end Pass

end Chatflow.Template
