import Chatflow.Proofs.Template.Passes

/-!
# One pass from left to right

What a template should become can be told in one pass (`onePass`): each placeholder gives way to what the context says
for it (`Token.meaning`), or stays.  Filling in goes over the whole text once for each name instead, so that a text that
was put in may be taken for a part of the template.  When no text that can be put in holds braces (`Unbraced`), the two
come to the same (`substitute_eq_onePass`), whatever the order of the variables.
-/

namespace Chatflow.Template

/-- What a name stands for when it is no variable. -/
def ownMeaning (room : Nat) (now : Moment) (context : Context) (name : String) : Option (Except Value.Fault String) :=
  if name = "user_id" then some (context.user.value.rendered room)
  else if name = "timestamp" then some (.ok now.iso)
  else if name = "last_message" ∨ name = "message" then context.lastMessage.map fun m => .ok m.content
  else none

/-- What a placeholder stands for: the variable of its name, else, without blanks, what every template knows. -/
def Token.meaning (room : Nat) (now : Moment) (context : Context) (t : Token) : Option (Except Value.Fault String) :=
  match context.vars.get? (String.ofList t.name) with
  | some v => some (v.rendered room)
  | none => if t.lead = [] ∧ t.trail = [] then ownMeaning room now context (String.ofList t.name) else none

/-- A template filled in from left to right. -/
def onePass (room : Nat) (now : Moment) (context : Context) : List Piece → Except Value.Fault (List Char)
  | [] => .ok []
  | .plain cs _ :: rest => return cs ++ (← onePass room now context rest)
  | .token t :: rest =>
    match t.meaning room now context with
    | some text => return (← text).toList ++ (← onePass room now context rest)
    | none => return t.written ++ (← onePass room now context rest)

/-- The names of the placeholders that stand for nothing, from left to right. -/
def unknown (room : Nat) (now : Moment) (context : Context) : List Piece → List String
  | [] => []
  | .plain _ _ :: rest => unknown room now context rest
  | .token t :: rest =>
    match t.meaning room now context with
    | some _ => unknown room now context rest
    | none => String.ofList t.name :: unknown room now context rest

/-- A context in which all variables can be rendered, and whose names and texts hold no braces. -/
structure Unbraced (room : Nat) (context : Context) : Prop where
  names : ∀ e ∈ context.vars, Braceless e.1.toList ∧ Text.Trimmed e.1.toList
  values : ∀ e ∈ context.vars, ∃ text, e.2.rendered room = .ok text ∧ Braceless text.toList
  user : ∃ text, context.user.value.rendered room = .ok text ∧ Braceless text.toList
  message : ∀ m ∈ context.lastMessage, Braceless m.content.toList

variable {room : Nat}

/-! ## The time -/

theorem braceless_padded (width n : Nat) : Braceless (Moment.padded width n).toList := by
  have hdigit : ∀ c ∈ (toString n).toList, c.isDigit = true := by
    intro c hc
    rw [Nat.toString_eq_repr, Nat.repr_eq_ofList_toDigits, String.toList_ofList] at hc
    exact Nat.isDigit_of_mem_toDigits (by omega) (by omega) hc
  have hzeros : ∀ k, ∀ c ∈ ("".pushn '0' k).toList, c.isDigit = true := by
    intro k
    rw [String.pushn_eq_repeat_push]
    induction k with
    | zero => exact fun c hc => nomatch hc
    | succ k ih =>
      intro c hc
      rw [Nat.repeat, String.toList_push, List.mem_append, List.mem_singleton] at hc
      rcases hc with hc | rfl
      · exact ih c hc
      · rfl
  have hall : ∀ c ∈ (Moment.padded width n).toList, c.isDigit = true := by
    intro c hc
    rw [Moment.padded, String.toList_append, List.mem_append] at hc
    exact hc.elim (hzeros _ c) (hdigit c)
  exact ⟨fun h => absurd (hall _ h) (by decide), fun h => absurd (hall _ h) (by decide)⟩

theorem braceless_iso (now : Moment) : Braceless now.iso.toList := by
  have hmark : ∀ s ∈ ["-", "T", ":", ".", "Z"], Braceless s.toList := by decide
  simp only [List.forall_mem_cons] at hmark
  obtain ⟨hdash, hT, hcolon, hdot, hZ, -⟩ := hmark
  simp only [Moment.iso, Moment.seconds, String.toList_append]
  refine .append (.append (.append ?_ hdot) (braceless_padded _ _)) hZ
  exact .append (.append (.append (.append (.append (.append (.append (.append (.append (.append
    (braceless_padded _ _) hdash) (braceless_padded _ _)) hdash) (braceless_padded _ _)) hT)
    (braceless_padded _ _)) hcolon) (braceless_padded _ _)) hcolon) (braceless_padded _ _)

/-! ## The passes of a context without braces -/

theorem mem_ownTexts {now : Moment} {user : String} {context : Context} {e : String × String}
    (h : e ∈ Pass.ownTexts now user context) :
    e = ("user_id", user) ∨ e = ("timestamp", now.iso) ∨
      ∃ m ∈ context.lastMessage, e = ("last_message", m.content) ∨ e = ("message", m.content) := by
  rw [Pass.ownTexts] at h
  cases hm : context.lastMessage with
  | none => simpa [hm] using h
  | some m => simpa [hm] using h

/-- The names that every template knows hold neither braces nor blanks. -/
theorem ownTexts_names {now : Moment} {user : String} {context : Context} {e : String × String}
    (h : e ∈ Pass.ownTexts now user context) : Braceless e.1.toList ∧ Text.Trimmed e.1.toList := by
  have hnames : ∀ name ∈ ["user_id", "timestamp", "last_message", "message"],
      Braceless name.toList ∧ Text.Trimmed name.toList := by decide
  rcases mem_ownTexts h with rfl | rfl | ⟨m, -, rfl | rfl⟩ <;> exact hnames _ (by simp)

theorem ownMeaning_eq {now : Moment} {user : String} {context : Context}
    (hu : context.user.value.rendered room = .ok user) (name : String) :
    ownMeaning room now context name = ((Pass.ownTexts now user context).get? name).map .ok := by
  unfold ownMeaning Pass.ownTexts
  by_cases huser : name = "user_id"
  · subst huser
    exact congrArg some hu
  by_cases htime : name = "timestamp"
  · subst htime
    rfl
  rw [if_neg huser, if_neg htime]
  have hskip : ∀ entries : Keyed String,
      Keyed.get? (("user_id", user) :: ("timestamp", now.iso) :: entries) name = entries.get? name := by
    intro entries
    simp [Keyed.get?, Ne.symm huser, Ne.symm htime]
  rw [hskip]
  cases context.lastMessage with
  | none => simp [Keyed.get?]
  | some m =>
    by_cases hlast : name = "last_message"
    · subst hlast
      rfl
    by_cases hmessage : name = "message"
    · subst hmessage
      rfl
    simp [Keyed.get?, hlast, hmessage, Ne.symm hlast, Ne.symm hmessage]

/-- With blanks around it, a name means nothing to every template. -/
theorem get?_ownTexts_inner {now : Moment} {user : String} {context : Context} (t : Token) :
    (Pass.ownTexts now user context).get? (String.ofList t.inner) =
      if t.lead = [] ∧ t.trail = [] then (Pass.ownTexts now user context).get? (String.ofList t.name) else none := by
  by_cases hp : t.lead = [] ∧ t.trail = []
  · rw [if_pos hp, Token.inner, hp.1, hp.2, List.nil_append, List.append_nil]
  · rw [if_neg hp, Keyed.get?, Option.map_eq_none_iff, List.find?_eq_none]
    intro e he hname
    have hinner : t.inner = e.1.toList := by rw [beq_iff_eq.mp hname, String.toList_ofList]
    exact hp ((Token.inner_eq_iff (ownTexts_names he).2).mp hinner).1

/-- What takes a placeholder among passes made from names and texts is found by looking the name up. -/
theorem find?_takes {make : String × String → Pass} (hnew : ∀ e, (make e).new = e.2.toList) {entries : Keyed String}
    {t : Token} {name : List Char}
    (h : ∀ e ∈ entries, (make e).takes t = decide (name = e.1.toList)) :
    ((entries.map make).find? (·.takes t)).map (fun pass => String.ofList pass.new) =
      entries.get? (String.ofList name) := by
  induction entries with
  | nil => rfl
  | cons e entries ih =>
    have hrest := ih fun e he => h e (List.mem_cons_of_mem _ he)
    have hhead := h e List.mem_cons_self
    rw [List.map_cons, List.find?_cons, hhead]
    by_cases hn : name = e.1.toList
    · subst hn
      simp [Keyed.get?, hnew]
    · have hne : e.1 ≠ String.ofList name := fun heq => hn (by rw [heq, String.toList_ofList])
      simpa [Keyed.get?, hn, hne] using hrest

section Unbraced

variable {now : Moment} {context : Context} (h : Unbraced room context) {texts : Keyed String} {user : String}
  (ht : Pass.shown room context.vars = .ok texts) (hu : context.user.value.rendered room = .ok user)
include h ht

theorem Unbraced.text {name text : String} (hm : (name, text) ∈ texts) :
    (Braceless name.toList ∧ Text.Trimmed name.toList) ∧ Braceless text.toList := by
  obtain ⟨v, hv, hr⟩ := Pass.mem_shown ht hm
  obtain ⟨text', hr', hb⟩ := h.values _ hv
  obtain rfl : text' = text := Except.ok.inj (hr'.symm.trans hr)
  exact ⟨h.names _ hv, hb⟩

include hu

theorem Unbraced.clean : ∀ pass ∈ Pass.all now texts user context, pass.Clean := by
  intro pass hp
  rw [Pass.all, List.mem_append, List.mem_map, List.mem_map] at hp
  rcases hp with ⟨⟨name, text⟩, he, rfl⟩ | ⟨⟨name, text⟩, he, rfl⟩
  · obtain ⟨⟨hb, hn⟩, hnew⟩ := h.text ht he
    exact Pass.clean_ofVariable hb hn hnew
  · have hnew : Braceless text.toList := by
      rcases mem_ownTexts he with heq | heq | ⟨m, hm, heq | heq⟩ <;> obtain ⟨-, rfl⟩ := Prod.mk.inj heq
      · obtain ⟨user', hu', hb⟩ := h.user
        obtain rfl : user' = text := Except.ok.inj (hu'.symm.trans hu)
        exact hb
      · exact braceless_iso now
      · exact h.message m hm
      · exact h.message m hm
    exact Pass.clean_ofName (ownTexts_names he).1 hnew

/-- What a placeholder stands for is the text of the first pass that takes it. -/
theorem Unbraced.meaning (t : Token) :
    t.meaning room now context =
      ((Pass.all now texts user context).find? (·.takes t)).map fun pass => .ok (String.ofList pass.new) := by
  have htakes : ∀ e ∈ texts, (Pass.ofVariable e).takes t = decide (t.name = e.1.toList) := fun e he =>
    Pass.takes_ofVariable (h.text ht he).1.1 (h.text ht he).1.2 e.2 t
  have htakesOwn : ∀ e ∈ Pass.ownTexts now user context, (Pass.ofName e).takes t = decide (t.inner = e.1.toList) :=
    fun e he => Pass.takes_ofName (ownTexts_names he).1 e.2 t
  have hvars := find?_takes (fun _ => rfl) htakes
  have hown := find?_takes (fun _ => rfl) htakesOwn
  have hget := Pass.get?_shown ht (String.ofList t.name)
  -- The variables come first among the passes, as they do in the meaning of a placeholder.
  rw [Pass.all, List.find?_append, Token.meaning]
  cases hfind : (texts.map Pass.ofVariable).find? (·.takes t) with
  | some pass =>
    rw [hfind] at hvars
    rw [← hvars] at hget
    obtain ⟨v, hv, hr⟩ := Option.map_eq_some_iff.mp hget
    rw [hv]
    exact congrArg some hr
  | none =>
    rw [hfind] at hvars
    rw [← hvars] at hget
    have hsplit : ∀ found : Option Pass,
        found.map (fun pass => (.ok (String.ofList pass.new) : Except Value.Fault String)) =
          (found.map fun pass => String.ofList pass.new).map .ok := fun found => (Option.map_map _ _ found).symm
    rw [Option.map_eq_none_iff.mp hget, Option.none_or, hsplit, hown, get?_ownTexts_inner, ownMeaning_eq hu]
    exact (apply_ite (Option.map Except.ok) _ _ none).symm

/-- One pass comes to what clean passes make of the pieces. -/
theorem Unbraced.onePass_eq (pieces : List Piece) :
    onePass room now context pieces = .ok (Pass.applyAll (Pass.all now texts user context) (written pieces)) := by
  rw [Pass.applyAll_written (h.clean ht hu)]
  induction pieces with
  | nil => rfl
  | cons piece pieces ih =>
    rw [List.flatMap_cons]
    cases piece with
    | plain cs hb =>
      rw [onePass, ih]
      rfl
    | token t =>
      rw [onePass, ih, h.meaning ht hu, Pass.settlePiece, Pass.settle]
      cases (Pass.all now texts user context).find? (·.takes t) with
      | none => rfl
      | some pass =>
        have hnew : (String.ofList pass.new).toList = pass.new := String.toList_ofList
        exact congrArg (fun new => Except.ok (new ++ _)) hnew

/-- What is left is unresolved, and nothing else. -/
theorem Unbraced.findAll_eq (pieces : List Piece) :
    Text.findAll anyPlaceholder (Pass.applyAll (Pass.all now texts user context) (written pieces)) =
      unknown room now context pieces := by
  rw [Pass.applyAll_written (h.clean ht hu)]
  induction pieces with
  | nil => rfl
  | cons piece pieces ih =>
    have hskip : ∀ cs rest, Braceless cs →
        Text.findAll anyPlaceholder (cs ++ rest) = Text.findAll anyPlaceholder rest :=
      fun cs rest hb => Text.findAll_append_of_none fun _ hne hs => opens_anyPlaceholder.eq_none_of_suffix hb.1 hne hs
    rw [List.flatMap_cons]
    cases piece with
    | plain cs hb => rw [Pass.settlePiece, hskip cs _ hb, ih, unknown]
    | token t =>
      rw [Pass.settlePiece, unknown, h.meaning ht hu, Pass.settle]
      cases hfind : (Pass.all now texts user context).find? (·.takes t) with
      | none =>
        exact (Text.findAll_append_of_hit t.written_ne_nil (anyPlaceholder_token t _)).trans (congrArg _ ih)
      | some pass =>
        have hb : Braceless pass.new := (h.clean ht hu pass (List.mem_of_find?_eq_some hfind)).braceless
        exact (hskip pass.new _ hb).trans ih

end Unbraced

/-! ## The result -/

/-- The order of the variables does not matter to one pass. -/
theorem onePass_perm {now : Moment} {context : Context} {vars : Fields} (hp : vars.Perm context.vars)
    (hd : context.vars.keys.Nodup) (pieces : List Piece) :
    onePass room now { context with vars := vars } pieces = onePass room now context pieces := by
  have hget : ∀ name, vars.get? name = context.vars.get? name := fun name => (Keyed.get?_perm hd hp.symm name).symm
  induction pieces with
  | nil => rfl
  | cons piece pieces ih =>
    cases piece with
    | plain cs hb => rw [onePass, onePass, ih]
    | token t =>
      have hmeaning : t.meaning room now { context with vars := vars } = t.meaning room now context := by
        simp only [Token.meaning, hget]
        rfl
      rw [onePass, onePass, ih, hmeaning]

theorem Unbraced.perm {context : Context} (h : Unbraced room context) {vars : Fields} (hp : vars.Perm context.vars) :
    Unbraced room { context with vars := vars } :=
  ⟨fun e he => h.names e (hp.mem_iff.mp he), fun e he => h.values e (hp.mem_iff.mp he), h.user, h.message⟩

/-- Without braces in what is put in, a template is filled in as by one pass, and what is unresolved are the names that
stand for nothing. -/
theorem Unbraced.fill (now : Moment) {context : Context} (h : Unbraced room context) (pieces : List Piece) :
    ∃ text, onePass room now context pieces = .ok text ∧
      Template.fill room now (String.ofList (written pieces)) context = .ok (String.ofList text) ∧
      unresolved (String.ofList text) = unknown room now context pieces := by
  obtain ⟨texts, ht⟩ := Pass.exists_shown fun e he => (h.values e he).imp fun _ hr => hr.1
  obtain ⟨user, hu, -⟩ := h.user
  refine ⟨_, h.onePass_eq ht hu pieces, ?_, ?_⟩
  · rw [Pass.fill_eq_passes, ht, hu, String.toList_ofList]
    rfl
  · rw [unresolved, String.toList_ofList]
    exact h.findAll_eq ht hu pieces

/-- **When no text that is put in holds braces, filling in a template is one pass from left to right.**  It succeeds,
the names that are left unresolved are those that stand for nothing, and the order of the variables does not matter. -/
theorem substitute_eq_onePass (room : Nat) (now : Moment) (context : Context) (h : Unbraced room context)
    (pieces : List Piece) :
    (∃ text, onePass room now context pieces = .ok text ∧
      (substitute room now (String.ofList (written pieces)) context).result = .ok (String.ofList text) ∧
      unresolved (String.ofList text) = unknown room now context pieces) ∧
    (context.vars.keys.Nodup → ∀ vars : Fields, vars.Perm context.vars →
      substitute room now (String.ofList (written pieces)) { context with vars := vars } =
        substitute room now (String.ofList (written pieces)) context) := by
  obtain ⟨text, hone, hfill, hleft⟩ := h.fill now pieces
  refine ⟨⟨text, hone, by rw [substitute, hfill], hleft⟩, fun hd vars hp => ?_⟩
  obtain ⟨text', hone', hfill', -⟩ := (h.perm hp).fill now pieces
  obtain rfl : text' = text := by
    rw [onePass_perm hp hd, hone] at hone'
    exact (Except.ok.inj hone').symm
  rw [substitute, substitute, hfill, hfill']
  rfl

/-- A template that greets by a variable, with a blank, and by the user's id; one name in it stands for nothing. -/
def greeting : List Piece :=
  [.plain "Hi ".toList (by decide),
   .token ⟨[' '], "name".toList, [], by decide, by decide, by decide, by decide⟩,
   .token ⟨[], "user_id".toList, [], by decide, by decide, by decide, by decide⟩,
   .token ⟨[], "x".toList, [' '], by decide, by decide, by decide, by decide⟩]

/-- A context in which someone is greeted. -/
def greeted : Context :=
  { vars := [("name", .text "Ada"), ("user_id", .int 3)], messages := [⟨"m", .user, "hello", "now", []⟩],
    user := .number 7 }

theorem unbraced_greeted : Unbraced room greeted := by
  refine ⟨by decide, ?_, ⟨toString (7 : Int), rfl, by decide⟩, by decide⟩
  intro e he
  rcases List.mem_cons.mp he with rfl | he
  · exact ⟨"Ada", rfl, by decide⟩
  · obtain rfl := List.mem_singleton.mp he
    exact ⟨toString (3 : Int), rfl, by decide⟩

theorem substitute_greeting :
    (substitute 0 ⟨0⟩ (String.ofList (written greeting)) greeted).result = .ok "Hi Ada3\x7b\x7bx \x7d\x7d" ∧
      unresolved "Hi Ada3\x7b\x7bx \x7d\x7d" = ["x"] ∧
      substitute 0 ⟨0⟩ (String.ofList (written greeting)) { greeted with vars := greeted.vars.reverse } =
        substitute 0 ⟨0⟩ (String.ofList (written greeting)) greeted := by
  obtain ⟨⟨text, hone, hresult, hleft⟩, hperm⟩ := substitute_eq_onePass 0 ⟨0⟩ greeted unbraced_greeted greeting
  have hgreeting : onePass 0 ⟨0⟩ greeted greeting = .ok "Hi Ada3\x7b\x7bx \x7d\x7d".toList := by decide
  obtain rfl : text = "Hi Ada3\x7b\x7bx \x7d\x7d".toList := Except.ok.inj (hone.symm.trans hgreeting)
  rw [String.ofList_toList] at hresult hleft
  exact ⟨hresult, hleft, hperm (by decide) _ (List.reverse_perm _)⟩

end Chatflow.Template
