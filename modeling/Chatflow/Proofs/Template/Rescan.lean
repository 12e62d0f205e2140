import Chatflow.Proofs.Template.Passes

/-!
# What is put in is read again

Every pass goes over the whole text, so over the texts that earlier passes put in too.  A placeholder of a variable
stays until the pass of its own variable, and what is put in for it is a template for the passes behind that one
(`fill_variable`).  So a placeholder gives just its text when those passes leave the text as it is, and only then
(`substitute_exact_iff`).  The newest message is safe under the name `message`, whose pass is the last; under the name
`last_message` it is not.
-/

namespace Chatflow.Template

namespace Pass

theorem applyAll_of_fixed {passes : List Pass} {text : List Char} (h : ∀ pass ∈ passes, pass.apply text = text) :
    applyAll passes text = text := by
  induction passes with
  | nil => rfl
  | cons pass passes ih =>
    rw [applyAll_cons, h pass List.mem_cons_self]
    exact ih fun p hp => h p (List.mem_cons_of_mem _ hp)

theorem opens_all {now : Moment} {texts : Keyed String} {user : String} {context : Context} {pass : Pass}
    (h : pass ∈ all now texts user context) : Opens pass.pattern := by
  rw [all, List.mem_append, List.mem_map, List.mem_map] at h
  rcases h with ⟨e, -, rfl⟩ | ⟨e, -, rfl⟩
  · exact opens_ofVariable e
  · exact opens_ofName e

/-! ## One placeholder -/

section One

variable {name : String} (hb : Braceless name.toList)
include hb

theorem apply_braced_of_none {pass : Pass} (ho : Opens pass.pattern) (h : pass.pattern (braced name.toList) = none) :
    pass.apply (braced name.toList) = braced name.toList := by
  have hnone : pass.pattern (braced name.toList ++ []) = none := by rwa [List.append_nil]
  have hrep := replaceAll_append_braced ho pass.new hb hnone
  rwa [List.append_nil, Text.replaceAll_nil, List.append_nil] at hrep

omit hb in
theorem apply_braced_of_hit (pass : Pass) (h : pass.pattern (braced name.toList) = some (braced name.toList).length) :
    pass.apply (braced name.toList) = pass.new := by
  have hhit : pass.pattern (braced name.toList ++ []) = some (braced name.toList).length := by rwa [List.append_nil]
  have hrep := Text.replaceAll_append_of_hit pass.new (List.cons_ne_nil _ _) hhit
  rwa [List.append_nil, Text.replaceAll_nil, List.append_nil] at hrep

omit hb in
theorem apply_ofName_self (new : String) : (ofName (name, new)).apply (braced name.toList) = new.toList := by
  have hword := Text.word_append (braced name.toList) []
  rw [List.append_nil] at hword
  exact apply_braced_of_hit (ofName (name, new)) hword

theorem apply_ofName_other {other : String} (ho : Braceless other.toList) (hne : other ≠ name) (new : String) :
    (ofName (other, new)).apply (braced name.toList) = braced name.toList := by
  refine apply_braced_of_none hb (opens_ofName _) (Text.word_eq_none fun hp => hne ?_)
  rw [braced_prefix_braced_iff] at hp
  exact String.toList_inj.mp (eq_of_closed hp List.prefix_rfl ho.2 hb.2)

variable (hn : Text.Trimmed name.toList)
include hn

theorem apply_ofVariable_self (new : String) : (ofVariable (name, new)).apply (braced name.toList) = new.toList := by
  have htoken := placeholder_token hb hn (Token.bare name.toList hb hn) []
  rw [Token.written_bare, List.append_nil] at htoken
  exact apply_braced_of_hit (ofVariable (name, new)) (htoken.trans (if_pos rfl))

/-- The pass of another variable passes over a placeholder, whatever the other name looks like. -/
theorem apply_ofVariable_other {other : String} (hne : other ≠ name) (new : String) :
    (ofVariable (other, new)).apply (braced name.toList) = braced name.toList := by
  refine apply_braced_of_none hb (opens_ofVariable _) ?_
  show placeholder other.toList (braced name.toList) = none
  rw [Option.eq_none_iff_forall_ne_some]
  intro n hsome
  -- The other name may hold braces; but a match is no longer than the placeholder, and ends no earlier than it.
  obtain ⟨lead, trail, hl, ht, hp, -⟩ := placeholder_eq_some hsome
  have hlen := hp.length_le
  rw [length_braced, length_braced] at hlen
  rw [braced_prefix_braced_iff] at hp
  have hnot : ¬(lead ++ other.toList ++ trail).length < name.toList.length := fun hlt =>
    hb.2 (mem_of_closed hp (List.prefix_append _ _) hlt)
  have hinner : lead ++ other.toList ++ trail = name.toList :=
    (List.prefix_of_prefix_length_le ((List.prefix_append _ _).trans hp) (List.prefix_append _ _)
      (by omega)).eq_of_length (by omega)
  exact hne (String.toList_inj.mp (Text.eq_of_pad hl ht hn hinner))

end One

/-- The passes of other variables pass over a placeholder. -/
theorem applyAll_ofVariable_other {name : String} (hb : Braceless name.toList) (hn : Text.Trimmed name.toList)
    {vars : Fields} {texts : Keyed String} (ht : shown room vars = .ok texts) (h : name ∉ vars.keys) :
    applyAll (texts.map ofVariable) (braced name.toList) = braced name.toList := by
  refine applyAll_of_fixed fun pass hp => ?_
  obtain ⟨⟨other, text⟩, he, rfl⟩ := List.mem_map.mp hp
  obtain ⟨v, hv, -⟩ := mem_shown ht he
  refine apply_ofVariable_other hb hn (fun heq => h ?_) text
  exact List.mem_map.mpr ⟨(other, v), hv, heq⟩

end Pass

open Pass

variable {room : Nat}

theorem substitute_result (now : Moment) (template : String) (context : Context) :
    (substitute room now template context).result = fill room now template context := by
  rw [substitute]
  cases fill room now template context <;> rfl

/-- **What is put in for a variable is a template for the variables behind it** and for the names that every template
knows. -/
theorem fill_variable (now : Moment) {context : Context} {before after : Fields} {name : String} {v : Value}
    (hvars : context.vars = before ++ (name, v) :: after) (hk : name ∉ before.keys) (hb : Braceless name.toList)
    (hn : Text.Trimmed name.toList) :
    fill room now (placeholderOf name) context =
      (shown room before >>= fun _ => v.rendered room >>= fun text =>
        fill room now text { context with vars := after }) := by
  rw [fill_eq_passes, hvars, shown_append, shown_cons, toList_placeholderOf]
  cases hbefore : shown room before with
  | error fault => rfl
  | ok texts =>
    cases v.rendered room with
    | error fault => rfl
    | ok text =>
      show _ = fill room now text { context with vars := after }
      rw [fill_eq_passes]
      show _ = (shown room after >>= fun others => context.user.value.rendered room >>= fun user =>
        Except.ok (String.ofList (applyAll (all now others user context) text.toList)))
      cases shown room after with
      | error fault => rfl
      | ok others =>
        cases context.user.value.rendered room with
        | error fault => rfl
        | ok user =>
        -- The passes before that of the variable miss, its own hits, and what is left are the passes behind it.
        have happly : applyAll (all now (texts ++ (name, text) :: others) user context) (braced name.toList) =
            applyAll (all now others user context) text.toList := by
          rw [all, List.map_append, List.append_assoc, applyAll_append, applyAll_ofVariable_other hb hn hbefore hk,
            List.map_cons, List.cons_append, applyAll_cons, apply_ofVariable_self hb hn, all]
        exact congrArg (fun cs => Except.ok (String.ofList cs)) happly

/-- A text without double braces stays as it is. -/
theorem fill_of_not_occurs (now : Moment) {context : Context} {texts : Keyed String} {user : String}
    (ht : shown room context.vars = .ok texts) (hu : context.user.value.rendered room = .ok user) {text : String}
    (h : Text.occurs opening text.toList = false) : fill room now text context = .ok text := by
  have hfixed : applyAll (all now texts user context) text.toList = text.toList :=
    applyAll_of_fixed fun pass hp => (opens_all hp).replaceAll_of_not_occurs _ h
  rw [fill_eq_passes, ht, hu]
  show Except.ok _ = _
  rw [hfixed, String.ofList_toList]

section Message

variable (now : Moment) {context : Context} {texts : Keyed String} (ht : shown room context.vars = .ok texts)
  {user : String} (hu : context.user.value.rendered room = .ok user) {m : Message} (hm : context.lastMessage = some m)
include ht hu hm

/-- When no variable takes a placeholder, the names that every template knows are put in. -/
theorem fill_own {name : String} (hb : Braceless name.toList) (hn : Text.Trimmed name.toList)
    (hk : name ∉ context.vars.keys) :
    fill room now (placeholderOf name) context = .ok (String.ofList
      (applyAll ([("user_id", user), ("timestamp", now.iso), ("last_message", m.content), ("message", m.content)].map
        ofName) (braced name.toList))) := by
  rw [fill_eq_passes, ht, hu, toList_placeholderOf]
  show Except.ok _ = _
  rw [all, applyAll_append, applyAll_ofVariable_other hb hn ht hk, ownTexts, hm]

/-- The newest message under its short name is put in last, and as it is. -/
theorem fill_message (hk : "message" ∉ context.vars.keys) :
    fill room now (placeholderOf "message") context = .ok m.content := by
  have hb : Braceless "message".toList := by decide
  rw [fill_own now ht hu hm hb (by decide) hk]
  simp only [List.map_cons, List.map_nil, applyAll_cons, applyAll_nil]
  rw [apply_ofName_other hb (by decide) (by decide), apply_ofName_other hb (by decide) (by decide),
    apply_ofName_other hb (by decide) (by decide), apply_ofName_self, String.ofList_toList]

/-- The newest message under its long name is put in, and then put into itself. -/
theorem fill_lastMessage (hk : "last_message" ∉ context.vars.keys) :
    fill room now (placeholderOf "last_message") context =
      .ok (String.ofList (putName "message" m.content.toList m.content.toList)) := by
  have hb : Braceless "last_message".toList := by decide
  rw [fill_own now ht hu hm hb (by decide) hk]
  simp only [List.map_cons, List.map_nil, applyAll_cons, applyAll_nil]
  rw [apply_ofName_other hb (by decide) (by decide), apply_ofName_other hb (by decide) (by decide),
    apply_ofName_self, apply_ofName]

end Message

/-- **A placeholder gives just its text when the later passes leave that text as it is, and only then.**

For a variable the later passes are those of the variables behind it and of the names that every template knows; the
newest message is safe under the name `message`, and under the name `last_message` when the placeholder of `message` is
not in it or is all of it.  A text without double braces is safe from all passes. -/
theorem substitute_exact_iff (room : Nat) (now : Moment) (context : Context)
    (hr : ∀ e ∈ context.vars, ∃ text, e.2.rendered room = .ok text)
    (hu : ∃ text, context.user.value.rendered room = .ok text) :
    (∀ before name v after text, context.vars = before ++ (name, v) :: after → name ∉ Keyed.keys before →
      Braceless name.toList → Text.Trimmed name.toList → v.rendered room = .ok text →
      ((substitute room now (placeholderOf name) context).result = .ok text ↔
        (substitute room now text { context with vars := after }).result = .ok text)) ∧
    (∀ m, context.lastMessage = some m → "message" ∉ context.vars.keys →
      (substitute room now (placeholderOf "message") context).result = .ok m.content) ∧
    (∀ m, context.lastMessage = some m → "last_message" ∉ context.vars.keys →
      ((substitute room now (placeholderOf "last_message") context).result = .ok m.content ↔
        m.content = placeholderOf "message" ∨
          Text.occurs (placeholderOf "message").toList m.content.toList = false)) ∧
    ∀ text, Text.occurs opening text.toList = false → (substitute room now text context).result = .ok text := by
  obtain ⟨texts, ht⟩ := exists_shown hr
  obtain ⟨user, hu⟩ := hu
  simp only [substitute_result]
  refine ⟨?_, fun m hm hk => fill_message now ht hu hm hk, fun m hm hk => ?_, fun text h => fill_of_not_occurs now ht hu h⟩
  · intro before name v after text hvars hk hb hn hv
    have hbefore : ∀ e ∈ before, ∃ text, e.2.rendered room = .ok text := fun e he =>
      hr e (hvars ▸ List.mem_append_left _ he)
    obtain ⟨earlier, hearlier⟩ := exists_shown hbefore
    rw [fill_variable now hvars hk hb hn, hearlier, hv]
    rfl
  · rw [fill_lastMessage now ht hu hm hk, Except.ok.injEq, toList_placeholderOf]
    have hself := Text.replaceAll_word_self (w := braced "message".toList) (List.cons_ne_nil _ _) m.content.toList
    have hall : m.content = placeholderOf "message" ↔ m.content.toList = braced "message".toList := by
      rw [← String.toList_inj, toList_placeholderOf]
    rw [hall, ← hself, ← String.toList_inj, String.toList_ofList]
    rfl

/-- A context in which the text of one variable is the placeholder of the next, and the newest message holds its own. -/
def chained : Context :=
  { vars := [("a", .text (placeholderOf "b")), ("b", .text "x")],
    messages := [⟨"m", .user, "see " ++ placeholderOf "message", "now", []⟩], user := .number 1 }

theorem substitute_exact_iff_chained :
    ((substitute 0 ⟨0⟩ (placeholderOf "b") chained).result = .ok "x" ↔
      (substitute 0 ⟨0⟩ "x" { chained with vars := [] }).result = .ok "x") ∧
    (substitute 0 ⟨0⟩ (placeholderOf "message") chained).result = .ok ("see " ++ placeholderOf "message") ∧
    (substitute 0 ⟨0⟩ (placeholderOf "last_message") chained).result ≠ .ok ("see " ++ placeholderOf "message") ∧
    (substitute 0 ⟨0⟩ "x" chained).result = .ok "x" := by
  have hr : ∀ e ∈ chained.vars, ∃ text, e.2.rendered 0 = .ok text := by
    intro e he
    rcases List.mem_cons.mp he with rfl | he
    · exact ⟨_, rfl⟩
    · obtain rfl := List.mem_singleton.mp he
      exact ⟨_, rfl⟩
  obtain ⟨hvar, hmessage, hlast, hplain⟩ := substitute_exact_iff 0 ⟨0⟩ chained hr ⟨toString (1 : Int), rfl⟩
  refine ⟨?_, hmessage _ rfl (by decide), fun h => ?_, hplain "x" (by decide)⟩
  · exact hvar [("a", .text (placeholderOf "b"))] "b" (.text "x") [] "x" rfl (by decide) (by decide) (by decide) rfl
  · rcases (hlast _ rfl (by decide)).mp h with heq | hnot
    · exact absurd heq (by decide)
    · exact absurd hnot (by decide)

/-- A text that is put in is expanded: neither the variable nor the newest message gives just its text. -/
theorem substitute_expands :
    chained.vars.get? "a" = some (.text (placeholderOf "b")) ∧
    (substitute 0 ⟨0⟩ (placeholderOf "a") chained).result = .ok "x" ∧
    (substitute 0 ⟨0⟩ (placeholderOf "a") chained).result ≠ .ok (placeholderOf "b") ∧
    chained.lastMessage.map Message.content = some ("see " ++ placeholderOf "message") ∧
    (substitute 0 ⟨0⟩ (placeholderOf "last_message") chained).result = .ok ("see see " ++ placeholderOf "message") := by
  exact ⟨rfl, by decide⟩

end Chatflow.Template
