import Chatflow.Generation.Gateway
import Chatflow.Proofs.Schema.Reading

/-!
# What comes of a request to a backend

A gateway turns every failure of its backend into a generation fault.  A reply is read behind that, and not every reply
can be: `Gateway.Readable` tells what it has to hold.  Usage and model may be missing, and so may any text; but where a
reply, a choice or a message is present, it has to have the attributes that are read from it.

Each part of a reply is read exactly when it has its shape (`Gateway.Reads`), and so is the whole (`reads_read`).  So a
gateway gives a text that is not empty, or one of its four faults, for just the requests to which there is no reply
that cannot be read (`surfaces_complete_iff`, `surfaces_generate_iff`).
-/

namespace Chatflow

namespace Gateway

/-! ## Replies that can be read -/

/-- A choice is the first of a row. -/
inductive Offers (choice : Value) : Value → Prop
  | list {others : List Value} : Offers choice (.list (choice :: others))
  | tuple {others : List Value} : Offers choice (.tuple (choice :: others))

/-- A choice has a message, with a content if it is present, and a reason why it ends. -/
structure Tells (choice : Value) : Prop where
  message : ∃ message, part? choice "message" = some message ∧
    (isPresent message = true → ∃ content, part? message "content" = some content)
  reason : ∃ reason, part? choice "finish_reason" = some reason

/-- A reply has choices; if they are present, they are a row whose first one tells what is read from it, unless it is not
present itself. -/
def Readable (reply : Value) : Prop :=
  ∃ choices, part? reply "choices" = some choices ∧
    (isPresent choices = true → ∃ choice, Offers choice choices ∧ (isPresent choice = true → Tells choice))

/-! ## Reading -/

/-- A fault says that an attribute is missing, or that something is of the wrong kind. -/
def IsShapeFault (fault : Fault) : Prop := ∃ text, fault = .noAttribute text ∨ fault = .mistyped text

theorem IsShapeFault.not_isGeneration {fault : Fault} (h : IsShapeFault fault) : fault.isGeneration = false := by
  obtain ⟨text, rfl | rfl⟩ := h <;> rfl

/-- Something is read exactly when a condition holds; else a fault says what is wrong with the shape. -/
inductive Reads {α : Type} (x : Except Fault α) (condition : Prop) : Prop
  | given {a : α} (ok : x = .ok a) (holds : condition)
  | refused {fault : Fault} (error : x = .error fault) (shape : IsShapeFault fault) (fails : ¬condition)

namespace Reads

variable {α β : Type} {x : Except Fault α} {f : α → Except Fault β} {p q : Prop} {r : α → Prop}

theorem exists_ok_iff (h : Reads x p) : (∃ a, x = .ok a) ↔ p := by
  cases h with
  | given ok holds => exact iff_of_true ⟨_, ok⟩ holds
  | refused error shape fails => exact iff_of_false (fun ⟨a, ok⟩ => nomatch error.symm.trans ok) fails

theorem congr (h : Reads x p) (hpq : p ↔ q) : Reads x q := by
  rwa [← propext hpq]

theorem bind (hx : Reads x p) (hf : ∀ a, Reads (f a) (r a)) : Reads (x >>= f) (∃ a, x = .ok a ∧ r a) := by
  cases hx with
  | refused error shape fails =>
    subst error
    exact .refused rfl shape fun ⟨a, ok, _⟩ => nomatch ok
  | @given a ok holds =>
    subst ok
    exact (hf a).congr ⟨fun h => ⟨a, rfl, h⟩, fun ⟨b, hb, h⟩ => Except.ok.inj hb ▸ h⟩

/-- What is read only where something is present. -/
theorem whenPresent (v : Value) (a : α) (h : Reads x p) :
    Reads (if isPresent v = true then x else .ok a) (isPresent v = true → p) := by
  cases hv : isPresent v with
  | false => exact .given rfl nofun
  | true => exact h.congr ⟨fun hp _ => hp, fun hp => hp rfl⟩

end Reads

/-! ## Reading a reply -/

theorem part_eq_ok_iff {v w : Value} {name : String} : part v name = .ok w ↔ part? v name = some w := by
  unfold part
  cases part? v name <;> simp

theorem reads_part (v : Value) (name : String) : Reads (part v name) (∃ w, part? v name = some w) := by
  unfold part
  cases part? v name with
  | some w => exact .given rfl ⟨w, rfl⟩
  | none => exact .refused rfl ⟨_, Or.inl rfl⟩ nofun

theorem reads_first (v : Value) : Reads (first v) (∃ w, first v = .ok w) := by
  cases hv : first v with
  | ok w => exact .given rfl ⟨w, rfl⟩
  | error fault =>
    refine .refused rfl ?_ nofun
    unfold first at hv
    split at hv
    case h_4 => exact ⟨_, Or.inr (Except.error.inj hv).symm⟩
    all_goals cases hv

theorem reads_content (choice : Value) :
    Reads (content choice) (isPresent choice = true → ∃ message, part? choice "message" = some message ∧
      (isPresent message = true → ∃ content, part? message "content" = some content)) := by
  unfold content
  cases hc : isPresent choice with
  | false => exact .given rfl nofun
  | true =>
    refine ((reads_part choice "message").bind fun message =>
      (reads_part message "content").whenPresent message .null).congr ?_
    simp only [part_eq_ok_iff, forall_const]

theorem reads_stopReason (choice : Value) :
    Reads (stopReason choice) (isPresent choice = true → ∃ reason, part? choice "finish_reason" = some reason) := by
  unfold stopReason
  cases hc : isPresent choice with
  | false => exact .given rfl nofun
  | true =>
    refine ((reads_part choice "finish_reason").bind fun reason => .given rfl trivial).congr ?_
    simp only [part_eq_ok_iff, and_true, forall_const]

/-- A text is no row of choices: its first character has no message. -/
theorem not_tells_text (s : String) : ¬Tells (.text s) := fun h => nomatch h.message

theorem isPresent_first_text {s : String} (h : isPresent (.text s) = true) :
    isPresent (.text (String.ofList (s.toList.take 1))) = true := by
  simp only [isPresent, Value.truthy, Bool.not_eq_true', ← Bool.not_eq_true, String.isEmpty_iff] at h ⊢
  intro hnil
  refine h ?_
  have hlist := congrArg String.toList hnil
  rw [String.toList_ofList] at hlist
  simpa using hlist

/-- Of a present row, the first choice tells what is read from it exactly when it is offered as one. -/
theorem exists_first_iff {choices : Value} (hp : isPresent choices = true) :
    (∃ choice, first choices = .ok choice ∧ (isPresent choice = true → Tells choice)) ↔
      ∃ choice, Offers choice choices ∧ (isPresent choice = true → Tells choice) := by
  have hoffers : ∀ {choice}, Offers choice choices → first choices = .ok choice := by
    rintro choice ⟨⟩ <;> rfl
  refine ⟨?_, fun ⟨choice, ho, ht⟩ => ⟨choice, hoffers ho, ht⟩⟩
  rintro ⟨choice, hfirst, ht⟩
  unfold first at hfirst
  split at hfirst
  · exact ⟨choice, Except.ok.inj hfirst ▸ .list, ht⟩
  · exact ⟨choice, Except.ok.inj hfirst ▸ .tuple, ht⟩
  · rename_i s
    obtain rfl := Except.ok.inj hfirst
    exact absurd (ht (isPresent_first_text hp)) (not_tells_text _)
  · cases hfirst

theorem reads_choice (reply : Value) :
    Reads (choice reply) (∃ choices, part? reply "choices" = some choices ∧
      (isPresent choices = true → ∃ choice, first choices = .ok choice)) := by
  refine ((reads_part reply "choices").bind fun choices => (reads_first choices).whenPresent choices .null).congr ?_
  simp only [part_eq_ok_iff]

theorem choice_eq_ok_iff {reply c : Value} : choice reply = .ok c ↔
    ∃ choices, part? reply "choices" = some choices ∧
      (if isPresent choices = true then first choices else .ok .null) = .ok c := by
  simp only [← part_eq_ok_iff]
  exact bind_eq_ok_iff

/-- The first choice of a reply tells what is read from it exactly when the reply is readable. -/
theorem exists_choice_iff {reply : Value} :
    (∃ c, choice reply = .ok c ∧ (isPresent c = true → Tells c)) ↔ Readable reply := by
  simp only [choice_eq_ok_iff, Readable]
  constructor
  · rintro ⟨c, ⟨choices, hchoices, hc⟩, ht⟩
    refine ⟨choices, hchoices, fun hp => (exists_first_iff hp).mp ⟨c, ?_, ht⟩⟩
    rwa [if_pos hp] at hc
  · rintro ⟨choices, hchoices, h⟩
    by_cases hp : isPresent choices = true
    · obtain ⟨c, hc, ht⟩ := (exists_first_iff hp).mpr (h hp)
      exact ⟨c, ⟨choices, hchoices, (if_pos hp).trans hc⟩, ht⟩
    · exact ⟨.null, ⟨choices, hchoices, if_neg hp⟩, nofun⟩

/-- **A reply is read exactly when it is readable**; otherwise something is missing, or of the wrong kind. -/
theorem reads_read (model reply : Value) : Reads (read model reply) (Readable reply) := by
  unfold read
  refine ((reads_choice reply).bind fun c => (reads_content c).bind fun text =>
    (reads_stopReason c).bind fun reason => .given rfl trivial).congr ?_
  rw [← exists_choice_iff]
  refine exists_congr fun c => and_congr_right fun _ => ?_
  have htext := (reads_content c).exists_ok_iff
  have hreason := (reads_stopReason c).exists_ok_iff
  constructor
  · rintro ⟨text, ht, reason, hr, -⟩ hp
    exact ⟨htext.mp ⟨text, ht⟩ hp, hreason.mp ⟨reason, hr⟩ hp⟩
  · intro h
    obtain ⟨text, ht⟩ := htext.mpr fun hp => (h hp).message
    obtain ⟨reason, hr⟩ := hreason.mpr fun hp => (h hp).reason
    exact ⟨text, ht, reason, hr, trivial⟩

theorem isPresent_orElse (v : Value) {w : Value} (h : isPresent w = true) : isPresent (orElse v w) = true := by
  unfold orElse
  split
  · assumption
  · exact h

/-- What is read is never empty. -/
theorem isPresent_of_read {model reply : Value} {completion : Completion} (h : read model reply = .ok completion) :
    isPresent completion.content = true := by
  unfold read at h
  obtain ⟨c, -, h⟩ := bind_eq_ok_iff.mp h
  obtain ⟨text, -, h⟩ := bind_eq_ok_iff.mp h
  obtain ⟨reason, -, h⟩ := bind_eq_ok_iff.mp h
  rw [← Except.ok.inj h]
  exact isPresent_orElse _ rfl

/-! ## Answers -/

variable (gateway : Gateway) (backend : Backend) (earlier : List Prompt) (prompt : Prompt)

/-- What was asked for has a text, or a fault says in fixed words that none was generated. -/
def Surfaces {α : Type} (content : α → Value) (result : Except Fault α) : Prop :=
  (∃ a, result = .ok a ∧ isPresent (content a) = true) ∨ ∃ kind, result = .error (.generation kind (advice kind))

/-- The reply to a prompt, if there is one, can be read. -/
def Replies : Prop :=
  ∀ reply, backend (earlier.map gateway.request) (gateway.request prompt) = .ok reply → Readable reply

theorem complete_result : ((gateway.provider backend).complete earlier prompt).result =
    match backend (earlier.map gateway.request) (gateway.request prompt) with
    | .ok reply => read prompt.model reply
    | .error fault => .error (failure fault) := by
  simp only [provider]
  cases backend (earlier.map gateway.request) (gateway.request prompt) <;> rfl

theorem surfaces_complete_iff :
    Surfaces (·.content) ((gateway.provider backend).complete earlier prompt).result ↔
      gateway.Replies backend earlier prompt := by
  rw [complete_result, Replies]
  cases backend (earlier.map gateway.request) (gateway.request prompt) with
  | error fault => exact iff_of_true (Or.inr ⟨classify fault, rfl⟩) nofun
  | ok reply =>
    dsimp only
    cases reads_read prompt.model reply with
    | given ok holds =>
      exact iff_of_true (Or.inl ⟨_, ok, isPresent_of_read ok⟩) fun other h => Except.ok.inj h ▸ holds
    | refused error shape fails =>
      refine iff_of_false ?_ fun h => fails (h reply rfl)
      rw [error]
      rintro (⟨_, ⟨⟩, -⟩ | ⟨kind, hkind⟩)
      rw [Except.error.inj hkind] at shape
      cases shape.not_isGeneration

/-- The text that is asked for is that of the completion. -/
theorem generate_result : ((gateway.provider backend).generate earlier prompt).result =
    ((gateway.provider backend).complete earlier prompt).result.map (·.content) := rfl

theorem surfaces_generate_iff :
    Surfaces id ((gateway.provider backend).generate earlier prompt).result ↔
      gateway.Replies backend earlier prompt := by
  rw [← surfaces_complete_iff, generate_result]
  cases ((gateway.provider backend).complete earlier prompt).result with
  | error fault => simp [Surfaces, Except.map]
  | ok completion => simp [Surfaces, Except.map]

variable {gateway backend earlier prompt}

/-- A failure of the backend is told in fixed words. -/
theorem generate_of_error {fault : Fault}
    (h : backend (earlier.map gateway.request) (gateway.request prompt) = .error fault) :
    ((gateway.provider backend).generate earlier prompt).result = .error (failure fault) := by
  rw [generate_result, complete_result, h]
  rfl

/-- A reply that cannot be read ends by a fault of its shape. -/
theorem exists_generate_error (h : ¬gateway.Replies backend earlier prompt) :
    ∃ fault, ((gateway.provider backend).generate earlier prompt).result = .error fault ∧ IsShapeFault fault := by
  rw [generate_result, complete_result]
  cases hb : backend (earlier.map gateway.request) (gateway.request prompt) with
  | error fault => exact absurd (fun reply hreply => nomatch hb.symm.trans hreply) h
  | ok reply =>
    cases reads_read prompt.model reply with
    | given ok holds => exact absurd (fun other hother => Except.ok.inj (hb.symm.trans hother) ▸ holds) h
    | refused error shape fails => exact ⟨_, congrArg (Except.map Completion.content) error, shape⟩

end Gateway

end Chatflow
