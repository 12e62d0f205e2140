import Chatflow.Proofs.Handler.Completion
import Chatflow.Proofs.Number.Decimal
import Chatflow.Proofs.Template.Rescan
import Chatflow.Proofs.Value.Rendering

/-!
# When an output succeeds

Filling in a template renders the user's id and every variable, whether the template names it or not.  So a template can
be filled in exactly when all of them can be rendered (`Context.IsRenderable`), and it makes no difference which
template it is (`exists_substitute_iff`).

An output is filled in before its text is put anywhere.  As long as its delivery succeeds or is known to have
failed (`Tools.Delivers`), the output succeeds for just these contexts; otherwise a fault is raised and nothing has
changed but the clock (`output_succeeds_iff`).
-/

namespace Chatflow

/-- The user's id and every variable have a text: no integer with too many digits, no container for a key, and no
containers that lie too deep inside each other, as one that lies inside itself does. -/
structure Context.IsRenderable (room : Nat) (context : Context) : Prop where
  user : context.user.value.Renders room
  vars : ∀ e ∈ context.vars, e.2.Renders room

namespace Template

variable {room : Nat}

theorem Pass.exists_shown_iff {vars : Fields} :
    (∃ texts, shown room vars = .ok texts) ↔ ∀ e ∈ vars, e.2.Renders room := by
  induction vars with
  | nil => exact iff_of_true ⟨[], rfl⟩ fun _ h => absurd h List.not_mem_nil
  | cons entry vars ih =>
    obtain ⟨name, v⟩ := entry
    rw [shown_cons, List.forall_mem_cons, ← Value.exists_rendered_iff, ← ih]
    cases v.rendered room with
    | error fault => exact iff_of_false (fun ⟨_, h⟩ => nomatch h) fun ⟨⟨_, h⟩, _⟩ => nomatch h
    | ok text =>
      cases shown room vars with
      | error fault => exact iff_of_false (fun ⟨_, h⟩ => nomatch h) fun ⟨_, _, h⟩ => nomatch h
      | ok texts => exact iff_of_true ⟨_, rfl⟩ ⟨⟨text, rfl⟩, texts, rfl⟩

/-- **A template can be filled in exactly when the user's id and every variable can be rendered.** -/
theorem exists_substitute_iff (room : Nat) (now : Moment) (template : String) (context : Context) :
    (∃ text, (substitute room now template context).result = .ok text) ↔ context.IsRenderable room := by
  have hparts : context.IsRenderable room ↔
      (∃ text, context.user.value.rendered room = .ok text) ∧ ∃ texts, Pass.shown room context.vars = .ok texts := by
    rw [Value.exists_rendered_iff, Pass.exists_shown_iff]
    exact ⟨fun h => ⟨h.user, h.vars⟩, fun h => ⟨h.1, h.2⟩⟩
  rw [substitute_result, Pass.fill_eq_passes, hparts]
  cases Pass.shown room context.vars with
  | error fault => exact iff_of_false (fun ⟨_, h⟩ => nomatch h) fun ⟨_, _, h⟩ => nomatch h
  | ok texts =>
    cases context.user.value.rendered room with
    | error fault => exact iff_of_false (fun ⟨_, h⟩ => nomatch h) fun ⟨⟨_, h⟩, _⟩ => nomatch h
    | ok user => exact iff_of_true ⟨_, rfl⟩ ⟨⟨user, rfl⟩, texts, rfl⟩

end Template

namespace Tools

variable (tools : Tools) (node : Node) (context : Context) (services : Services) (c : OutputConfig)

/-- The delivery of an output, if there is one, succeeds or is known to have failed. -/
def Delivers : Prop :=
  ∀ webhook content fault, c.outputType = some "webhook" → tools.webhook = some webhook → webhook.resolve c ≠ .null →
    (tools.fill (c.content.getD "") context services).result = .ok content →
    (webhook.deliver tools.client tools.network services.posted (tools.reading services 1).moment content node context
      (webhook.resolve c)).result = .error fault → fault.isUndelivered = true

variable {tools node context services c}

/-- An output that completes has filled its content in, and tells it. -/
theorem Does.output {data : Fields} {left : Context} {state : Services} (hc : node.config = .ok (.output c))
    (h : tools.Does node context services data left state) :
    ∃ content, (tools.fill (c.content.getD "") context services).result = .ok content ∧
      data = [("output", .text content), ("outputType", .ofText? c.outputType)] := by
  cases h with
  | triggered hother | answered hother | decided hother => cases hc.symm.trans hother
  | put hown hfilled hplaced =>
    cases hc.symm.trans hown
    exact ⟨_, hfilled, rfl⟩

/-- Where deliveries do no harm, only an output whose content cannot be filled in does not complete. -/
theorem Refuses.output {verdict : Verdict} {state : Services} (hc : node.config = .ok (.output c))
    (hd : tools.Delivers node context services c) (h : tools.Refuses node context services verdict state) :
    ∃ fault, (tools.fill (c.content.getD "") context services).result = .error fault := by
  cases h with
  | unread hother | trigger hother | noPrompt hother | noProvider hother | promptUnfilled hother | unanswered hother
  | noCondition hother | undecided hother => cases hc.symm.trans hother
  | outputUnfilled hown hfilled =>
    cases hc.symm.trans hown
    exact ⟨_, hfilled⟩
  | undelivered hown hfilled kind given address delivery unhandled =>
    cases hc.symm.trans hown
    rw [hd _ _ _ kind given address hfilled delivery] at unhandled
    cases unhandled

variable (tools node context services c)

/-- **An output succeeds exactly when the user's id and every variable can be rendered.**  The templates that can be
filled in are then all, and otherwise none; so a variable that cannot be rendered keeps an output from succeeding even
where its content does not name it.  What is raised is the fault that it has, before anything was said, stored or
sent. -/
theorem output_succeeds_iff (hc : node.config = .ok (.output c)) (hd : tools.Delivers node context services c) :
    let handled := tools.handlers.visit node context services
    (∀ template, (∃ text, (tools.fill template context services).result = .ok text) ↔
        context.IsRenderable tools.room) ∧
      ((∃ content, (tools.fill (c.content.getD "") context services).result = .ok content ∧
          handled.verdict = done [("output", .text content), ("outputType", .ofText? c.outputType)]) ↔
        context.IsRenderable tools.room) ∧
      (¬context.IsRenderable tools.room →
        ∃ fault, (tools.fill (c.content.getD "") context services).result = .error fault ∧
          handled.verdict = .raised (.value fault) ∧ handled.context = context ∧ handled.state = services.later pace) := by
  intro handled
  have hfilled := fun template =>
    Template.exists_substitute_iff tools.room (tools.reading services 0).moment template context
  refine ⟨hfilled, ⟨?_, ?_⟩, ?_⟩
  · rintro ⟨content, hcontent, -⟩
    exact (hfilled _).mp ⟨content, hcontent⟩
  · intro hr
    obtain ⟨content, hcontent⟩ := (hfilled (c.content.getD "")).mpr hr
    rcases visit_cases tools node context services with ⟨data, hverdict, hdoes⟩ | ⟨hrefuses, -⟩
    · obtain ⟨own, hown, rfl⟩ := hdoes.output hc
      exact ⟨own, hown, hverdict⟩
    · obtain ⟨fault, hfault⟩ := hrefuses.output hc hd
      cases hcontent.symm.trans hfault
  · intro hr
    cases hresult : (tools.fill (c.content.getD "") context services).result with
    | ok content => exact absurd ((hfilled _).mp ⟨content, hresult⟩) hr
    | error fault =>
      obtain ⟨hverdict, hstate, hcontext⟩ := visit_of_refuses (.outputUnfilled hc hresult)
      exact ⟨fault, rfl, hverdict, hcontext, hstate⟩

/-- An output whose content names no variable. -/
def plainOutput (kind : String) : Node :=
  { id := "o", kind := .output,
    data := [("outputType", .text kind), ("content", .text "hi"), ("url", .text "https://h.example/x")] }

/-- Nested data in the variables, and a delivery that breaks off. -/
theorem output_succeeds_iff_nested :
    let nested : Value := .list [.tuple [.null, .real .nan], .dictionary [(.int 1, .list []), (.null, .bool true)]]
    let tools : Tools := { Tools.idle with webhook := some {}, network := fun _ _ => .broken "refused" }
    let context : Context := { vars := [("m", nested)], user := .name "u" }
    ∃ content, (tools.handlers.visit (plainOutput "webhook") context {}).verdict =
      done [("output", .text content), ("outputType", .text "webhook")] := by
  intro nested tools context
  let c : OutputConfig := ⟨some "webhook", some "hi", none, some "https://h.example/x", none, []⟩
  have hc : (plainOutput "webhook").config = .ok (.output c) := rfl
  have hd : tools.Delivers (plainOutput "webhook") context {} c := by
    intro webhook content fault hkind hwebhook haddress hfilled hdelivery
    obtain rfl := Option.some.inj hwebhook
    cases hdelivery
    rfl
  have hr : context.IsRenderable tools.room := by
    refine ⟨Value.exists_rendered_iff.mp ⟨"u", rfl⟩, List.forall_mem_singleton.mpr ?_⟩
    exact (Value.flaw?_eq_none_iff 900 nested).mp rfl
  obtain ⟨content, -, hverdict⟩ :=
    (output_succeeds_iff tools (plainOutput "webhook") context {} c hc hd).2.1.mpr hr
  exact ⟨content, hverdict⟩

/-- A variable that the content does not name keeps an output from succeeding, by a tuple for a key or by an integer with
too many digits. -/
theorem plainOutput_raises :
    let context (v : Value) : Context := { vars := [("m", v)], user := .name "u" }
    let verdict (v : Value) := (Tools.idle.handlers.visit (plainOutput "message") (context v) {}).verdict
    (∃ c, (plainOutput "message").config = .ok (.output c)) ∧ Text.occurs Template.opening "hi".toList = false ∧
      verdict (.dictionary [(.tuple [.int 1, .int 2], .text "x")]) = .raised (.value .tupleKey) ∧
      verdict (.int (10 ^ Decimal.longest : Nat)) = .raised (.value .tooLong) := by
  intro context verdict
  let c : OutputConfig := ⟨some "message", some "hi", none, some "https://h.example/x", none, []⟩
  have hc : (plainOutput "message").config = .ok (.output c) := rfl
  have hlong : ∀ n : Int, Decimal.isLong n = true → verdict (.int n) = .raised (.value .tooLong) := by
    intro n hn
    have hrendered : (Value.int n).rendered Tools.idle.room = .error .tooLong := by
      rw [Value.rendered, Value.intFlaw?, if_pos hn]
      rfl
    have hfilled : (Tools.idle.fill "hi" (context (.int n)) {}).result = .error .tooLong := by
      rw [fill, Template.substitute_result, Template.Pass.fill_eq_passes, Template.Pass.shown_cons, hrendered]
      rfl
    exact (visit_of_refuses (.outputUnfilled hc hfilled)).1
  exact ⟨⟨c, hc⟩, by decide, rfl, hlong _ ((Decimal.isLong_iff _).mpr (Nat.le_refl _))⟩

end Tools

end Chatflow
