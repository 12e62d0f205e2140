import Chatflow.Command.Program
import Chatflow.Proofs.Host.Temperature

/-!
# The temperatures of requests

What the commands send to a backend are the requests of a gateway for the prompts of their hosts, so that their
temperatures are those of the prompts (`requests_scaled`).  A run sends scaled requests only; an answer to a message
does when the temperature on the command line is on the scale.

`temperatures_scaled` puts this together with what nodes and hosts ask.
-/

namespace Chatflow

/-- The temperature of a request is a number from zero to one. -/
def Gateway.IsScaled (request : Fields) : Prop := ∃ x, request.get? "temperature" = some (.real x) ∧ x.InUnit

theorem Gateway.isScaled_request {prompt : Prompt} (gateway : Gateway) (h : prompt.IsScaled) :
    IsScaled (gateway.request prompt) := by
  obtain ⟨x, hx, hunit⟩ := h
  exact ⟨x, congrArg some hx, hunit⟩

namespace Command

theorem Source.requests_scaled (source : Source) {asked : List Prompt} (h : ∀ prompt ∈ asked, prompt.IsScaled) :
    ∀ request ∈ source.requests asked, Gateway.IsScaled request := by
  intro request hrequest
  cases source with
  | script script => cases hrequest
  | gateway gateway =>
    obtain ⟨prompt, hprompt, rfl⟩ := List.mem_map.mp hrequest
    exact gateway.isScaled_request (h prompt hprompt)

theorem Outcome.requests_ofFault (journal : String) (fault : Fault) : (ofFault journal fault).requests = [] := by
  unfold ofFault
  split <;> rfl

theorem requests_info (rooms : Rooms) (files : Files) (path : Value) : (info rooms files path).requests = [] := by
  unfold info
  split
  · rfl
  · exact Outcome.requests_ofFault _ _

namespace Desk

variable (desk : Desk)

theorem requests_conclude {α : Type} (source : Source) (done : Done α) (text : α → Except Fault String) :
    (desk.conclude source done text).requests = source.requests done.services.asked :=
  rfl

/-- **A run sends scaled requests only.** -/
theorem run_scaled (task : RunTask) : ∀ request ∈ (desk.run task).requests, Gateway.IsScaled request := by
  unfold run
  dsimp only
  split
  · rw [Outcome.requests_ofFault]
    exact fun _ => nofun
  · rw [requests_conclude]
    exact Source.requests_scaled _ ((Host.scales_runManual _ _ _ _ _ _ _).isScaled rfl)

/-- **An answer to a message sends scaled requests only** when its temperature is on the scale. -/
theorem chat_scaled {task : ChatTask} (h : task.temperature.InScale) :
    ∀ request ∈ (desk.chat task).requests, Gateway.IsScaled request := by
  unfold chat
  dsimp only
  split
  · rw [Outcome.requests_ofFault]
    exact fun _ => nofun
  · rw [requests_conclude]
    refine Source.requests_scaled _ ((Host.scales_respond _ _ ?_ _ _ _ _ _).isScaled rfl)
    exact h

end Desk

namespace Surroundings

variable (around : Surroundings)

theorem withDesk_scaled (journal : Journal) {command : Desk → Outcome}
    (h : ∀ desk, ∀ request ∈ (command desk).requests, Gateway.IsScaled request) :
    ∀ request ∈ (perform.withDesk around journal command).requests, Gateway.IsScaled request := by
  unfold perform.withDesk
  dsimp only
  split
  · exact h _
  · rw [Outcome.requests_ofFault]
    exact fun _ => nofun

/-- A task sends scaled requests only, unless it is an answer to a message with a temperature off the scale. -/
theorem perform_scaled (journal : Journal) (task : Task)
    (h : ∀ chat, task = .chat chat → chat.temperature.InScale) :
    ∀ request ∈ (around.perform journal task).requests, Gateway.IsScaled request := by
  cases task with
  | info path =>
    rw [perform, requests_info]
    exact fun _ => nofun
  | run task => exact around.withDesk_scaled journal fun desk => desk.run_scaled task
  | chat task => exact around.withDesk_scaled journal fun desk => desk.chat_scaled (h task rfl)

theorem outcome_scaled (words : List String)
    (h : ∀ invocation chat, Invocation.read words = .ok invocation → invocation.task = .chat chat →
      chat.temperature.InScale) :
    ∀ request ∈ (around.outcome words).requests, Gateway.IsScaled request := by
  unfold outcome
  split
  · exact fun _ => nofun
  · rename_i invocation hread
    split
    · exact fun _ => nofun
    · dsimp only
      split
      · exact fun _ => nofun
      · exact around.perform_scaled _ _ fun chat htask => h invocation chat hread htask

end Surroundings

end Command

/-- **Which temperatures are passed to a provider.**

* An AI action whose stored temperature is no setting fails and asks nothing; what it asks else is scaled, and a stored
  zero is passed as zero.
* A manual run asks what is scaled.
* A chat turn asks what is scaled, and it may be a direct question behind that, which is scaled exactly when the
  assistant's temperature is on the scale; a zero is passed as zero.
* A command sends scaled requests, unless it answers a message with a temperature off the scale. -/
theorem temperatures_scaled (host : Host) (user : Value) (trace : Trace) (s : Services) :
    (∀ (tools : Tools) (node : Node) (context : Context), node.kind = .aiAction →
      let handled := tools.handlers.visit node context s
      (∀ v, node.data.get? "temperature" = some v → ¬v.IsSetting →
        (∃ error, handled.verdict = .failed error) ∧ handled.state = s) ∧
      ∃ asked : Option Prompt, handled.state.asked = s.asked ++ asked.toList ∧ ∀ prompt ∈ asked,
        prompt.IsScaled ∧ ∀ v, node.data.get? "temperature" = some v → v.IsZero → prompt.IsCold) ∧
    (∀ (w : Workflow) (trigger vars : Value), s.Scales (host.runManual w trigger vars user trace s).services) ∧
    (∀ (workflows : List Workflow) (history : List Message) (text : Value) (assistant : Assistant),
      ∃ (own : List Prompt) (direct : Option Prompt),
        (host.respond workflows history text assistant user trace s).services.asked =
            s.asked ++ own ++ direct.toList ∧
          (∀ prompt ∈ own, prompt.IsScaled) ∧ ∀ prompt ∈ direct,
            (prompt.IsScaled ↔ assistant.temperature.InScale) ∧ (assistant.temperature.IsZero → prompt.IsCold)) ∧
    ∀ (around : Command.Surroundings) (words : List String),
      (∀ request ∈ (around.outcome words).requests, Gateway.IsScaled request) ∨
        ∃ invocation task, Command.Invocation.read words = .ok invocation ∧ invocation.task = .chat task ∧
          ¬task.temperature.InScale := by
  refine ⟨fun tools node context hkind => ⟨fun v hv hno => Tools.visit_of_not_setting hkind hv hno, ?_⟩,
    fun w trigger vars => host.scales_runManual w trigger vars user trace s,
    fun workflows history text assistant => ?_, fun around words => ?_⟩
  · exact ⟨_, Tools.visit_asked tools node context s, fun prompt hask =>
      ⟨Tools.isScaled_of_asks hask, fun v hv hzero => Tools.isCold_of_asks hask hv hzero⟩⟩
  · obtain ⟨own, direct, hasked, hscaled, hdirect⟩ :=
      host.exists_asked_respond user assistant workflows history text trace s
    exact ⟨own, direct, hasked, hscaled, fun prompt hprompt =>
      ⟨Host.hundredth_inUnit_iff (hdirect prompt hprompt),
        fun hzero => Host.position_of_hundredth hzero (hdirect prompt hprompt)⟩⟩
  · by_cases hscale : ∀ invocation chat, Command.Invocation.read words = .ok invocation →
        invocation.task = .chat chat → chat.temperature.InScale
    · exact Or.inl (around.outcome_scaled words hscale)
    · push Not at hscale
      obtain ⟨invocation, task, hread, htask, hoff⟩ := hscale
      exact Or.inr ⟨invocation, task, hread, htask, hoff⟩

/-- What is asked in a chat turn without workflows, for an assistant of some temperature. -/
def Host.directlyAsked (temperature : Value) : List Prompt :=
  (mockHost.respond [] [] (.text "m") { name := .text "A", temperature } (.int 1) [] {}).services.asked

theorem Host.exists_directlyAsked {temperature hundredth : Value} (h : Host.hundredth temperature = .ok hundredth) :
    ∃ prompt, directlyAsked temperature = [prompt] ∧ prompt.temperature = hundredth :=
  mockHost.asked_respond_alone (.int 1) { name := .text "A", temperature } rfl
    (rfl : mockHost.message {} .user (.text "m") = .ok _) h [] []

/-- A temperature of 70 is passed as a number from zero to one. -/
theorem temperatures_scaled_warm :
    (Value.int 70).InScale ∧ ∃ prompt, Host.directlyAsked (.int 70) = [prompt] ∧ prompt.IsScaled := by
  have hscale : (Value.int 70).InScale := Or.inl ⟨70, rfl, by decide, by decide⟩
  obtain ⟨hundredth, hgiven⟩ := Host.exists_hundredth (rfl : (Value.int 70).whole? = some 70) (by decide +kernel)
  obtain ⟨prompt, hprompt, -⟩ := Host.exists_directlyAsked hgiven
  obtain ⟨own, direct, hasked, hown, hdirect⟩ := (temperatures_scaled Host.mockHost (.int 1) [] {}).2.2.1 [] []
    (.text "m") { name := .text "A", temperature := .int 70 }
  have hsame : [prompt] = own ++ direct.toList := hprompt.symm.trans hasked
  have hmem : prompt ∈ own ++ direct.toList := hsame ▸ List.mem_singleton_self prompt
  refine ⟨hscale, prompt, hprompt, ?_⟩
  rcases List.mem_append.mp hmem with hin | hin
  · exact hown prompt hin
  · exact (hdirect prompt (Option.mem_toList.mp hin)).1.mpr hscale

/-- **The temperature of an assistant is not checked**: one of 150 is passed on. -/
theorem assistant_unscaled : ∃ prompt, Host.directlyAsked (.int 150) = [prompt] ∧ ¬prompt.IsScaled := by
  obtain ⟨hundredth, hgiven⟩ := Host.exists_hundredth (rfl : (Value.int 150).whole? = some 150) (by decide +kernel)
  have hoff : ¬(Value.int 150).InScale := by
    rintro (⟨n, hn, -, hle⟩ | ⟨x, p, hx, -⟩)
    · obtain rfl := Option.some.inj hn
      exact absurd hle (by decide)
    · cases hx
  obtain ⟨prompt, hprompt, htold⟩ := Host.exists_directlyAsked hgiven
  refine ⟨prompt, hprompt, fun hscaled => hoff ?_⟩
  rw [← Host.hundredth_inUnit_iff hgiven, ← htold]
  exact hscaled

end Chatflow
