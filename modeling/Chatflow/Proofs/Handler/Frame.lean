import Chatflow.Handler.Standard

/-!
# What the handlers leave alone

A node whose data can be read is left to the handler of its kind (`visit_of_config`, `kind_of_config`).  AI actions
and conditions leave the context as it is, and so does posting; only asking changes what was asked, and only posting
what was posted.  No standard handler gives back data or a fault that refuse to answer (`refusal_visit`).
-/

namespace Chatflow

attribute [ext] Services

namespace Services

variable (services : Services) (n : Nat)

@[simp] theorem asked_later : (services.later n).asked = services.asked := rfl

@[simp] theorem posted_later : (services.later n).posted = services.posted := rfl

end Services

/-- Tools with which nothing is asked and nothing is reached, under a clock that stands still. -/
def Tools.idle : Tools :=
  { clock := (Tick.mk ⟨0⟩ "").forever, room := 900, client := .faithful, network := fun _ _ => .broken "unused" }

/-- What a node is told is of its kind. -/
theorem Node.kind_of_config {node : Node} {config : NodeConfig} (h : node.config = .ok config) :
    config.kind = node.kind := by
  have hread : NodeConfig.read node.kind (.ofFields node.data) = .ok config := by
    unfold Node.config at h
    cases hr : NodeConfig.read node.kind (.ofFields node.data) with
    | error problems =>
      rw [hr] at h
      cases h
    | ok read =>
      rw [hr] at h
      rw [Except.ok.inj h]
  have hmap : ∀ {α : Type} {read : Schema.Checked α} {make : α → NodeConfig}, read.map make = .ok config →
      ∃ record, make record = config := by
    intro α read make hmade
    cases read with
    | error problems => cases hmade
    | ok record => exact ⟨record, Except.ok.inj hmade⟩
  unfold NodeConfig.read at hread
  cases hk : node.kind <;> rw [hk] at hread <;> obtain ⟨record, rfl⟩ := hmap hread <;> rfl

namespace Tools

variable (tools : Tools) (node : Node) (context : Context) (services : Services)

variable {tools node context services} in
theorem visit_of_config {config : NodeConfig} (h : node.config = .ok config) :
    tools.handlers.visit node context services = tools.handler node config context services := by
  simp only [Handlers.visit, handlers, h]

/-- The standard handler does what becomes of the node, and uses up the readings of the clock that the node has. -/
theorem handler_eq (config : NodeConfig) : tools.handler node config context services =
    { tools.handle node config context services with
      state := (tools.handle node config context services).state.later pace } := rfl

/-- An AI action leaves the context as it is, and posts nothing. -/
theorem aiAction_keeps (c : AiActionConfig) :
    (tools.aiAction node c context services).context = context ∧
      (tools.aiAction node c context services).state.posted = services.posted := by
  unfold aiAction
  dsimp only
  split
  · exact ⟨rfl, rfl⟩
  cases tools.provider with
  | none => exact ⟨rfl, rfl⟩
  | some provider =>
    dsimp only
    split
    · exact ⟨rfl, rfl⟩
    · simp only [ask]
      split <;> exact ⟨rfl, rfl⟩

/-- A condition leaves the context as it is, and neither asks nor posts. -/
theorem condition_keeps (c : ConditionConfig) :
    (tools.condition c context services).context = context ∧ (tools.condition c context services).state = services := by
  unfold condition
  split <;> exact ⟨rfl, rfl⟩

/-- Posting leaves the context as it is. -/
theorem post_keeps (webhook : Webhook) (c : OutputConfig) (content : String) (verdict : Verdict) :
    (tools.post webhook node c content verdict context services).context = context := by
  unfold post
  split
  · rfl
  · dsimp only
    split
    · rfl
    · split <;> rfl

/-! ## Refusals -/

theorem refusal_aiAction (c : AiActionConfig) : (tools.aiAction node c context services).refusal = none := by
  unfold aiAction
  dsimp only
  split
  · rfl
  cases tools.provider with
  | none => rfl
  | some provider =>
    dsimp only
    split
    · rfl
    · simp only [ask]
      split <;> rfl

theorem refusal_output (c : OutputConfig) : (tools.output node c context services).refusal = none := by
  have hpost : ∀ webhook content verdict,
      (tools.post webhook node c content verdict context services).refusal = none := by
    intro webhook content verdict
    unfold post
    split
    · rfl
    · dsimp only
      split
      · rfl
      · split <;> rfl
  unfold output
  dsimp only
  split
  · rfl
  · simp only [place]
    split
    · rfl
    · rfl
    · split
      · exact hpost _ _ _
      · rfl
    · rfl

/-- **What the standard handlers give back answers all that it is asked.** -/
theorem refusal_visit : (tools.handlers.visit node context services).refusal = none := by
  cases hc : node.config with
  | error report => simp only [Handlers.visit, handlers, hc]
  | ok config =>
    rw [visit_of_config hc]
    cases config with
    | trigger c => rfl
    | aiAction c => exact refusal_aiAction tools node context services c
    | condition c =>
      show (tools.condition c context services).refusal = none
      unfold condition
      split <;> rfl
    | output c => exact refusal_output tools node context services c

end Tools

end Chatflow
