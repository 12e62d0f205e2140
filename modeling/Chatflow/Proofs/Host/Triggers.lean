import Chatflow.Proofs.Host.FirstSpeaker
import Chatflow.Proofs.Schema.Reading

/-!
# Which triggers a chat turn chooses

The type of a trigger is read twice.  A chat turn looks it up in the data of the node, under its wire name only; the
handler of the node reads all of the data, and takes the field's own name too.

* `chatTriggers?_eq`: the triggers that are chosen, when the types of all triggers can be looked up.
* `triggerType_of_config`: the type that the handler goes by, told from the data.
* `chosen_iff_config`: a trigger is chosen when its handler takes it for a chat trigger, its data give the type under
  the wire name, and the types of all triggers of the workflow can be looked up; otherwise it is not.
-/

namespace Chatflow

/-- Whether a trigger is told to answer to a chat message. -/
def TriggerConfig.IsChat (c : TriggerConfig) : Prop := c.triggerType = some "message" ∨ c.triggerType = some "manual"

namespace Workflow

/-- Whether the types of all triggers can be looked up. -/
def canChoose (w : Workflow) : Bool := w.triggers.all fun node => (triggerType node).isLookupKey

theorem canChoose_iff {w : Workflow} :
    w.canChoose = true ↔ ∀ node ∈ w.nodes, node.kind = .trigger → (triggerType node).isLookupKey = true := by
  simp only [canChoose, triggers, List.all_eq_true, List.mem_filter, beq_iff_eq, and_imp]

theorem chatTriggers?_eq (w : Workflow) :
    w.chatTriggers? = if w.canChoose then some (w.nodes.filter isChatTrigger) else none := by
  by_cases h : w.canChoose = true
  · have hsome : w.chatTriggers? = some _ := if_pos h
    rw [if_pos h, hsome]
    exact congrArg some (eq_of_chatTriggers? hsome)
  · rw [if_neg h]
    exact if_neg h

theorem mem_chatTriggers?_iff {w : Workflow} {node : Node} :
    (∃ chosen, w.chatTriggers? = some chosen ∧ node ∈ chosen) ↔
      w.canChoose = true ∧ node ∈ w.nodes ∧ isChatTrigger node = true := by
  rw [chatTriggers?_eq, ← List.mem_filter]
  by_cases h : w.canChoose = true <;> simp [h]

/-- A chat trigger has a type that is a text and stands under its wire name. -/
theorem isChatTrigger_iff {node : Node} : isChatTrigger node = true ↔
    node.kind = .trigger ∧ ∃ s ∈ chatTypes, node.data.get? "triggerType" = some (.text s) := by
  unfold isChatTrigger triggerType
  rw [Bool.and_eq_true, beq_iff_eq]
  refine and_congr_right fun _ => ?_
  cases node.data.get? "triggerType" with
  | none => simp
  | some v => cases v <;> simp

end Workflow

/-- The type of a trigger, as it is told: what the data have under the wire name of the field, else what they have under
its own name. -/
theorem triggerType_of_config {node : Node} {c : TriggerConfig} (h : node.config = .ok (.trigger c)) :
    ((node.data.get? "triggerType").or (node.data.get? "trigger_type")).getD .null = .ofText? c.triggerType := by
  have hkind : node.kind = .trigger := (Node.kind_of_config h).symm
  have hread : TriggerConfig.read (.ofFields node.data) = .ok c := by
    rw [Node.config, hkind, Schema.report_eq_ok_iff] at h
    cases hr : TriggerConfig.read (.ofFields node.data) with
    | error problems =>
      simp only [NodeConfig.read, hr] at h
      cases h
    | ok read =>
      simp only [NodeConfig.read, hr] at h
      exact congrArg Except.ok (NodeConfig.trigger.inj (Except.ok.inj h))
  simp only [TriggerConfig.read, Value.ofFields, Schema.entriesOf, Schema.also_eq_ok_iff] at hread
  obtain ⟨_, _, ⟨_, _, ⟨_, triggerType, hmake, htype, rfl⟩, -, rfl⟩, -, rfl⟩ := hread
  obtain rfl := Except.ok.inj hmake
  rwa [Schema.optional_text_eq_ok_iff, Schema.field?_ofFields] at htype

namespace Tools

/-- A trigger is told to answer to a chat message when its handler, behind a message of the user, takes it for a manual
trigger or for one of messages. -/
theorem isChat_iff_verdict {node : Node} {c : TriggerConfig} (h : node.config = .ok (.trigger c)) :
    c.IsChat ↔ ∀ (tools : Tools) (context : Context) (services : Services) (m : Message),
      context.lastMessage = some m → m.role = .user →
        let verdict := (tools.handlers.visit node context services).verdict
        verdict = done [("triggered", .bool true)] ∨
          verdict = done [("message", .text m.content), ("timestamp", .text m.timestamp)] := by
  simp only [visit_of_config h, handler, handle]
  constructor
  · rintro (hc | hc) tools context services m hm hr
    · exact Or.inr (by simp only [triggerVerdict, hc, hm, hr, if_true])
    · exact Or.inl (by simp only [triggerVerdict, hc])
  · intro hall
    -- One conversation is enough: a trigger of another type fails, or tells when it was scheduled.
    let said : Message := ⟨"m", .user, "hi", "now", []⟩
    let context : Context := { messages := [said], user := .number 0 }
    have hverdict := hall .idle context {} said rfl rfl
    unfold triggerVerdict at hverdict
    split at hverdict
    · rename_i hc
      exact Or.inr hc
    · rename_i hc
      exact Or.inl hc
    · rcases hverdict with hv | hv <;> simp [done] at hv
    · rcases hverdict with hv | hv <;> cases hv

end Tools

/-- **Which triggers are chosen, by what their handlers take them for.**  A trigger whose data can be read is a chat
trigger to its handler when it is told the type `message` or `manual`, under either name of the field.  It is chosen for
a chat turn when moreover the type stands under the wire name, and the type of no trigger of the workflow is a list or
a dictionary; otherwise it is not chosen. -/
theorem chosen_iff_config {w : Workflow} {node : Node} {c : TriggerConfig} (hmem : node ∈ w.nodes)
    (hc : node.config = .ok (.trigger c)) :
    (c.IsChat ↔ ∀ (tools : Tools) (context : Context) (services : Services) (m : Message),
      context.lastMessage = some m → m.role = .user →
        let verdict := (tools.handlers.visit node context services).verdict
        verdict = Tools.done [("triggered", .bool true)] ∨
          verdict = Tools.done [("message", .text m.content), ("timestamp", .text m.timestamp)]) ∧
    ((∃ chosen, w.chatTriggers? = some chosen ∧ node ∈ chosen) ↔
      c.IsChat ∧ (∃ v, node.data.get? "triggerType" = some v) ∧
        ∀ other ∈ w.nodes, other.kind = .trigger → (Workflow.triggerType other).isLookupKey = true) := by
  refine ⟨Tools.isChat_iff_verdict hc, ?_⟩
  have hkind : node.kind = .trigger := (Node.kind_of_config hc).symm
  have htype := triggerType_of_config hc
  rw [Workflow.mem_chatTriggers?_iff, Workflow.isChatTrigger_iff, ← Workflow.canChoose_iff]
  constructor
  · rintro ⟨hchoose, -, -, s, hs, hget⟩
    rw [hget] at htype
    refine ⟨?_, ⟨_, hget⟩, hchoose⟩
    have hcs : c.triggerType = some s := by
      cases ht : c.triggerType with
      | none =>
        rw [ht] at htype
        cases htype
      | some t =>
        rw [ht] at htype
        rw [Value.text.inj htype]
    simpa [TriggerConfig.IsChat, hcs, Workflow.chatTypes] using hs
  · rintro ⟨hchat, ⟨v, hget⟩, hchoose⟩
    rw [hget] at htype
    have hv : v = .ofText? c.triggerType := htype
    rcases hchat with ht | ht <;> rw [ht] at hv <;>
      exact ⟨hchoose, hmem, hkind, _, by decide, hv ▸ hget⟩

/-- A workflow with a trigger of type `message`, the type standing under a name of the field. -/
def oneTrigger (field : String) : Value :=
  .ofFields [("id", .text "w"), ("nodes", .list [.ofFields [("id", .text "t"), ("type", .text "trigger"),
    ("data", .ofFields [(field, .text "message")])]])]

theorem chosen_iff_config_wire : ∃ w node c, Workflow.read (oneTrigger "triggerType") = .ok w ∧ node ∈ w.nodes ∧
    node.config = .ok (.trigger c) ∧ ∃ chosen, w.chatTriggers? = some chosen ∧ node ∈ chosen := by
  refine ⟨_, _, _, rfl, List.mem_singleton_self _, rfl, ?_⟩
  refine (chosen_iff_config (List.mem_singleton_self _) rfl).2.mpr ⟨Or.inl rfl, ⟨_, rfl⟩, ?_⟩
  intro other hother _
  rw [List.mem_singleton.mp hother]
  rfl

/-- **Under the field's own name the type of a trigger is not seen**: the trigger is told to answer to messages, and is
not chosen. -/
theorem oneTrigger_not_chosen : ∃ w node c, Workflow.read (oneTrigger "trigger_type") = .ok w ∧ w.nodes = [node] ∧
    node.config = .ok (.trigger c) ∧ c.IsChat ∧ w.chatTriggers? = some [] :=
  ⟨_, _, _, rfl, rfl, rfl, Or.inl rfl, rfl⟩

end Chatflow
