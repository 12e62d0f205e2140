import Chatflow.Handler.Standard
import Chatflow.Walk.Report

/-!
# In whose name handlers log

Each part of the library logs in a name of its own, so the records that a walk makes itself can be told from those of
its handlers.  That takes handlers that do not log in the name of walks (`Handlers.Discreet`); the standard ones do not
when their provider does not (`Tools.discreet_handlers`).
-/

namespace Chatflow

variable {σ : Type}

/-- None of some records is in the name of walks. -/
def Walk.Spares (records : List Record) : Prop := ∀ r ∈ records, r.source ≠ Walk.source

/-- No handler logs in the name of walks. -/
def Handlers.Discreet (handlers : Handlers σ) : Prop :=
  ∀ node context state, Walk.Spares (handlers.visit node context state).records

namespace Walk.Spares

@[simp] theorem nil : Walk.Spares [] := nofun

theorem append {records more : List Record} (h : Walk.Spares records) (hmore : Walk.Spares more) :
    Walk.Spares (records ++ more) := List.forall_mem_append.mpr ⟨h, hmore⟩

theorem singleton {r : Record} (h : r.source ≠ Walk.source) : Walk.Spares [r] := List.forall_mem_singleton.mpr h

end Walk.Spares

/-! ## What handlers call -/

theorem Template.spares_substitute (room : Nat) (now : Moment) (template : String) (context : Context) :
    Walk.Spares (substitute room now template context).records := by
  unfold substitute leftOver
  split
  · dsimp only
    split
    · exact .nil
    · exact .singleton (by decide : "autoflow.graph.template" ≠ Walk.source)
  · exact .nil

theorem Value.spares_compare (left : Value) (room : Nat) (name : String) (right : Value) :
    Walk.Spares (left.compare room name right).records := by
  unfold compare
  split
  · exact .nil
  · exact .singleton (by decide : Condition.source ≠ Walk.source)

theorem Condition.spares_evaluate (room : Nat) (text : String) (vars : Fields) :
    Walk.Spares (evaluate room text vars).records := by
  unfold evaluate
  split
  · exact .nil
  · exact .singleton (by decide : Condition.source ≠ Walk.source)

theorem Webhook.spares_deliver (webhook : Webhook) (client : HttpClient) (network : Network)
    (earlier : List HttpRequest) (now : Moment) (content : String) (node : Node) (context : Context) (url : Value) :
    Walk.Spares (webhook.deliver client network earlier now content node context url).records := by
  unfold deliver records
  dsimp only
  split
  · exact .singleton (by decide : "autoflow.runtime.webhook_delivery" ≠ Walk.source)
  · exact .nil

/-! ## Handlers -/

namespace Tools

/-- The provider, if there is one, does not log in the name of walks. -/
def ProviderDiscreet (tools : Tools) : Prop :=
  ∀ provider ∈ tools.provider, ∀ earlier prompt, Walk.Spares (provider.complete earlier prompt).records

variable (tools : Tools) (node : Node) (context : Context) (services : Services)

theorem source_ne : source ≠ Walk.source := by decide

theorem spares_ask {provider : Provider} (h : ∀ earlier prompt, Walk.Spares (provider.complete earlier prompt).records)
    (config : AiActionConfig) (text : String) : Walk.Spares (ask provider node config text context services).records := by
  unfold ask Provider.generate
  dsimp only
  split
  · exact h _ _
  · exact (h _ _).append (.singleton source_ne)

theorem spares_aiAction (h : tools.ProviderDiscreet) (config : AiActionConfig) :
    Walk.Spares (tools.aiAction node config context services).records := by
  unfold aiAction
  dsimp only
  split
  · exact .nil
  · split
    · exact .nil
    · next provider hprovider =>
      split
      · exact Template.spares_substitute _ _ _ _
      · exact (Template.spares_substitute _ _ _ _).append (spares_ask node context services (h provider hprovider) _ _)

theorem spares_condition (config : ConditionConfig) :
    Walk.Spares (tools.condition config context services).records := by
  unfold condition
  split
  · exact .nil
  · show Walk.Spares (tools.decide config context.vars).records
    unfold decide
    dsimp only
    split
    · exact Condition.spares_evaluate _ _ _
    · split
      · exact .nil
      · split
        · exact .nil
        · exact Value.spares_compare _ _ _ _

theorem spares_post (webhook : Webhook) (config : OutputConfig) (content : String) (verdict : Verdict) :
    Walk.Spares (tools.post webhook node config content verdict context services).records := by
  unfold post
  split
  · exact .singleton source_ne
  · have hdeliver := webhook.spares_deliver tools.client tools.network services.posted (tools.reading services 1).moment
      content node context (webhook.resolve config)
    dsimp only
    split
    · exact hdeliver
    · split
      · exact hdeliver.append (.singleton source_ne)
      · exact hdeliver

theorem spares_output (config : OutputConfig) : Walk.Spares (tools.output node config context services).records := by
  have hplace : ∀ content, Walk.Spares (tools.place node config content context services).records := by
    intro content
    unfold place
    dsimp only
    split
    · exact .nil
    · exact .nil
    · split
      · exact spares_post _ _ _ _ _ _ _ _
      · exact .singleton source_ne
    · exact .singleton source_ne
  unfold output
  dsimp only
  split
  · exact Template.spares_substitute _ _ _ _
  · exact (Template.spares_substitute _ _ _ _).append (hplace _)

/-- **The standard handlers do not log in the name of walks**, unless their provider does. -/
theorem discreet_handlers (h : tools.ProviderDiscreet) : tools.handlers.Discreet := by
  intro node context services
  unfold Handlers.visit
  dsimp only [handlers]
  split
  · dsimp only [handler]
    unfold handle
    split
    · exact .nil
    · exact tools.spares_aiAction node context services h _
    · exact tools.spares_condition context services _
    · exact tools.spares_output node context services _
  · exact .nil

end Tools

end Chatflow
