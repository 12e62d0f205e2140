import Chatflow.Proofs.Generation.Replies
import Chatflow.Proofs.Host.FirstSpeaker

/-!
# When an assistant apologizes

A host that asks its provider directly apologizes for a generation fault, in the words of the fault, and raises all
others (`askDirectly_of_prompt`).  Behind a gateway every failure of the backend is a generation fault, so there is an
apology for it.  A reply that cannot be read is none: then nothing is said, and the fault of its shape is raised.

So a gateway surfaces what comes of its backend, and a host answers, exactly when the reply can be read
(`surfaces_iff`).
-/

namespace Chatflow

namespace Host

variable {host : Host} {provider : Provider} {prompt : Prompt} {conversation : List Message} {assistant : Assistant}
  {trace : Trace} {services : Services}

/-- What comes of a direct question is told by what the provider gives. -/
theorem askDirectly_of_prompt (hprovider : host.provider = some provider)
    (hprompt : host.directPrompt conversation assistant = .ok prompt) :
    (host.askDirectly conversation assistant trace services).result =
      match (provider.generate services.asked prompt).result with
      | .ok content => host.message services .assistant content
      | .error fault =>
        if fault.isGeneration then .ok (host.said services .assistant (apology ++ " " ++ fault.message))
        else .error fault := by
  unfold askDirectly
  rw [hprovider, hprompt]
  dsimp only
  cases (provider.generate services.asked prompt).result with
  | ok content => rfl
  | error fault =>
    dsimp only
    split <;> rfl

/-- When the backend fails at a direct question, there is an apology of the kind of the failure. -/
theorem askDirectly_of_refused {gateway : Gateway} {backend : Backend} {fault : Fault}
    (hprovider : host.provider = some (gateway.provider backend))
    (hprompt : host.directPrompt conversation assistant = .ok prompt)
    (hfault : backend (services.asked.map gateway.request) (gateway.request prompt) = .error fault) :
    (host.askDirectly conversation assistant trace services).result =
      .ok (host.said services .assistant (apology ++ " " ++ Gateway.advice (Gateway.classify fault))) := by
  rw [askDirectly_of_prompt hprovider hprompt, Gateway.generate_of_error hfault]
  rfl

end Host

namespace Gateway

variable (gateway : Gateway) (backend : Backend) (earlier : List Prompt) (prompt : Prompt)

/-- **What comes of a backend surfaces exactly when its reply can be read**: as a text that is not empty, or as one of
four faults in fixed words; and then a direct question has an answer.

A failure of the backend always does, and its direct question is answered by an apology.  A reply that cannot be read
does not: it lacks an attribute, or a part of it is of the wrong kind, and the direct question raises just that. -/
theorem surfaces_iff :
    let provider := gateway.provider backend
    (Surfaces (·.content) (provider.complete earlier prompt).result ↔ gateway.Replies backend earlier prompt) ∧
      (Surfaces id (provider.generate earlier prompt).result ↔ gateway.Replies backend earlier prompt) ∧
      ∀ (host : Host) (conversation : List Message) (assistant : Assistant) (trace : Trace) (services : Services),
        host.provider = some provider → host.directPrompt conversation assistant = .ok prompt →
        services.asked = earlier →
        let asked := host.askDirectly conversation assistant trace services
        (∀ fault, backend (earlier.map gateway.request) (gateway.request prompt) = .error fault →
          asked.result = .ok (host.said services .assistant (Host.apology ++ " " ++ advice (classify fault)))) ∧
        (¬gateway.Replies backend earlier prompt → ∃ fault, asked.result = .error fault ∧ IsShapeFault fault) := by
  intro provider
  refine ⟨surfaces_complete_iff gateway backend earlier prompt, surfaces_generate_iff gateway backend earlier prompt, ?_⟩
  intro host conversation assistant trace services hprovider hprompt hasked asked
  subst hasked
  refine ⟨fun fault hfault => Host.askDirectly_of_refused hprovider hprompt hfault, fun hunreadable => ?_⟩
  obtain ⟨fault, hfault, hshape⟩ := exists_generate_error hunreadable
  refine ⟨fault, ?_, hshape⟩
  rw [show asked.result = _ from Host.askDirectly_of_prompt hprovider hprompt, hfault]
  exact if_neg (by rw [hshape.not_isGeneration]; nofun)

/-- A gateway with the usual limits. -/
def usual : Gateway := { maxTokens := .int defaultMaxTokens, timeout := defaultTimeout }

/-- A host that asks a backend through it. -/
def usualHost (backend : Backend) : Host := { Host.idle with provider := some (usual.provider backend) }

/-- An assistant that allows for no freedom. -/
def strict : Assistant := { name := .text "A", temperature := .real (.zero false) }

/-- A backend that refuses every request is apologized for. -/
theorem surfaces_iff_refused :
    let backend : Backend := fun _ _ => .error (.outside .rateLimit "key 1234")
    ∃ prompt, (usualHost backend).directPrompt [] strict = .ok prompt ∧
      Surfaces (·.content) ((usual.provider backend).complete [] prompt).result ∧
      ((usualHost backend).askDirectly [] strict [] {}).result =
        .ok ((usualHost backend).said {} .assistant
          (Host.apology ++ " Rate limit exceeded. Please try again in a moment.")) := by
  intro backend
  obtain ⟨prompt, hprompt⟩ : ∃ prompt, (usualHost backend).directPrompt [] strict = .ok prompt := ⟨_, rfl⟩
  obtain ⟨hcomplete, -, hdirect⟩ := surfaces_iff usual backend [] prompt
  exact ⟨prompt, hprompt, hcomplete.mpr nofun, (hdirect (usualHost backend) [] strict [] {} rfl hprompt rfl).1 _ rfl⟩

/-- A reply without choices does not surface, and there is no apology for it. -/
theorem bareReply_raises :
    let backend : Backend := fun _ _ => .ok (.dictionary [])
    let fault := Fault.noAttribute "'types.SimpleNamespace' object has no attribute 'choices'"
    fault.isGeneration = false ∧
      (∀ prompt, ((usual.provider backend).complete [] prompt).result = .error fault) ∧
      ((usualHost backend).askDirectly [] strict [] {}).result = .error fault :=
  ⟨rfl, fun _ => rfl, rfl⟩

end Gateway

end Chatflow
