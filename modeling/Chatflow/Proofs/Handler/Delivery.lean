import Chatflow.Proofs.Handler.Completion

/-!
# What a node posts

When a node is visited under the standard handlers, it is settled beforehand whether it owes a request, and which one
(`Tools.owed`); the client settles whether it is sent (`HttpClient.sends`).  The network decides on the reply only, and a
node gets over every reply that a client passes on (`Webhook.isUndelivered_of_outcome`).

* `Webhook.deliver_alike`: over a client that passes on, deliveries differ in what they log only.
* `owed_eq_some_iff`: which request a node owes.
* `visit_posted`: a node adds the request that it owes, if it is sent, to what was posted, and nothing else.
* `visit_agree`: networks make no difference to a node, and neither does what was posted before.
-/

namespace Chatflow

/-- Whether a client sends a request. -/
def HttpClient.sends (client : HttpClient) (request : HttpRequest) : Bool := (client.withheld request).isNone

/-- What a delivery gets in the way of its node: a fault, unless it is known as one of the delivery. -/
def Delivery.fault? (delivery : Delivery) : Option Fault :=
  match delivery.result with
  | .ok _ => none
  | .error fault => if fault.isUndelivered then none else some fault

namespace Webhook

/-- Whatever was answered, it is a success or known as a fault of the delivery. -/
theorem isUndelivered_of_outcome {url : String} {reply : HttpReply} {fault : Fault}
    (h : outcome url reply = .error fault) : fault.isUndelivered = true := by
  cases reply with
  | status code =>
    rw [outcome] at h
    split at h
    · cases h
    · rw [← Except.error.inj h]
      rfl
  | broken reason =>
    rw [← Except.error.inj h]
    rfl

variable (webhook : Webhook) {client : HttpClient} (network : Network) (earlier : List HttpRequest) (now : Moment)
  (content : String) (node : Node) (context : Context) (url : Value)

/-- Just the requests that the client sends come to the network. -/
theorem request_deliver (client : HttpClient) :
    (webhook.deliver client network earlier now content node context url).request =
      (some (webhook.request now content node context url)).filter client.sends := by
  rw [deliver, Option.filter_some, HttpClient.sends]
  cases client.withheld (webhook.request now content node context url) <;> rfl

/-- Nothing is in the way of a node when its request is sent and the client passes on. -/
theorem fault?_of_sends (hpasses : client.PassesOn)
    (h : client.withheld (webhook.request now content node context url) = none) :
    (webhook.deliver client network earlier now content node context url).fault? = none := by
  obtain ⟨got, hgot⟩ := hpasses (webhook.request now content node context url)
    (network earlier (webhook.request now content node context url))
  have hresult : (webhook.deliver client network earlier now content node context url).result =
      outcome url.display got := by
    rw [deliver, h]
    exact congrArg (Except.bind · (outcome url.display)) hgot
  rw [Delivery.fault?, hresult]
  cases hout : outcome url.display got with
  | ok code => rfl
  | error fault => exact if_pos (isUndelivered_of_outcome hout)

/-- **Deliveries through a client that passes on are told apart by their records only**, whatever the network and the
earlier requests were. -/
theorem deliver_alike (hpasses : client.PassesOn) (network' : Network) (earlier' : List HttpRequest) :
    (webhook.deliver client network earlier now content node context url).fault? =
      (webhook.deliver client network' earlier' now content node context url).fault? := by
  cases h : client.withheld (webhook.request now content node context url) with
  | none =>
    rw [webhook.fault?_of_sends network earlier now content node context url hpasses h,
      webhook.fault?_of_sends network' earlier' now content node context url hpasses h]
  | some got => simp only [Delivery.fault?, deliver, h, Option.getD_some]

/-- The request to an address, if there is an address. -/
def owed : Value → Option HttpRequest
  | .null => none
  | url => some (webhook.request now content node context url)

theorem owed_of_ne {url : Value} (h : url ≠ .null) :
    webhook.owed now content node context url = some (webhook.request now content node context url) := by
  cases url with
  | null => exact absurd rfl h
  | _ => rfl

end Webhook

namespace Tools

/-- The same tools with another network. -/
def on (tools : Tools) (network : Network) : Tools := { tools with network }

@[simp] theorem on_provider (tools : Tools) (network : Network) : (tools.on network).provider = tools.provider := rfl

@[simp] theorem on_webhook (tools : Tools) (network : Network) : (tools.on network).webhook = tools.webhook := rfl

/-- The request that a visited node owes: that of an output to a webhook, when a webhook is set up, the text can be
filled in and an address resolves. -/
def owed (tools : Tools) (node : Node) (context : Context) (services : Services) : Option HttpRequest :=
  match node.config, tools.webhook with
  | .ok (.output c), some webhook =>
    if c.outputType = some "webhook" then
      match (tools.fill (c.content.getD "") context services).result with
      | .ok content =>
        webhook.owed (tools.reading services 1).moment content node context (webhook.resolve c)
      | .error _ => none
    else none
  | _, _ => none

variable {tools : Tools} {node : Node} {context : Context} {services : Services} {request : HttpRequest}

/-- The request that a visited node posts: the one that it owes, if the client sends it. -/
def sent (tools : Tools) (node : Node) (context : Context) (services : Services) : Option HttpRequest :=
  (tools.owed node context services).filter tools.client.sends

/-! ## What is posted -/

variable (tools node context services) in
/-- What posting to an address does. -/
theorem post_of_ne {webhook : Webhook} {c : OutputConfig} (h : webhook.resolve c ≠ .null) (content : String)
    (verdict : Verdict) :
    let delivery := webhook.deliver tools.client tools.network services.posted (tools.reading services 1).moment content
      node context (webhook.resolve c)
    let handled := tools.post webhook node c content verdict context services
    handled.verdict = delivery.fault?.elim verdict .raised ∧ handled.context = context ∧
      handled.state = { services with posted := services.posted ++ delivery.request.toList } := by
  intro delivery handled
  have hhandled : handled = tools.post webhook node c content verdict context services := rfl
  rw [hhandled, post]
  split
  · exact absurd ‹_› h
  · show Handled.verdict (match delivery.result with | .ok _ => _ | .error _ => _) = _ ∧
      Handled.context (match delivery.result with | .ok _ => _ | .error _ => _) = _ ∧
      Handled.state (match delivery.result with | .ok _ => _ | .error _ => _) = _
    rw [Delivery.fault?]
    cases delivery.result with
    | ok code => exact ⟨rfl, rfl, rfl⟩
    | error fault =>
      dsimp only
      split <;> exact ⟨rfl, rfl, rfl⟩

theorem posted_post (webhook : Webhook) (c : OutputConfig) (content : String) (verdict : Verdict) :
    (tools.post webhook node c content verdict context services).state.posted = services.posted ++
      ((webhook.owed (tools.reading services 1).moment content node context (webhook.resolve c)).filter
        tools.client.sends).toList := by
  by_cases hurl : webhook.resolve c = .null
  · simp only [post, hurl, Webhook.owed, Option.filter_none, Option.toList_none, List.append_nil]
  · rw [(post_of_ne tools node context services hurl content verdict).2.2, webhook.owed_of_ne _ _ _ _ hurl,
      ← Webhook.request_deliver]

theorem posted_place (c : OutputConfig) (content : String) (h : c.outputType ≠ some "webhook") :
    (tools.place node c content context services).state = services := by
  unfold place
  split
  · rfl
  · rfl
  · contradiction
  · rfl

/-- **A visited node adds the request that it owes, if it is sent, to what was posted, and nothing else.** -/
theorem visit_posted (tools : Tools) (node : Node) (context : Context) (services : Services) :
    (tools.handlers.visit node context services).state.posted =
      services.posted ++ (tools.sent node context services).toList := by
  -- A node that is no output with a text owes nothing and leaves what was posted.
  have hkept : ∀ {state : Services}, state.posted = services.posted → tools.owed node context services = none →
      state.posted = services.posted ++ (tools.sent node context services).toList := by
    intro state hposted howed
    rw [sent, howed, hposted]
    exact (List.append_nil _).symm
  cases hc : node.config with
  | error report => exact hkept (by simp only [Handlers.visit, handlers, hc]) (by simp only [owed, hc])
  | ok config =>
    rw [visit_of_config hc, handler_eq, Services.posted_later]
    cases config with
    | trigger c => exact hkept rfl (by simp only [owed, hc])
    | aiAction c =>
      show (tools.aiAction node c context services).state.posted = _
      exact hkept (aiAction_keeps tools node context services c).2 (by simp only [owed, hc])
    | condition c =>
      show (tools.condition c context services).state.posted = _
      exact hkept (congrArg Services.posted (tools.condition_keeps context services c).2) (by simp only [owed, hc])
    | output c =>
      show (tools.output node c context services).state.posted = _
      unfold output
      cases hf : (tools.fill (c.content.getD "") context services).result with
      | error fault =>
        simp only [hf]
        refine hkept rfl ?_
        cases hw : tools.webhook <;> simp [owed, hc, hw, hf]
      | ok content =>
        simp only [hf]
        by_cases hk : c.outputType = some "webhook"
        · cases hw : tools.webhook with
          | none => exact hkept (by simp only [place, hk, hw]) (by simp only [owed, hc, hw])
          | some webhook =>
            simp only [place, hk, hw, sent, owed, hc, hf, if_true]
            exact posted_post webhook c content _
        · refine hkept (congrArg Services.posted (posted_place c content hk)) ?_
          cases hw : tools.webhook <;> simp [owed, hc, hw, hk]

/-! ## What the network can do -/

/-- Two handlings with the same verdict and context, that asked the same; what they posted and logged may differ. -/
structure Agree (first second : Handled Services) : Prop where
  verdict : first.verdict = second.verdict
  context : first.context = second.context
  asked : first.state.asked = second.state.asked

/-- Two services behind which the same was asked and the clock tells the same; what was posted may differ. -/
structure Beside (tools : Tools) (first second : Services) : Prop where
  asked : first.asked = second.asked
  clock : ∀ n, tools.reading first n = tools.reading second n

theorem Beside.refl (tools : Tools) (services : Services) : tools.Beside services services := ⟨rfl, fun _ => rfl⟩

section Beside

variable {s t : Services} (h : tools.Beside s t)
include h

theorem Beside.fill (template : String) (context : Context) :
    tools.fill template context s = tools.fill template context t := by
  rw [Tools.fill, Tools.fill, h.clock]

theorem Beside.triggerVerdict (c : TriggerConfig) (context : Context) :
    tools.triggerVerdict c context s = tools.triggerVerdict c context t := by
  simp only [Tools.triggerVerdict, h.clock]

theorem Beside.owed (node : Node) (context : Context) : tools.owed node context s = tools.owed node context t := by
  simp only [Tools.owed, h.fill, h.clock]

theorem Beside.sent (node : Node) (context : Context) : tools.sent node context s = tools.sent node context t := by
  rw [Tools.sent, Tools.sent, h.owed]

variable (first second : Network)

/-- A template is filled in alike over two networks. -/
theorem Beside.fill_on (template : String) (context : Context) :
    (tools.on first).fill template context s = (tools.on second).fill template context t :=
  h.fill template context

/-- The clock tells the same over two networks. -/
theorem Beside.reading_on (n : Nat) : (tools.on first).reading s n = (tools.on second).reading t n := h.clock n

theorem aiAction_agree (c : AiActionConfig) :
    Agree ((tools.on first).aiAction node c context s) ((tools.on second).aiAction node c context t) := by
  unfold aiAction
  dsimp only
  split
  · exact ⟨rfl, rfl, h.asked⟩
  · rw [on_provider, on_provider]
    cases tools.provider with
    | none => exact ⟨rfl, rfl, h.asked⟩
    | some provider =>
      dsimp only
      rw [h.fill_on first second]
      cases ((tools.on second).fill (c.prompt.getD "") context t).result with
      | error fault => exact ⟨rfl, rfl, h.asked⟩
      | ok text =>
        dsimp only [ask]
        rw [h.asked]
        cases (provider.generate t.asked (promptOf c context text)).result <;> exact ⟨rfl, rfl, rfl⟩

/-- Where a client passes on, posting gives the verdict that it was given, or a fault that neither the network nor the
earlier requests can change. -/
theorem post_agree (hpasses : tools.client.PassesOn) (webhook : Webhook) (c : OutputConfig) (content : String)
    (verdict : Verdict) :
    Agree ((tools.on first).post webhook node c content verdict context s)
      ((tools.on second).post webhook node c content verdict context t) := by
  by_cases hurl : webhook.resolve c = .null
  · simp only [post, hurl]
    exact ⟨rfl, rfl, h.asked⟩
  · obtain ⟨hv, hc, hs⟩ := (tools.on first).post_of_ne node context s hurl content verdict
    obtain ⟨hv', hc', hs'⟩ := (tools.on second).post_of_ne node context t hurl content verdict
    have hfault := webhook.deliver_alike first s.posted (tools.reading s 1).moment content node context
      (webhook.resolve c) hpasses second t.posted
    rw [h.clock 1] at hfault
    refine ⟨?_, ?_, ?_⟩
    · rw [hv, hv', h.reading_on first second]
      exact congrArg (Option.elim · verdict .raised) hfault
    · rw [hc, hc']
    · rw [hs, hs']
      exact h.asked

theorem output_agree (hpasses : tools.client.PassesOn) (c : OutputConfig) :
    Agree ((tools.on first).output node c context s) ((tools.on second).output node c context t) := by
  unfold output
  dsimp only
  rw [h.fill_on first second]
  cases ((tools.on second).fill (c.content.getD "") context t).result with
  | error fault => exact ⟨rfl, rfl, h.asked⟩
  | ok content =>
    suffices hplace : Agree ((tools.on first).place node c content context s)
        ((tools.on second).place node c content context t) from ⟨hplace.verdict, hplace.context, hplace.asked⟩
    unfold place
    dsimp only
    split
    · exact ⟨rfl, by rw [h.reading_on first second, h.reading_on first second], h.asked⟩
    · exact ⟨rfl, rfl, h.asked⟩
    · rw [on_webhook, on_webhook]
      cases tools.webhook with
      | none => exact ⟨rfl, rfl, h.asked⟩
      | some webhook => exact post_agree h first second hpasses webhook c content _
    · exact ⟨rfl, rfl, h.asked⟩

/-- **Networks make no difference to a node, and neither does what was posted before**, where the client passes on. -/
theorem visit_agree (hpasses : tools.client.PassesOn) (node : Node) (context : Context) :
    Agree ((tools.on first).handlers.visit node context s) ((tools.on second).handlers.visit node context t) := by
  cases hc : node.config with
  | error report =>
    simp only [Handlers.visit, handlers, hc]
    exact ⟨rfl, rfl, h.asked⟩
  | ok config =>
    rw [visit_of_config hc, visit_of_config hc]
    suffices hhandle : Agree ((tools.on first).handle node config context s)
        ((tools.on second).handle node config context t) from ⟨hhandle.verdict, hhandle.context, hhandle.asked⟩
    cases config with
    | trigger c => exact ⟨h.triggerVerdict c context, rfl, h.asked⟩
    | aiAction c => exact aiAction_agree h first second c
    | condition c =>
      have hkept := fun network services => (tools.on network).condition_keeps context services c
      refine ⟨?_, (hkept first s).1.trans (hkept second t).1.symm, ?_⟩
      · show (Tools.condition _ c context s).verdict = (Tools.condition _ c context t).verdict
        unfold Tools.condition
        split <;> rfl
      · exact (congrArg Services.asked (hkept first s).2).trans
          (h.asked.trans (congrArg Services.asked (hkept second t).2).symm)
    | output c => exact output_agree h first second hpasses c

end Beside

end Tools

end Chatflow
