import Chatflow.Conversation
import Chatflow.Fault
import Chatflow.Journal.Record
import Chatflow.Workflow.NodeConfig

/-!
# Webhooks

A webhook posts the text of an output node to an address.  What the network answers may depend on the requests that were
sent before.  A delivery succeeds when the status lies between 200 and 299.

The client that makes, sends and receives is not modelled but given (`HttpClient`): it may withhold a request, and it
hands on what the network answered.  `HttpClient.PassesOn` is what it promises: once a request is sent, nothing but a
failure of the exchange is raised.
-/

namespace Chatflow

/-- A request as it is handed to a client. -/
structure HttpRequest where
  url : Value
  timeout : Value
  headers : Fields
  payload : Value

/-- What a network answers: a status, or that the exchange failed. -/
inductive HttpReply where
  | status (code : Int)
  | broken (reason : String)
  deriving DecidableEq, Repr

/-- The network: what it answers to a request after the earlier ones. -/
abbrev Network := List HttpRequest → HttpRequest → HttpReply

/-- A client: what its caller gets at once for a request that it does not send, and what its caller gets when one that
it sends is answered. -/
structure HttpClient where
  withheld : HttpRequest → Option (Except Fault HttpReply)
  receive : HttpRequest → HttpReply → Except Fault HttpReply

/-- A client hands on what was answered, as a status or as a failure of the exchange, whatever of the two it was. -/
def HttpClient.PassesOn (client : HttpClient) : Prop := ∀ request reply, ∃ got, client.receive request reply = .ok got

/-- A client that sends every request and hands on what was answered as it is. -/
def HttpClient.faithful : HttpClient := { withheld := fun _ => none, receive := fun _ reply => .ok reply }

theorem HttpClient.passesOn_faithful : HttpClient.faithful.PassesOn := fun _ reply => ⟨reply, rfl⟩

/-- How webhooks are delivered: where to unless a node says so, how long to wait, and what headers to send. -/
structure Webhook where
  url : Value := .null
  timeout : Value := .real (.ofRatio false 10 1)
  headers : Fields := []

/-- What came of a delivery: the status or a fault, what was logged, and the request if one was sent. -/
structure Delivery where
  result : Except Fault Int
  records : List Record := []
  request : Option HttpRequest := none

namespace Webhook

/-- A text that may be missing, as a value; another value when it is missing or empty. -/
def given (url : Option String) (other : Value) : Value := (Value.ofText? url).orElse other

/-- The address of a node: its own one, or the other one that it gives, or the default. -/
def resolve (webhook : Webhook) (config : OutputConfig) : Value :=
  given config.url (given config.webhookUrl webhook.url)

/-- What is posted. -/
def payload (now : Moment) (content : String) (node : Node) (context : Context) : Value :=
  .ofFields [("content", .text content), ("nodeId", .text node.id), ("userId", context.user.value),
    ("assistantId", PersonId.value? context.assistant), ("timestamp", .text now.iso)]

/-- The request of a delivery to an address. -/
def request (webhook : Webhook) (now : Moment) (content : String) (node : Node) (context : Context) (url : Value) :
    HttpRequest :=
  { url, timeout := webhook.timeout, headers := webhook.headers, payload := payload now content node context }

/-- What a reply means for a delivery to an address. -/
def outcome (url : String) : HttpReply → Except Fault Int
  | .status code =>
    if 200 ≤ code ∧ code < 300 then .ok code else .error (.undelivered url s!"HTTP {code}" (some code))
  | .broken reason => .error (.undelivered url reason none)

/-- What is logged of a delivery. -/
def records (url : String) : Except Fault Int → List Record
  | .ok code =>
    [{ level := Record.informing, source := "autoflow.runtime.webhook_delivery",
       message := s!"📤 Webhook delivered to {url} ({code})" }]
  | .error _ => []

/-- Delivers a text to an address after the earlier requests. -/
def deliver (webhook : Webhook) (client : HttpClient) (network : Network) (earlier : List HttpRequest) (now : Moment)
    (content : String) (node : Node) (context : Context) (url : Value) : Delivery :=
  let request := webhook.request now content node context url
  let withheld := client.withheld request
  let got := withheld.getD (client.receive request (network earlier request))
  let result := got.bind (outcome url.display)
  { result, records := records url.display result, request := if withheld.isSome then none else some request }

end Webhook

end Chatflow
