import Chatflow.Clock
import Chatflow.Command.Grammar
import Chatflow.Command.Inputs
import Chatflow.Command.Invocation
import Chatflow.Command.Program
import Chatflow.Command.Usage
import Chatflow.Command.Words
import Chatflow.Condition
import Chatflow.Conversation
import Chatflow.Fault
import Chatflow.Files
import Chatflow.Generation.Gateway
import Chatflow.Generation.Provider
import Chatflow.Generation.Script
import Chatflow.Handler.Basic
import Chatflow.Handler.Standard
import Chatflow.Host.Basic
import Chatflow.Host.ChatTurn
import Chatflow.Host.ManualRun
import Chatflow.Journal.Basic
import Chatflow.Journal.Entry
import Chatflow.Journal.Line
import Chatflow.Journal.Record
import Chatflow.Json.Printer
import Chatflow.Json.Reader
import Chatflow.Keyed
import Chatflow.Main
import Chatflow.Number.Binary64
import Chatflow.Number.Decimal
import Chatflow.Number.Numeral
import Chatflow.Number.Shortest
import Chatflow.Proofs.Command.Legible
import Chatflow.Proofs.Command.Mistakes
import Chatflow.Proofs.Command.Requests
import Chatflow.Proofs.Command.Seeding
import Chatflow.Proofs.Condition.Comparing
import Chatflow.Proofs.Condition.Literals
import Chatflow.Proofs.Condition.OwnText
import Chatflow.Proofs.Condition.Phrases
import Chatflow.Proofs.Condition.References
import Chatflow.Proofs.Condition.Verbatim
import Chatflow.Proofs.Generation.Replies
import Chatflow.Proofs.Graph.Faithful
import Chatflow.Proofs.Graph.Lists
import Chatflow.Proofs.Handler.Completion
import Chatflow.Proofs.Handler.Delivery
import Chatflow.Proofs.Handler.Discretion
import Chatflow.Proofs.Handler.Frame
import Chatflow.Proofs.Handler.Outputs
import Chatflow.Proofs.Handler.Refusal
import Chatflow.Proofs.Host.Answered
import Chatflow.Proofs.Host.Apology
import Chatflow.Proofs.Host.Beginning
import Chatflow.Proofs.Host.Document
import Chatflow.Proofs.Host.FirstSpeaker
import Chatflow.Proofs.Host.Rounds
import Chatflow.Proofs.Host.Secrecy
import Chatflow.Proofs.Host.Settings
import Chatflow.Proofs.Host.Silence
import Chatflow.Proofs.Host.Temperature
import Chatflow.Proofs.Host.Triggers
import Chatflow.Proofs.Journal.Colours
import Chatflow.Proofs.Journal.Lines
import Chatflow.Proofs.Journal.Members
import Chatflow.Proofs.Json.Limits
import Chatflow.Proofs.Json.RoundTrip
import Chatflow.Proofs.Json.Scalars
import Chatflow.Proofs.Json.Texts
import Chatflow.Proofs.Keyed
import Chatflow.Proofs.Number.Decimal
import Chatflow.Proofs.Number.Nearest
import Chatflow.Proofs.Number.Notation
import Chatflow.Proofs.Number.Scale
import Chatflow.Proofs.Schema.Reading
import Chatflow.Proofs.Schema.Records
import Chatflow.Proofs.Schema.RoundTrip
import Chatflow.Proofs.Schema.Spelling
import Chatflow.Proofs.Template.OnePass
import Chatflow.Proofs.Template.Passes
import Chatflow.Proofs.Template.Rescan
import Chatflow.Proofs.Template.Token
import Chatflow.Proofs.Text.Colours
import Chatflow.Proofs.Text.Cutting
import Chatflow.Proofs.Text.Lowering
import Chatflow.Proofs.Text.Search
import Chatflow.Proofs.Value.Rendering
import Chatflow.Proofs.Value.Sameness
import Chatflow.Proofs.Value.Wire
import Chatflow.Proofs.Walk.Asking
import Chatflow.Proofs.Walk.Between
import Chatflow.Proofs.Walk.Cycles
import Chatflow.Proofs.Walk.Delivery
import Chatflow.Proofs.Walk.Events
import Chatflow.Proofs.Walk.Failure
import Chatflow.Proofs.Walk.Following
import Chatflow.Proofs.Walk.Leaving
import Chatflow.Proofs.Walk.Locality
import Chatflow.Proofs.Walk.Log
import Chatflow.Proofs.Walk.Providers
import Chatflow.Proofs.Walk.Replay
import Chatflow.Proofs.Walk.Resume
import Chatflow.Proofs.Walk.Selection
import Chatflow.Proofs.Walk.Simulation
import Chatflow.Proofs.Walk.Speech
import Chatflow.Proofs.Walk.Storing
import Chatflow.Proofs.Walk.Tracing
import Chatflow.Proofs.Walk.Trail
import Chatflow.Proofs.Walk.Variables
import Chatflow.Proofs.Walk.Verdict
import Chatflow.Schema.Problem
import Chatflow.Schema.Reading
import Chatflow.Settings
import Chatflow.Template
import Chatflow.Text.Blank
import Chatflow.Text.Case
import Chatflow.Text.CaseTable
import Chatflow.Text.Colour
import Chatflow.Text.Digit
import Chatflow.Text.PrintableTable
import Chatflow.Text.Quoted
import Chatflow.Text.Search
import Chatflow.Value.Basic
import Chatflow.Value.Display
import Chatflow.Value.Rendered
import Chatflow.Value.Wire
import Chatflow.Walk.Basic
import Chatflow.Walk.Report
import Chatflow.Webhook
import Chatflow.Workflow.Graph
import Chatflow.Workflow.Node
import Chatflow.Workflow.NodeConfig
import Chatflow.Workflow.Spec
