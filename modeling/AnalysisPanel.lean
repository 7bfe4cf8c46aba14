import AnalysisPanel.Config.Basic
import AnalysisPanel.Config.Decoding
import AnalysisPanel.Config.Lexeme
import AnalysisPanel.Config.Loading
import AnalysisPanel.Config.Numeral
import AnalysisPanel.Config.Reader
import AnalysisPanel.Config.Term
import AnalysisPanel.Conversation.Call
import AnalysisPanel.Conversation.Candidates
import AnalysisPanel.Conversation.Entry
import AnalysisPanel.Conversation.Gate
import AnalysisPanel.Conversation.Session
import AnalysisPanel.Conversation.Transcript
import AnalysisPanel.Floating.Basic
import AnalysisPanel.Floating.Decimal
import AnalysisPanel.Json.Basic
import AnalysisPanel.Json.Number
import AnalysisPanel.Json.Printer
import AnalysisPanel.Json.Reader
import AnalysisPanel.Log
import AnalysisPanel.Machine.Disk
import AnalysisPanel.Machine.Journal
import AnalysisPanel.Machine.Network
import AnalysisPanel.Machine.Terminal
import AnalysisPanel.Main
import AnalysisPanel.Panel.Basic
import AnalysisPanel.Panel.Message
import AnalysisPanel.Panel.Step
import AnalysisPanel.Panel.View
import AnalysisPanel.Program.Arguments
import AnalysisPanel.Program.Carrier
import AnalysisPanel.Program.Startup
import AnalysisPanel.Program.World
import AnalysisPanel.Proofs.Config.Endpoints
import AnalysisPanel.Proofs.Conversation.Exchanges
import AnalysisPanel.Proofs.Floating.Layout
import AnalysisPanel.Proofs.Floating.Nearest
import AnalysisPanel.Proofs.Floating.Shortest
import AnalysisPanel.Proofs.Json.Numbers
import AnalysisPanel.Proofs.Json.Reading
import AnalysisPanel.Proofs.Json.Values
import AnalysisPanel.Proofs.Panel.Approvals
import AnalysisPanel.Proofs.Panel.Causality
import AnalysisPanel.Proofs.Panel.Chains
import AnalysisPanel.Proofs.Panel.Checklist
import AnalysisPanel.Proofs.Panel.Context
import AnalysisPanel.Proofs.Panel.Echoes
import AnalysisPanel.Proofs.Panel.Execution
import AnalysisPanel.Proofs.Panel.Gate
import AnalysisPanel.Proofs.Panel.Isolation
import AnalysisPanel.Proofs.Panel.Loading
import AnalysisPanel.Proofs.Panel.Mirror
import AnalysisPanel.Proofs.Panel.Numbering
import AnalysisPanel.Proofs.Panel.Payloads
import AnalysisPanel.Proofs.Panel.Positions
import AnalysisPanel.Proofs.Panel.Prompts
import AnalysisPanel.Proofs.Panel.Rejections
import AnalysisPanel.Proofs.Panel.Selection
import AnalysisPanel.Proofs.Panel.Semantics
import AnalysisPanel.Proofs.Panel.Starts
import AnalysisPanel.Proofs.Panel.Tickets
import AnalysisPanel.Proofs.Panel.Trace
import AnalysisPanel.Proofs.Program.Acts
import AnalysisPanel.Proofs.Program.Delivery
import AnalysisPanel.Proofs.Program.Payloads
import AnalysisPanel.Proofs.Program.Positions
import AnalysisPanel.Proofs.Program.Repaints
import AnalysisPanel.Proofs.Program.Secrecy
import AnalysisPanel.Proofs.Program.Semantics
import AnalysisPanel.Proofs.Program.Session
import AnalysisPanel.Proofs.Service.Bodies
import AnalysisPanel.Proofs.Service.Completions
import AnalysisPanel.Proofs.Service.Outcomes
import AnalysisPanel.Proofs.Service.Pending
import AnalysisPanel.Proofs.Storage.Confinement
import AnalysisPanel.Proofs.Storage.Directories
import AnalysisPanel.Proofs.Storage.Replacement
import AnalysisPanel.Proofs.Storage.Scripts
import AnalysisPanel.Proofs.Storage.Semantics
import AnalysisPanel.Proofs.Terminal.Positions
import AnalysisPanel.Proofs.Terminal.Typing
import AnalysisPanel.Proofs.Text.Numerals
import AnalysisPanel.Service.Engine
import AnalysisPanel.Service.Exchange
import AnalysisPanel.Service.Failure
import AnalysisPanel.Service.Request
import AnalysisPanel.Service.Response
import AnalysisPanel.Service.Settings
import AnalysisPanel.Service.Status
import AnalysisPanel.Service.Wire
import AnalysisPanel.Storage.Artifact
import AnalysisPanel.Storage.Disk
import AnalysisPanel.Storage.Path
import AnalysisPanel.Storage.Script
import AnalysisPanel.Terminal.Command
import AnalysisPanel.Terminal.Host
import AnalysisPanel.Terminal.Input
import AnalysisPanel.Terminal.Rendering
import AnalysisPanel.Text.Blank
import AnalysisPanel.Text.CombiningClass
import AnalysisPanel.Text.Composition
import AnalysisPanel.Text.Direction
import AnalysisPanel.Text.Extender
import AnalysisPanel.Text.Identifier
import AnalysisPanel.Text.Joining
import AnalysisPanel.Text.Mark
import AnalysisPanel.Text.Numeral
import AnalysisPanel.Text.Quoted
import AnalysisPanel.Text.Ranges
import AnalysisPanel.Text.Respelling
import AnalysisPanel.Text.Unprintable
import AnalysisPanel.Text.Utf8
import AnalysisPanel.Url.Address
import AnalysisPanel.Url.Basic
import AnalysisPanel.Url.DomainName
import AnalysisPanel.Url.Form
import AnalysisPanel.Url.Host
import AnalysisPanel.Url.Label
import AnalysisPanel.Url.NameSpelling
import AnalysisPanel.Url.Parser
import AnalysisPanel.Url.Percent
import AnalysisPanel.Url.Punycode
import AnalysisPanel.Proofs.Terminal.Grammar
import AnalysisPanel.Proofs.Service.Reports
import AnalysisPanel.Proofs.Url.Form
import AnalysisPanel.Proofs.Service.Requests
import AnalysisPanel.Proofs.Fields
import AnalysisPanel.Proofs.Service.Stages
import AnalysisPanel.Proofs.Config.Overrides
import AnalysisPanel.Proofs.Service.Sessions
import AnalysisPanel.Proofs.Conversation.Replay
import AnalysisPanel.Proofs.Program.Generations
import AnalysisPanel.Proofs.Program.Settling
import AnalysisPanel.Proofs.Url.Addresses
import AnalysisPanel.Proofs.Url.Hosts
import AnalysisPanel.Proofs.Url.Parts
import AnalysisPanel.Proofs.Url.Rereading
import AnalysisPanel.Proofs.Service.Links
