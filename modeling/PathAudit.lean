import PathAudit.Address.Basic
import PathAudit.Address.Domain
import PathAudit.Address.DomainMapping
import PathAudit.Address.Escape
import PathAudit.Address.Ip
import PathAudit.Address.Path
import PathAudit.Address.Punycode
import PathAudit.Audit.Action
import PathAudit.Audit.Batch
import PathAudit.Audit.Excerpt
import PathAudit.Audit.Extraction
import PathAudit.Audit.Gate
import PathAudit.Audit.Loop
import PathAudit.Audit.Prompt
import PathAudit.Audit.Service
import PathAudit.Audit.Session
import PathAudit.Audit.World
import PathAudit.Chat.Context
import PathAudit.Chat.Endpoint
import PathAudit.Chat.Gateway
import PathAudit.Chat.Message
import PathAudit.Chat.Retry
import PathAudit.Chat.Script
import PathAudit.Chat.ScriptForm
import PathAudit.Chat.Span
import PathAudit.Chat.Stream
import PathAudit.Chat.Wire
import PathAudit.Cli.Arguments
import PathAudit.Cli.Failure
import PathAudit.Cli.Run
import PathAudit.Dict
import PathAudit.Drawing.Dot
import PathAudit.Drawing.Render
import PathAudit.Drawing.Wrap
import PathAudit.Files
import PathAudit.Graph.Annotations
import PathAudit.Graph.CallGraph
import PathAudit.Graph.Finding
import PathAudit.Graph.Function
import PathAudit.Graph.Mutation
import PathAudit.Graph.MutationError
import PathAudit.Graph.Record
import PathAudit.Graph.Resolver
import PathAudit.Graph.Sinks
import PathAudit.Json.Decode
import PathAudit.Json.Fault
import PathAudit.Json.Field
import PathAudit.Json.Printer
import PathAudit.Json.Raw
import PathAudit.Json.Value
import PathAudit.Main
import PathAudit.ModuleCode.Automaton
import PathAudit.ModuleCode.Cursor
import PathAudit.ModuleCode.Grammar
import PathAudit.ModuleCode.Layout
import PathAudit.ModuleCode.Lexeme
import PathAudit.ModuleCode.Phrase
import PathAudit.ModuleCode.Reading
import PathAudit.ModuleCode.Reduce
import PathAudit.ModuleCode.Token
import PathAudit.Notice
import PathAudit.Number.Decimal
import PathAudit.Number.Double
import PathAudit.Number.Total
import PathAudit.Reply.Decision
import PathAudit.Reply.Judgment
import PathAudit.Reply.Reading
import PathAudit.Settings.Basic
import PathAudit.Settings.Load
import PathAudit.Settings.Merge
import PathAudit.Settings.Scalar
import PathAudit.Store.Basic
import PathAudit.Store.Cell
import PathAudit.Store.Disk
import PathAudit.Store.Events
import PathAudit.Store.Image
import PathAudit.Store.Location
import PathAudit.Store.Records
import PathAudit.Store.Sources
import PathAudit.Telemetry.Filter
import PathAudit.Telemetry.LogBook
import PathAudit.Telemetry.Pattern
import PathAudit.Text.Basic
import PathAudit.Text.Blank
import PathAudit.Text.Composition
import PathAudit.Text.Decomposition
import PathAudit.Text.Direction
import PathAudit.Text.Identifier
import PathAudit.Text.Joining
import PathAudit.Text.Mark
import PathAudit.Text.Quoted
import PathAudit.Text.Table
import PathAudit.Text.Truncated
import PathAudit.Text.Unprintable
import PathAudit.Text.Utf8
import PathAudit.Proofs.Graph.Reachability
import PathAudit.Proofs.Graph.Contraction
import PathAudit.Proofs.Graph.Extension
import PathAudit.Proofs.Audit.Dispatch
import PathAudit.Proofs.Audit.AuditedPath
import PathAudit.Proofs.Audit.Exchanges
import PathAudit.Proofs.Audit.Course
import PathAudit.Proofs.Audit.Verdict
import PathAudit.Proofs.Graph.SimpleChain
import PathAudit.Proofs.Graph.StalePlans
import PathAudit.Proofs.Graph.EdgeUniqueness
import PathAudit.Proofs.Json.Compact
import PathAudit.Proofs.Audit.Stages
import PathAudit.Proofs.Audit.CallText
import PathAudit.Proofs.Audit.RepeatedCalls
import PathAudit.Proofs.Audit.Transparency
import PathAudit.Proofs.Audit.Conversation
import PathAudit.Proofs.Audit.Budget
import PathAudit.Proofs.Json.Tokens
import PathAudit.Proofs.Json.Grammar
import PathAudit.Proofs.Json.Quoting
import PathAudit.Proofs.Text.Cutting
import PathAudit.Proofs.Reply.FailSafe
import PathAudit.Proofs.Audit.KeptFindings
import PathAudit.Proofs.Audit.Freshness
import PathAudit.Proofs.Json.Rereading
import PathAudit.Proofs.Store.Numbering
import PathAudit.Proofs.Store.Transcript
import PathAudit.Proofs.Audit.Transcript
import PathAudit.Proofs.Audit.Retelling
import PathAudit.Proofs.Store.Ledger
import PathAudit.Proofs.Store.Views
import PathAudit.Proofs.Store.Import
import PathAudit.Proofs.Audit.Persistence
import PathAudit.Proofs.Json.Indented
import PathAudit.Proofs.Store.Export
import PathAudit.Proofs.Store.Saving
import PathAudit.Proofs.Audit.Schedules
import PathAudit.Proofs.Audit.BatchAccounting
import PathAudit.Proofs.Chat.Attempts
import PathAudit.Proofs.Chat.Discipline
import PathAudit.Proofs.Chat.Probing
import PathAudit.Proofs.Chat.Replay
import PathAudit.Proofs.Audit.Isolation
import PathAudit.Proofs.Audit.Confluence
import PathAudit.Proofs.Audit.Escalation
import PathAudit.Proofs.Graph.Resolution
import PathAudit.Proofs.Chat.Completion
import PathAudit.Proofs.Json.Letters
import PathAudit.Proofs.Reply.Wrapping
import PathAudit.Proofs.Reply.Mending
import PathAudit.Proofs.Drawing.Document
import PathAudit.Proofs.Drawing.FileNames
import PathAudit.Proofs.Store.Loading
import PathAudit.Proofs.Audit.Annotating
import PathAudit.Proofs.Settings.Layers
import PathAudit.Proofs.Chat.History
import PathAudit.Proofs.Audit.Catalogue
import PathAudit.Proofs.Telemetry.Queries
import PathAudit.Proofs.Text.Truncation
import PathAudit.Proofs.Drawing.LineFilling
import PathAudit.Proofs.Audit.Excerpts
import PathAudit.Proofs.Store.LineRanges
