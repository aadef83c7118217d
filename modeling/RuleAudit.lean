import RuleAudit.Auditor
import RuleAudit.Call
import RuleAudit.Catalog
import RuleAudit.Catalog.Bundled
import RuleAudit.Category
import RuleAudit.CommandLine.Command
import RuleAudit.CommandLine.Course
import RuleAudit.CommandLine.Words
import RuleAudit.Console
import RuleAudit.Console.Emoji
import RuleAudit.Console.EmojiTable
import RuleAudit.Console.Glyph
import RuleAudit.Console.Markup
import RuleAudit.Console.StyleName
import RuleAudit.Console.Table
import RuleAudit.Engine
import RuleAudit.Engine.Scan
import RuleAudit.Engine.Script
import RuleAudit.Factory
import RuleAudit.Fault
import RuleAudit.FilePath
import RuleAudit.FileTree
import RuleAudit.Glob
import RuleAudit.Issue
import RuleAudit.Keyed
import RuleAudit.Main
import RuleAudit.Merge
import RuleAudit.Moment
import RuleAudit.Notice
import RuleAudit.Number.Binary64
import RuleAudit.Outcome
import RuleAudit.Pattern.CharTest
import RuleAudit.Pattern.Match
import RuleAudit.Pattern.Node
import RuleAudit.Pattern.Problem
import RuleAudit.Pattern.Reader
import RuleAudit.Pattern.Source
import RuleAudit.Plan
import RuleAudit.Proofs.Accounting
import RuleAudit.Proofs.Alike
import RuleAudit.Proofs.AlikeAuditors
import RuleAudit.Proofs.Allowance
import RuleAudit.Proofs.Attribution
import RuleAudit.Proofs.Availability
import RuleAudit.Proofs.BatchCounts
import RuleAudit.Proofs.BatchSizes
import RuleAudit.Proofs.BatchedRuns
import RuleAudit.Proofs.Batching
import RuleAudit.Proofs.Catalog
import RuleAudit.Proofs.CatalogHistory
import RuleAudit.Proofs.Chunks
import RuleAudit.Proofs.Collection
import RuleAudit.Proofs.Concurrency
import RuleAudit.Proofs.Conservation
import RuleAudit.Proofs.Deadline
import RuleAudit.Proofs.Decision
import RuleAudit.Proofs.EngineByEngine
import RuleAudit.Proofs.Escape
import RuleAudit.Proofs.Faults
import RuleAudit.Proofs.Findings
import RuleAudit.Proofs.Glob.Letters
import RuleAudit.Proofs.Glob.Marks
import RuleAudit.Proofs.Glob.Matching
import RuleAudit.Proofs.Glob.Reading
import RuleAudit.Proofs.Glob.Translation
import RuleAudit.Proofs.Identifiers
import RuleAudit.Proofs.Isolation
import RuleAudit.Proofs.KeptFiles
import RuleAudit.Proofs.KeyPaths
import RuleAudit.Proofs.Keyed
import RuleAudit.Proofs.Layouts
import RuleAudit.Proofs.LifeEvents
import RuleAudit.Proofs.Lifecycle
import RuleAudit.Proofs.Limits
import RuleAudit.Proofs.Loading
import RuleAudit.Proofs.LowerCase
import RuleAudit.Proofs.Merge
import RuleAudit.Proofs.Normalization
import RuleAudit.Proofs.Overlay
import RuleAudit.Proofs.Quotients
import RuleAudit.Proofs.References
import RuleAudit.Proofs.Registration
import RuleAudit.Proofs.RegistryHistory
import RuleAudit.Proofs.Remembered
import RuleAudit.Proofs.Removal
import RuleAudit.Proofs.Renewal
import RuleAudit.Proofs.Reordering
import RuleAudit.Proofs.Repetition
import RuleAudit.Proofs.Requests
import RuleAudit.Proofs.Resolution
import RuleAudit.Proofs.Resolvers
import RuleAudit.Proofs.Respelling
import RuleAudit.Proofs.Restriction
import RuleAudit.Proofs.Routing
import RuleAudit.Proofs.Run.Agreement
import RuleAudit.Proofs.Run.Calls
import RuleAudit.Proofs.Run.Interleaving
import RuleAudit.Proofs.Run.Keeping
import RuleAudit.Proofs.Run.LaneEnd
import RuleAudit.Proofs.Run.LaneFuel
import RuleAudit.Proofs.Run.LaneSchedule
import RuleAudit.Proofs.Run.Lateness
import RuleAudit.Proofs.Run.Recovery
import RuleAudit.Proofs.Run.RetryTree
import RuleAudit.Proofs.Run.Service
import RuleAudit.Proofs.Run.Serving
import RuleAudit.Proofs.Run.Trace
import RuleAudit.Proofs.Run.Turns
import RuleAudit.Proofs.Run.Twins
import RuleAudit.Proofs.Run.Unfolding
import RuleAudit.Proofs.Scan
import RuleAudit.Proofs.SetUp
import RuleAudit.Proofs.Tables
import RuleAudit.Proofs.Talk
import RuleAudit.Proofs.Trees
import RuleAudit.Proofs.Verdict
import RuleAudit.Proofs.Workload
import RuleAudit.Proofs.WrittenCatalogs
import RuleAudit.Proofs.WrittenJson
import RuleAudit.Registry
import RuleAudit.Rendering
import RuleAudit.Report
import RuleAudit.Routing
import RuleAudit.Rule
import RuleAudit.Run
import RuleAudit.Run.Job
import RuleAudit.Run.Lanes
import RuleAudit.Run.Sequence
import RuleAudit.RunResult
import RuleAudit.Selection
import RuleAudit.Settings
import RuleAudit.Settings.Document
import RuleAudit.Settings.Limits
import RuleAudit.Severity
import RuleAudit.Text.Blank
import RuleAudit.Text.CaseTable
import RuleAudit.Text.Casing
import RuleAudit.Text.ClassTable
import RuleAudit.Text.Classes
import RuleAudit.Text.CodeRange
import RuleAudit.Text.Lines
import RuleAudit.Text.Quoted
import RuleAudit.Text.Replace
import RuleAudit.Text.Utf8
import RuleAudit.Text.WidthTable
import RuleAudit.Token
import RuleAudit.Toml.Reader
import RuleAudit.Toml.Scalar
import RuleAudit.Toml.Table
import RuleAudit.Value
import RuleAudit.Value.Check
import RuleAudit.Value.JsonReader
import RuleAudit.Value.JsonToken
import RuleAudit.Value.JsonWriter
import RuleAudit.Verdict
import RuleAudit.Violation
import RuleAudit.Workload
