import WorkspaceTemplates.Cli.Arguments
import WorkspaceTemplates.Cli.Root
import WorkspaceTemplates.Cli.Run
import WorkspaceTemplates.Cli.Table
import WorkspaceTemplates.Cli.Timestamp
import WorkspaceTemplates.Cli.Usage
import WorkspaceTemplates.Command
import WorkspaceTemplates.Condition
import WorkspaceTemplates.Config
import WorkspaceTemplates.Config.Reader
import WorkspaceTemplates.Context
import WorkspaceTemplates.Context.File
import WorkspaceTemplates.Context.Reader
import WorkspaceTemplates.Context.Writer
import WorkspaceTemplates.Data
import WorkspaceTemplates.Decimal.Binary64
import WorkspaceTemplates.Decimal.Power
import WorkspaceTemplates.Decimal.Shortest
import WorkspaceTemplates.Defaults
import WorkspaceTemplates.Dictionary
import WorkspaceTemplates.Engine
import WorkspaceTemplates.Fault
import WorkspaceTemplates.Files.Disk
import WorkspaceTemplates.Files.Path
import WorkspaceTemplates.Files.Tree
import WorkspaceTemplates.Generate
import WorkspaceTemplates.Inspection
import WorkspaceTemplates.Interview
import WorkspaceTemplates.Interview.Answers
import WorkspaceTemplates.Interview.Dialogue
import WorkspaceTemplates.Interview.Questions
import WorkspaceTemplates.Json.Basic
import WorkspaceTemplates.Json.Ignored
import WorkspaceTemplates.Json.Lexical
import WorkspaceTemplates.Json.Reader
import WorkspaceTemplates.Json.Record
import WorkspaceTemplates.Json.Shape
import WorkspaceTemplates.Json.Writer
import WorkspaceTemplates.Layout
import WorkspaceTemplates.Level
import WorkspaceTemplates.Lookup
import WorkspaceTemplates.Main
import WorkspaceTemplates.Manifest
import WorkspaceTemplates.Normal
import WorkspaceTemplates.Outcome
import WorkspaceTemplates.Region
import WorkspaceTemplates.Report
import WorkspaceTemplates.Selection
import WorkspaceTemplates.Template
import WorkspaceTemplates.Template.Builtin
import WorkspaceTemplates.Template.Source
import WorkspaceTemplates.Text.Blank
import WorkspaceTemplates.Text.Case
import WorkspaceTemplates.Text.CaseTable
import WorkspaceTemplates.Text.Pieces
import WorkspaceTemplates.Token
import WorkspaceTemplates.Value
import WorkspaceTemplates.Value.Display
import WorkspaceTemplates.Words
import WorkspaceTemplates.Yaml.Character
import WorkspaceTemplates.Yaml.Lexer
import WorkspaceTemplates.Yaml.Meaning
import WorkspaceTemplates.Yaml.Node
import WorkspaceTemplates.Yaml.Scalar
import WorkspaceTemplates.Yaml.Tag
import WorkspaceTemplates.Yaml.Token
import WorkspaceTemplates.Yaml.Writer
import WorkspaceTemplates.Proofs.Distinct
import WorkspaceTemplates.Proofs.Token.Seam
import WorkspaceTemplates.Proofs.Token.Replace
import WorkspaceTemplates.Proofs.Engine.NoLeak
import WorkspaceTemplates.Proofs.Files.Display
import WorkspaceTemplates.Proofs.Files.Disk
import WorkspaceTemplates.Proofs.Files.Run
import WorkspaceTemplates.Proofs.Files.Write
import WorkspaceTemplates.Proofs.Context.Document
import WorkspaceTemplates.Proofs.Context.SaveLoad
import WorkspaceTemplates.Proofs.Json.Lexical
import WorkspaceTemplates.Proofs.Json.RoundTrip
import WorkspaceTemplates.Proofs.Files.Rooted
import WorkspaceTemplates.Proofs.Generate.Writing
import WorkspaceTemplates.Proofs.Generate.Plan
import WorkspaceTemplates.Proofs.Manifest
import WorkspaceTemplates.Proofs.Generate.Effect
import WorkspaceTemplates.Proofs.Generate.Listing
import WorkspaceTemplates.Proofs.Region.Piece
import WorkspaceTemplates.Proofs.Region.Scan
import WorkspaceTemplates.Proofs.Cli.Check
import WorkspaceTemplates.Proofs.Files.Success
import WorkspaceTemplates.Proofs.Generate.Strict
import WorkspaceTemplates.Proofs.Generate.Success
import WorkspaceTemplates.Proofs.Normal
import WorkspaceTemplates.Proofs.Generate.Valid
import WorkspaceTemplates.Proofs.Generate.Completed
import WorkspaceTemplates.Proofs.Engine.Unread
import WorkspaceTemplates.Proofs.Engine.Substitution
import WorkspaceTemplates.Proofs.Context.Loaded
import WorkspaceTemplates.Proofs.Context.RoundTrip
import WorkspaceTemplates.Proofs.Engine.Composition
import WorkspaceTemplates.Proofs.Interview.Run
import WorkspaceTemplates.Proofs.Interview.Outcome
import WorkspaceTemplates.Proofs.Interview.Reading
import WorkspaceTemplates.Proofs.Interview.Context
import WorkspaceTemplates.Proofs.Interview.Framework
import WorkspaceTemplates.Proofs.Inspection.Validator
import WorkspaceTemplates.Proofs.Inspection.Verdict
import WorkspaceTemplates.Proofs.Files.Leads
import WorkspaceTemplates.Proofs.Files.Attempt
import WorkspaceTemplates.Proofs.Generate.Stopped
import WorkspaceTemplates.Proofs.Files.Again
import WorkspaceTemplates.Proofs.Template.Spared
import WorkspaceTemplates.Proofs.Generate.Again
import WorkspaceTemplates.Proofs.Files.Location
import WorkspaceTemplates.Proofs.Files.Outcome
import WorkspaceTemplates.Proofs.Cli.Root
import WorkspaceTemplates.Proofs.Normal.Keys
import WorkspaceTemplates.Proofs.Lookup
import WorkspaceTemplates.Proofs.Engine.Check
import WorkspaceTemplates.Proofs.Engine.Respelled
import WorkspaceTemplates.Proofs.Token.Pattern
import WorkspaceTemplates.Proofs.Selection
import WorkspaceTemplates.Proofs.Manifest.Trigger
import WorkspaceTemplates.Proofs.Config.Levels
import WorkspaceTemplates.Proofs.Cli.Table
import WorkspaceTemplates.Proofs.Interview.Talk
import WorkspaceTemplates.Proofs.Interview.Room
import WorkspaceTemplates.Proofs.Yaml.Printed
import WorkspaceTemplates.Proofs.Config.RoundTrip
import WorkspaceTemplates.Proofs.Words.Scan
