import BuildTool.Archive.Entry
import BuildTool.Archive.Gzip
import BuildTool.Archive.Unpack
import BuildTool.Arguments
import BuildTool.Builder
import BuildTool.Calendar.Basic
import BuildTool.Calendar.Layout
import BuildTool.Calendar.Reading
import BuildTool.Calendar.Zone
import BuildTool.Calendar.ZoneRows
import BuildTool.Command
import BuildTool.CommandLine
import BuildTool.Decimal.Notation
import BuildTool.Digest.Checksum
import BuildTool.Download
import BuildTool.Error
import BuildTool.Files.Disk
import BuildTool.Files.Listing
import BuildTool.Files.Tree
import BuildTool.Files.Verbs
import BuildTool.Files.Walk
import BuildTool.Glob.Search
import BuildTool.Graph.Basic
import BuildTool.Graph.Resolve
import BuildTool.Http.Date
import BuildTool.Http.DomainName
import BuildTool.Http.Host
import BuildTool.Http.Punycode
import BuildTool.Http.Server
import BuildTool.Http.Url
import BuildTool.Log
import BuildTool.Main
import BuildTool.Number.Binary
import BuildTool.Number.Numeral
import BuildTool.Path
import BuildTool.Process.DirectoryList
import BuildTool.Process.EnvironmentTool
import BuildTool.Process.Formatted
import BuildTool.Process.Options
import BuildTool.Process.Order
import BuildTool.Process.Outcome
import BuildTool.Process.Program
import BuildTool.Process.Start
import BuildTool.Process.System
import BuildTool.Process.Tools
import BuildTool.Proofs.Archive.Containment
import BuildTool.Proofs.Archive.Room
import BuildTool.Proofs.Archive.Unpacking
import BuildTool.Proofs.Builder.DryRun
import BuildTool.Proofs.Builder.Errors
import BuildTool.Proofs.Builder.Loading
import BuildTool.Proofs.Builder.Naming
import BuildTool.Proofs.Builder.Reloading
import BuildTool.Proofs.CommandLine.Arrangement
import BuildTool.Proofs.Download.Calls
import BuildTool.Proofs.Download.Completeness
import BuildTool.Proofs.Download.Ending
import BuildTool.Proofs.Download.Times
import BuildTool.Proofs.Download.Verification
import BuildTool.Proofs.Files.Below
import BuildTool.Proofs.Files.Cleaning
import BuildTool.Proofs.Files.Copying
import BuildTool.Proofs.Files.Making
import BuildTool.Proofs.Files.Removal
import BuildTool.Proofs.Files.Ways
import BuildTool.Proofs.Graph.Blocks
import BuildTool.Proofs.Graph.Consistency
import BuildTool.Proofs.Graph.Course
import BuildTool.Proofs.Graph.Cycles
import BuildTool.Proofs.Graph.Declaration
import BuildTool.Proofs.Graph.Dependency
import BuildTool.Proofs.Graph.Depth
import BuildTool.Proofs.Graph.Effects
import BuildTool.Proofs.Graph.Failure
import BuildTool.Proofs.Graph.Frame
import BuildTool.Proofs.Graph.History
import BuildTool.Proofs.Graph.InStep
import BuildTool.Proofs.Graph.Leftover
import BuildTool.Proofs.Graph.Lookup
import BuildTool.Proofs.Graph.Newest
import BuildTool.Proofs.Graph.Outlook
import BuildTool.Proofs.Graph.Pass
import BuildTool.Proofs.Graph.Recording
import BuildTool.Proofs.Graph.Repeat
import BuildTool.Proofs.Graph.Retry
import BuildTool.Proofs.Graph.Staleness
import BuildTool.Proofs.Graph.Walk
import BuildTool.Proofs.Http.Dates
import BuildTool.Proofs.Path.Normal
import BuildTool.Proofs.Path.Place
import BuildTool.Proofs.Path.Shape
import BuildTool.Proofs.Process.Streaming
import BuildTool.Proofs.Script.Assignment
import BuildTool.Proofs.Script.Concatenation
import BuildTool.Proofs.Script.Expansion
import BuildTool.Proofs.Script.Failure
import BuildTool.Proofs.Script.Grammar
import BuildTool.Proofs.Script.Growth
import BuildTool.Proofs.Script.Inputs
import BuildTool.Proofs.Script.Naming
import BuildTool.Proofs.Script.Positions
import BuildTool.Proofs.Script.Quotation
import BuildTool.Proofs.Script.Requirement
import BuildTool.Proofs.Script.Spelling
import BuildTool.Proofs.Script.Words
import BuildTool.Proofs.Script.Writing
import BuildTool.Proofs.Template.Calls
import BuildTool.Proofs.Template.Continuation
import BuildTool.Proofs.Template.Kept
import BuildTool.Proofs.Template.Literals
import BuildTool.Proofs.Template.Lookups
import BuildTool.Proofs.Template.Parts
import BuildTool.Proofs.Template.Pieces
import BuildTool.Proofs.Template.Plain
import BuildTool.Proofs.Template.Reading
import BuildTool.Proofs.Template.Scanning
import BuildTool.Proofs.Template.Separators
import BuildTool.Proofs.Template.Trimmed
import BuildTool.Proofs.Text.Blank
import BuildTool.Proofs.Text.Boundary
import BuildTool.Proofs.Text.Cut
import BuildTool.Proofs.Text.Decoding
import BuildTool.Proofs.Version.Comparison
import BuildTool.Proofs.Version.Notation
import BuildTool.Proofs.Watch.Failure
import BuildTool.Proofs.Watch.Poll
import BuildTool.Proofs.Watch.Wait
import BuildTool.Reference
import BuildTool.Regex.Basic
import BuildTool.Regex.ClassReader
import BuildTool.Regex.EscapeReader
import BuildTool.Regex.Fault
import BuildTool.Regex.Meaning
import BuildTool.Regex.Program
import BuildTool.Regex.Property
import BuildTool.Regex.Reader
import BuildTool.Regex.Syntax
import BuildTool.Regex.Weight
import BuildTool.Requirement
import BuildTool.Script
import BuildTool.Session
import BuildTool.Settings
import BuildTool.Shell.Arithmetic
import BuildTool.Shell.Builtin.Basic
import BuildTool.Shell.Builtin.Finding
import BuildTool.Shell.Builtin.Jobs
import BuildTool.Shell.Builtin.Naming
import BuildTool.Shell.Builtin.Settings
import BuildTool.Shell.Calling
import BuildTool.Shell.Command
import BuildTool.Shell.Condition
import BuildTool.Shell.Expansion
import BuildTool.Shell.Fields
import BuildTool.Shell.Grammar
import BuildTool.Shell.Pattern
import BuildTool.Shell.Redirecting
import BuildTool.Shell.Run
import BuildTool.Shell.Signal
import BuildTool.Shell.State
import BuildTool.Shell.WordReader
import BuildTool.Statement
import BuildTool.Template.Argument
import BuildTool.Template.Description
import BuildTool.Template.Document
import BuildTool.Template.Error
import BuildTool.Template.ExprReader
import BuildTool.Template.Filter.List
import BuildTool.Template.Filter.Number
import BuildTool.Template.Filter.Text
import BuildTool.Template.Helper
import BuildTool.Template.Preprocess
import BuildTool.Template.Reader
import BuildTool.Template.Render
import BuildTool.Template.Scope
import BuildTool.Template.Syntax
import BuildTool.Template.TagReader
import BuildTool.Template.Test
import BuildTool.Template.Value
import BuildTool.Text.Age
import BuildTool.Text.Break
import BuildTool.Text.Canonical
import BuildTool.Text.Category
import BuildTool.Text.CodeSet
import BuildTool.Text.Direction
import BuildTool.Text.Fold
import BuildTool.Text.HanReadings
import BuildTool.Text.LetterCase
import BuildTool.Text.Property
import BuildTool.Text.Quoted
import BuildTool.Text.Roman
import BuildTool.Text.Script
import BuildTool.Text.Split
import BuildTool.Text.Utf8
import BuildTool.Toml.Document
import BuildTool.Toml.Parser
import BuildTool.Variables
import BuildTool.Version
import BuildTool.Watch
import BuildTool.Workspace
import BuildTool.Proofs.Path.Shape
