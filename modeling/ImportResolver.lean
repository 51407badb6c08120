import ImportResolver.CommandLine.Arguments
import ImportResolver.CommandLine.Report
import ImportResolver.CommandLine.Run
import ImportResolver.Environment
import ImportResolver.ExitStatus
import ImportResolver.Extension.Rule
import ImportResolver.Extension.Search
import ImportResolver.Failure
import ImportResolver.FileSystem.Base
import ImportResolver.FileSystem.Change
import ImportResolver.FileSystem.Fault
import ImportResolver.FileSystem.Lookup
import ImportResolver.FileSystem.Permission
import ImportResolver.FileSystem.Replacement
import ImportResolver.FileSystem.Snapshot
import ImportResolver.FileSystem.Tree
import ImportResolver.Host
import ImportResolver.Json.Basic
import ImportResolver.Json.Flaw
import ImportResolver.Json.Printer
import ImportResolver.Json.Reader
import ImportResolver.Json.Strict
import ImportResolver.Json.Token
import ImportResolver.Main
import ImportResolver.Options.Basic
import ImportResolver.Options.File
import ImportResolver.Options.Reading
import ImportResolver.Package.Descriptor
import ImportResolver.Package.Entry
import ImportResolver.Package.Location
import ImportResolver.Package.Manifest
import ImportResolver.Path.Ancestors
import ImportResolver.Path.Basic
import ImportResolver.Proofs.CommandLine.Arguments
import ImportResolver.Proofs.CommandLine.Checking
import ImportResolver.Proofs.CommandLine.Commit
import ImportResolver.Proofs.CommandLine.Exchange
import ImportResolver.Proofs.CommandLine.Explaining
import ImportResolver.Proofs.CommandLine.Listing
import ImportResolver.Proofs.CommandLine.Preservation
import ImportResolver.Proofs.CommandLine.Reporting
import ImportResolver.Proofs.CommandLine.Resolving
import ImportResolver.Proofs.Extension.Decision
import ImportResolver.Proofs.Extension.Search
import ImportResolver.Proofs.FileSystem.LinkFree
import ImportResolver.Proofs.FileSystem.Location
import ImportResolver.Proofs.FileSystem.Replacing
import ImportResolver.Proofs.FileSystem.Rewrite
import ImportResolver.Proofs.FileSystem.Walk
import ImportResolver.Proofs.Json.Printing
import ImportResolver.Proofs.Options.Nearest
import ImportResolver.Proofs.Options.Normalization
import ImportResolver.Proofs.Options.RoundTrip
import ImportResolver.Proofs.Package.Denotation
import ImportResolver.Proofs.Package.Entry
import ImportResolver.Proofs.Package.Location
import ImportResolver.Proofs.Package.Order
import ImportResolver.Proofs.Path.Ascent
import ImportResolver.Proofs.Path.Joining
import ImportResolver.Proofs.Resolution.Account
import ImportResolver.Proofs.Resolution.Additions
import ImportResolver.Proofs.Resolution.Agreement
import ImportResolver.Proofs.Resolution.Change
import ImportResolver.Proofs.Resolution.Containment
import ImportResolver.Proofs.Resolution.Denotation
import ImportResolver.Proofs.Resolution.ExportMap
import ImportResolver.Proofs.Resolution.Outcome
import ImportResolver.Proofs.Resolution.Reason
import ImportResolver.Proofs.Resolution.Repetition
import ImportResolver.Proofs.Resolution.Replacement
import ImportResolver.Proofs.Resolution.Safety
import ImportResolver.Proofs.Resolution.Spellings
import ImportResolver.Proofs.Resolution.Splicing
import ImportResolver.Proofs.Resolution.Unresolved
import ImportResolver.Proofs.Source.Blanks
import ImportResolver.Proofs.Source.ByteOrderMark
import ImportResolver.Proofs.Source.Bytewise
import ImportResolver.Proofs.Source.BytewiseLexeme
import ImportResolver.Proofs.Source.BytewiseReport
import ImportResolver.Proofs.Source.BytewiseScan
import ImportResolver.Proofs.Source.Clause
import ImportResolver.Proofs.Source.Collection
import ImportResolver.Proofs.Source.Comment
import ImportResolver.Proofs.Source.Declaration
import ImportResolver.Proofs.Source.Declarations
import ImportResolver.Proofs.Source.Discovery
import ImportResolver.Proofs.Source.Introduction
import ImportResolver.Proofs.Source.Letters
import ImportResolver.Proofs.Source.LexemeScan
import ImportResolver.Proofs.Source.Literal
import ImportResolver.Proofs.Source.Locality
import ImportResolver.Proofs.Source.LookBehind
import ImportResolver.Proofs.Source.Lookahead
import ImportResolver.Proofs.Source.Piece
import ImportResolver.Proofs.Source.Plain
import ImportResolver.Proofs.Source.Quote
import ImportResolver.Proofs.Source.Relocation
import ImportResolver.Proofs.Source.Respelling
import ImportResolver.Proofs.Source.Roots
import ImportResolver.Proofs.Source.Spelling
import ImportResolver.Proofs.Source.Splice
import ImportResolver.Proofs.Source.Stability
import ImportResolver.Proofs.Source.Token
import ImportResolver.Proofs.Source.TokenScan
import ImportResolver.Proofs.Specifier.Kind
import ImportResolver.Proofs.Specifier.Partition
import ImportResolver.Proofs.Specifier.Query
import ImportResolver.Proofs.Text.Mending
import ImportResolver.Proofs.Text.Sequence
import ImportResolver.Resolution.Basic
import ImportResolver.Resolution.Resolve
import ImportResolver.Resolution.Source
import ImportResolver.Resolution.Writing
import ImportResolver.Shell.Arithmetic
import ImportResolver.Shell.Builtin.Flow
import ImportResolver.Shell.Builtin.Places
import ImportResolver.Shell.Builtin.Signals
import ImportResolver.Shell.Builtin.Values
import ImportResolver.Shell.Condition
import ImportResolver.Shell.Evaluation
import ImportResolver.Shell.Expansion
import ImportResolver.Shell.Floating
import ImportResolver.Shell.Format
import ImportResolver.Shell.Grammar
import ImportResolver.Shell.Image
import ImportResolver.Shell.Jobs
import ImportResolver.Shell.Launch
import ImportResolver.Shell.Machine
import ImportResolver.Shell.Names
import ImportResolver.Shell.Pattern
import ImportResolver.Shell.Process
import ImportResolver.Shell.Reader
import ImportResolver.Shell.Redirect
import ImportResolver.Shell.Run
import ImportResolver.Shell.Schedule
import ImportResolver.Shell.Syntax
import ImportResolver.Shell.Variables
import ImportResolver.Shell.Words
import ImportResolver.Source.Files
import ImportResolver.Source.Lexeme
import ImportResolver.Source.Piece
import ImportResolver.Source.Site
import ImportResolver.Specifier.Builtins
import ImportResolver.Specifier.Kind
import ImportResolver.Specifier.Query
import ImportResolver.Text.Affix
import ImportResolver.Text.Printable
import ImportResolver.Text.Runs
import ImportResolver.Text.Utf8
import ImportResolver.Tool.Arguments
import ImportResolver.Tool.Awk.Evaluation
import ImportResolver.Tool.Awk.Grammar
import ImportResolver.Tool.Awk.Machine
import ImportResolver.Tool.Awk.Run
import ImportResolver.Tool.Awk.Syntax
import ImportResolver.Tool.Awk.Table
import ImportResolver.Tool.Awk.Token
import ImportResolver.Tool.Awk.Value
import ImportResolver.Tool.Basic
import ImportResolver.Tool.Blocks
import ImportResolver.Tool.Calendar
import ImportResolver.Tool.Characters
import ImportResolver.Tool.Checksums
import ImportResolver.Tool.Columns
import ImportResolver.Tool.Commands
import ImportResolver.Tool.Copying
import ImportResolver.Tool.Dates
import ImportResolver.Tool.Difference
import ImportResolver.Tool.Digest
import ImportResolver.Tool.Dump
import ImportResolver.Tool.Editing
import ImportResolver.Tool.Ends
import ImportResolver.Tool.Factors
import ImportResolver.Tool.Facts
import ImportResolver.Tool.Feed
import ImportResolver.Tool.Files
import ImportResolver.Tool.Filling
import ImportResolver.Tool.Finding
import ImportResolver.Tool.Hunks
import ImportResolver.Tool.Identity
import ImportResolver.Tool.Lines
import ImportResolver.Tool.Listing
import ImportResolver.Tool.Matching
import ImportResolver.Tool.Modes
import ImportResolver.Tool.Names
import ImportResolver.Tool.Numbers
import ImportResolver.Tool.OptionWords
import ImportResolver.Tool.Ordering
import ImportResolver.Tool.Regex
import ImportResolver.Tool.RegexReader
import ImportResolver.Tool.Script
import ImportResolver.Tool.Sorting
import ImportResolver.Tool.Splitting
import ImportResolver.Tool.Table
import ImportResolver.Tool.Units
import ImportResolver.Trail
