import CommandShell.Text.Basic
import CommandShell.Text.Cursor
import CommandShell.Text.Number
import CommandShell.Text.Utf8
import CommandShell.Region
import CommandShell.Word
import CommandShell.Line
import CommandShell.Flags
import CommandShell.Path
import CommandShell.Environment
import CommandShell.Slot
import CommandShell.Invocation
import CommandShell.FileSystem
import CommandShell.Unicode.CodeSet
import CommandShell.Unicode.PropertyNames
import CommandShell.Unicode.Property
import CommandShell.Unicode.Letter
import CommandShell.Unicode.ClusterTable
import CommandShell.Unicode.Fold
import CommandShell.Unicode.Grapheme
import CommandShell.Pattern
import CommandShell.World
import CommandShell.Builtin.Cause
import CommandShell.Builtin.Count
import CommandShell.Builtin.Search
import CommandShell.Builtin.Execute
import CommandShell.Pipeline
import CommandShell.Session
import CommandShell.Log
import CommandShell.Machine.System
import CommandShell.Machine.Cat
import CommandShell.Machine.Interpreter
import CommandShell.Machine.Making
import CommandShell.Script.Syntax
import CommandShell.Script.Source
import CommandShell.Script.Parser
import CommandShell.Script.Number
import CommandShell.Script.Real
import CommandShell.Script.Format
import CommandShell.Script.Arithmetic
import CommandShell.Script.Field
import CommandShell.Script.Glob
import CommandShell.Script.Condition
import CommandShell.Script.Signal
import CommandShell.Script.Process
import CommandShell.Script.Expand
import CommandShell.Script.Builtin
import CommandShell.Script.Run
import CommandShell.Script.Start
import CommandShell.Machine
import CommandShell.Console
import CommandShell.Machine.Platform
import CommandShell.Main
import CommandShell.Proofs.Runs
import CommandShell.Proofs.Grammar
import CommandShell.Proofs.Reading
import CommandShell.Proofs.Scanning
import CommandShell.Proofs.Expansion
import CommandShell.Proofs.Composition
import CommandShell.Proofs.Effects
import CommandShell.Proofs.Halting
import CommandShell.Proofs.Logging
import CommandShell.Proofs.Building
import CommandShell.Proofs.Sessions
import CommandShell.Proofs.Joining
import CommandShell.Proofs.Quoting
import CommandShell.Proofs.Forwarding
import CommandShell.Proofs.Noninterference
import CommandShell.Proofs.OpenQuotes
import CommandShell.Proofs.Directories
import CommandShell.Proofs.Encoding
import CommandShell.Proofs.Transcripts
import CommandShell.Proofs.Programs
import CommandShell.Proofs.ScriptWords
import CommandShell.Proofs.Failures
import CommandShell.Proofs.Decoding
import CommandShell.Proofs.Sources
import CommandShell.Proofs.Alternatives
import CommandShell.Proofs.Context
import CommandShell.Proofs.Viability
import CommandShell.Proofs.RawFaults
import CommandShell.Proofs.Substitution
import CommandShell.Proofs.Splitting
import CommandShell.Proofs.Numbers
import CommandShell.Proofs.SearchOptions
import CommandShell.Proofs.Counting
import CommandShell.Proofs.Listing
import CommandShell.Proofs.Lookup
import CommandShell.Proofs.Labels
import CommandShell.Proofs.Spans
import CommandShell.Proofs.Spots
import CommandShell.Proofs.Enclosed.Readers
import CommandShell.Proofs.Enclosed.Classes
import CommandShell.Proofs.Enclosed.Patterns
import CommandShell.Proofs.WholeWords
