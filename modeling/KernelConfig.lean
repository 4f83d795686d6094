import KernelConfig.Apply.Source
import KernelConfig.Decimal.Read
import KernelConfig.Fault.Build
import KernelConfig.Command.Line
import KernelConfig.Command.Outcome
import KernelConfig.Command.Program
import KernelConfig.Main
import KernelConfig.Settings.Cache
import KernelConfig.Proofs.Text.Lines
import KernelConfig.Proofs.Text.Numeral
import KernelConfig.Proofs.Value.NumberLiteral
import KernelConfig.Proofs.Symbol.Typing
import KernelConfig.Proofs.Dotconfig.Reading
import KernelConfig.Proofs.Apply.Run
import KernelConfig.Proofs.Symbol.Calls
import KernelConfig.Proofs.Apply.Reload
import KernelConfig.Proofs.Apply.Stepping
import KernelConfig.Proofs.Apply.Sources
import KernelConfig.Proofs.Apply.TypedRuns
import KernelConfig.Proofs.Namespace.Plan
import KernelConfig.Proofs.Script.Tables
import KernelConfig.Proofs.Apply.Served
import KernelConfig.Proofs.Apply.Running
import KernelConfig.Proofs.Apply.Interruptions
import KernelConfig.Proofs.Script.PreludeCode
import KernelConfig.Proofs.Script.Prepared
import KernelConfig.Proofs.Apply.Deadline
import KernelConfig.Proofs.Apply.Setup
import KernelConfig.Proofs.Script.Handles
import KernelConfig.Proofs.Script.Sequences
import KernelConfig.Proofs.Symbol.Effects
import KernelConfig.Proofs.Apply.CheckedLines
import KernelConfig.Proofs.Apply.Histories
import KernelConfig.Proofs.Apply.Replies
import KernelConfig.Proofs.Dotconfig.Isolation
import KernelConfig.Proofs.Dotconfig.Quoting
import KernelConfig.Proofs.Apply.TextWrites
import KernelConfig.Proofs.Apply.Defining
import KernelConfig.Proofs.Text.Utf8
import KernelConfig.Proofs.Apply.PreludeRun
import KernelConfig.Proofs.Apply.Installing
import KernelConfig.Proofs.Apply.Events
import KernelConfig.Proofs.Apply.FatalRuns
import KernelConfig.Proofs.Apply.Globals
import KernelConfig.Proofs.Script.Confined
import KernelConfig.Proofs.Script.Stacks
import KernelConfig.Proofs.Script.Returns
import KernelConfig.Proofs.Apply.Unchecked
import KernelConfig.Proofs.Apply.Steps
import KernelConfig.Proofs.Apply.Runner
import KernelConfig.Proofs.Apply.Notes
import KernelConfig.Proofs.Apply.Verdict
import KernelConfig.Proofs.Toml.Numerals
import KernelConfig.Proofs.Apply.Loading
import KernelConfig.Proofs.Apply.Sandbox
import KernelConfig.Proofs.Apply.Lifecycle
import KernelConfig.Proofs.Apply.Nesting
import KernelConfig.Proofs.Apply.Strictness
import KernelConfig.Proofs.Files.Writing
import KernelConfig.Proofs.Command.Output
import KernelConfig.Proofs.Apply.Following
import KernelConfig.Proofs.Script.Callers
import KernelConfig.Proofs.Apply.HandleCalls
import KernelConfig.Proofs.Script.ChunkSources
import KernelConfig.Proofs.Apply.Provenance
import KernelConfig.Proofs.Dotconfig.LineByLine
import KernelConfig.Proofs.Dotconfig.QuotedValues
import KernelConfig.Proofs.Apply.ReadBack
import KernelConfig.Proofs.Apply.Independence
import KernelConfig.Proofs.Apply.Restoring
import KernelConfig.Proofs.Apply.Shadowing
import KernelConfig.Proofs.Apply.Spellings
import KernelConfig.Proofs.Kernel.Release
import KernelConfig.Proofs.Settings.Serving
import KernelConfig.Proofs.Apply.LogScopes
