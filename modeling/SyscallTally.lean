import SyscallTally.Command.Line
import SyscallTally.Command.Run
import SyscallTally.Counter.Copying
import SyscallTally.Counter.Crowd
import SyscallTally.Counter.Interleaving
import SyscallTally.Counter.Occurrence
import SyscallTally.Counter.Recording
import SyscallTally.Counter.Scripted
import SyscallTally.Counter.Snapshot
import SyscallTally.Counter.Table
import SyscallTally.Files.Fault
import SyscallTally.Files.Path
import SyscallTally.Files.Store
import SyscallTally.Kernel.Blueprint
import SyscallTally.Kernel.ByteOrder
import SyscallTally.Kernel.Elf.Header
import SyscallTally.Kernel.Elf.Reader
import SyscallTally.Kernel.Elf.Relocations
import SyscallTally.Kernel.Elf.Symbols
import SyscallTally.Kernel.Linking
import SyscallTally.Kernel.Machine
import SyscallTally.Kernel.MapDefinition
import SyscallTally.Kernel.MapSpec
import SyscallTally.Kernel.Object
import SyscallTally.Kernel.ObjectFile
import SyscallTally.Kernel.Processors
import SyscallTally.Kernel.Program
import SyscallTally.Kernel.ProgramType
import SyscallTally.Kernel.Refusal
import SyscallTally.Kernel.Routine
import SyscallTally.Kernel.Section
import SyscallTally.Kernel.Symbols
import SyscallTally.Kernel.TypeInfo
import SyscallTally.Kernel.Verifier
import SyscallTally.Log
import SyscallTally.Main
import SyscallTally.Platform.Basic
import SyscallTally.Platform.Bench
import SyscallTally.Platform.Loaded
import SyscallTally.Platform.Memory
import SyscallTally.Platform.Requests
import SyscallTally.Platform.Scripted
import SyscallTally.Probe.Failure
import SyscallTally.Probe.Kind
import SyscallTally.Problem
import SyscallTally.Proofs.Command.Fates
import SyscallTally.Proofs.Command.Precedence
import SyscallTally.Proofs.Command.Spelling
import SyscallTally.Proofs.Counter.Admission
import SyscallTally.Proofs.Counter.Copying
import SyscallTally.Proofs.Counter.Crowd
import SyscallTally.Proofs.Counter.Interference
import SyscallTally.Proofs.Counter.Interleaving
import SyscallTally.Proofs.Counter.Lines
import SyscallTally.Proofs.Counter.Tallies
import SyscallTally.Proofs.Files.Chains
import SyscallTally.Proofs.Files.Creation
import SyscallTally.Proofs.Files.Paths
import SyscallTally.Proofs.Files.Rewriting
import SyscallTally.Proofs.Files.Walks
import SyscallTally.Proofs.Kernel.Listing
import SyscallTally.Proofs.Kernel.Lockstep
import SyscallTally.Proofs.Kernel.Machine
import SyscallTally.Proofs.Kernel.Processors
import SyscallTally.Proofs.Kernel.Resolution
import SyscallTally.Proofs.Kernel.Symbols
import SyscallTally.Proofs.Platform.Bench
import SyscallTally.Proofs.Platform.Hooks
import SyscallTally.Proofs.Platform.Lifecycle
import SyscallTally.Proofs.Platform.Loaded
import SyscallTally.Proofs.Platform.Memory
import SyscallTally.Proofs.Platform.Reattachment
import SyscallTally.Proofs.Platform.Requests
import SyscallTally.Proofs.Session.Agreement
import SyscallTally.Proofs.Session.Alike
import SyscallTally.Proofs.Session.Calls
import SyscallTally.Proofs.Session.InMemory
import SyscallTally.Proofs.Session.Lockstep
import SyscallTally.Proofs.Session.Output
import SyscallTally.Proofs.Session.Parts
import SyscallTally.Proofs.Session.Progress
import SyscallTally.Proofs.Session.ReadBack
import SyscallTally.Proofs.Session.Reads
import SyscallTally.Proofs.Session.Rounds
import SyscallTally.Proofs.Session.Schedule
import SyscallTally.Proofs.Session.Stops
import SyscallTally.Proofs.Session.Timing
import SyscallTally.Proofs.Session.TrueCounts
import SyscallTally.Proofs.Settings.Modified
import SyscallTally.Proofs.Settings.Partial
import SyscallTally.Proofs.Settings.Saved
import SyscallTally.Proofs.Settings.Unsaved
import SyscallTally.Proofs.Text.Columns
import SyscallTally.Proofs.Text.Decimal
import SyscallTally.Proofs.Text.Utf8
import SyscallTally.Proofs.Toml.Layout
import SyscallTally.Proofs.Toml.Lines
import SyscallTally.Proofs.Toml.Literals
import SyscallTally.Proofs.Toml.Numbers
import SyscallTally.Proofs.Toml.Strings
import SyscallTally.Session.Basic
import SyscallTally.Session.Occurrences
import SyscallTally.Session.Timeline
import SyscallTally.Settings.Basic
import SyscallTally.Settings.Document
import SyscallTally.Settings.Fields
import SyscallTally.Settings.Location
import SyscallTally.Settings.Saved
import SyscallTally.Text.Blank
import SyscallTally.Text.Decimal
import SyscallTally.Text.Elapsed
import SyscallTally.Text.Printable
import SyscallTally.Text.Quoted
import SyscallTally.Text.Segments
import SyscallTally.Text.Utf8
import SyscallTally.Toml.Characters
import SyscallTally.Toml.Document
import SyscallTally.Toml.Item
import SyscallTally.Toml.Moments
import SyscallTally.Toml.Numbers
import SyscallTally.Toml.Strings
import SyscallTally.Toml.Values
import SyscallTally.Toml.Writer
