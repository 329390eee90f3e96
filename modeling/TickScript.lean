import TickScript.Arguments
import TickScript.Bytecode.Emit
import TickScript.Bytecode.Listing
import TickScript.Bytecode.Opcode
import TickScript.Bytecode.Operand
import TickScript.Bytes
import TickScript.CommandLine.Grammar
import TickScript.CommandLine.HexText
import TickScript.CommandLine.Request
import TickScript.CommandLine.Run
import TickScript.Document.Basic
import TickScript.Document.Key
import TickScript.Document.Lines
import TickScript.Document.Moment
import TickScript.Document.Number
import TickScript.Document.Place
import TickScript.Document.Quoted
import TickScript.Document.Reader
import TickScript.Document.Value
import TickScript.Document.Writer
import TickScript.Effect.Basic
import TickScript.Effect.Explods
import TickScript.Effect.Messages
import TickScript.Effect.Motion
import TickScript.Effect.Names
import TickScript.Effect.Projectiles
import TickScript.Effect.Saving
import TickScript.Effect.Summon
import TickScript.Effect.Target
import TickScript.Effect.Transition
import TickScript.Effect.Variables
import TickScript.Effect.Vitals
import TickScript.Entity.Basic
import TickScript.Entity.Stores
import TickScript.Eval.Basic
import TickScript.Eval.Instruction
import TickScript.Eval.Reads
import TickScript.Eval.Run
import TickScript.Fault
import TickScript.Files.Path
import TickScript.Files.Tree
import TickScript.Machine.Basic
import TickScript.Machine.Profile
import TickScript.Machine.Stack
import TickScript.Machine.Windows
import TickScript.Main
import TickScript.NameTable
import TickScript.Number.Decimal
import TickScript.Number.Double
import TickScript.Number.Single
import TickScript.Program.Controller
import TickScript.Program.Loop
import TickScript.Program.Run
import TickScript.Program.State
import TickScript.Proofs.Action
import TickScript.Proofs.Agreement
import TickScript.Proofs.Arguments.Records
import TickScript.Proofs.Arguments.Walk
import TickScript.Proofs.Bytecode.Entries
import TickScript.Proofs.Bytecode.Jumps
import TickScript.Proofs.Bytecode.Levels
import TickScript.Proofs.Bytecode.Reading
import TickScript.Proofs.Bytecode.Truncated
import TickScript.Proofs.CommandLine.Evaluation
import TickScript.Proofs.CommandLine.HexText
import TickScript.Proofs.Effect.AddedLife
import TickScript.Proofs.Effect.Aimed
import TickScript.Proofs.Effect.Classes
import TickScript.Proofs.Effect.Composed
import TickScript.Proofs.Effect.Footprint
import TickScript.Proofs.Effect.Helpers
import TickScript.Proofs.Effect.Landing
import TickScript.Proofs.Effect.Placement
import TickScript.Proofs.Effect.Reach
import TickScript.Proofs.Effect.Reads
import TickScript.Proofs.Effect.Records
import TickScript.Proofs.Effect.Removal
import TickScript.Proofs.Effect.Saving
import TickScript.Proofs.Effect.Silence
import TickScript.Proofs.Effect.StateChange
import TickScript.Proofs.Effect.Visiting
import TickScript.Proofs.Effect.Visitor
import TickScript.Proofs.Effect.Within
import TickScript.Proofs.Entity.Additions
import TickScript.Proofs.Entity.Reach
import TickScript.Proofs.Entity.Sound
import TickScript.Proofs.Eval.Agreement
import TickScript.Proofs.Eval.Assembly
import TickScript.Proofs.Eval.Composed
import TickScript.Proofs.Eval.Counted
import TickScript.Proofs.Eval.Dispatches
import TickScript.Proofs.Eval.Distances
import TickScript.Proofs.Eval.Encounters
import TickScript.Proofs.Eval.Footprint
import TickScript.Proofs.Eval.Forward
import TickScript.Proofs.Eval.Lines
import TickScript.Proofs.Eval.Literals
import TickScript.Proofs.Eval.Operands
import TickScript.Proofs.Eval.Plain
import TickScript.Proofs.Eval.Powers
import TickScript.Proofs.Eval.Profiled
import TickScript.Proofs.Eval.Redirect
import TickScript.Proofs.Eval.Step
import TickScript.Proofs.Eval.Stores
import TickScript.Proofs.Eval.Tree
import TickScript.Proofs.Eval.Values
import TickScript.Proofs.Files.Path
import TickScript.Proofs.Files.Tree
import TickScript.Proofs.Keyed
import TickScript.Proofs.Machine.Arrays
import TickScript.Proofs.Machine.Profile
import TickScript.Proofs.Machine.Windows
import TickScript.Proofs.NameTable
import TickScript.Proofs.Number.Double
import TickScript.Proofs.Number.Machine
import TickScript.Proofs.Number.Nearest
import TickScript.Proofs.Number.Single
import TickScript.Proofs.Number.Unpacked
import TickScript.Proofs.Program.Agreement
import TickScript.Proofs.Program.Calls
import TickScript.Proofs.Program.Deeds
import TickScript.Proofs.Program.Footprint
import TickScript.Proofs.Program.Isolation
import TickScript.Proofs.Program.Limits
import TickScript.Proofs.Program.NaNFree
import TickScript.Proofs.Program.Once
import TickScript.Proofs.Program.Persistence
import TickScript.Proofs.Program.Ranges
import TickScript.Proofs.Program.Scripted
import TickScript.Proofs.Program.Signals
import TickScript.Proofs.Program.Started
import TickScript.Proofs.Program.State
import TickScript.Proofs.Program.Unwinding
import TickScript.Proofs.Roster.Deeds
import TickScript.Proofs.Roster.Descendants
import TickScript.Proofs.Roster.Destruction
import TickScript.Proofs.Roster.Directory
import TickScript.Proofs.Roster.Enemies
import TickScript.Proofs.Roster.Lineage
import TickScript.Proofs.Roster.Lookup
import TickScript.Proofs.Roster.Roles
import TickScript.Proofs.Roster.Sound
import TickScript.Proofs.Save.Damage
import TickScript.Proofs.Save.Directory
import TickScript.Proofs.Save.Format
import TickScript.Proofs.Save.Reading
import TickScript.Proofs.Save.Truncated
import TickScript.Proofs.Scene
import TickScript.Proofs.Settings.Layers
import TickScript.Proofs.StringPool
import TickScript.Proofs.Text.Lower
import TickScript.Proofs.Text.Template
import TickScript.Proofs.Text.Utf8
import TickScript.Proofs.Tick.Accounts
import TickScript.Proofs.Tick.Agreement
import TickScript.Proofs.Tick.Chain
import TickScript.Proofs.Tick.Entries
import TickScript.Proofs.Tick.Rest
import TickScript.Proofs.Tick.Sound
import TickScript.Proofs.Tick.Turn
import TickScript.Proofs.Tick.Waiting
import TickScript.Proofs.Value.Failed
import TickScript.Proofs.Value.Integers
import TickScript.Proofs.Value.NaNFree
import TickScript.Proofs.Value.Power
import TickScript.Proofs.Value.Sums
import TickScript.Proofs.Words
import TickScript.Roster.Basic
import TickScript.Roster.Lifecycle
import TickScript.Roster.Random
import TickScript.Roster.Roles
import TickScript.Save.Data
import TickScript.Save.Directory
import TickScript.Save.Report
import TickScript.Scene
import TickScript.Settings.Basic
import TickScript.Settings.Environment
import TickScript.Settings.File
import TickScript.Settings.Loader
import TickScript.StringPool
import TickScript.Text.Blank
import TickScript.Text.CaseTable
import TickScript.Text.HiddenTable
import TickScript.Text.Lower
import TickScript.Text.Quoted
import TickScript.Text.Template
import TickScript.Text.Utf8
import TickScript.Tick
import TickScript.Value.Arithmetic
import TickScript.Value.Basic
