import StateMachine.Text.Basic
import StateMachine.Text.Blank
import StateMachine.Text.Decimal
import StateMachine.Text.Escape
import StateMachine.Text.Ignorable
import StateMachine.Text.Lines
import StateMachine.Text.LowerCase
import StateMachine.Text.Name
import StateMachine.Text.NormalForm
import StateMachine.Text.Printable
import StateMachine.Text.Ranges
import StateMachine.Text.Word
import StateMachine.Number.Arithmetic
import StateMachine.Number.Binary64
import StateMachine.Number.Bits
import StateMachine.Number.DigitLimit
import StateMachine.Number.Places
import StateMachine.Document.Value
import StateMachine.Document.Literal
import StateMachine.Document.Bytes
import StateMachine.Document.NestingLimit
import StateMachine.Document.Reader
import StateMachine.Document.Writer
import StateMachine.Document.Integer
import StateMachine.Model.Action
import StateMachine.Model.Transition
import StateMachine.Model.State
import StateMachine.Model.Machine
import StateMachine.Model.SignatureUnion
import StateMachine.Model.StateIndex
import StateMachine.Log
import StateMachine.Log.Journal
import StateMachine.Load.Arguments
import StateMachine.Load.Shorthand
import StateMachine.Load.Description
import StateMachine.Semantics.Plan
import StateMachine.Semantics.DefaultChain
import StateMachine.Semantics.Walk
import StateMachine.Generate.Target
import StateMachine.Semantics.Validate
import StateMachine.Generate.Options
import StateMachine.Generate.ClassTable
import StateMachine.Generate.PythonModule
import StateMachine.Generate.Diagram
import StateMachine.Generate.Page
import StateMachine.Generate.File
import StateMachine.Export.Description
import StateMachine.Export.Exporter
import StateMachine.Run.Context
import StateMachine.Run.Session
import StateMachine.Expression.Screen
import StateMachine.Expression.Fault
import StateMachine.Expression.Numeral
import StateMachine.Expression.Quotation
import StateMachine.Expression.Token
import StateMachine.Expression.Tree
import StateMachine.Expression.Parse
import StateMachine.Expression.Grammar
import StateMachine.Expression.Misuse
import StateMachine.Expression.Read
import StateMachine.Expression.Known
import StateMachine.Expression.Datum
import StateMachine.Expression.OperationFault
import StateMachine.Expression.Attribute
import StateMachine.Expression.Template
import StateMachine.Expression.Operation
import StateMachine.Expression.Functions
import StateMachine.Expression.Fold
import StateMachine.Simulate.Fault
import StateMachine.Simulate.Host
import StateMachine.Simulate.Dispatch
import StateMachine.Simulate.Simulator
import StateMachine.Simulate.Script
import StateMachine.Simulate.Evaluation
import StateMachine.CommandLine.Usage
import StateMachine.CommandLine.Disk
import StateMachine.CommandLine.Compile
import StateMachine.Main
import StateMachine.Proofs.Aloof
import StateMachine.Proofs.Loaded
import StateMachine.Proofs.Selection
import StateMachine.Proofs.Dispatching
import StateMachine.Proofs.ClassDispatch
import StateMachine.Proofs.KnownStates
import StateMachine.Proofs.Reissue
import StateMachine.Proofs.Safety
import StateMachine.Proofs.Events
import StateMachine.Proofs.StackFaults
import StateMachine.Proofs.Stranded
import StateMachine.Proofs.Notifications
import StateMachine.Proofs.StackDiscipline
import StateMachine.Proofs.Along
import StateMachine.Proofs.Registration
import StateMachine.Proofs.Definite
import StateMachine.Proofs.Rereading
import StateMachine.Proofs.RoundTrip
import StateMachine.Proofs.GuardOrder
import StateMachine.Proofs.Retouching
import StateMachine.Proofs.RetouchedFiles
import StateMachine.Proofs.Lines
import StateMachine.Proofs.Reloading
import StateMachine.Proofs.Conformance
import StateMachine.Proofs.Numbering
import StateMachine.Proofs.Arrangement
import StateMachine.Proofs.ContextMethods
import StateMachine.Proofs.References
import StateMachine.Proofs.Layout
import StateMachine.Proofs.ModuleLayout
import StateMachine.Proofs.GeneratedLayout
import StateMachine.Proofs.ClassNames
import StateMachine.Proofs.Entries
import StateMachine.Proofs.PageMarkup
import StateMachine.Proofs.Drawing
import StateMachine.Proofs.DrawnMoves
import StateMachine.Proofs.Disks
import StateMachine.Proofs.Reading
import StateMachine.Proofs.Deeds
import StateMachine.Proofs.FileByFile
import StateMachine.Proofs.Walking
import StateMachine.Proofs.Chains
import StateMachine.Proofs.FailingActions
import StateMachine.Proofs.Alike
import StateMachine.Proofs.Described
import StateMachine.Proofs.Nameless
import StateMachine.Proofs.Linked
import StateMachine.Proofs.Grouping
import StateMachine.Proofs.Trimming
import StateMachine.Proofs.TopLevelCommas
import StateMachine.Proofs.PrintedActions
import StateMachine.Proofs.Ranks
import StateMachine.Proofs.SortedUnion
import StateMachine.Proofs.Insertion
import StateMachine.Proofs.SortedNames
import StateMachine.Proofs.PageTables
import StateMachine.Proofs.GeneratedFiles
import StateMachine.Proofs.Escaping
import StateMachine.Proofs.QuotedTexts
import StateMachine.Proofs.Screening
import StateMachine.Proofs.Directories
import StateMachine.Proofs.RejectedInput
