import EngineBridge.Binding.Binder
import EngineBridge.Binding.Registrar
import EngineBridge.Command.Arguments
import EngineBridge.Command.Run
import EngineBridge.Descriptor.AbiHash
import EngineBridge.Descriptor.Api
import EngineBridge.Descriptor.Basic
import EngineBridge.Descriptor.Document
import EngineBridge.Descriptor.Reader
import EngineBridge.Descriptor.Schema
import EngineBridge.Document.Access
import EngineBridge.Document.Basic
import EngineBridge.Document.Json.Printer
import EngineBridge.Document.Json.Reader
import EngineBridge.Document.Key
import EngineBridge.Document.Lenient
import EngineBridge.Document.Merge
import EngineBridge.Document.NameTable
import EngineBridge.Document.Order
import EngineBridge.Document.Portable
import EngineBridge.Document.Shown
import EngineBridge.Document.Spelling
import EngineBridge.Document.Toml.Reader
import EngineBridge.Document.Toml.Scalar
import EngineBridge.Document.Toml.Statement
import EngineBridge.Document.Toml.Text
import EngineBridge.Document.Toml.Value
import EngineBridge.Engine.Basic
import EngineBridge.Engine.Calls
import EngineBridge.Engine.GType
import EngineBridge.Engine.Held
import EngineBridge.Engine.Notation
import EngineBridge.Engine.Slots
import EngineBridge.Entries
import EngineBridge.Failure
import EngineBridge.Files.Path
import EngineBridge.Files.Resource
import EngineBridge.Files.Settings
import EngineBridge.Files.Tree
import EngineBridge.Host
import EngineBridge.Log.Clock
import EngineBridge.Log.Configuration
import EngineBridge.Log.Layout
import EngineBridge.Log.Level
import EngineBridge.Log.Pattern
import EngineBridge.Log.Record
import EngineBridge.Log.Routing
import EngineBridge.Log.Template
import EngineBridge.Log.Threshold
import EngineBridge.Log.TimePattern
import EngineBridge.Main
import EngineBridge.Number.Binary
import EngineBridge.Number.Conversion
import EngineBridge.Number.Numeral
import EngineBridge.Number.Reading
import EngineBridge.Number.Rounded
import EngineBridge.Number.Shortest
import EngineBridge.Number.Word
import EngineBridge.Plan.Basic
import EngineBridge.Plan.Compiler
import EngineBridge.Plan.Configured
import EngineBridge.Plan.Document
import EngineBridge.Plan.Draft
import EngineBridge.Plan.Policy
import EngineBridge.Proofs.Binding.Accounts
import EngineBridge.Proofs.Binding.Calls
import EngineBridge.Proofs.Binding.Decisions
import EngineBridge.Proofs.Binding.Outcome
import EngineBridge.Proofs.Binding.PublicNames
import EngineBridge.Proofs.Binding.Register
import EngineBridge.Proofs.Binding.Written
import EngineBridge.Proofs.Call.Agreement
import EngineBridge.Proofs.Call.Arguments
import EngineBridge.Proofs.Call.Balance
import EngineBridge.Proofs.Call.Entry
import EngineBridge.Proofs.Call.Integers
import EngineBridge.Proofs.Call.Landings
import EngineBridge.Proofs.Call.Pointers
import EngineBridge.Proofs.Call.Prepared
import EngineBridge.Proofs.Call.Refusals
import EngineBridge.Proofs.Call.Results
import EngineBridge.Proofs.Call.Scratch
import EngineBridge.Proofs.Call.Silence
import EngineBridge.Proofs.Call.Typed
import EngineBridge.Proofs.Command.AllOrNothing
import EngineBridge.Proofs.Command.Binding
import EngineBridge.Proofs.Command.Endings
import EngineBridge.Proofs.Command.Output
import EngineBridge.Proofs.Command.Selection
import EngineBridge.Proofs.Descriptor.Accepted
import EngineBridge.Proofs.Descriptor.Classes
import EngineBridge.Proofs.Descriptor.FromJson
import EngineBridge.Proofs.Descriptor.Meaning
import EngineBridge.Proofs.Descriptor.Violations
import EngineBridge.Proofs.Document.JsonLine
import EngineBridge.Proofs.Document.JsonNumber
import EngineBridge.Proofs.Document.JsonReading
import EngineBridge.Proofs.Document.JsonText
import EngineBridge.Proofs.Document.Layered
import EngineBridge.Proofs.Document.MergeLaws
import EngineBridge.Proofs.Document.Writable
import EngineBridge.Proofs.Engine.Actions
import EngineBridge.Proofs.Engine.Calls
import EngineBridge.Proofs.Engine.Growth
import EngineBridge.Proofs.Engine.Ledger
import EngineBridge.Proofs.Engine.Types
import EngineBridge.Proofs.Entries
import EngineBridge.Proofs.Files.Appended
import EngineBridge.Proofs.Files.Bundled
import EngineBridge.Proofs.Files.Paths
import EngineBridge.Proofs.Files.Unchanged
import EngineBridge.Proofs.Files.Written
import EngineBridge.Proofs.Log.ColorCodes
import EngineBridge.Proofs.Log.Coloring
import EngineBridge.Proofs.Log.Configured
import EngineBridge.Proofs.Log.Delivery
import EngineBridge.Proofs.Log.Failing
import EngineBridge.Proofs.Log.FileNames
import EngineBridge.Proofs.Log.Installed
import EngineBridge.Proofs.Log.Lines
import EngineBridge.Proofs.Log.LogFiles
import EngineBridge.Proofs.Log.SharedRecord
import EngineBridge.Proofs.Log.Sinks
import EngineBridge.Proofs.Log.TwoRuns
import EngineBridge.Proofs.Number.DigitRuns
import EngineBridge.Proofs.Number.Digits
import EngineBridge.Proofs.Number.Nearest
import EngineBridge.Proofs.Number.Packed
import EngineBridge.Proofs.Number.Rounding
import EngineBridge.Proofs.Number.Shortest
import EngineBridge.Proofs.Number.Words
import EngineBridge.Proofs.Number.Written
import EngineBridge.Proofs.Plan.Compiled
import EngineBridge.Proofs.Plan.Configured
import EngineBridge.Proofs.Plan.Decisions
import EngineBridge.Proofs.Plan.Escaping
import EngineBridge.Proofs.Plan.Local
import EngineBridge.Proofs.Plan.LocalNames
import EngineBridge.Proofs.Plan.Outcome
import EngineBridge.Proofs.Plan.Policy
import EngineBridge.Proofs.Plan.Scalars
import EngineBridge.Proofs.Plan.Signature
import EngineBridge.Proofs.Plan.Written
import EngineBridge.Proofs.Running
import EngineBridge.Proofs.Session.Attached
import EngineBridge.Proofs.Session.Boxes
import EngineBridge.Proofs.Session.Cached
import EngineBridge.Proofs.Session.Contents
import EngineBridge.Proofs.Session.Currency
import EngineBridge.Proofs.Session.Installing
import EngineBridge.Proofs.Session.Keeping
import EngineBridge.Proofs.Session.Lifetimes
import EngineBridge.Proofs.Session.Lookups
import EngineBridge.Proofs.Session.Operations
import EngineBridge.Proofs.Session.Origins
import EngineBridge.Proofs.Session.Owners
import EngineBridge.Proofs.Session.Readers
import EngineBridge.Proofs.Session.RoundTrip
import EngineBridge.Proofs.Session.Strings
import EngineBridge.Proofs.Text.Lines
import EngineBridge.Proofs.TypeClass.Bundled
import EngineBridge.Proofs.TypeClass.SizeLines
import EngineBridge.Proofs.TypeClass.WrittenSizes
import EngineBridge.Session.Arguments
import EngineBridge.Session.Basic
import EngineBridge.Session.Cache
import EngineBridge.Session.Dispatcher
import EngineBridge.Session.Enumeration
import EngineBridge.Session.Notation
import EngineBridge.Session.Results
import EngineBridge.Session.Strings
import EngineBridge.Session.Tables
import EngineBridge.Session.Target
import EngineBridge.Session.Value
import EngineBridge.Session.Variants
import EngineBridge.Text.Blank
import EngineBridge.Text.Digit
import EngineBridge.Text.Encoded
import EngineBridge.Text.Hexadecimal
import EngineBridge.Text.Lead
import EngineBridge.Text.Lines
import EngineBridge.Text.Printable
import EngineBridge.Text.Quoted
import EngineBridge.Text.Split
import EngineBridge.Text.UpperCase
import EngineBridge.TypeClass.Basic
import EngineBridge.TypeClass.Classifier
import EngineBridge.TypeClass.KnownClasses
import EngineBridge.TypeClass.Sizes
