import ScriptRegistrar.CommandLine.Basic
import ScriptRegistrar.CommandLine.Invocation
import ScriptRegistrar.Declaration.Annotations
import ScriptRegistrar.Declaration.Decode
import ScriptRegistrar.Declaration.Encode
import ScriptRegistrar.Declaration.Expr
import ScriptRegistrar.Declaration.Graph
import ScriptRegistrar.Declaration.Member
import ScriptRegistrar.Declaration.ResolvedType
import ScriptRegistrar.Disk
import ScriptRegistrar.DottedName
import ScriptRegistrar.Fault
import ScriptRegistrar.Inheritance
import ScriptRegistrar.Json.Basic
import ScriptRegistrar.Json.Field
import ScriptRegistrar.Log
import ScriptRegistrar.Main
import ScriptRegistrar.Number
import ScriptRegistrar.Output
import ScriptRegistrar.Pass.Basic
import ScriptRegistrar.Pass.Events
import ScriptRegistrar.Proofs.CommandLine
import ScriptRegistrar.Proofs.Declaration.Atom
import ScriptRegistrar.Proofs.Declaration.Codec
import ScriptRegistrar.Proofs.Declaration.Decoded
import ScriptRegistrar.Proofs.Declaration.Decoding
import ScriptRegistrar.Proofs.Declaration.Readable
import ScriptRegistrar.Proofs.Declaration.Spelling
import ScriptRegistrar.Proofs.Disk.Location
import ScriptRegistrar.Proofs.Disk.Walk
import ScriptRegistrar.Proofs.Disk.WellFormed
import ScriptRegistrar.Proofs.Disk.Writable
import ScriptRegistrar.Proofs.DottedName
import ScriptRegistrar.Proofs.Except
import ScriptRegistrar.Proofs.Inheritance.Composition
import ScriptRegistrar.Proofs.Inheritance.Failure
import ScriptRegistrar.Proofs.Inheritance.FirstOccurrence
import ScriptRegistrar.Proofs.Inheritance.Flattening
import ScriptRegistrar.Proofs.Inheritance.Identity
import ScriptRegistrar.Proofs.Inheritance.Longest
import ScriptRegistrar.Proofs.Inheritance.Overrides
import ScriptRegistrar.Proofs.Inheritance.Representation
import ScriptRegistrar.Proofs.Inheritance.Rerepresented
import ScriptRegistrar.Proofs.Inheritance.Walk
import ScriptRegistrar.Proofs.Json.Reading
import ScriptRegistrar.Proofs.Output
import ScriptRegistrar.Proofs.Pass.Accounting
import ScriptRegistrar.Proofs.Pass.Coherence
import ScriptRegistrar.Proofs.Pass.Effects
import ScriptRegistrar.Proofs.Pass.Failure
import ScriptRegistrar.Proofs.Pass.Idempotence
import ScriptRegistrar.Proofs.Pass.Incremental
import ScriptRegistrar.Proofs.Pass.InputOrder
import ScriptRegistrar.Proofs.Pass.Places
import ScriptRegistrar.Proofs.Pass.Plan
import ScriptRegistrar.Proofs.Pass.Renewal
import ScriptRegistrar.Proofs.Pass.Report
import ScriptRegistrar.Proofs.Pass.Rerun
import ScriptRegistrar.Proofs.Pass.Scan
import ScriptRegistrar.Proofs.Pass.Target
import ScriptRegistrar.Proofs.Pass.UniqueNames
import ScriptRegistrar.Proofs.Registration.Arithmetic
import ScriptRegistrar.Proofs.Registration.DefaultValue
import ScriptRegistrar.Proofs.Registration.Emission
import ScriptRegistrar.Proofs.Registration.Hierarchy
import ScriptRegistrar.Proofs.Registration.Hint
import ScriptRegistrar.Proofs.Registration.HintTable
import ScriptRegistrar.Proofs.Registration.Layout
import ScriptRegistrar.Proofs.Registration.Lines
import ScriptRegistrar.Proofs.Registration.NameLedger
import ScriptRegistrar.Proofs.Registration.Positions
import ScriptRegistrar.Proofs.Registration.Property
import ScriptRegistrar.Proofs.Registration.Signal
import ScriptRegistrar.Proofs.Sorting
import ScriptRegistrar.Proofs.Source.Flow
import ScriptRegistrar.Proofs.Source.Imports
import ScriptRegistrar.Proofs.Source.Literal
import ScriptRegistrar.Proofs.Source.OneLine
import ScriptRegistrar.Proofs.Source.Placeholders
import ScriptRegistrar.Proofs.Source.Template
import ScriptRegistrar.Proofs.Source.Token
import ScriptRegistrar.Proofs.Source.Written
import ScriptRegistrar.Registration.DefaultValue
import ScriptRegistrar.Registration.EditorHint
import ScriptRegistrar.Registration.Member
import ScriptRegistrar.Registration.Registrar
import ScriptRegistrar.Registration.Vocabulary
import ScriptRegistrar.Sorting
import ScriptRegistrar.Source.File
import ScriptRegistrar.Source.Fragment
import ScriptRegistrar.Source.Name
import ScriptRegistrar.Text.LowerCase
import ScriptRegistrar.Text.Split
