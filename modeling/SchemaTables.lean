import SchemaTables.Command.Arguments
import SchemaTables.Command.Dump
import SchemaTables.Command.Inputs
import SchemaTables.Command.Log
import SchemaTables.Command.Run
import SchemaTables.Command.Tools
import SchemaTables.Compilation
import SchemaTables.Ddl.Migration
import SchemaTables.Ddl.Statement
import SchemaTables.Ddl.Text
import SchemaTables.Decimal.Binary64
import SchemaTables.Decimal.Reading
import SchemaTables.Decimal.Shortest
import SchemaTables.Diagnostic
import SchemaTables.Files.Clock
import SchemaTables.Files.Disk
import SchemaTables.Files.Path
import SchemaTables.Files.Search
import SchemaTables.Files.System
import SchemaTables.Files.Wildcard
import SchemaTables.Jq.Evaluation
import SchemaTables.Jq.Filter
import SchemaTables.Jq.Library
import SchemaTables.Jq.Names
import SchemaTables.Jq.Operation
import SchemaTables.Jq.Reader
import SchemaTables.Jq.Term
import SchemaTables.Jq.Token
import SchemaTables.Jq.Trace
import SchemaTables.Jq.Value
import SchemaTables.Json.Basic
import SchemaTables.Json.Decode
import SchemaTables.Json.Number
import SchemaTables.Json.Pointer
import SchemaTables.Json.Printer
import SchemaTables.Json.Reader
import SchemaTables.Keyed
import SchemaTables.Main
import SchemaTables.Pattern.Basic
import SchemaTables.Pattern.Property
import SchemaTables.Pattern.Reader
import SchemaTables.Pattern.Size
import SchemaTables.Pattern.Validity
import SchemaTables.Proofs.Command.Loading
import SchemaTables.Proofs.Command.Naming
import SchemaTables.Proofs.Command.Output
import SchemaTables.Proofs.Command.Runs
import SchemaTables.Proofs.Command.Saving
import SchemaTables.Proofs.Compilation
import SchemaTables.Proofs.Ddl.Agreement
import SchemaTables.Proofs.Ddl.Backslash
import SchemaTables.Proofs.Ddl.Catalog
import SchemaTables.Proofs.Ddl.DeclaredTables
import SchemaTables.Proofs.Ddl.Definitions
import SchemaTables.Proofs.Ddl.Executability
import SchemaTables.Proofs.Ddl.Execution
import SchemaTables.Proofs.Ddl.Extension
import SchemaTables.Proofs.Ddl.LexicalSafety
import SchemaTables.Proofs.Ddl.Names
import SchemaTables.Proofs.Ddl.Permutation
import SchemaTables.Proofs.Ddl.Precedence
import SchemaTables.Proofs.Ddl.ReferenceTypes
import SchemaTables.Proofs.Ddl.Rollback
import SchemaTables.Proofs.Ddl.Scanning
import SchemaTables.Proofs.Ddl.SchemaNames
import SchemaTables.Proofs.Ddl.States
import SchemaTables.Proofs.Ddl.Teardown
import SchemaTables.Proofs.Ddl.Tokens
import SchemaTables.Proofs.Decimal.Numerals
import SchemaTables.Proofs.Files.Disk
import SchemaTables.Proofs.Files.Path
import SchemaTables.Proofs.Files.Sessions
import SchemaTables.Proofs.Json.Distinct
import SchemaTables.Proofs.Json.Misfits
import SchemaTables.Proofs.Json.Paths
import SchemaTables.Proofs.Keyed
import SchemaTables.Proofs.Schema.Classification
import SchemaTables.Proofs.Schema.Completeness
import SchemaTables.Proofs.Schema.Grammar
import SchemaTables.Proofs.Schema.Keys
import SchemaTables.Proofs.Schema.KeywordOrder
import SchemaTables.Proofs.Schema.Meaning
import SchemaTables.Proofs.Schema.MetadataOrder
import SchemaTables.Proofs.Schema.NestedFaults
import SchemaTables.Proofs.Schema.Places
import SchemaTables.Proofs.Schema.Rearrangement
import SchemaTables.Proofs.Schema.Shapes
import SchemaTables.Proofs.Schema.SingleTables
import SchemaTables.Proofs.Schema.TableLists
import SchemaTables.Proofs.Schema.Validation
import SchemaTables.Proofs.Table.Acceptance
import SchemaTables.Proofs.Table.BackReference
import SchemaTables.Proofs.Table.KeyColumns
import SchemaTables.Proofs.Table.Nesting
import SchemaTables.Proofs.Table.Order
import SchemaTables.Proofs.Table.Paths
import SchemaTables.Proofs.Table.Preservation
import SchemaTables.Proofs.Table.Resolution
import SchemaTables.Proofs.Table.TableNames
import SchemaTables.Proofs.Text.Segments
import SchemaTables.Schema.Basic
import SchemaTables.Schema.Metadata
import SchemaTables.Schema.Reading
import SchemaTables.Schema.Storage
import SchemaTables.Schema.WellFormed
import SchemaTables.Table.Basic
import SchemaTables.Table.Flattening
import SchemaTables.Table.Resolution
import SchemaTables.Text.CharacterRanges
import SchemaTables.Text.Escaped
import SchemaTables.Text.Quoted
import SchemaTables.Text.Segments
import SchemaTables.Proofs.Schema.FaultPaths
import SchemaTables.Proofs.Table.ReferencePaths
import SchemaTables.Proofs.Ddl.CreationOrder
import SchemaTables.Proofs.Table.ExactResolution
import SchemaTables.Proofs.Ddl.Uniqueness
import SchemaTables.Proofs.Schema.DeepCheck
import SchemaTables.Proofs.Ddl.Legibility
import SchemaTables.Proofs.Ddl.SameText
import SchemaTables.Proofs.Lists
import SchemaTables.Proofs.Ddl.Columns
import SchemaTables.Proofs.Ddl.RangeChecks
import SchemaTables.Proofs.Ddl.EmptyTables
import SchemaTables.Proofs.Ddl.Nullability
import SchemaTables.Proofs.Command.Failures
import SchemaTables.Proofs.Command.Printing
import SchemaTables.Proofs.Ddl.ConstraintNames
