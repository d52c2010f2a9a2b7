import SchemaTables.Schema.Storage

/-!
# Tables of columns

A flat table: columns that store values, and references to columns of other tables.  A reference
is a `Link` as long as it is only known by the path that was written for it, and a `Reference` once
its target is known.
-/

namespace SchemaTables

/-- How many rows of a table may refer to one row of the table referred to. -/
inductive Cardinality
  | one
  | many
  deriving DecidableEq, Inhabited

structure Column where
  name : String
  storage : StorageType
  attributes : Attributes := {}
  deriving DecidableEq, Inhabited

/-- A reference as it was written. -/
structure Link where
  name : String
  /-- The path to a column, such as `#/users/id`. -/
  target : String
  /-- The path of the properties among which the reference is declared. -/
  origin : List String := []
  cardinality : Cardinality := .one
  deriving DecidableEq, Inhabited

/-- A reference to a column that exists. -/
structure Reference where
  name : String
  /-- What the column referred to stores. -/
  type : KeyType
  table : String
  column : String
  cardinality : Cardinality := .one
  deriving DecidableEq, Inhabited

/-- A table whose references are of type `ρ`. -/
structure TableWith (ρ : Type) where
  name : String
  required : List String := []
  primaryKey : Option String := none
  columns : List Column := []
  references : List ρ := []
  deriving DecidableEq, Inhabited

/-- A table whose references are paths. -/
abbrev LinkedTable := TableWith Link

/-- A table whose references are columns of tables. -/
abbrev Table := TableWith Reference

/-- The first column of a name. -/
def TableWith.column? (table : TableWith ρ) (name : String) : Option Column :=
  table.columns.find? fun column => column.name == name

end SchemaTables
