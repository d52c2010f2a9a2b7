import SchemaTables.Diagnostic
import SchemaTables.Table.Basic

/-!
# Resolving references

A reference names a column by a path.  Its last segment is the name of the column, and the segments
before it, without the first one, make up the name of the table.  Of several tables or columns of a
name the first one counts.

Either all references are resolved, or each one that cannot be is reported.
-/

namespace SchemaTables

/-- The names of a table and of a column in it. -/
structure Target where
  table : String
  column : String
  deriving DecidableEq, Inhabited

namespace Target

/-- The names that the segments of a path give, its first segment left out. -/
def ofSegments (segments : List String) : Target :=
  ⟨Text.join "_" segments.dropLast, segments.getLastD ""⟩

def ofPath (path : String) : Target := ofSegments ((Text.split '/' path).drop 1)

end Target

/-- The first table of a name. -/
def table? (tables : List (TableWith ρ)) (name : String) : Option (TableWith ρ) :=
  tables.find? fun table => table.name == name

/-- Resolves a reference, or says why it cannot be. -/
def Link.resolve (tables : List LinkedTable) (link : Link) : Except Fault Reference :=
  let target := Target.ofPath link.target
  match table? tables target.table with
  | none => .error (.unknownTable link.target target.table)
  | some table =>
    match table.column? target.column with
    | none => .error (.unknownColumn link.target target.table target.column)
    | some column =>
      match KeyType.ofStorage? column.storage with
      | none => .error (.unreferenceable link.target target.table target.column column.storage)
      | some type => .ok ⟨link.name, type, table.name, column.name, link.cardinality⟩

/-- What is wrong with a reference, at the path to it. -/
def Link.diagnose (tables : List LinkedTable) (link : Link) : List Diagnostic :=
  match link.resolve tables with
  | .ok _ => []
  | .error fault => [⟨link.origin ++ [link.name], fault⟩]

/-- A table with those of its references that can be resolved. -/
def TableWith.resolve (tables : List LinkedTable) (table : LinkedTable) : Table :=
  ⟨table.name, table.required, table.primaryKey, table.columns,
    table.references.filterMap fun link => (link.resolve tables).toOption⟩

def referenceDiagnostics (tables : List LinkedTable) : List Diagnostic :=
  tables.flatMap fun table => table.references.flatMap fun link => link.diagnose tables

def resolveAll (tables : List LinkedTable) : Except (List Diagnostic) (List Table) :=
  match referenceDiagnostics tables with
  | [] => .ok (tables.map fun table => table.resolve tables)
  | diagnostics => .error diagnostics

end SchemaTables
