import SchemaTables.Ddl.Migration
import SchemaTables.Ddl.Text
import SchemaTables.Schema.Reading
import SchemaTables.Table.Flattening
import SchemaTables.Table.Resolution

/-!
# Compiling documents

A document is read as a database, the database is flattened into tables, the references of the
tables are resolved, and the tables are written as statements.  The outcome is either the
statements or every diagnostic of the first step that has any.
-/

namespace SchemaTables

/-- The texts of statements that build, and of statements that remove what was built. -/
structure Script where
  up : List String := []
  down : List String := []
  deriving DecidableEq, Inhabited

def Migration.script (dialect : Dialect) (migration : Migration) : Script :=
  ⟨migration.up.map (Statement.text dialect), migration.down.map (Statement.text dialect)⟩

def compileTables (document : Json) : Except (List Diagnostic) (List Table) :=
  match Database.read document with
  | .ok database => resolveAll database.tables
  | .error diagnostics => .error diagnostics

/-- The statements of a document before they are written. -/
def migrate (dialect : Dialect) (document : Json) : Except (List Diagnostic) Migration :=
  (compileTables document).map (Migration.ofTables dialect)

/-- The statements of a document. -/
def compile (dialect : Dialect) (document : Json) : Except (List Diagnostic) Script :=
  (migrate dialect document).map (Migration.script dialect)

/-- What is wrong with a document. -/
def check (document : Json) : List Diagnostic :=
  match compileTables document with
  | .ok _ => []
  | .error diagnostics => diagnostics

/-! ## Options -/

def Dialect.decode : Json.Decoder Dialect := Json.choice ("pg", .pg) ("mysql", .mysql)

/-- How a document is compiled. -/
structure CompileOptions where
  dialect : Dialect := .pg
  deriving DecidableEq, Inhabited

def CompileOptions.decode : Json.Decoder CompileOptions :=
  Json.record "CompileOptions"
    [⟨"dialect", fun _ value => (Dialect.decode value).map CompileOptions.mk⟩] {}

/-! ## Results as documents -/

def Json.ofTexts (texts : List String) : Json := .array (texts.map .string)

def Diagnostic.toJson (diagnostic : Diagnostic) : Json :=
  .object [("path", .ofTexts diagnostic.path), ("message", .string diagnostic.message)]

def Script.toJson (script : Script) : Json :=
  .object [("up", .ofTexts script.up), ("down", .ofTexts script.down)]

/-- The outcome of a compilation as a document: exactly one of its two members is not null. -/
def resultDocument : Except (List Diagnostic) Script → Json
  | .ok script => .object [("queries", script.toJson), ("errors", .null)]
  | .error diagnostics =>
    .object [("queries", .null), ("errors", .array (diagnostics.map Diagnostic.toJson))]

end SchemaTables
