import SchemaTables.Ddl.Statement
import SchemaTables.Table.Basic

/-!
# Migrations

The statements that build tables, and those that remove them again.

Tables are built in two passes.  The first creates every table with the columns that store values;
the second adds the columns that refer to other tables, all of which exist by then.  A table with
nothing but references gets its columns at once where a dialect has no empty tables.
-/

namespace SchemaTables

/-- Statements that build, and statements that remove what was built. -/
structure Migration where
  up : List Statement := []
  down : List Statement := []
  deriving Inhabited

/-! ## Columns -/

def enumTypeName (table column : String) : String := table ++ "_" ++ column ++ "_enum"

def choiceTexts (choices : List Scalar) : List String := choices.map Scalar.toText

def nonEmpty? (text? : Option String) : Option String := text?.filter fun text => text != ""

namespace Column

/-- The type of a column.  An enumeration takes precedence over what the column stores. -/
def type (table : String) (column : Column) : ColumnType :=
  match column.attributes.choices with
  | some choices => .enumeration (enumTypeName table column.name) (choiceTexts choices)
  | none => .ofStorage column.storage

/-- The default of a column.  A literal takes precedence over an expression. -/
def initial? (column : Column) : Option Default :=
  match column.attributes.default, nonEmpty? column.attributes.metadata.default with
  | some scalar, _ => some (.literal scalar.toText)
  | none, some expression => some (.raw expression)
  | none, none => none

/-- The comment on a column: what its metadata say, or else its title and its description. -/
def comment? (column : Column) : Option String :=
  match nonEmpty? column.attributes.metadata.comment, column.attributes.title,
      column.attributes.description with
  | some comment, _, _ => some comment
  | none, some title, some description => some (title ++ ": " ++ description)
  | none, some title, none => some title
  | none, none, some description => some description
  | none, none, none => none

def definition (table : String) (required : List String) (column : Column) : ColumnDefinition where
  name := column.name
  type := column.type table
  notNull := required.contains column.name || column.attributes.metadata.notNull
  default := column.initial?
  comment := column.comment?

/-- The range of a column of integers, where it is bounded. -/
def check? (column : Column) : Option Check :=
  if column.storage = .integer ∧
      (column.attributes.minimum.isSome ∨ column.attributes.maximum.isSome) then
    some ⟨column.name, column.attributes.minimum, column.attributes.maximum⟩
  else none

end Column

/-- The definition of the column of a reference: it has the type of the column referred to. -/
def Reference.definition (reference : Reference) : ColumnDefinition :=
  { name := reference.name, type := .ofStorage reference.type.storage }

/-! ## Tables -/

namespace Table

/-- The primary key: the declared one, or else a column `id`. -/
def key? (table : Table) : Option String :=
  match table.primaryKey with
  | some key => some key
  | none => (table.column? "id").map (·.name)

/-- Are the columns of the references created with the table? -/
def foldsReferences (dialect : Dialect) (table : Table) : Bool :=
  table.columns.isEmpty && !table.references.isEmpty && !dialect.allowsEmptyTables

/-- The names and values of the enumerations for which the dialect needs types. -/
def enumTypes (dialect : Dialect) (table : Table) : List (String × List String) :=
  if dialect.hasEnumTypes then
    table.columns.filterMap fun column =>
      column.attributes.choices.map fun choices =>
        (enumTypeName table.name column.name, choiceTexts choices)
  else []

/-- The definition of a table in the first pass. -/
def definition (dialect : Dialect) (table : Table) : TableDefinition where
  name := table.name
  columns :=
    table.columns.map (Column.definition table.name table.required) ++
      if table.foldsReferences dialect then table.references.map Reference.definition else []
  checks := table.columns.filterMap Column.check?
  primaryKey := table.key?

/-- The comments that are statements of their own. -/
def comments (dialect : Dialect) (table : Table) : List Statement :=
  if dialect.hasInlineComments then []
  else
    table.columns.filterMap fun column =>
      column.comment?.map (Statement.commentOnColumn table.name column.name)

def indexes (table : Table) : List Statement :=
  (table.columns.filter fun column => column.attributes.metadata.index).map fun column =>
    .createIndex table.name column.name

/-- The columns whose metadata say that they are unique. -/
def uniques (table : Table) : List Statement :=
  (table.columns.filter fun column => column.attributes.metadata.unique).map fun column =>
    .addUnique table.name column.name

/-- The first pass over a table. -/
def creation (dialect : Dialect) (table : Table) : List Statement :=
  (table.enumTypes dialect).map (fun (name, values) => .createEnumType name values) ++
    [.createTable (table.definition dialect)] ++
    table.comments dialect ++ table.indexes ++ table.uniques

def constraints (table : String) (reference : Reference) : List Statement :=
  .addForeignKey table reference.name reference.table reference.column ::
    match reference.cardinality with
    | .one => [.addUnique table reference.name]
    | .many => []

/-- The columns of the references, where the first pass has not created them. -/
def addedColumns (dialect : Dialect) (table : Table) : List Statement :=
  if table.references.isEmpty || table.foldsReferences dialect then []
  else [.addColumns table.name (table.references.map Reference.definition)]

/-- The second pass over a table. -/
def connection (dialect : Dialect) (table : Table) : List Statement :=
  table.addedColumns dialect ++ table.references.flatMap (constraints table.name)

/-- What removes a table and its types. -/
def removal (dialect : Dialect) (table : Table) : List Statement :=
  .dropTable table.name :: (table.enumTypes dialect).map fun (name, _) => .dropType name

end Table

def Migration.ofTables (dialect : Dialect) (tables : List Table) : Migration where
  up := tables.flatMap (Table.creation dialect) ++ tables.flatMap (Table.connection dialect)
  down := tables.flatMap (Table.removal dialect)

end SchemaTables
