import SchemaTables.Ddl.Statement
import SchemaTables.Text.Quoted
import SchemaTables.Text.Segments

/-!
# The text of statements

A statement is written as a sequence of pieces: fixed words, names, literals and expressions that
stand as they are.  Only the words and expressions are written verbatim; names and literals are
quoted, and a quote inside them is doubled.
-/

namespace SchemaTables

/-- A part of the text of a statement. -/
inductive Piece
  | words (text : String)
  | name (text : String)
  | literal (text : String)
  | raw (expression : String)
  deriving DecidableEq, Inhabited

def Dialect.nameQuote : Dialect → Char
  | .pg => '"'
  | .mysql => '\x60'

def literalQuote : Char := '\''

def Piece.text (dialect : Dialect) : Piece → String
  | .words text => text
  | .name text => Text.quoted dialect.nameQuote text
  | .literal text => Text.quoted literalQuote text
  | .raw expression => expression

/-- Parts with the same words between neighbours. -/
def separated (between : String) : List (List Piece) → List Piece
  | [] => []
  | [part] => part
  | part :: rest => part ++ .words between :: separated between rest

/-- Parts with commas between them. -/
def listed (parts : List (List Piece)) : List Piece := separated ", " parts

/-- The name of a constraint or an index. -/
def constraintName (table column kind : String) : String := table ++ "_" ++ column ++ "_" ++ kind

def keyName (table : String) : String := table ++ "_pkey"

namespace ColumnType

def pieces : Dialect → ColumnType → List Piece
  | _, .varchar length => [.words ("varchar(" ++ toString length ++ ")")]
  | _, .json => [.words "json"]
  | _, .boolean => [.words "boolean"]
  | _, .date => [.words "date"]
  | .pg, .uuid => [.words "uuid"]
  | .pg, .jsonb => [.words "jsonb"]
  | .pg, .timestamp => [.words "timestamptz"]
  | .pg, .real => [.words "real"]
  | .pg, .integer => [.words "integer"]
  | .pg, .enumeration name _ => [.name name]
  | .mysql, .uuid => [.words "char(36)"]
  | .mysql, .jsonb => [.words "json"]
  | .mysql, .timestamp => [.words "datetime"]
  | .mysql, .real => [.words "float"]
  | .mysql, .integer => [.words "int"]
  | .mysql, .enumeration _ values =>
    .words "enum(" :: listed (values.map fun value => [.literal value]) ++ [.words ")"]

end ColumnType

def Default.pieces : Default → List Piece
  | .literal text => [.words " default ", .literal text]
  | .raw expression => [.words " default ", .raw expression]

namespace ColumnDefinition

/-- The comment, where the dialect writes it here. -/
def commentPieces (dialect : Dialect) (column : ColumnDefinition) : List Piece :=
  match dialect.hasInlineComments, column.comment with
  | true, some comment => [.words " comment ", .literal comment]
  | _, _ => []

def pieces (dialect : Dialect) (column : ColumnDefinition) : List Piece :=
  .name column.name :: .words " " :: column.type.pieces dialect ++
    (if column.notNull then [.words " not null"] else []) ++
    (column.default.map Default.pieces).getD [] ++
    column.commentPieces dialect

end ColumnDefinition

namespace Check

def bounds (check : Check) : List (List Piece) :=
  (check.minimum.map fun bound => [.name check.column, .words (" >= " ++ bound.text)]).toList ++
    (check.maximum.map fun bound => [.name check.column, .words (" <= " ++ bound.text)]).toList

/-- The constraint of a range. -/
def pieces (table : String) (check : Check) : List Piece :=
  .words "constraint " :: .name (constraintName table check.column "check") ::
    .words " check (" :: separated " and " check.bounds ++ [.words ")"]

end Check

def keyPieces (table key : String) : List Piece :=
  [.words "constraint ", .name (keyName table), .words " primary key (", .name key, .words ")"]

/-- What stands between the brackets of the definition of a table. -/
def TableDefinition.parts (dialect : Dialect) (table : TableDefinition) : List (List Piece) :=
  table.columns.map (ColumnDefinition.pieces dialect) ++
    table.checks.map (Check.pieces table.name) ++
    (table.primaryKey.map (keyPieces table.name)).toList

namespace Statement

def pieces (dialect : Dialect) : Statement → List Piece
  | .createEnumType name values =>
    .words "create type " :: .name name :: .words " as enum (" ::
      listed (values.map fun value => [.literal value]) ++ [.words ");"]
  | .createTable table =>
    .words "create table " :: .name table.name :: .words " (" ::
      listed (table.parts dialect) ++ [.words ");"]
  | .commentOnColumn table column comment =>
    [.words "comment on column ", .name table, .words ".", .name column, .words " is ",
      .literal comment, .words ";"]
  | .createIndex table column =>
    [.words "create index ", .name (constraintName table column "index"), .words " on ",
      .name table, .words " (", .name column, .words ");"]
  | .addUnique table column =>
    [.words "alter table ", .name table, .words " add constraint ",
      .name (constraintName table column "unique"), .words " unique (", .name column, .words ");"]
  | .addColumns table columns =>
    .words "alter table " :: .name table :: .words " " ::
      listed (columns.map fun column => .words "add column " :: column.pieces dialect) ++
        [.words ";"]
  | .addForeignKey table column targetTable targetColumn =>
    [.words "alter table ", .name table, .words " add constraint ",
      .name (constraintName table column "foreign"), .words " foreign key (", .name column,
      .words ") references ", .name targetTable, .words " (", .name targetColumn, .words ");"]
  | .dropTable name => [.words "drop table if exists ", .name name, .words " cascade;"]
  | .dropType name => [.words "drop type ", .name name, .words ";"]

def text (dialect : Dialect) (statement : Statement) : String :=
  Text.concat ((statement.pieces dialect).map (Piece.text dialect))

end Statement

end SchemaTables
