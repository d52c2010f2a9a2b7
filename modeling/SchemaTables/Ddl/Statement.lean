import SchemaTables.Schema.Storage

/-!
# Statements

What is done to a database, apart from the words in which a dialect says it.
-/

namespace SchemaTables

/-- The databases that statements can be written for. -/
inductive Dialect
  | pg
  | mysql
  deriving DecidableEq, Inhabited

namespace Dialect

def name : Dialect → String
  | .pg => "pg"
  | .mysql => "mysql"

/-- Do enumerations need a type of their own? -/
def hasEnumTypes : Dialect → Bool
  | .pg => true
  | .mysql => false

/-- May a table have no column? -/
def allowsEmptyTables : Dialect → Bool
  | .pg => true
  | .mysql => false

/-- Is the comment on a column a part of its definition? -/
def hasInlineComments : Dialect → Bool
  | .pg => false
  | .mysql => true

end Dialect

inductive ColumnType
  | uuid
  | varchar (length : Nat)
  | json
  | jsonb
  | boolean
  | date
  | timestamp
  | real
  | integer
  | enumeration (name : String) (values : List String)
  deriving DecidableEq, Inhabited

/-- The length of text columns. -/
def textLength : Nat := 255

def ColumnType.ofStorage : StorageType → ColumnType
  | .uuid => .uuid
  | .string | .email => .varchar textLength
  | .json => .json
  | .jsonb => .jsonb
  | .boolean => .boolean
  | .date => .date
  | .datetime | .dateTime => .timestamp
  | .number => .real
  | .integer => .integer

/-- The value of a column that is given none. -/
inductive Default
  | literal (text : String)
  /-- An expression that is written as it stands. -/
  | raw (expression : String)
  deriving DecidableEq, Inhabited

structure ColumnDefinition where
  name : String
  type : ColumnType
  notNull : Bool := false
  default : Option Default := none
  comment : Option String := none
  deriving DecidableEq, Inhabited

/-- The range that the values of a column lie in. -/
structure Check where
  column : String
  minimum : Option Number := none
  maximum : Option Number := none
  deriving DecidableEq, Inhabited

structure TableDefinition where
  name : String
  columns : List ColumnDefinition := []
  checks : List Check := []
  primaryKey : Option String := none
  deriving DecidableEq, Inhabited

inductive Statement
  | createEnumType (name : String) (values : List String)
  | createTable (table : TableDefinition)
  | commentOnColumn (table column comment : String)
  | createIndex (table column : String)
  | addUnique (table column : String)
  | addColumns (table : String) (columns : List ColumnDefinition)
  | addForeignKey (table column targetTable targetColumn : String)
  | dropTable (name : String)
  | dropType (name : String)
  deriving DecidableEq, Inhabited

end SchemaTables
