import SchemaTables.Json.Basic

/-!
# Table schemas

A database is declared as a tree: a table has properties, and a property may hold a table of its
own, or a list of them.  This is the tree that a document means once it has been read; what it
means as tables of columns is the subject of `Table.Flattening`.
-/

namespace SchemaTables

/-- A value that a default or an enumeration may hold. -/
inductive Scalar
  | text (value : String)
  | number (value : Number)
  | bool (value : Bool)
  deriving DecidableEq, Inhabited

/-- The scalar that a part of a document is. -/
def Scalar.ofJson? : Json → Option Scalar
  | .string value => some (.text value)
  | .number value => some (.number value)
  | .bool value => some (.bool value)
  | _ => none

/-- The text of a scalar inside quotes: truth values are written as digits. -/
def Scalar.toText : Scalar → String
  | .text value => value
  | .number value => value.text
  | .bool true => "1"
  | .bool false => "0"

/-- The types of a property that is stored as one plain value and is not text. -/
inductive Primitive
  | boolean
  | number
  | integer
  deriving DecidableEq, Inhabited

/-- What a text property holds. -/
inductive TextFormat
  | uuid
  | date
  /-- Written `datetime`. -/
  | datetime
  /-- Written `date-time`. -/
  | dateTime
  | email
  deriving DecidableEq, Inhabited

namespace TextFormat

def name : TextFormat → String
  | .uuid => "uuid"
  | .date => "date"
  | .datetime => "datetime"
  | .dateTime => "date-time"
  | .email => "email"

def all : List TextFormat := [.uuid, .date, .datetime, .dateTime, .email]

def ofName? (text : String) : Option TextFormat := all.find? (fun format => format.name == text)

/-- Is it a point in time? -/
def isTemporal : TextFormat → Bool
  | .date | .datetime | .dateTime => true
  | .uuid | .email => false

end TextFormat

/-- The two types whose values hold others. -/
inductive Container
  | object
  | array
  deriving DecidableEq, Inhabited

def Container.name : Container → String
  | .object => "object"
  | .array => "array"

/-- How a container is stored whole in one column. -/
inductive JsonStorage
  | json
  | jsonb
  deriving DecidableEq, Inhabited

def JsonStorage.name : JsonStorage → String
  | .json => "json"
  | .jsonb => "jsonb"

/-- What the `metadata` keyword says about a column. -/
structure Metadata where
  index : Bool := false
  unique : Bool := false
  /-- A default that is written as it stands. -/
  default : Option String := none
  notNull : Bool := false
  comment : Option String := none
  storage : Option JsonStorage := none
  deriving DecidableEq, Inhabited

/-- What a stored property may carry. -/
structure Attributes where
  default : Option Scalar := none
  choices : Option (List Scalar) := none
  title : Option String := none
  description : Option String := none
  minimum : Option Number := none
  maximum : Option Number := none
  metadata : Metadata := {}
  deriving DecidableEq, Inhabited

/-- A table over properties of some kind. -/
structure TableOf (π : Type) where
  properties : List (String × π) := []
  required : List String := []
  primaryKey : Option String := none
  deriving Inhabited

inductive Property
  | primitive (kind : Primitive) (attributes : Attributes)
  | text (format : Option TextFormat) (attributes : Attributes)
  /-- A container stored whole. -/
  | document (shape : Container) (storage : JsonStorage) (attributes : Attributes)
  /-- A reference to the column that a path such as `#/users/id` names. -/
  | reference (target : String)
  | nested (table : TableOf Property)
  | list (items : Property)
  deriving Inhabited

/-- A table as it is declared. -/
abbrev TableSchema := TableOf Property

/-- The tables of a database in declaration order. -/
abbrev Database := Keyed TableSchema

/-- The column that a nested table refers back to: the primary key, or else `id`. -/
def TableOf.keyOrId (table : TableOf π) : String := table.primaryKey.getD "id"

end SchemaTables
