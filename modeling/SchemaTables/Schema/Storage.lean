import SchemaTables.Schema.Basic

/-!
# Storage types

What a column stores, and which of those types a reference may point to: points in time and
numbers with a fraction are no keys.
-/

namespace SchemaTables

/-- What a column stores. -/
inductive StorageType
  | uuid
  | string
  | email
  | date
  | datetime
  | dateTime
  | boolean
  | number
  | integer
  | json
  | jsonb
  deriving DecidableEq, Inhabited

namespace StorageType

def name : StorageType → String
  | .uuid => "uuid"
  | .string => "string"
  | .email => "email"
  | .date => "date"
  | .datetime => "datetime"
  | .dateTime => "date-time"
  | .boolean => "boolean"
  | .number => "number"
  | .integer => "integer"
  | .json => "json"
  | .jsonb => "jsonb"

def all : List StorageType :=
  [.uuid, .string, .email, .date, .datetime, .dateTime, .boolean, .number, .integer, .json, .jsonb]

def ofName? (text : String) : Option StorageType := all.find? (fun type => type.name == text)

def ofPrimitive : Primitive → StorageType
  | .boolean => .boolean
  | .number => .number
  | .integer => .integer

def ofFormat : Option TextFormat → StorageType
  | none => .string
  | some .uuid => .uuid
  | some .date => .date
  | some .datetime => .datetime
  | some .dateTime => .dateTime
  | some .email => .email

/-- The type of a container that is stored whole. -/
def ofJson : JsonStorage → StorageType
  | .json => .json
  | .jsonb => .jsonb

end StorageType

/-- What a column that others refer to stores. -/
inductive KeyType
  | string
  | boolean
  | integer
  | uuid
  | email
  | json
  | jsonb
  deriving DecidableEq, Inhabited

namespace KeyType

def storage : KeyType → StorageType
  | .string => .string
  | .boolean => .boolean
  | .integer => .integer
  | .uuid => .uuid
  | .email => .email
  | .json => .json
  | .jsonb => .jsonb

def name (type : KeyType) : String := type.storage.name

/-- The key type that stores the same, where references to it are allowed. -/
def ofStorage? : StorageType → Option KeyType
  | .string => some .string
  | .boolean => some .boolean
  | .integer => some .integer
  | .uuid => some .uuid
  | .email => some .email
  | .json => some .json
  | .jsonb => some .jsonb
  | .date | .datetime | .dateTime | .number => none

theorem ofStorage?_eq_some_iff {type : StorageType} {key : KeyType} :
    ofStorage? type = some key ↔ key.storage = type := by
  cases type <;> cases key <;> simp [ofStorage?, storage]

end KeyType

end SchemaTables
