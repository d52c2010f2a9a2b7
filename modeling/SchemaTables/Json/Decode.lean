import SchemaTables.Json.Basic
import SchemaTables.Text.Escaped

/-!
# Decoding typed values

Records and choices are read from documents.  A record is an object of its fields, or an array of
them in declaration order; fields that are missing keep their defaults and unknown members are
ignored.  A choice is a string, or an object with the choice as its one key and null under it.

A value that does not fit is refused with a cause and the path to it.
-/

namespace SchemaTables.Json

/-- What a decoder looks for. -/
inductive Expectation
  | boolean
  | string
  | unit
  | choice
  | record (name : String)
  deriving DecidableEq, Inhabited

def Expectation.text : Expectation → String
  | .boolean => "a boolean"
  | .string => "a string"
  | .unit => "unit"
  | .choice => "string or map"
  | .record name => "struct " ++ name

/-- A value in words. -/
def found : Json → String
  | .null => "null"
  | .bool value => "boolean `" ++ (if value then "true" else "false") ++ "`"
  | .number (.int value) => "integer `" ++ toString value ++ "`"
  | .number (.float value) => "floating point `" ++ Number.text (.float value) ++ "`"
  | .string value => "string " ++ Text.escaped value
  | .array _ => "sequence"
  | .object _ => "map"

/-- Why a value does not fit. -/
inductive Misfit
  /-- The value is of another kind. -/
  | kind (value : Json) (expected : Expectation)
  /-- An object with no member, or with several, stands for a choice. -/
  | notOneKey
  /-- The choice is none of the two. -/
  | unknownChoice (name first second : String)
  /-- An array has more items than the record has fields. -/
  | tooLong (length : Nat)
  deriving Inhabited

def Misfit.message : Misfit → String
  | .kind value expected => "invalid type: " ++ value.found ++ ", expected " ++ expected.text
  | .notOneKey => "invalid value: map, expected map with a single key"
  | .unknownChoice name first second =>
    "unknown variant `" ++ name ++ "`, expected `" ++ first ++ "` or `" ++ second ++ "`"
  | .tooLong length =>
    "invalid length " ++ toString length ++ ", expected fewer elements in array"

/-- A cause and the path to the value it is about. -/
structure DecodeError where
  path : List String
  misfit : Misfit
  deriving Inhabited

/-- Reads a typed value. -/
abbrev Decoder (α : Type) := Json → Except DecodeError α

/-- The same error, one step further from the root. -/
def DecodeError.under (segment : String) (error : DecodeError) : DecodeError :=
  ⟨segment :: error.path, error.misfit⟩

/-- Decodes the value that lies under a segment. -/
def Decoder.under (decoder : Decoder α) (segment : String) : Decoder α := fun value =>
  match decoder value with
  | .ok result => .ok result
  | .error e => .error (e.under segment)

def misfit (cause : Misfit) : Except DecodeError α := .error ⟨[], cause⟩

def boolean : Decoder Bool
  | .bool value => .ok value
  | value => misfit (.kind value .boolean)

def text : Decoder String
  | .string value => .ok value
  | value => misfit (.kind value .string)

/-- Null, or what the decoder reads. -/
def optional (decoder : Decoder α) : Decoder (Option α)
  | .null => .ok none
  | value => (decoder value).map some

/-- Null and nothing else. -/
def unit : Decoder Unit
  | .null => .ok ()
  | value => misfit (.kind value .unit)

/-- One of two choices by name. -/
def choiceNamed (first second : String × α) (name : String) : Except DecodeError α :=
  if name = first.1 then .ok first.2
  else if name = second.1 then .ok second.2
  else misfit (.unknownChoice name first.1 second.1)

def choice (first second : String × α) : Decoder α
  | .string name => choiceNamed first second name
  | .object [(name, content)] =>
    match choiceNamed first second name with
    | .ok result =>
      match Decoder.under unit name content with
      | .ok _ => .ok result
      | .error e => .error e
    | .error e => .error e
  | .object _ => misfit .notOneKey
  | value => misfit (.kind value .choice)

/-- A field of a record: its name, and how its value changes the record. -/
structure Field (ρ : Type) where
  name : String
  update : ρ → Decoder ρ

/-- Reads members into a record, in the order of the members. -/
def decodeMembers (fields : List (Field ρ)) : ρ → Keyed Json → Except DecodeError ρ
  | record, [] => .ok record
  | record, (key, value) :: rest =>
    match fields.find? (fun field => field.name == key) with
    | none => decodeMembers fields record rest
    | some field =>
      match Decoder.under (field.update record) key value with
      | .ok record => decodeMembers fields record rest
      | .error e => .error e

/-- Reads items into the fields of a record, the next one at the given position. -/
def decodeItems : List (Field ρ) → Nat → ρ → List Json → Except DecodeError ρ
  | field :: fields, i, record, value :: rest =>
    match Decoder.under (field.update record) (toString i) value with
    | .ok record => decodeItems fields (i + 1) record rest
    | .error e => .error e
  | [], i, _, value :: rest => misfit (.tooLong (i + (value :: rest).length))
  | _, _, record, [] => .ok record

/-- A record: its fields start from their defaults. -/
def record (name : String) (fields : List (Field ρ)) (defaults : ρ) : Decoder ρ
  | .object members => decodeMembers fields defaults members
  | .array items => decodeItems fields 0 defaults items
  | value => misfit (.kind value (.record name))

end SchemaTables.Json
