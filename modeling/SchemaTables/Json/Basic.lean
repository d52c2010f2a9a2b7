import SchemaTables.Json.Number
import SchemaTables.Keyed

/-!
# Documents

The value that a document is made of.  The members of an object are a keyed list: their order is
kept, and a text that repeats a key leaves one member of that name (see `Json.Reader`).
-/

namespace SchemaTables

/-- A document or a part of one. -/
inductive Json
  | null
  | bool (value : Bool)
  | number (value : Number)
  | string (value : String)
  | array (items : List Json)
  | object (members : List (String × Json))
  deriving Inhabited

namespace Json

def get? : Json → String → Option Json
  | .object members, key => Keyed.get? members key
  | _, _ => none

def members? : Json → Option (Keyed Json)
  | .object members => some members
  | _ => none

def items? : Json → Option (List Json)
  | .array items => some items
  | _ => none

def string? : Json → Option String
  | .string value => some value
  | _ => none

def number? : Json → Option Number
  | .number value => some value
  | _ => none

def bool? : Json → Option Bool
  | .bool value => some value
  | _ => none

def isObject (value : Json) : Bool := value.members?.isSome

def isString (value : Json) : Bool := value.string?.isSome

/-- A string member of a keyed list. -/
def stringMember? (members : Keyed Json) (key : String) : Option String :=
  (members.get? key).bind string?

mutual

/-- No object in the document has two members of one name. -/
def Distinct : Json → Prop
  | .array items => DistinctItems items
  | .object members => Keyed.Distinct members ∧ DistinctMembers members
  | _ => True

def DistinctItems : List Json → Prop
  | [] => True
  | item :: rest => Distinct item ∧ DistinctItems rest

def DistinctMembers : List (String × Json) → Prop
  | [] => True
  | (_, value) :: rest => Distinct value ∧ DistinctMembers rest

end

end Json

end SchemaTables
