import SchemaTables.Json.Basic
import SchemaTables.Pattern.Validity

/-!
# Well-formed schemas

The general keywords of a schema have values of certain shapes, and some of them hold further
schemas.  A schema is well-formed when this holds of it and of all schemas inside it; keywords
that are not listed here may hold anything.  Which texts are valid patterns is not decided here, but
a parameter of the check.

A document is a well-formed schema for an object with properties.
-/

namespace SchemaTables.Schema

/-- The shape of a keyword's value. -/
inductive Shape
  | typeNames
  | natural
  | number
  | positive
  | text
  | truth
  | pattern
  | names
  | values
  | schema
  | schemaMap
  | patternMap
  | dependencies
  | someSchemas
  | items
  | anything
  deriving DecidableEq, Inhabited

/-- The keywords that are checked, with the shapes of their values. -/
def keywords : Keyed Shape :=
  [ ("type", .typeNames),
    ("minLength", .natural), ("maxLength", .natural), ("minItems", .natural),
    ("maxItems", .natural), ("minProperties", .natural), ("maxProperties", .natural),
    ("minimum", .number), ("maximum", .number), ("exclusiveMinimum", .number),
    ("exclusiveMaximum", .number), ("multipleOf", .positive),
    ("title", .text), ("description", .text), ("$ref", .text), ("$id", .text),
    ("$schema", .text), ("$comment", .text), ("format", .text),
    ("uniqueItems", .truth), ("readOnly", .truth), ("writeOnly", .truth),
    ("pattern", .pattern), ("required", .names), ("enum", .values),
    ("additionalItems", .schema), ("additionalProperties", .schema), ("contains", .schema),
    ("propertyNames", .schema), ("not", .schema), ("if", .schema), ("then", .schema),
    ("else", .schema), ("properties", .schemaMap), ("definitions", .schemaMap),
    ("patternProperties", .patternMap), ("dependencies", .dependencies),
    ("allOf", .someSchemas), ("anyOf", .someSchemas), ("oneOf", .someSchemas),
    ("items", .items) ]

def shapeOf (keyword : String) : Shape := (Keyed.get? keywords keyword).getD .anything

def typeNames : List String :=
  ["array", "boolean", "integer", "null", "number", "object", "string"]

/-- The texts of an array that holds nothing else, each once. -/
def uniqueTexts? (value : Json) : Option (List String) :=
  match value with
  | .array items =>
    match items.mapM Json.string? with
    | some texts => if texts.Nodup then some texts else none
    | none => none
  | _ => none

/-- Does a value name one type, or several different ones? -/
def isTypeNames (value : Json) : Bool :=
  match value with
  | .string name => typeNames.contains name
  | .array items => !items.isEmpty && (uniqueTexts? value).any (·.all typeNames.contains)
  | _ => false

def isNatural (value : Json) : Bool := (value.number?.bind Number.natural?).isSome

def isPositive (value : Json) : Bool := value.number?.any Number.isPositive

/-- Is the value a text that is a valid pattern? -/
def isPattern (isValid : String → Bool) (value : Json) : Bool := value.string?.any isValid

mutual

/-- Is the value a well-formed schema?  It is a truth value, or an object whose keywords have
values of the right shapes. -/
def isWellFormed (value : Json) (isValid : String → Bool := Pattern.isValid) : Bool :=
  match value with
  | .bool _ => true
  | .object members => allKeywords members isValid
  | _ => false

/-- Do all members of a schema have values of the right shapes? -/
def allKeywords (members : List (String × Json)) (isValid : String → Bool) : Bool :=
  match members with
  | [] => true
  | (keyword, value) :: rest =>
    (match shapeOf keyword, value with
      | .typeNames, value => isTypeNames value
      | .natural, value => isNatural value
      | .number, value => value.number?.isSome
      | .positive, value => isPositive value
      | .text, value => value.isString
      | .truth, value => value.bool?.isSome
      | .pattern, value => isPattern isValid value
      | .names, value => (uniqueTexts? value).isSome
      | .values, value => value.items?.isSome
      | .schema, value => isWellFormed value isValid
      | .schemaMap, .object schemas => allMembers schemas isValid
      | .patternMap, .object schemas =>
        (Keyed.keys schemas).all isValid && allMembers schemas isValid
      | .dependencies, .object schemas => allDependencies schemas isValid
      | .someSchemas, .array schemas => !schemas.isEmpty && allItems schemas isValid
      | .items, .array schemas => allItems schemas isValid
      | .items, value => isWellFormed value isValid
      | .anything, _ => true
      | _, _ => false) && allKeywords rest isValid

def allItems (items : List Json) (isValid : String → Bool) : Bool :=
  match items with
  | [] => true
  | item :: rest => isWellFormed item isValid && allItems rest isValid

def allMembers (members : List (String × Json)) (isValid : String → Bool) : Bool :=
  match members with
  | [] => true
  | (_, value) :: rest => isWellFormed value isValid && allMembers rest isValid

/-- Is each value a well-formed schema, or an array of different names? -/
def allDependencies (members : List (String × Json)) (isValid : String → Bool) : Bool :=
  match members with
  | [] => true
  | (_, value) :: rest =>
    (isWellFormed value isValid || (uniqueTexts? value).isSome) && allDependencies rest isValid

end

def isObjectSchema (members : Keyed Json) : Bool :=
  Json.stringMember? members "type" == some "object"

def objectProperties? (members : Keyed Json) : Option (Keyed Json) :=
  if isObjectSchema members then (members.get? "properties").bind Json.members? else none

/-- The properties of a well-formed document. -/
def documentProperties? (document : Json) : Option (Keyed Json) :=
  match document with
  | .object members =>
    match objectProperties? members with
    | some properties => if isWellFormed document then some properties else none
    | none => none
  | _ => none

def isDocument (document : Json) : Bool := (documentProperties? document).isSome

end SchemaTables.Schema
