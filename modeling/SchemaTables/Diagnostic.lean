import SchemaTables.Json.Decode
import SchemaTables.Schema.Storage
import SchemaTables.Text.Segments

/-!
# Diagnostics

What can be wrong with a document, and where.  The place is the path of member names from the root
of the document; a document that is not well-formed at all is reported at `#`.
-/

namespace SchemaTables

/-- Why a property cannot be a primary key. -/
inductive KeyProblem
  | reference
  | container (shape : Container)
  | number
  | temporal (format : TextFormat)
  deriving DecidableEq, Inhabited

/-- What the property would be. -/
def KeyProblem.text : KeyProblem → String
  | .reference => "a \"$ref\""
  | .container shape => "of type \"" ++ shape.name ++ "\""
  | .number => "of type \"number\""
  | .temporal format => "of type \"string\" format \"" ++ format.name ++ "\""

/-- What can be wrong. -/
inductive Fault
  | malformed
  | notATable
  | unsupportedColumn
  | unsupportedFormat (name : String)
  | referenceStart
  | referenceTooShort
  | defaultNotScalar
  | choiceNotScalar
  | metadata (misfit : Json.Misfit)
  | objectWithoutProperties
  | arrayWithoutItems
  | arrayOfArrays
  /-- The property `id` stands in for a primary key and cannot be one. -/
  | implicitKey (problem : KeyProblem)
  | explicitKey (problem : KeyProblem)
  /-- The named property needs a key to refer back to. -/
  | keyless (name : String) (shape : Container)
  | missingField (name : String)
  | unknownKey (name : String)
  | unknownTable (target table : String)
  | unknownColumn (target table column : String)
  | unreferenceable (target table column : String) (type : StorageType)
  deriving Inhabited

def Fault.message : Fault → String
  | .malformed => "Invalid JSON Schema syntax"
  | .notATable => "Tables must be object schemas with \"properties\""
  | .unsupportedColumn => "Unsupported column schema"
  | .unsupportedFormat name => "Unsupported string format \"" ++ name ++ "\""
  | .referenceStart => "$ref must start with \"#/\""
  | .referenceTooShort =>
    "$ref must include at least one table and a column, e.g. \"#/users/id\""
  | .defaultNotScalar => "Default must be a string, number or boolean"
  | .choiceNotScalar => "Enum values must be strings, numbers or booleans"
  | .metadata misfit => "Invalid metadata: " ++ misfit.message
  | .objectWithoutProperties => "Object columns must declare \"properties\""
  | .arrayWithoutItems => "Array columns must declare \"items\""
  | .arrayOfArrays => "Arrays cannot directly contain arrays"
  | .implicitKey problem =>
    "\"id\" is considered a primary key when \"x-primary-key\" is missing and cannot be "
      ++ problem.text
  | .explicitKey problem => "Primary key cannot be " ++ problem.text
  | .keyless name shape =>
    "Must have an \"id\" property or a custom primary key via \"x-primary-key\" because it has " ++
      "nested \"" ++ name ++ "\" of type \"" ++ shape.name ++ "\""
  | .missingField name => "Requires missing field \"" ++ name ++ "\""
  | .unknownKey name => "Refers to unknown field \"" ++ name ++ "\""
  | .unknownTable target table => target ++ " references unknown table \"" ++ table ++ "\""
  | .unknownColumn target table column =>
    target ++ " references unknown column \"" ++ column ++ "\" in table \"" ++ table ++ "\""
  | .unreferenceable target table column type =>
    target ++ " references disallowed \"" ++ type.name ++ "\" type column \"" ++ column ++
      "\" in table \"" ++ table ++ "\""

/-- A fault and the path to it. -/
structure Diagnostic where
  path : List String
  fault : Fault
  deriving Inhabited

namespace Diagnostic

def message (diagnostic : Diagnostic) : String := diagnostic.fault.message

/-- The path with a slash between segments. -/
def location (diagnostic : Diagnostic) : String := Text.join "/" diagnostic.path

def text (diagnostic : Diagnostic) : String := diagnostic.message ++ " at " ++ diagnostic.location

end Diagnostic

end SchemaTables
