import SchemaTables.Jq.Operation

/-!
# Filters

The expressions of the filter language.
-/

namespace SchemaTables.Jq

inductive Comparison
  | equal
  | notEqual
  | less
  | lessOrEqual
  | greater
  | greaterOrEqual
  deriving DecidableEq, Inhabited

def Comparison.holds (comparison : Comparison) (x y : Value) : Bool :=
  match comparison with
  | .equal => x.compareTo y == .eq
  | .notEqual => x.compareTo y != .eq
  | .less => x.compareTo y == .lt
  | .lessOrEqual => x.compareTo y != .gt
  | .greater => x.compareTo y == .gt
  | .greaterOrEqual => x.compareTo y != .lt

/-- A filter. -/
inductive Term
  | identity
  | number (text : String)
  | text (value : String)
  /-- A string with filters inside, their outputs written in a format. -/
  | template (format : Option String) (parts : List Term)
  | emptyArray
  | array (body : Term)
  | object (members : List (Term × Term))
  | negate (body : Term)
  | pipe (first second : Term)
  | comma (first second : Term)
  /-- Binds a variable to each output. -/
  | bind (source : Term) (name : String) (body : Term)
  | calculate (operator : Operator) (left right : Term)
  | compare (comparison : Comparison) (left right : Term)
  | both (left right : Term)
  | either (left right : Term)
  | alternative (left right : Term)
  | assign (target source : Term)
  | update (target change : Term)
  | updateCalculated (operator : Operator) (target source : Term)
  | updateMissing (target source : Term)
  | attempt (body : Term)
  | rescue (body handler : Term)
  | conditional (condition yes no : Term)
  | reduce (source : Term) (name : String) (start step : Term)
  | foreach (source : Term) (name : String) (start step result : Term)
  | label (name : String) (body : Term)
  | leave (name : String)
  | define (name : String) (parameters : List String) (body rest : Term)
  | call (name : String) (arguments : List Term)
  | variable (name : String)
  | recurse
  | values (base : Term) (optional : Bool)
  | index (base key : Term) (optional : Bool)
  | sliceFrom (base lower : Term) (optional : Bool)
  | sliceTo (base upper : Term) (optional : Bool)
  | slice (base lower upper : Term) (optional : Bool)
  deriving Inhabited

/-- A named filter. -/
structure Definition where
  name : String
  /-- Those that start with `$` are variables. -/
  parameters : List String
  body : Term
  deriving Inhabited

end SchemaTables.Jq
