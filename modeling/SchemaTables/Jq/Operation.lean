import SchemaTables.Jq.Value

/-!
# Operations on values

Calculation, access to items and members, and the faults that these can meet.
-/

namespace SchemaTables.Jq

open Decimal

/-- The operators of calculation. -/
inductive Operator
  | add
  | subtract
  | multiply
  | divide
  | remainder
  deriving DecidableEq, Inhabited

def Operator.sign : Operator → String
  | .add => "+"
  | .subtract => "-"
  | .multiply => "*"
  | .divide => "/"
  | .remainder => "%"

/-- What a value is needed as. -/
inductive Role
  | iterable
  | rangeable
  | integer
  | number
  | string
  | array
  deriving DecidableEq, Inhabited

def Role.text : Role → String
  | .iterable => "iterable (array or object)"
  | .rangeable => "rangeable (array or string)"
  | .integer => "integer"
  | .number => "number"
  | .string => "string"
  | .array => "array"

/-- Why a filter has no further output. -/
inductive Fault
  /-- The filter itself raised a value. -/
  | raised (value : Value)
  | unusable (value : Value) (role : Role)
  | unindexable (value key : Value)
  | incalculable (left : Value) (operator : Operator) (right : Value)
  /-- Something else than a path is to be changed. -/
  | noPath (value : Value)
  | tooDeep
  deriving Inhabited

def Fault.message : Fault → String
  | .raised value => value.text
  | .unusable value role => "cannot use " ++ value.text ++ " as " ++ role.text
  | .unindexable value key => "cannot index " ++ value.text ++ " with " ++ key.text
  | .incalculable left operator right =>
    "cannot calculate " ++ left.text ++ " " ++ operator.sign ++ " " ++ right.text
  | .noPath value => "invalid path expression with input " ++ value.text
  | .tooDeep => "recursion limit exceeded"

/-- The value that a fault is to the filter that catches it. -/
def Fault.toValue : Fault → Value
  | .raised value => value
  | fault => .string fault.message

namespace Value

/-! ## Calculation -/

/-- An integer, or a machine number where it does not fit 64 bits. -/
def ofIntOr (value : Int) (otherwise : Float) : Value :=
  if isWord value then .int value else .float otherwise

/-- The remainder of a division that truncates, with the sign of the dividend. -/
def floatRemainder (x y : Float) : Float :=
  match Binary64.ofFloat? x, Binary64.ofFloat? y with
  | some dividend, some divisor =>
    if divisor.isZero then 0.0 / 0.0
    else
      let (a, b) := dividend.ratio
      let (c, d) := divisor.ratio
      match Binary64.ofRatio? dividend.isNegative (a * d % (c * b)) (b * d) with
      | some value => value.toFloat
      | none => 0.0 / 0.0
  | some _, none => if y.isNaN then y else x
  | none, _ => 0.0 / 0.0

/-- Objects merged, those in both of them member by member; down to a depth. -/
def mergeWithin : Nat → List (String × Value) → List (String × Value) → List (String × Value)
  | 0, left, _ => left
  | depth + 1, left, right =>
    right.foldl
      (fun merged (key, value) =>
        match Keyed.get? merged key, value with
        | some (.object inner), .object value =>
          Keyed.insert merged key (.object (mergeWithin depth inner value))
        | _, value => Keyed.insert merged key value)
      left

/-- A string as often as a number says. -/
def repeated (text : String) (count : Int) : Value :=
  if 0 < count then .string (Text.concat (List.replicate count.toNat text)) else .null

/-- A string cut at every place where another one stands. -/
def splitString (text separator : String) : Value :=
  if text.isEmpty then .array []
  else if separator.isEmpty then .array (text.toList.map fun c => .string (String.ofList [c]))
  else .array ((text.splitOn separator).map .string)

def calculateFloats (operator : Operator) (x y : Float) : Float :=
  match operator with
  | .add => x + y
  | .subtract => x - y
  | .multiply => x * y
  | .divide => x / y
  | .remainder => floatRemainder x y

/-- Calculates with integers, where that is defined. -/
def calculateInts? (operator : Operator) (x y : Int) : Option Value :=
  let floats := calculateFloats operator (floatOfInt x) (floatOfInt y)
  match operator with
  | .add => some (ofIntOr (x + y) floats)
  | .subtract => some (ofIntOr (x - y) floats)
  | .multiply => some (ofIntOr (x * y) floats)
  | .divide => some (.float floats)
  | .remainder => if y = 0 then none else some (.int (x.tmod y))

/-- Calculates with what is not a pair of numbers, where that is defined. -/
def calculateOthers? : Operator → Value → Value → Option Value
  | .add, .null, right => some right
  | .add, left, .null => some left
  | .add, .string left, .string right => some (.string (left ++ right))
  | .add, .array left, .array right => some (.array (left ++ right))
  | .add, .object left, .object right =>
    some (.object (right.foldl (fun merged (key, value) => Keyed.insert merged key value) left))
  | .subtract, .array left, .array right =>
    some (.array (left.filter fun item => !right.any item.equals))
  | .multiply, .string text, .int count => some (repeated text count)
  | .multiply, .int count, .string text => some (repeated text count)
  | .multiply, .object left, .object right =>
    some (.object (mergeWithin (depth (.object right)) left right))
  | .divide, .string text, .string separator => some (splitString text separator)
  | _, _, _ => none

def calculate (operator : Operator) (left right : Value) : Except Fault Value :=
  let result? :=
    match left, right with
    | .int x, .int y => calculateInts? operator x y
    | left, right =>
      match left.float?, right.float? with
      | some x, some y => some (.float (calculateFloats operator x y))
      | _, _ => calculateOthers? operator left right
  match result? with
  | some value => .ok value
  | none => .error (.incalculable left operator right)

def negate (value : Value) : Except Fault Value :=
  match value with
  | .int x => .ok (ofIntOr (-x) (-(floatOfInt x)))
  | value =>
    match value.float? with
    | some x => .ok (.float (-x))
    | none => .error (.unusable value .number)

def floor (value : Value) : Except Fault Value :=
  match value with
  | .int x => .ok (.int x)
  | value =>
    match value.float? with
    | some x => .ok (.int x.floor.toInt64.toInt)
    | none => .error (.unusable value .number)

/-- The length of a string, an array or an object, and the magnitude of a number. -/
def length (value : Value) : Except Fault Value :=
  match value with
  | .null => .ok (.int 0)
  | .bool _ => .error (.raised (.string (value.text ++ " has no length")))
  | .int x => .ok (.int x.natAbs)
  | .float x => .ok (.float x.abs)
  | .decimal text => .ok (.float (floatOfDecimal text).abs)
  | .string text => .ok (.int text.length)
  | .array items => .ok (.int items.length)
  | .object members => .ok (.int members.length)

/-! ## Access -/

/-- The position that an index means; a negative one counts from the end. -/
def position? (index : Int) (length : Nat) : Option Nat :=
  let place := if index < 0 then index + length else index
  if 0 ≤ place ∧ place < length then some place.toNat else none

/-- The item or member under a key. -/
def index (value key : Value) : Except Fault Value :=
  match value, key with
  | .array items, .int i => .ok (((position? i items.length).bind (items[·]?)).getD .null)
  | .object members, .string name => .ok ((Keyed.get? members name).getD .null)
  | .array _, key => .error (.unindexable value key)
  | .object _, key => .error (.unindexable value key)
  | value, _ => .error (.unusable value .iterable)

def has (value key : Value) : Except Fault Value :=
  match value, key with
  | .array items, .int i =>
    if 0 ≤ i then .ok (.bool (i < items.length)) else .error (.unindexable value key)
  | .object members, .string name => .ok (.bool (Keyed.contains members name))
  | value, key => .error (.unindexable value key)

/-- The items or the values of the members. -/
def items (value : Value) : Except Fault (List Value) :=
  match value with
  | .array items => .ok items
  | .object members => .ok (members.map Prod.snd)
  | value => .error (.unusable value .iterable)

/-- The positions or the names, in order. -/
def keys (value : Value) : Except Fault (List Value) :=
  match value with
  | .array items => .ok ((List.range items.length).map fun (i : Nat) => .int i)
  | .object members => .ok (members.map fun (key, _) => .string key)
  | value => .error (.unusable value .iterable)

/-- An end of a slice, where it is given. -/
def bound? : Option Value → Except Fault (Option Int)
  | none => .ok none
  | some (.int i) => .ok (some i)
  | some value => .error (.unusable value .integer)

/-- The place in a sequence that an end of a slice means. -/
def boundPlace (length otherwise : Nat) : Option Int → Nat
  | none => otherwise
  | some i => min length (if i < 0 then (i + length).toNat else i.toNat)

/-- Where a slice starts, and how long it is. -/
def span (length : Nat) (lower upper : Option Value) : Except Fault (Nat × Nat) :=
  match bound? lower, bound? upper with
  | .ok lower, .ok upper =>
    let start := boundPlace length 0 lower
    .ok (start, boundPlace length length upper - start)
  | .error fault, _ => .error fault
  | .ok _, .error fault => .error fault

def slice (value : Value) (lower upper : Option Value) : Except Fault Value :=
  match value with
  | .array items =>
    (span items.length lower upper).map fun (start, count) => .array ((items.drop start).take count)
  | .string text =>
    (span text.length lower upper).map fun (start, count) =>
      .string (String.ofList ((text.toList.drop start).take count))
  | value => .error (.unusable value .rangeable)

def member (key value : Value) : Except Fault Value :=
  match key with
  | .string name => .ok (.object [(name, value)])
  | key => .error (.unusable key .string)

end Value

end SchemaTables.Jq
