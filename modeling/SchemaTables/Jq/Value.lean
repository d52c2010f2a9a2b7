import SchemaTables.Decimal.Reading
import SchemaTables.Decimal.Shortest
import SchemaTables.Json.Printer
import SchemaTables.Json.Reader
import SchemaTables.Text.Segments

/-!
# Values of filters

A filter works on the values of documents.  Numbers are of three kinds: integers of 64 bits,
machine numbers, and decimals, which keep the text they were written with until something is
calculated with them.
-/

namespace SchemaTables.Jq

open Decimal

inductive Value
  | null
  | bool (value : Bool)
  | int (value : Int)
  | float (value : Float)
  | decimal (text : String)
  | string (value : String)
  | array (items : List Value)
  | object (members : List (String × Value))
  deriving Inhabited

/-- Does an integer fit 64 bits? -/
def isWord (value : Int) : Bool := -0x8000000000000000 ≤ value && value < 0x8000000000000000

def floatOfInt (value : Int) : Float :=
  let magnitude := (Binary64.ofNat value.natAbs).toFloat
  if value < 0 then -magnitude else magnitude

/-- The machine number nearest to a decimal. -/
def floatOfDecimal (text : String) : Float :=
  match Scientific.ofText? text with
  | some decimal => decimal.toFloat
  | none => 0.0 / 0.0

namespace Value

/-- The value that a number literal writes. -/
def ofLiteral (text : String) : Value :=
  match text.toInt? with
  | some value => if text.toList.all Char.isDigit && isWord value then .int value else .decimal text
  | none => .decimal text

def ofNumber : Number → Value
  | .int value => if isWord value then .int value else .decimal (Number.text (.int value))
  | .float value => .decimal (Number.text (.float value))

mutual

def ofJson : Json → Value
  | .null => .null
  | .bool value => .bool value
  | .number value => ofNumber value
  | .string value => .string value
  | .array items => .array (ofItems items)
  | .object members => .object (ofMembers members)

def ofItems : List Json → List Value
  | [] => []
  | item :: rest => ofJson item :: ofItems rest

def ofMembers : List (String × Json) → List (String × Value)
  | [] => []
  | (key, value) :: rest => (key, ofJson value) :: ofMembers rest

end

/-- A machine number in a document; there is none that is not finite. -/
def jsonOfFloat (value : Float) : Json :=
  match Binary64.ofFloat? value with
  | some value => .number (.float value)
  | none => .null

def jsonOfDecimal (text : String) : Json :=
  match Json.read text with
  | .ok (.number value) => .number value
  | _ => jsonOfFloat (floatOfDecimal text)

mutual

def toJson : Value → Json
  | .null => .null
  | .bool value => .bool value
  | .int value => .number (.int value)
  | .float value => jsonOfFloat value
  | .decimal text => jsonOfDecimal text
  | .string value => .string value
  | .array items => .array (toItems items)
  | .object members => .object (toMembers members)

def toItems : List Value → List Json
  | [] => []
  | item :: rest => toJson item :: toItems rest

def toMembers : List (String × Value) → List (String × Json)
  | [] => []
  | (key, value) :: rest => (key, toJson value) :: toMembers rest

end

/-! ## Text -/

/-- Positional notation from `0.0001` to below `10 ^ 16`, elsewhere scientific notation. -/
def layout : Layout := ⟨-4, 15, false⟩

def floatText (value : Float) : String :=
  match Binary64.ofFloat? value with
  | some value => layout.text value
  | none => "null"

/-- A character in a quoted string. -/
def escapeChar (c : Char) : List Char :=
  if c = '"' then ['\\', '"']
  else if c = '\\' then ['\\', '\\']
  else if c = '\n' then ['\\', 'n']
  else if c = '\r' then ['\\', 'r']
  else if c = '\t' then ['\\', 't']
  else if c.toNat < 0x20 then
    ['\\', 'u', '0', '0', Json.hexLetter (c.toNat / 16), Json.hexLetter (c.toNat % 16)]
  else [c]

def quote (text : String) : String :=
  String.ofList ('"' :: text.toList.flatMap escapeChar ++ ['"'])

mutual

def text : Value → String
  | .null => "null"
  | .bool true => "true"
  | .bool false => "false"
  | .int value => toString value
  | .float value => floatText value
  | .decimal text => text
  | .string value => quote value
  | .array items => "[" ++ Text.join "," (itemTexts items) ++ "]"
  | .object members => "\x7b" ++ Text.join "," (memberTexts members) ++ "\x7d"

def itemTexts : List Value → List String
  | [] => []
  | item :: rest => item.text :: itemTexts rest

def memberTexts : List (String × Value) → List String
  | [] => []
  | (key, value) :: rest => (quote key ++ ":" ++ value.text) :: memberTexts rest

end

/-- The text of a value where a string stands for itself. -/
def plainText : Value → String
  | .string value => value
  | value => value.text

def typeName : Value → String
  | .null => "null"
  | .bool _ => "boolean"
  | .int _ | .float _ | .decimal _ => "number"
  | .string _ => "string"
  | .array _ => "array"
  | .object _ => "object"

/-- Does a value count as true? -/
def isTrue : Value → Bool
  | .null | .bool false => false
  | _ => true

/-! ## Order -/

/-- Machine numbers in order; what is not a number comes first. -/
def compareFloats (x y : Float) : Ordering :=
  if x.isNaN then .lt
  else if y.isNaN then .gt
  else if x < y then .lt
  else if y < x then .gt
  else .eq

/-- The place of the type of a value in the order of types. -/
def rank : Value → Nat
  | .null => 0
  | .bool _ => 1
  | .int _ | .float _ | .decimal _ => 2
  | .string _ => 3
  | .array _ => 4
  | .object _ => 5

/-- Strings in the order of their characters. -/
def compareStrings (x y : String) : Ordering :=
  if x < y then .lt else if y < x then .gt else .eq

/-- Members in the order of their keys. -/
def sortMembers (members : Keyed α) : Keyed α :=
  members.mergeSort fun x y => compareStrings x.1 y.1 != .gt

def float? : Value → Option Float
  | .int value => some (floatOfInt value)
  | .float value => some value
  | .decimal text => some (floatOfDecimal text)
  | _ => none

def compareKeys : List String → List String → Ordering
  | [], [] => .eq
  | [], _ :: _ => .lt
  | _ :: _, [] => .gt
  | x :: xs, y :: ys => (compareStrings x y).then (compareKeys xs ys)

/-- Values in order, down to a depth. -/
def compareWithin : Nat → Value → Value → Ordering
  | 0, _, _ => .eq
  | depth + 1, x, y =>
    let rec compareLists : List Value → List Value → Ordering
      | [], [] => .eq
      | [], _ :: _ => .lt
      | _ :: _, [] => .gt
      | x :: xs, y :: ys => (compareWithin depth x y).then (compareLists xs ys)
    match x, y with
    | .bool x, .bool y => compare x.toNat y.toNat
    | .int x, .int y => compare x y
    | .decimal x, .decimal y =>
      if x = y then .eq else compareFloats (floatOfDecimal x) (floatOfDecimal y)
    | .string x, .string y => compareStrings x y
    | .array xs, .array ys => compareLists xs ys
    | .object xs, .object ys =>
      let xs := sortMembers xs
      let ys := sortMembers ys
      (compareKeys xs.keys ys.keys).then (compareLists (xs.map Prod.snd) (ys.map Prod.snd))
    | x, y =>
      match x.float?, y.float? with
      | some x, some y => compareFloats x y
      | _, _ => compare x.rank y.rank

mutual

def depth : Value → Nat
  | .array items => depthOfItems items + 1
  | .object members => depthOfMembers members + 1
  | _ => 1

def depthOfItems : List Value → Nat
  | [] => 0
  | item :: rest => max item.depth (depthOfItems rest)

def depthOfMembers : List (String × Value) → Nat
  | [] => 0
  | (_, value) :: rest => max value.depth (depthOfMembers rest)

end

/-- Values in order: null, false, true, numbers, strings, arrays, objects. -/
def compareTo (x y : Value) : Ordering := compareWithin x.depth x y

def equals (x y : Value) : Bool := x.compareTo y == .eq

def isBefore (x y : Value) : Bool := x.compareTo y == .lt

end Value

end SchemaTables.Jq
