import SchemaTables.Json.Basic
import SchemaTables.Text.Segments

/-!
# Writing documents

The compact form has no blanks; the indented form has one item or member a line, two blanks a
level, and writes an empty array or object without a break.
-/

namespace SchemaTables.Json

/-- A hexadecimal digit in lower case. -/
def hexLetter (n : Nat) : Char := (Nat.toDigits 16 n).headD '0'

/-- A character inside a quoted string. -/
def escapeChar (c : Char) : List Char :=
  if c = '"' then ['\\', '"']
  else if c = '\\' then ['\\', '\\']
  else if c = '\n' then ['\\', 'n']
  else if c = '\r' then ['\\', 'r']
  else if c = '\t' then ['\\', 't']
  else if c = '\x08' then ['\\', 'b']
  else if c = '\x0c' then ['\\', 'f']
  else if c.toNat < 0x20 then
    ['\\', 'u', '0', '0', hexLetter (c.toNat / 16), hexLetter (c.toNat % 16)]
  else [c]

def quote (text : String) : String :=
  String.ofList ('"' :: text.toList.flatMap escapeChar ++ ['"'])

mutual

def compact : Json → String
  | .null => "null"
  | .bool true => "true"
  | .bool false => "false"
  | .number value => value.text
  | .string value => quote value
  | .array items => "[" ++ Text.join "," (compactItems items) ++ "]"
  | .object members => "\x7b" ++ Text.join "," (compactMembers members) ++ "\x7d"

def compactItems : List Json → List String
  | [] => []
  | item :: rest => compact item :: compactItems rest

def compactMembers : List (String × Json) → List String
  | [] => []
  | (key, value) :: rest => (quote key ++ ":" ++ compact value) :: compactMembers rest

end

/-- Two blanks for every level. -/
def indent (level : Nat) : String := String.ofList (List.replicate (2 * level) ' ')

/-- Parts between brackets, one a line. -/
def block (opening closing : String) (level : Nat) (parts : List String) : String :=
  if parts.isEmpty then opening ++ closing
  else
    let lead := "\n" ++ indent (level + 1)
    opening ++ lead ++ Text.join ("," ++ lead) parts ++ "\n" ++ indent level ++ closing

mutual

/-- The indented form at a level. -/
def indented (level : Nat) : Json → String
  | .array items => block "[" "]" level (indentedItems (level + 1) items)
  | .object members => block "\x7b" "\x7d" level (indentedMembers (level + 1) members)
  | .null => "null"
  | .bool true => "true"
  | .bool false => "false"
  | .number value => value.text
  | .string value => quote value

def indentedItems (level : Nat) : List Json → List String
  | [] => []
  | item :: rest => indented level item :: indentedItems level rest

def indentedMembers (level : Nat) : List (String × Json) → List String
  | [] => []
  | (key, value) :: rest =>
    (quote key ++ ": " ++ indented level value) :: indentedMembers level rest

end

def pretty (value : Json) : String := indented 0 value

end SchemaTables.Json
