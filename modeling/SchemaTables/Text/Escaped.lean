import SchemaTables.Text.CharacterRanges

/-!
# Texts shown in messages

A text inside a message is quoted, and every character that would not show as itself is written
as an escape: quotes and backslashes, line breaks and tabs, and by its code point any character
that does not print or that would attach itself to the one before.
-/

namespace SchemaTables.Text

def codePointEscape (c : Char) : List Char :=
  '\\' :: 'u' :: '{' :: Nat.toDigits 16 c.toNat ++ ['}']

/-- A character as it is shown in a message. -/
def showChar (c : Char) : List Char :=
  if c = '\x00' then ['\\', '0']
  else if c = '\t' then ['\\', 't']
  else if c = '\r' then ['\\', 'r']
  else if c = '\n' then ['\\', 'n']
  else if c = '\\' then ['\\', '\\']
  else if c = '"' then ['\\', '"']
  else if c.toNat < 0x20 then codePointEscape c
  else if c.toNat < 0x7F then [c]
  else if inRanges extendingRanges c.toNat || inRanges unprintableRanges c.toNat then
    codePointEscape c
  else [c]

/-- A text in quotes, as it is shown in a message. -/
def escaped (text : String) : String :=
  String.ofList ('"' :: text.toList.flatMap showChar ++ ['"'])

end SchemaTables.Text
