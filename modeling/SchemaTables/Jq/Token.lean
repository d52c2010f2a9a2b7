import SchemaTables.Text.CharacterRanges

/-!
# Words of the filter language

A text is cut into words, numbers, strings, signs and brackets.  A string may hold filters between
brackets, which are cut into tokens of their own.
-/

namespace SchemaTables.Jq

mutual

/-- A word of the filter language. -/
inductive Token
  | word (text : String)
  /-- A name after `$`. -/
  | variable (name : String)
  /-- A name after `@`. -/
  | format (name : String)
  | number (text : String)
  | string (parts : List StringPart)
  | sign (text : String)
  /-- A name after a dot. -/
  | key (name : String)

inductive StringPart
  | text (value : String)
  | filter (tokens : List Token)

end

instance : Inhabited Token := ⟨.word ""⟩

instance : Inhabited StringPart := ⟨.text ""⟩

namespace Scanning

/-- A letter, or a low line. -/
def isLetter (c : Char) : Bool := c.isAlpha || c == '_'

/-- What a name goes on with. -/
def isNamePart (c : Char) : Bool := isLetter c || c.isDigit

/-- What signs of several characters are made of. -/
def isSignPart (c : Char) : Bool := "|=!<>+-*/%".toList.contains c

/-- Drops blanks and remarks. -/
def skipBlanks : List Char → List Char
  | [] => []
  | c :: rest =>
    if Text.isBlank c then skipBlanks rest
    else if c = '#' then skipRemark rest
    else c :: rest
where
  /-- Drops what is left of a line. -/
  skipRemark : List Char → List Char
    | [] => []
    | c :: rest => if c = '\n' then skipBlanks rest else skipRemark rest

/-- A number at the start of a text: its characters and what follows them. -/
def number? (text : List Char) : Option (List Char × List Char) :=
  let (whole, rest) := text.span Char.isDigit
  let (fraction, rest) :=
    match rest with
    | '.' :: rest =>
      let (digits, rest) := rest.span Char.isDigit
      ('.' :: digits, rest)
    | rest => ([], rest)
  let mantissa := whole ++ fraction
  match rest with
  | 'e' :: rest => exponent? mantissa 'e' rest
  | 'E' :: rest => exponent? mantissa 'E' rest
  | rest => some (mantissa, rest)
where
  /-- The exponent behind its mark; it has a digit at least. -/
  exponent? (mantissa : List Char) (mark : Char) (rest : List Char) :
      Option (List Char × List Char) :=
    let (sign, rest) :=
      match rest with
      | '+' :: rest => (['+'], rest)
      | '-' :: rest => (['-'], rest)
      | rest => ([], rest)
    let (digits, rest) := rest.span Char.isDigit
    if digits.isEmpty then none else some (mantissa ++ mark :: sign ++ digits, rest)

def hexValue? (c : Char) : Option Nat :=
  if c.isDigit then some (c.toNat - '0'.toNat)
  else if 'a' ≤ c ∧ c ≤ 'f' then some (c.toNat - 'a'.toNat + 10)
  else if 'A' ≤ c ∧ c ≤ 'F' then some (c.toNat - 'A'.toNat + 10)
  else none

/-- The character with a code point of four hexadecimal digits. -/
def codePoint? (digits : List Char) : Option Char :=
  match digits.mapM hexValue? with
  | some [a, b, c, d] =>
    let n := ((a * 16 + b) * 16 + c) * 16 + d
    if n.isValidChar then some (Char.ofNat n) else none
  | _ => none

/-- The character that an escape of one letter means. -/
def escaped? (c : Char) : Option Char :=
  match c with
  | '"' => some '"'
  | '\\' => some '\\'
  | '/' => some '/'
  | 'b' => some '\x08'
  | 'f' => some '\x0c'
  | 'n' => some '\n'
  | 'r' => some '\r'
  | 't' => some '\t'
  | _ => none

/-- Text put in front of the parts of a string. -/
def withText (text : List Char) (parts : List StringPart) : List StringPart :=
  if text.isEmpty then parts else .text (String.ofList text.reverse) :: parts

mutual

/-- The parts of a string behind its opening quote; `pending` is the text before, reversed. -/
def stringParts? : Nat → List Char → List Char → Option (List StringPart × List Char)
  | 0, _, _ => none
  | fuel + 1, pending, text =>
    match text with
    | [] => none
    | '"' :: rest => some (withText pending [], rest)
    | '\\' :: '(' :: rest =>
      match tokens? fuel rest with
      | some (tokens, ')' :: rest) =>
        (stringParts? fuel [] rest).map fun (parts, rest) =>
          (withText pending (.filter tokens :: parts), rest)
      | _ => none
    | '\\' :: 'u' :: a :: b :: c :: d :: rest =>
      match codePoint? [a, b, c, d] with
      | some char => stringParts? fuel (char :: pending) rest
      | none => none
    | '\\' :: c :: rest =>
      match escaped? c with
      | some char => stringParts? fuel (char :: pending) rest
      | none => none
    | c :: rest => stringParts? fuel (c :: pending) rest

/-- A bracket, the tokens inside, and the bracket that closes it. -/
def bracketed? (opening closing : Char) :
    Nat → List Char → Option (List Token × List Char)
  | 0, _ => none
  | fuel + 1, text =>
    match tokens? fuel text with
    | some (inside, c :: rest) =>
      if c = closing then
        (tokens? fuel rest).map fun (others, rest) =>
          (.sign (String.ofList [opening]) :: inside ++
            .sign (String.ofList [closing]) :: others, rest)
      else none
    | _ => none

/-- Tokens up to a bracket that closes, or up to a character that starts no token. -/
def tokens? : Nat → List Char → Option (List Token × List Char)
  | 0, _ => none
  | fuel + 1, text =>
    match skipBlanks text with
    | [] => some ([], [])
    | '"' :: rest =>
      match stringParts? fuel [] rest with
      | some (parts, rest) =>
        (tokens? fuel rest).map fun (others, rest) => (.string parts :: others, rest)
      | none => none
    | '(' :: rest => bracketed? '(' ')' fuel rest
    | '[' :: rest => bracketed? '[' ']' fuel rest
    | '{' :: rest => bracketed? '{' '}' fuel rest
    | '.' :: '.' :: rest => more fuel (.sign "..") rest
    | '.' :: rest =>
      match rest with
      | c :: _ =>
        if isLetter c then named fuel .key rest else more fuel (.sign ".") rest
      | [] => some ([.sign "."], [])
    | '$' :: rest => named fuel .variable rest
    | '@' :: rest => named fuel .format rest
    | c :: rest =>
      if isLetter c then named fuel .word (c :: rest)
      else if c.isDigit then
        match number? (c :: rest) with
        | some (number, rest) => more fuel (.number (String.ofList number)) rest
        | none => none
      else if isSignPart c then
        let (sign, rest) := (c :: rest).span isSignPart
        more fuel (.sign (String.ofList sign)) rest
      else if c = ':' ∨ c = ';' ∨ c = ',' ∨ c = '?' then
        more fuel (.sign (String.ofList [c])) rest
      else some ([], c :: rest)

/-- A token and those behind it. -/
def more : Nat → Token → List Char → Option (List Token × List Char)
  | 0, _, _ => none
  | fuel + 1, token, rest => (tokens? fuel rest).map fun (others, rest) => (token :: others, rest)

/-- A name and the tokens behind it. -/
def named : Nat → (String → Token) → List Char → Option (List Token × List Char)
  | 0, _, _ => none
  | fuel + 1, kind, text =>
    match text with
    | c :: _ =>
      if isLetter c then
        let (name, rest) := text.span isNamePart
        (tokens? fuel rest).map fun (others, rest) => (kind (String.ofList name) :: others, rest)
      else none
    | [] => none

end

end Scanning

def Token.ofText? (text : String) : Option (List Token) :=
  match Scanning.tokens? (4 * text.length + 4) text.toList with
  | some (tokens, []) => some tokens
  | _ => none

end SchemaTables.Jq
