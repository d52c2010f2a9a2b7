import SchemaTables.Json.Basic

/-!
# Reading documents

The grammar of documents.  A text that is not a document is refused with a reason and a place: a
line and a column, where columns count the bytes of the line up to and with the offending one.
Nesting is limited; `read` allows 127 levels.

If an object repeats a key, the last value stands, in the place of the first.
-/

namespace SchemaTables.Json

/-- Why a text is not a document. -/
inductive Flaw
  | endInList
  | endInObject
  | endInString
  | endInValue
  | expectedColon
  | expectedListEnd
  | expectedObjectEnd
  | expectedWord
  | expectedValue
  | badEscape
  | badNumber
  | numberOutOfRange
  | loneSurrogate
  | unfinishedSurrogate
  | controlCharacter
  | keyNotString
  | trailingComma
  | trailingCharacters
  | tooDeep
  deriving DecidableEq, Inhabited

def Flaw.message : Flaw → String
  | .endInList => "EOF while parsing a list"
  | .endInObject => "EOF while parsing an object"
  | .endInString => "EOF while parsing a string"
  | .endInValue => "EOF while parsing a value"
  | .expectedColon => "expected `:`"
  | .expectedListEnd => "expected `,` or `]`"
  | .expectedObjectEnd => "expected `,` or `\x7d`"
  | .expectedWord => "expected ident"
  | .expectedValue => "expected value"
  | .badEscape => "invalid escape"
  | .badNumber => "invalid number"
  | .numberOutOfRange => "number out of range"
  | .loneSurrogate => "lone leading surrogate in hex escape"
  | .unfinishedSurrogate => "unexpected end of hex escape"
  | .controlCharacter =>
    "control character (\\u0000-\\u001F) found while parsing a string"
  | .keyNotString => "key must be a string"
  | .trailingComma => "trailing comma"
  | .trailingCharacters => "trailing characters"
  | .tooDeep => "recursion limit exceeded"

/-- A place in a text: lines count from one, columns count bytes. -/
structure Place where
  line : Nat
  column : Nat
  deriving DecidableEq, Inhabited

/-- A flaw and where it was found. -/
structure ReadError where
  flaw : Flaw
  place : Place
  deriving DecidableEq, Inhabited

def ReadError.message (error : ReadError) : String :=
  error.flaw.message ++ " at line " ++ toString error.place.line ++ " column " ++
    toString error.place.column

/-- What is left of a text, and the place before it. -/
structure Cursor where
  rest : List Char
  place : Place := ⟨1, 0⟩

/-- The place behind some bytes; the end of the text stops the count. -/
def Place.advance : Place → List Char → Nat → Place
  | place, _, 0 => place
  | place, [], _ => place
  | place, c :: rest, bytes =>
    if c = '\n' then advance ⟨place.line + 1, 0⟩ rest (bytes - 1)
    else if bytes < c.utf8Size then ⟨place.line, place.column + bytes⟩
    else advance ⟨place.line, place.column + c.utf8Size⟩ rest (bytes - c.utf8Size)

namespace Cursor

/-- The cursor behind one character. -/
def after (s : Cursor) (c : Char) (rest : List Char) : Cursor :=
  ⟨rest, s.place.advance [c] c.utf8Size⟩

/-- The error behind some bytes from here. -/
def error (s : Cursor) (flaw : Flaw) (bytes : Nat) : ReadError :=
  ⟨flaw, s.place.advance s.rest bytes⟩

def errorAhead (s : Cursor) (flaw : Flaw) : ReadError := s.error flaw 1

def errorAtEnd (s : Cursor) (flaw : Flaw) : ReadError :=
  s.error flaw (s.rest.foldl (fun n c => n + c.utf8Size) 0)

/-- Blank characters between the parts of a document. -/
def isBlank (c : Char) : Bool := c == ' ' || c == '\n' || c == '\t' || c == '\r'

def skipBlanks : List Char → Place → Cursor
  | [], place => ⟨[], place⟩
  | c :: rest, place =>
    if isBlank c then skipBlanks rest (place.advance [c] 1) else ⟨c :: rest, place⟩

/-- The cursor behind blanks. -/
def trim (s : Cursor) : Cursor := skipBlanks s.rest s.place

end Cursor

/-- Reading either refuses or gives a value and what is left. -/
abbrev Reading (α : Type) := Except ReadError (α × Cursor)

def hexDigit? (c : Char) : Option Nat :=
  if '0' ≤ c ∧ c ≤ '9' then some (c.toNat - '0'.toNat)
  else if 'a' ≤ c ∧ c ≤ 'f' then some (c.toNat - 'a'.toNat + 10)
  else if 'A' ≤ c ∧ c ≤ 'F' then some (c.toNat - 'A'.toNat + 10)
  else none

def decimalDigit? (c : Char) : Option Nat :=
  if '0' ≤ c ∧ c ≤ '9' then some (c.toNat - '0'.toNat) else none

/-- Four hexadecimal digits; refused as unfinished when fewer than four bytes are left. -/
def readHexUnit (s : Cursor) : Reading Nat :=
  if (s.rest.take 4).foldl (fun n c => n + c.utf8Size) 0 < 4 then .error (s.errorAtEnd .endInString)
  else
    match s.rest with
    | a :: b :: c :: d :: rest =>
      match hexDigit? a, hexDigit? b, hexDigit? c, hexDigit? d with
      | some a, some b, some c, some d =>
        .ok (((a * 16 + b) * 16 + c) * 16 + d, ⟨rest, ⟨s.place.line, s.place.column + 4⟩⟩)
      | _, _, _, _ => .error (s.error .badEscape 4)
    | _ => .error (s.error .badEscape 4)

/-- The second half of a pair of surrogates, after the first one. -/
def readLowSurrogate (high : Nat) (s : Cursor) : Reading Char :=
  match s.rest with
  | [] => .error (s.error .endInString 0)
  | '\\' :: [] => .error (s.error .endInString 1)
  | '\\' :: 'u' :: rest =>
    match readHexUnit ⟨rest, ⟨s.place.line, s.place.column + 2⟩⟩ with
    | .ok (low, s) =>
      if 0xDC00 ≤ low ∧ low ≤ 0xDFFF then
        .ok (Char.ofNat ((high - 0xD800) * 0x400 + (low - 0xDC00) + 0x10000), s)
      else .error (s.error .loneSurrogate 0)
    | .error e => .error e
  | '\\' :: _ => .error (s.error .unfinishedSurrogate 2)
  | _ => .error (s.error .unfinishedSurrogate 1)

/-- The character that an escape stands for; the cursor is behind the backslash. -/
def readEscape (s : Cursor) : Reading Char :=
  match s.rest with
  | [] => .error (s.error .endInString 0)
  | c :: rest =>
    let next := s.after c rest
    match c with
    | '"' => .ok ('"', next)
    | '\\' => .ok ('\\', next)
    | '/' => .ok ('/', next)
    | 'b' => .ok ('\x08', next)
    | 'f' => .ok ('\x0c', next)
    | 'n' => .ok ('\n', next)
    | 'r' => .ok ('\r', next)
    | 't' => .ok ('\t', next)
    | 'u' =>
      match readHexUnit next with
      | .ok (unit, s) =>
        if 0xDC00 ≤ unit ∧ unit ≤ 0xDFFF then .error (s.error .loneSurrogate 0)
        else if 0xD800 ≤ unit ∧ unit ≤ 0xDBFF then readLowSurrogate unit s
        else .ok (Char.ofNat unit, s)
      | .error e => .error e
    | _ => .error (s.error .badEscape 1)

/-- The rest of a string behind its opening quote.  The first argument bounds the characters: it is
at least as long as the text that is left. -/
def readStringTail : List Char → List Char → Cursor → Reading String
  | [], _, s => .error (s.error .endInString 0)
  | _ :: bound, acc, s =>
    match s.rest with
    | [] => .error (s.error .endInString 0)
    | c :: rest =>
      if c = '"' then .ok (String.ofList acc.reverse, s.after c rest)
      else if c = '\\' then
        match readEscape (s.after c rest) with
        | .ok (d, s) => readStringTail bound (d :: acc) s
        | .error e => .error e
      else if c.toNat < 0x20 then .error (s.error .controlCharacter 1)
      else readStringTail bound (c :: acc) (s.after c rest)

def readString (s : Cursor) : Reading String := readStringTail s.rest [] s

/-- The letters of `null`, `true` and `false` behind the first one. -/
def readWord : List Char → Cursor → Except ReadError Cursor
  | [], s => .ok s
  | expected :: others, s =>
    match s.rest with
    | [] => .error (s.error .endInValue 0)
    | c :: rest =>
      if c = expected then readWord others (s.after c rest) else .error (s.error .expectedWord 1)

/-- Skips digits and counts them. -/
def skipDigits : List Char → Place → Nat → Nat × Cursor
  | [], place, count => (count, ⟨[], place⟩)
  | c :: rest, place, count =>
    if (decimalDigit? c).isSome then skipDigits rest ⟨place.line, place.column + 1⟩ (count + 1)
    else (count, ⟨c :: rest, place⟩)

/-- Absorbs digits into a word as long as it stays one, and says how many were absorbed. -/
def absorbDigits : List Char → Place → Nat → Nat → (Nat × Nat) × Cursor
  | [], place, word, count => ((word, count), ⟨[], place⟩)
  | c :: rest, place, word, count =>
    match decimalDigit? c with
    | some digit =>
      match Number.pushDigit? word digit with
      | some more => absorbDigits rest ⟨place.line, place.column + 1⟩ more (count + 1)
      | none => ((word, count), ⟨c :: rest, place⟩)
    | none => ((word, count), ⟨c :: rest, place⟩)

/-- Is a digit next? -/
def Cursor.atDigit (s : Cursor) : Bool :=
  match s.rest with
  | c :: _ => (decimalDigit? c).isSome
  | [] => false

/-- The number `word * 10 ^ exponent`, or a refusal. -/
def scaled (negative : Bool) (word : Nat) (exponent : Int) (s : Cursor) : Reading Number :=
  match Number.scaleWord? negative word exponent with
  | some value => .ok (.float value, s)
  | none => .error (s.error .numberOutOfRange 0)

/-- The greatest exponent that is read digit by digit. -/
def maxExponent : Nat := 0x7FFFFFFF

/-- The digits of an exponent: the value, or the cursor behind the digit that made it too big. -/
def exponentDigits : List Char → Place → Nat → Except Cursor (Nat × Cursor)
  | [], place, value => .ok (value, ⟨[], place⟩)
  | c :: rest, place, value =>
    match decimalDigit? c with
    | some digit =>
      let place := ⟨place.line, place.column + 1⟩
      if value * 10 + digit ≤ maxExponent then exponentDigits rest place (value * 10 + digit)
      else .error ⟨rest, place⟩
    | none => .ok (value, ⟨c :: rest, place⟩)

/-- The exponent of a number, behind its letter. -/
def readExponent (negative : Bool) (word : Nat) (start : Int) (s : Cursor) : Reading Number :=
  let (below, s) : Bool × Cursor :=
    match s.rest with
    | '+' :: rest => (false, s.after '+' rest)
    | '-' :: rest => (true, s.after '-' rest)
    | _ => (false, s)
  match s.rest with
  | [] => .error (s.error .endInValue 0)
  | c :: rest =>
    match decimalDigit? c with
    | none => .error (s.error .badNumber 1)
    | some first =>
      match exponentDigits rest ⟨s.place.line, s.place.column + 1⟩ first with
      | .ok (value, s) =>
        scaled negative word (if below then start - value else start + value) s
      | .error s =>
        if word ≠ 0 ∧ !below then .error (s.error .numberOutOfRange 0)
        else .ok (.float (.zero negative), (skipDigits s.rest s.place 0).2)

/-- Reads an exponent if a letter for one is next, else ends the number. -/
def readExponentOrEnd (negative : Bool) (word : Nat) (exponent : Int) (s : Cursor) :
    Reading Number :=
  match s.rest with
  | 'e' :: rest => readExponent negative word exponent (s.after 'e' rest)
  | 'E' :: rest => readExponent negative word exponent (s.after 'E' rest)
  | _ => scaled negative word exponent s

/-- The fraction of a number, behind its point.  Digits that no longer fit the word are ignored. -/
def readFraction (negative : Bool) (word : Nat) (start : Int) (s : Cursor) : Reading Number :=
  if s.atDigit then
    let ((word, count), s) := absorbDigits s.rest s.place word 0
    let (_, s) := skipDigits s.rest s.place 0
    readExponentOrEnd negative word (start - count) s
  else if s.rest.isEmpty then .error (s.error .endInValue 0)
  else .error (s.errorAhead .badNumber)

/-- What follows the integer digits of a number; `dropped` digits did not fit the word. -/
def readNumberTail (negative : Bool) (word dropped : Nat) (s : Cursor) : Reading Number :=
  match s.rest with
  | '.' :: rest => readFraction negative word dropped (s.after '.' rest)
  | 'e' :: rest => readExponent negative word dropped (s.after 'e' rest)
  | 'E' :: rest => readExponent negative word dropped (s.after 'E' rest)
  | _ => if dropped = 0 then .ok (.ofWord negative word, s) else scaled negative word dropped s

/-- A number behind its sign. -/
def readNumber (negative : Bool) (s : Cursor) : Reading Number :=
  match s.rest with
  | [] => .error (s.error .endInValue 0)
  | '0' :: rest =>
    let s := s.after '0' rest
    if s.atDigit then .error (s.errorAhead .badNumber) else readNumberTail negative 0 0 s
  | c :: _ =>
    match decimalDigit? c with
    | none => .error (s.error .badNumber 1)
    | some _ =>
      let ((word, _), s) := absorbDigits s.rest s.place 0 0
      let (dropped, s) := skipDigits s.rest s.place 0
      readNumberTail negative word dropped s

/-- The items of a list behind the first one, or behind the opening bracket.  A list at least as
long as the text that is left bounds the items. -/
def readItems (item : Cursor → Reading Json) :
    List Char → Bool → List Json → Cursor → Reading Json
  | [], _, _, s => .error (s.errorAhead .endInList)
  | _ :: bound, first, acc, s =>
    let s := s.trim
    match s.rest with
    | [] => .error (s.errorAhead .endInList)
    | ']' :: rest => .ok (.array acc.reverse, s.after ']' rest)
    | c :: rest =>
      if first then
        match item s with
        | .ok (value, s) => readItems item bound false (value :: acc) s
        | .error e => .error e
      else if c = ',' then
        let s := (s.after ',' rest).trim
        match s.rest with
        | [] => .error (s.errorAhead .endInValue)
        | ']' :: _ => .error (s.errorAhead .trailingComma)
        | _ =>
          match item s with
          | .ok (value, s) => readItems item bound false (value :: acc) s
          | .error e => .error e
      else .error (s.errorAhead .expectedListEnd)

/-- A member of an object behind the opening quote of its key. -/
def readMember (value : Cursor → Reading Json) (s : Cursor) : Reading (String × Json) :=
  match readString s with
  | .error e => .error e
  | .ok (key, s) =>
    let s := s.trim
    match s.rest with
    | [] => .error (s.errorAhead .endInObject)
    | ':' :: rest => (value (s.after ':' rest)).map fun (value, s) => ((key, value), s)
    | _ => .error (s.errorAhead .expectedColon)

/-- The members of an object.  A list at least as long as the text that is left bounds them. -/
def readMembers (value : Cursor → Reading Json) :
    List Char → Bool → List (String × Json) → Cursor → Reading Json
  | [], _, _, s => .error (s.errorAhead .endInObject)
  | _ :: bound, first, acc, s =>
    let s := s.trim
    match s.rest with
    | [] => .error (s.errorAhead .endInObject)
    | '}' :: rest => .ok (.object acc, s.after '}' rest)
    | c :: rest =>
      if first then
        if c = '"' then
          match readMember value (s.after c rest) with
          | .ok ((key, v), s) => readMembers value bound false (Keyed.insert acc key v) s
          | .error e => .error e
        else .error (s.errorAhead .keyNotString)
      else if c = ',' then
        let s := (s.after ',' rest).trim
        match s.rest with
        | [] => .error (s.errorAhead .endInValue)
        | '}' :: _ => .error (s.errorAhead .trailingComma)
        | '"' :: rest =>
          match readMember value (s.after '"' rest) with
          | .ok ((key, v), s) => readMembers value bound false (Keyed.insert acc key v) s
          | .error e => .error e
        | _ => .error (s.errorAhead .keyNotString)
      else .error (s.errorAhead .expectedObjectEnd)

/-- A value with at most `depth` levels of nesting. -/
def readValue : Nat → Cursor → Reading Json
  | depth, s =>
    let s := s.trim
    match s.rest with
    | [] => .error (s.errorAhead .endInValue)
    | c :: rest =>
      let next := s.after c rest
      match c with
      | 'n' => (readWord ['u', 'l', 'l'] next).map fun s => (.null, s)
      | 't' => (readWord ['r', 'u', 'e'] next).map fun s => (.bool true, s)
      | 'f' => (readWord ['a', 'l', 's', 'e'] next).map fun s => (.bool false, s)
      | '-' => (readNumber true next).map fun (n, s) => (.number n, s)
      | '"' => (readString next).map fun (text, s) => (.string text, s)
      | '[' =>
        match depth with
        | 0 => .error (s.errorAhead .tooDeep)
        | depth + 1 => readItems (readValue depth) rest true [] next
      | '{' =>
        match depth with
        | 0 => .error (s.errorAhead .tooDeep)
        | depth + 1 => readMembers (readValue depth) rest true [] next
      | _ =>
        if (decimalDigit? c).isSome then (readNumber false s).map fun (n, s) => (.number n, s)
        else .error (s.errorAhead .expectedValue)

/-- A whole text with at most `depth` levels of nesting. -/
def readWithin (depth : Nat) (text : String) : Except ReadError Json := do
  let (value, s) ← readValue depth ⟨text.toList, ⟨1, 0⟩⟩
  let s := s.trim
  if s.rest.isEmpty then pure value else .error (s.errorAhead .trailingCharacters)

/-- How many levels a document may nest. -/
def maxNesting : Nat := 127

def read (text : String) : Except ReadError Json := readWithin maxNesting text

end SchemaTables.Json
