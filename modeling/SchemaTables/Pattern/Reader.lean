import SchemaTables.Pattern.Basic
import SchemaTables.Text.CharacterRanges

/-!
# Reading patterns

The grammar of regular expressions.  There is no look-around and no reference back to a group; an
unknown escape of a letter or digit is refused, other ASCII characters may be escaped freely.
Where the flag `x` is on, blanks and comments between the parts do not count.

Only whether a pattern can be read matters here, so a refusal has no text.
-/

namespace SchemaTables.Pattern

/-- What reading a part of a pattern gives: the part and what is left. -/
abbrev Reading (α : Type) := Option (α × List Char)

/-- Drops blanks and comments, where they do not count. -/
def dropBlanks (ignore : Bool) (text : List Char) : List Char :=
  if ignore then go false text else text
where
  /-- Walks over blanks, or to the end of a comment. -/
  go : Bool → List Char → List Char
    | _, [] => []
    | true, c :: rest => go (c != '\n') rest
    | false, c :: rest =>
      if c == '#' then go true rest else if Text.isBlank c then go false rest else c :: rest

/-- Characters that have a meaning of their own. -/
def isMeta (c : Char) : Bool := "\\.+*?()|[]\x7b\x7d^$#&-~".toList.contains c

/-- Characters that may be escaped though it changes nothing. -/
def isEscapable (c : Char) : Bool :=
  isMeta c || (c.toNat < 0x80 && !c.isAlphanum && c != '<' && c != '>')

def isHex (c : Char) : Bool := c.isDigit || ('a' ≤ c && c ≤ 'f') || ('A' ≤ c && c ≤ 'F')

/-- The character with a hexadecimal code point, if there is one. -/
def charOfHex? (digits : List Char) : Option Char :=
  let code := digits.foldl
    (fun n c => min 0x110000
      (n * 16 + (if c.isDigit then c.toNat - 48 else (c.toNat ||| 32) - 97 + 10))) 0
  if h : code.isValidChar then some (Char.ofNatAux code h) else none

/-- A decimal number of 32 bits with blanks around it. -/
def readDecimal (ignore : Bool) (text : List Char) : Reading Nat :=
  let text := text.dropWhile Text.isBlank
  let (digits, rest) := collect text.length text []
  let rest := trim rest.length rest
  if digits.isEmpty then none
  else
    let value := digits.foldl (fun n c => min 0x100000000 (n * 10 + (c.toNat - 48))) 0
    if value < 0x100000000 then some (value, rest) else none
where
  /-- Digits, with what does not count dropped behind each. -/
  collect : Nat → List Char → List Char → List Char × List Char
    | 0, rest, digits => (digits.reverse, rest)
    | fuel + 1, rest, digits =>
      match rest with
      | c :: more =>
        if c.isDigit then collect fuel (dropBlanks ignore more) (c :: digits)
        else (digits.reverse, rest)
      | [] => (digits.reverse, [])
  /-- Blanks behind the digits. -/
  trim : Nat → List Char → List Char
    | 0, rest => rest
    | fuel + 1, rest =>
      match rest with
      | c :: more => if Text.isBlank c then trim fuel (dropBlanks ignore more) else rest
      | [] => []

/-- A fixed count of hexadecimal digits. -/
def readHexDigits (ignore : Bool) : Nat → List Char → List Char → Reading (List Char)
  | 0, text, digits => some (digits.reverse, text)
  | count + 1, text, digits =>
    match text with
    | c :: rest =>
      if isHex c then readHexDigits ignore count (dropBlanks ignore rest) (c :: digits) else none
    | [] => none

/-- Hexadecimal digits up to a closing brace. -/
def readHexBraced (ignore : Bool) : Nat → List Char → List Char → Reading (List Char)
  | 0, _, _ => none
  | fuel + 1, text, digits =>
    match text with
    | '}' :: rest => some (digits.reverse, dropBlanks ignore rest)
    | c :: rest =>
      if isHex c then readHexBraced ignore fuel (dropBlanks ignore rest) (c :: digits) else none
    | [] => none

/-- An escape by code point, behind the letter that starts it. -/
def readHex (ignore : Bool) (count : Nat) (text : List Char) : Reading Letter :=
  match dropBlanks ignore text with
  | [] => none
  | '{' :: rest =>
    match readHexBraced ignore (rest.length + 1) (dropBlanks ignore rest) [] with
    | some (digits, rest) =>
      if digits.isEmpty then none else (charOfHex? digits).map fun c => (⟨c, false⟩, rest)
    | none => none
  | text =>
    match readHexDigits ignore count text [] with
    | some (digits, rest) => (charOfHex? digits).map fun c => (⟨c, count == 2⟩, rest)
    | none => none

/-- Characters up to a closing brace, with what does not count dropped. -/
def readBraced (ignore : Bool) : Nat → List Char → List Char → Reading (List Char)
  | 0, _, _ => none
  | fuel + 1, text, acc =>
    match text with
    | '}' :: rest => some (acc.reverse, rest)
    | c :: rest => readBraced ignore fuel (dropBlanks ignore rest) (c :: acc)
    | [] => none

/-- Cuts characters at the first place where a mark is found. -/
def cutAt? (mark : List Char) : List Char → Option (List Char × List Char)
  | [] => none
  | c :: rest =>
    if mark.isPrefixOf (c :: rest) then some ([], (c :: rest).drop mark.length)
    else (cutAt? mark rest).map fun (before, behind) => (c :: before, behind)

/-- The query in braces: a name, or a name and a value with a relation between them. -/
def queryOf (text : List Char) : Query :=
  let valued (cut : List Char × List Char) : Query :=
    .valued (String.ofList cut.1) (String.ofList cut.2)
  match cutAt? ['!', '='] text, cutAt? [':'] text, cutAt? ['='] text with
  | some cut, _, _ => valued cut
  | none, some cut, _ => valued cut
  | none, none, some cut => valued cut
  | none, none, none => .named (String.ofList text)

/-- A property query, behind the letter that starts it. -/
def readQuery (ignore : Bool) (text : List Char) : Reading Query :=
  match dropBlanks ignore text with
  | [] => none
  | '{' :: rest =>
    (readBraced ignore (rest.length + 1) (dropBlanks ignore rest) []).map fun (name, rest) =>
      (queryOf name, rest)
  | '\\' :: _ => none
  | c :: rest => some (.named (String.ofList [c]), dropBlanks ignore rest)

/-- The special word boundaries behind `\b`, such as `{start}`.  Anything that cannot be one is
left to be read as a repetition. -/
def readWordBoundary (ignore : Bool) (text : List Char) : Option (List Char) :=
  match text with
  | '{' :: rest =>
    match dropBlanks ignore rest with
    | [] => none
    | c :: rest =>
      if isName c then
        let (name, behind) := collect ((c :: rest).length + 1) (c :: rest) []
        match behind with
        | '}' :: behind =>
          if name ∈ ["start", "end", "start-half", "end-half"].map String.toList then some behind
          else none
        | _ => none
      else some text
  | _ => some text
where
  /-- Letters and hyphens. -/
  isName (c : Char) : Bool := c.isAlpha || c == '-'
  /-- The name of a boundary. -/
  collect : Nat → List Char → List Char → List Char × List Char
    | 0, rest, name => (name.reverse, rest)
    | fuel + 1, rest, name =>
      match rest with
      | c :: more =>
        if isName c then collect fuel (dropBlanks ignore more) (c :: name) else (name.reverse, rest)
      | [] => (name.reverse, [])

/-- What an escape stands for, behind the backslash. -/
def readEscape (ignore : Bool) : List Char → Reading Tree
  | [] => none
  | c :: rest =>
    match c with
    | 'x' => (readHex ignore 2 rest).map fun (letter, rest) => (.letter letter, rest)
    | 'u' => (readHex ignore 4 rest).map fun (letter, rest) => (.letter letter, rest)
    | 'U' => (readHex ignore 8 rest).map fun (letter, rest) => (.letter letter, rest)
    | 'p' => (readQuery ignore rest).map fun (query, rest) => (.property query false, rest)
    | 'P' => (readQuery ignore rest).map fun (query, rest) => (.property query true, rest)
    | 'd' => some (.short .digit false, rest)
    | 'D' => some (.short .digit true, rest)
    | 's' => some (.short .space false, rest)
    | 'S' => some (.short .space true, rest)
    | 'w' => some (.short .word false, rest)
    | 'W' => some (.short .word true, rest)
    | 'a' => some (.letter ⟨'\x07', false⟩, rest)
    | 'f' => some (.letter ⟨'\x0c', false⟩, rest)
    | 't' => some (.letter ⟨'\t', false⟩, rest)
    | 'n' => some (.letter ⟨'\n', false⟩, rest)
    | 'r' => some (.letter ⟨'\r', false⟩, rest)
    | 'v' => some (.letter ⟨'\x0b', false⟩, rest)
    | 'A' => some (.place, rest)
    | 'z' => some (.place, rest)
    | 'B' => some (.place, rest)
    | '<' => some (.place, rest)
    | '>' => some (.place, rest)
    | 'b' => (readWordBoundary ignore rest).map fun rest => (.place, rest)
    | _ => if isEscapable c then some (.letter ⟨c, false⟩, rest) else none

/-- The names of classes such as `[:alpha:]`. -/
def posixNames : List (List Char) :=
  ["alnum", "alpha", "ascii", "blank", "cntrl", "digit", "graph", "lower", "print", "punct",
    "space", "upper", "word", "xdigit"].map String.toList

/-- A class such as `[:alpha:]`; what cannot be one is left as it is. -/
def posixClass? (text : List Char) : Option (ClassSet × List Char) :=
  match text with
  | '[' :: ':' :: rest =>
    let (negated, rest) := match rest with
      | '^' :: rest => (true, rest)
      | rest => (false, rest)
    let name := rest.takeWhile (· != ':')
    match rest.dropWhile (· != ':') with
    | ':' :: ']' :: behind =>
      if name ∈ posixNames then some (.posix negated, behind) else none
    | _ => none
  | _ => none

/-- One side of a range, or an item of its own. -/
def readSetItem (ignore : Bool) : List Char → Reading Tree
  | [] => none
  | '\\' :: rest => readEscape ignore rest
  | c :: rest => some (.letter ⟨c, false⟩, rest)

/-- The set of an item; places are none. -/
def setOfItem? : Tree → Option ClassSet
  | .letter letter => some (.letter letter)
  | .short kind negated => some (.short kind negated)
  | .property query negated => some (.property query negated)
  | _ => none

/-- An item or a range in a bracketed class. -/
def readSetRange (ignore : Bool) (text : List Char) : Reading ClassSet :=
  match readSetItem ignore text with
  | none => none
  | some (first, rest) =>
    match dropBlanks ignore rest with
    | [] => none
    | '-' :: behind =>
      let next := dropBlanks ignore behind
      if next.head? = some ']' ∨ next.head? = some '-' then
        (setOfItem? first).map fun set => (set, '-' :: behind)
      else if next.isEmpty then none
      else
        match readSetItem ignore next with
        | some (.letter last, rest) =>
          match first with
          | .letter first => if first.char ≤ last.char then some (.range first last, rest) else none
          | _ => none
        | _ => none
    | rest => (setOfItem? first).map fun set => (set, rest)

/-- A bracketed class that is still open: what was read of the set around it, or the left side of
an operation inside it. -/
inductive OpenClass
  | bracket (around : List ClassSet) (negated : Bool)
  | operation (kind : SetOperation) (left : ClassSet)

/-- Hyphens at the start of a class stand for themselves. -/
def leadingHyphens (ignore : Bool) : Nat → List Char → List ClassSet → List ClassSet × List Char
  | 0, text, items => (items, text)
  | fuel + 1, text, items =>
    match text with
    | '-' :: rest =>
      leadingHyphens ignore fuel (dropBlanks ignore rest) (.letter ⟨'-', false⟩ :: items)
    | _ => (items, text)

/-- The opening of a bracketed class, behind the bracket: whether it is negated, and its first
items.  A closing bracket in first place stands for itself. -/
def readClassStart (ignore : Bool) (text : List Char) : Reading (Bool × List ClassSet) :=
  let text := dropBlanks ignore text
  let (negated, text) := match text with
    | '^' :: rest => (true, dropBlanks ignore rest)
    | text => (false, text)
  let (items, text) := leadingHyphens ignore text.length text []
  match text with
  | [] => none
  | ']' :: rest =>
    if items.isEmpty then
      let rest := dropBlanks ignore rest
      if rest.isEmpty then none else some ((negated, [.letter ⟨']', false⟩]), rest)
    else some ((negated, items), text)
  | _ => some ((negated, items), text)

/-- Finishes the operation on top of the open classes, if there is one. -/
def finishOperation (stack : List OpenClass) (right : ClassSet) : ClassSet × List OpenClass :=
  match stack with
  | .operation kind left :: stack => (.operation kind left right, stack)
  | stack => (right, stack)

/-- Reads a bracketed class.  `items` are those of the innermost open set, last first. -/
def readClass (ignore : Bool) :
    Nat → List OpenClass → List ClassSet → List Char → Reading (Bool × ClassSet)
  | 0, _, _, _ => none
  | fuel + 1, stack, items, text =>
    let operation (kind : SetOperation) (rest : List Char) :=
      let (left, stack) := finishOperation stack (.ofItems items.reverse)
      readClass ignore fuel (.operation kind left :: stack) [] rest
    match dropBlanks ignore text with
    | [] => none
    | '[' :: rest =>
      match posixClass? ('[' :: rest) with
      | some (set, rest) => readClass ignore fuel stack (set :: items) rest
      | none =>
        match readClassStart ignore rest with
        | some ((negated, first), rest) =>
          readClass ignore fuel (.bracket items negated :: stack) first rest
        | none => none
    | ']' :: rest =>
      match finishOperation stack (.ofItems items.reverse) with
      | (set, [.bracket _ negated]) => some ((negated, set), rest)
      | (set, .bracket around negated :: stack) =>
        readClass ignore fuel stack (.bracketed negated set :: around) rest
      | _ => none
    | '&' :: '&' :: rest => operation .intersection rest
    | '-' :: '-' :: rest => operation .difference rest
    | '~' :: '~' :: rest => operation .symmetricDifference rest
    | text =>
      match readSetRange ignore text with
      | some (set, rest) => readClass ignore fuel stack (set :: items) rest
      | none => none

/-- A whole bracketed class, behind its first bracket. -/
def readBracketed (ignore : Bool) (text : List Char) : Reading Tree :=
  match readClassStart ignore text with
  | some ((negated, first), rest) =>
    (readClass ignore (rest.length + 1) [.bracket [] negated] first rest).map
      fun ((negated, set), rest) => (.bracketed negated set, rest)
  | none => none

def flag? : Char → Option Flag
  | 'i' => some .caseInsensitive
  | 'm' => some .multiLine
  | 's' => some .dotMatchesNewLine
  | 'U' => some .swapGreed
  | 'u' => some .unicode
  | 'R' => some .carriageReturn
  | 'x' => some .ignoreBlanks
  | _ => none

/-- Flags up to the colon or parenthesis behind them; no flag, and no sign, may repeat, and the
sign may not come last. -/
def readFlags : List Char → Flags → Reading Flags
  | [], _ => none
  | c :: rest, flags =>
    if c = ':' ∨ c = ')' then
      if flags.head? = some none then none else some (flags.reverse, c :: rest)
    else
      let item? := if c = '-' then some none else (flag? c).map some
      match item? with
      | some item => if item ∈ flags then none else readFlags rest (item :: flags)
      | none => none

def isNameChar (first : Bool) (c : Char) : Bool :=
  if first then c == '_' || Text.isAlphabetic c
  else c == '_' || c == '.' || c == '[' || c == ']' || Text.isAlphanumeric c

/-- The name of a group, up to the bracket behind it. -/
def readName : Bool → List Char → List Char → Reading String
  | _, [], _ => none
  | first, c :: rest, name =>
    if c = '>' then if first then none else some (String.ofList name.reverse, rest)
    else if isNameChar first c then readName false rest (c :: name)
    else none

/-- What stands behind an opening parenthesis. -/
inductive Opening
  | group (kind : GroupKind)
  | flags (flags : Flags)

/-- Reads what stands behind an opening parenthesis. -/
def readOpening (ignore : Bool) (text : List Char) : Reading Opening :=
  match dropBlanks ignore text with
  | '?' :: '=' :: _ => none
  | '?' :: '!' :: _ => none
  | '?' :: '<' :: '=' :: _ => none
  | '?' :: '<' :: '!' :: _ => none
  | '?' :: 'P' :: '<' :: rest =>
    (readName true rest []).map fun (name, rest) => (.group (.named name), rest)
  | '?' :: '<' :: rest =>
    (readName true rest []).map fun (name, rest) => (.group (.named name), rest)
  | '?' :: rest =>
    match readFlags rest [] with
    | some (flags, ')' :: rest) => if flags.isEmpty then none else some (.flags flags, rest)
    | some (flags, _ :: rest) => some (.group (.plain flags), rest)
    | _ => none
  | text => some (.group .capture, text)

/-- The bounds of a counted repetition, behind the opening brace. -/
def readBounds (ignore : Bool) (text : List Char) : Reading (Nat × Option Nat) :=
  match dropBlanks ignore text with
  | [] => none
  | text =>
    match readDecimal ignore text with
    | some (least, ',' :: rest) =>
      match dropBlanks ignore rest with
      | '}' :: rest => some ((least, none), rest)
      | rest =>
        match readDecimal ignore rest with
        | some (most, '}' :: rest) => if least ≤ most then some ((least, some most), rest) else none
        | _ => none
    | some (count, '}' :: rest) => some ((count, some count), rest)
    | _ => none

def dropLazyMark : List Char → List Char
  | '?' :: rest => rest
  | text => text

/-- A group that is still open: what came before it, its kind, whether blanks counted outside, and
its branches so far, last first. -/
structure OpenGroup where
  before : List Tree
  kind : GroupKind
  ignoredOutside : Bool
  branches : List Tree

/-- Can a repetition follow this part? -/
def isRepeatable : Tree → Bool
  | .empty => false
  | .flags _ => false
  | _ => true

/-- Where the reader stands: open groups, names of groups so far, whether blanks are ignored, the
branches of the outermost choice and the parts of the current branch, both last first. -/
structure State where
  groups : List OpenGroup := []
  names : List String := []
  ignore : Bool := false
  branches : List Tree := []
  parts : List Tree := []

namespace State

def push (s : State) (part : Tree) : State := { s with parts := part :: s.parts }

/-- Repeats the last part. -/
def repeatLast? (s : State) (least : Nat) (most? : Option Nat) : Option State :=
  match s.parts with
  | part :: parts =>
    if isRepeatable part then some { s with parts := .repetition least most? part :: parts }
    else none
  | [] => none

def nextBranch (s : State) : State :=
  { s with branches := .ofParts s.parts.reverse :: s.branches, parts := [] }

def choice (s : State) : Tree := .ofBranches (Tree.ofParts s.parts.reverse :: s.branches).reverse

/-- Opens a group, unless its name is taken. -/
def openGroup? (s : State) (kind : GroupKind) : Option State :=
  let group : OpenGroup := ⟨s.parts, kind, s.ignore, s.branches⟩
  let inner := { s with groups := group :: s.groups, branches := [], parts := [] }
  match kind with
  | .named name => if name ∈ s.names then none else some { inner with names := name :: s.names }
  | .plain flags => some { inner with ignore := (flags.state? .ignoreBlanks).getD s.ignore }
  | .capture => some inner

def closeGroup? (s : State) : Option State :=
  match s.groups with
  | group :: groups =>
    some { s with
      groups := groups
      ignore := group.ignoredOutside
      branches := group.branches
      parts := .group group.kind s.choice :: group.before }
  | [] => none

end State

/-- Reads parts until the text ends. -/
def readParts : Nat → State → List Char → Option Tree
  | 0, _, _ => none
  | fuel + 1, s, text =>
    match dropBlanks s.ignore text with
    | [] => if s.groups.isEmpty then some s.choice else none
    | '(' :: rest =>
      match readOpening s.ignore rest with
      | some (.group kind, rest) =>
        match s.openGroup? kind with
        | some s => readParts fuel s rest
        | none => none
      | some (.flags flags, rest) =>
        let ignore := (flags.state? .ignoreBlanks).getD s.ignore
        readParts fuel { s.push (.flags flags) with ignore := ignore } rest
      | none => none
    | ')' :: rest =>
      match s.closeGroup? with
      | some s => readParts fuel s rest
      | none => none
    | '|' :: rest => readParts fuel s.nextBranch rest
    | '[' :: rest =>
      match readBracketed s.ignore rest with
      | some (part, rest) => readParts fuel (s.push part) rest
      | none => none
    | '?' :: rest =>
      match s.repeatLast? 0 (some 1) with
      | some s => readParts fuel s (dropLazyMark rest)
      | none => none
    | '*' :: rest =>
      match s.repeatLast? 0 none with
      | some s => readParts fuel s (dropLazyMark rest)
      | none => none
    | '+' :: rest =>
      match s.repeatLast? 1 none with
      | some s => readParts fuel s (dropLazyMark rest)
      | none => none
    | '{' :: rest =>
      match readBounds s.ignore rest with
      | some ((least, most?), rest) =>
        match s.repeatLast? least most? with
        | some s => readParts fuel s (dropLazyMark (dropBlanks s.ignore rest))
        | none => none
      | none => none
    | '\\' :: rest =>
      match readEscape s.ignore rest with
      | some (part, rest) => readParts fuel (s.push part) rest
      | none => none
    | '.' :: rest => readParts fuel (s.push .dot) rest
    | '^' :: rest => readParts fuel (s.push .place) rest
    | '$' :: rest => readParts fuel (s.push .place) rest
    | c :: rest => readParts fuel (s.push (.letter ⟨c, false⟩)) rest

/-- How deep a pattern may be nested. -/
def maxDepth : Nat := 250

def read? (text : String) : Option Tree :=
  let chars := text.toList
  match readParts (chars.length + 1) {} chars with
  | some tree => if tree.depth ≤ maxDepth then some tree else none
  | none => none

end SchemaTables.Pattern
