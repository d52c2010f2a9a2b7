import SchemaTables.Jq.Term
import SchemaTables.Jq.Token

/-!
# Reading filters

Terms are joined by connectives of eleven ranks.  A term is read together with all connectives and
terms that follow it, and these are then joined by rank: the connective of the lowest rank is
applied last.

A pattern that takes a value apart is read as one variable for the whole value and further ones for
its parts.
-/

namespace SchemaTables.Jq

/-- A variable for a value, and variables for what is inside it, each with a filter that finds
it. -/
structure Pattern where
  name : String
  parts : List (Term × String) := []
  deriving Inhabited

/-- Binds the variables for the parts of a value. -/
def Pattern.bindParts (pattern : Pattern) (body : Term) : Term :=
  pattern.parts.foldr (fun (source, name) body => .bind source name body) body

/-- What joins two terms. -/
inductive Connective
  | pipe
  | bind (pattern : Pattern)
  | comma
  | assign
  | update
  | updateCalculated (operator : Operator)
  | updateMissing
  | alternative
  | either
  | both
  | compare (comparison : Comparison)
  | calculate (operator : Operator)
  deriving Inhabited

namespace Connective

/-- The order in which connectives are applied, the lowest one last. -/
def rank : Connective → Nat
  | .pipe | .bind _ => 0
  | .comma => 1
  | .assign | .update | .updateCalculated _ | .updateMissing => 2
  | .alternative => 3
  | .either => 4
  | .both => 5
  | .compare .equal | .compare .notEqual => 6
  | .compare _ => 7
  | .calculate .add | .calculate .subtract => 8
  | .calculate .multiply | .calculate .divide => 9
  | .calculate .remainder => 10

/-- Of several connectives of one rank, is the last one applied first? -/
def isRightBound (rank : Nat) : Bool := rank == 0 || rank == 2

/-- Joins two terms. -/
def join (connective : Connective) (left right : Term) : Term :=
  match connective with
  | .pipe => .pipe left right
  | .bind pattern => .bind left pattern.name (pattern.bindParts right)
  | .comma => .comma left right
  | .assign => .assign left right
  | .update => .update left right
  | .updateCalculated operator => .updateCalculated operator left right
  | .updateMissing => .updateMissing left right
  | .alternative => .alternative left right
  | .either => .either left right
  | .both => .both left right
  | .compare comparison => .compare comparison left right
  | .calculate operator => .calculate operator left right

def ofSign? (sign : String) : Option Connective :=
  Keyed.get?
    [ ("|", .pipe), (",", .comma), ("=", .assign), ("|=", .update),
      ("+=", .updateCalculated .add), ("-=", .updateCalculated .subtract),
      ("*=", .updateCalculated .multiply), ("/=", .updateCalculated .divide),
      ("%=", .updateCalculated .remainder), ("//=", .updateMissing), ("//", .alternative),
      ("==", .compare .equal), ("!=", .compare .notEqual), ("<", .compare .less),
      ("<=", .compare .lessOrEqual), (">", .compare .greater), (">=", .compare .greaterOrEqual),
      ("+", .calculate .add), ("-", .calculate .subtract), ("*", .calculate .multiply),
      ("/", .calculate .divide), ("%", .calculate .remainder) ]
    sign

end Connective

/-- Joins a term and those behind it, each with the connective in front of it. -/
def joinAll : Nat → Term → List (Connective × Term) → Term
  | _, head, [] => head
  | 0, head, _ => head
  | fuel + 1, head, next :: others =>
    let tail := next :: others
    let lowest := others.foldl (fun rank item => min rank item.1.rank) next.1.rank
    let isLowest (item : Connective × Term) : Bool := item.1.rank == lowest
    let place :=
      if Connective.isRightBound lowest then tail.findIdx isLowest
      else tail.length - 1 - tail.reverse.findIdx isLowest
    match tail.drop place with
    | (connective, term) :: rest =>
      connective.join (joinAll fuel head (tail.take place)) (joinAll fuel term rest)
    | [] => head

/-- Words that name no filter. -/
def reservedWords : List String :=
  ["def", "if", "then", "elif", "else", "end", "reduce", "foreach", "label", "try", "catch", "and",
    "or", "as", "import", "include", "module"]

/-- What was read, and the tokens behind it. -/
abbrev Parsed (α : Type) := Option (α × List Token)

def expectSign (sign : String) : List Token → Option (List Token)
  | .sign text :: rest => if text = sign then some rest else none
  | _ => none

def expectWord (word : String) : List Token → Option (List Token)
  | .word text :: rest => if text = word then some rest else none
  | _ => none

def takeOptional : List Token → Bool × List Token
  | .sign text :: rest => if text = "?" then (true, rest) else (false, .sign text :: rest)
  | tokens => (false, tokens)

def Term.memberOf (name : Term) : Term := .index .identity name false

/-- A string without filters inside is a text. -/
def Term.ofParts (format : Option String) : List Term → Term
  | [] => .text ""
  | [.text value] => .text value
  | parts => .template format parts

/-- Parameters with semicolons between them. -/
def readParameterList : List Token → Parsed (List String)
  | .word name :: .sign ";" :: rest =>
    (readParameterList rest).map fun (others, rest) => (name :: others, rest)
  | .variable name :: .sign ";" :: rest =>
    (readParameterList rest).map fun (others, rest) => (("$" ++ name) :: others, rest)
  | .word name :: .sign ")" :: rest => some ([name], rest)
  | .variable name :: .sign ")" :: rest => some (["$" ++ name], rest)
  | _ => none

/-- The parameters of a definition, if it has any. -/
def readParameters : List Token → Parsed (List String)
  | .sign "(" :: rest => readParameterList rest
  | rest => some ([], rest)

mutual

/-- A term with all that is joined to it. -/
def readTerm (withComma : Bool) : Nat → List Token → Parsed Term
  | 0, _ => none
  | fuel + 1, tokens =>
    match readAtom fuel tokens with
    | some (head, rest) =>
      (readTail withComma fuel rest).map fun (tail, rest) => (joinAll tail.length head tail, rest)
    | none => none

/-- The connectives and terms behind a term. -/
def readTail (withComma : Bool) : Nat → List Token → Parsed (List (Connective × Term))
  | 0, _ => none
  | fuel + 1, tokens =>
    match tokens with
    | .word "and" :: rest => readOperand withComma fuel .both rest
    | .word "or" :: rest => readOperand withComma fuel .either rest
    | .word "as" :: rest =>
      match readPattern "0" fuel rest with
      | some (pattern, rest) =>
        match expectSign "|" rest with
        | some rest => readOperand withComma fuel (.bind pattern) rest
        | none => none
      | none => none
    | .sign sign :: rest =>
      if sign = "," ∧ !withComma then some ([], tokens)
      else
        match Connective.ofSign? sign with
        | some connective => readOperand withComma fuel connective rest
        | none => some ([], tokens)
    | tokens => some ([], tokens)

/-- The term behind a connective, and what follows it. -/
def readOperand (withComma : Bool) :
    Nat → Connective → List Token → Parsed (List (Connective × Term))
  | 0, _, _ => none
  | fuel + 1, connective, tokens =>
    match readAtom fuel tokens with
    | some (term, rest) =>
      (readTail withComma fuel rest).map fun (tail, rest) => ((connective, term) :: tail, rest)
    | none => none

/-- A term that nothing is joined to. -/
def readAtom : Nat → List Token → Parsed Term
  | 0, _ => none
  | fuel + 1, tokens =>
    match tokens with
    | .sign "-" :: rest => (readAtom fuel rest).map fun (body, rest) => (.negate body, rest)
    | .word "try" :: rest =>
      match readAtom fuel rest with
      | some (body, rest) =>
        match expectWord "catch" rest with
        | some rest => (readAtom fuel rest).map fun (handler, rest) => (.rescue body handler, rest)
        | none => some (.attempt body, rest)
      | none => none
    | .word "def" :: _ =>
      match readDefinition fuel tokens with
      | some (definition, rest) =>
        (readTerm true fuel rest).map fun (body, rest) =>
          (.define definition.name definition.parameters definition.body body, rest)
      | none => none
    | .word "label" :: .variable name :: rest =>
      match expectSign "|" rest with
      | some rest => (readTerm true fuel rest).map fun (body, rest) => (.label name body, rest)
      | none => none
    | tokens =>
      match readSimple fuel tokens with
      | some (base, rest) => readSuffixes fuel base rest
      | none => none

/-- A term that access to its parts may follow. -/
def readSimple : Nat → List Token → Parsed Term
  | 0, _ => none
  | fuel + 1, tokens =>
    match tokens with
    | .sign "." :: .string parts :: rest =>
      match readParts fuel parts with
      | some parts =>
        let (optional, rest) := takeOptional rest
        some (.index .identity (.ofParts none parts) optional, rest)
      | none => none
    | .sign "." :: rest => some (.identity, rest)
    | .key name :: rest =>
      let (optional, rest) := takeOptional rest
      some (.index .identity (.text name) optional, rest)
    | .sign ".." :: rest => some (.recurse, rest)
    | .number text :: rest => some (.number text, rest)
    | .string parts :: rest => (readParts fuel parts).map fun parts => (.ofParts none parts, rest)
    | .format name :: .string parts :: rest =>
      (readParts fuel parts).map fun parts => (.ofParts (some name) parts, rest)
    | .format name :: rest => some (.call ("@" ++ name) [], rest)
    | .variable name :: rest => some (.variable name, rest)
    | .sign "(" :: rest =>
      match readTerm true fuel rest with
      | some (body, rest) => (expectSign ")" rest).map fun rest => (body, rest)
      | none => none
    | .sign "[" :: .sign "]" :: rest => some (.emptyArray, rest)
    | .sign "[" :: rest =>
      match readTerm true fuel rest with
      | some (body, rest) => (expectSign "]" rest).map fun rest => (.array body, rest)
      | none => none
    | .sign "\x7b" :: .sign "\x7d" :: rest => some (.object [], rest)
    | .sign "\x7b" :: rest =>
      (readMembers fuel rest).map fun (members, rest) => (.object members, rest)
    | .word "if" :: rest => readConditional fuel rest
    | .word "reduce" :: rest =>
      match readFold fuel rest with
      | some ((source, pattern, [start, step]), rest) =>
        some (.reduce source pattern.name start (pattern.bindParts step), rest)
      | _ => none
    | .word "foreach" :: rest =>
      match readFold fuel rest with
      | some ((source, pattern, [start, step]), rest) =>
        some (.foreach source pattern.name start (pattern.bindParts step) .identity, rest)
      | some ((source, pattern, [start, step, result]), rest) =>
        some (.foreach source pattern.name start (pattern.bindParts step)
          (pattern.bindParts result), rest)
      | _ => none
    | .word "break" :: .variable name :: rest => some (.leave name, rest)
    | .word name :: rest =>
      if reservedWords.contains name then none
      else
        match expectSign "(" rest with
        | some rest =>
          (readArguments fuel rest).map fun (arguments, rest) => (.call name arguments, rest)
        | none => some (.call name [], rest)
    | _ => none

/-- The parts of a string.  A filter in it is never a bare text. -/
def readParts : Nat → List StringPart → Option (List Term)
  | 0, _ => none
  | _ + 1, [] => some []
  | fuel + 1, .text value :: rest => (readParts fuel rest).map (.text value :: ·)
  | fuel + 1, .filter tokens :: rest =>
    match readTerm true fuel tokens with
    | some (term, []) => (readParts fuel rest).map (.pipe term .identity :: ·)
    | _ => none

/-- Access to parts of a value. -/
def readSuffixes : Nat → Term → List Token → Parsed Term
  | 0, _, _ => none
  | fuel + 1, base, tokens =>
    match tokens with
    | .sign "?" :: rest => readSuffixes fuel (.attempt base) rest
    | .key name :: rest =>
      let (optional, rest) := takeOptional rest
      readSuffixes fuel (.index base (.text name) optional) rest
    | .sign "." :: .string parts :: rest =>
      match readParts fuel parts with
      | some parts =>
        let (optional, rest) := takeOptional rest
        readSuffixes fuel (.index base (.ofParts none parts) optional) rest
      | none => none
    | .sign "." :: .sign "[" :: rest => readBracket fuel base rest
    | .sign "[" :: rest => readBracket fuel base rest
    | tokens => some (base, tokens)

/-- Access by a bracket whose opening has been read. -/
def readBracket : Nat → Term → List Token → Parsed Term
  | 0, _, _ => none
  | fuel + 1, base, tokens =>
    match tokens with
    | .sign "]" :: rest =>
      let (optional, rest) := takeOptional rest
      readSuffixes fuel (.values base optional) rest
    | .sign ":" :: rest =>
      match readTerm true fuel rest with
      | some (upper, rest) => closeBracket fuel (.sliceTo base upper) rest
      | none => none
    | tokens =>
      match readTerm true fuel tokens with
      | some (lower, .sign ":" :: .sign "]" :: rest) =>
        closeBracket fuel (.sliceFrom base lower) (.sign "]" :: rest)
      | some (lower, .sign ":" :: rest) =>
        match readTerm true fuel rest with
        | some (upper, rest) => closeBracket fuel (.slice base lower upper) rest
        | none => none
      | some (key, rest) => closeBracket fuel (.index base key) rest
      | none => none

def closeBracket : Nat → (Bool → Term) → List Token → Parsed Term
  | 0, _, _ => none
  | fuel + 1, part, tokens =>
    match expectSign "]" tokens with
    | some rest =>
      let (optional, rest) := takeOptional rest
      readSuffixes fuel (part optional) rest
    | none => none

/-- The filters behind an opening bracket, with semicolons between them. -/
def readArguments : Nat → List Token → Parsed (List Term)
  | 0, _ => none
  | fuel + 1, tokens =>
    match readTerm true fuel tokens with
    | some (term, .sign ";" :: rest) =>
      (readArguments fuel rest).map fun (others, rest) => (term :: others, rest)
    | some (term, rest) => (expectSign ")" rest).map fun rest => ([term], rest)
    | none => none

/-- The source of a fold, its variable and its filters. -/
def readFold : Nat → List Token → Parsed (Term × Pattern × List Term)
  | 0, _ => none
  | fuel + 1, tokens =>
    match readAtom fuel tokens with
    | some (source, .word "as" :: rest) =>
      match readPattern "0" fuel rest with
      | some (pattern, .sign "(" :: rest) =>
        (readArguments fuel rest).map fun (arguments, rest) => ((source, pattern, arguments), rest)
      | _ => none
    | _ => none

/-- A condition and what depends on it. -/
def readConditional : Nat → List Token → Parsed Term
  | 0, _ => none
  | fuel + 1, tokens =>
    match readTerm true fuel tokens with
    | some (condition, .word "then" :: rest) =>
      match readTerm true fuel rest with
      | some (yes, .word "elif" :: rest) =>
        (readConditional fuel rest).map fun (no, rest) => (.conditional condition yes no, rest)
      | some (yes, .word "else" :: rest) =>
        match readTerm true fuel rest with
        | some (no, rest) =>
          (expectWord "end" rest).map fun rest => (.conditional condition yes no, rest)
        | none => none
      | some (yes, rest) =>
        (expectWord "end" rest).map fun rest => (.conditional condition yes .identity, rest)
      | none => none
    | _ => none

/-- The members of an object up to its closing bracket. -/
def readMembers : Nat → List Token → Parsed (List (Term × Term))
  | 0, _ => none
  | fuel + 1, tokens =>
    match readMember fuel tokens with
    | some (member, .sign "," :: rest) =>
      (readMembers fuel rest).map fun (others, rest) => (member :: others, rest)
    | some (member, rest) => (expectSign "\x7d" rest).map fun rest => ([member], rest)
    | none => none

def readMember : Nat → List Token → Parsed (Term × Term)
  | 0, _ => none
  | fuel + 1, tokens =>
    match tokens with
    | .word name :: rest => readValue fuel (.text name) (.memberOf (.text name)) rest
    | .variable name :: rest =>
      match rest with
      | .sign ":" :: rest =>
        (readTerm false fuel rest).map fun (value, rest) => ((.variable name, value), rest)
      | rest => some ((.text name, .variable name), rest)
    | .number text :: rest => readValue fuel (.number text) (.memberOf (.number text)) rest
    | .string parts :: rest =>
      match readParts fuel parts with
      | some parts =>
        let key := Term.ofParts none parts
        readValue fuel key (.memberOf key) rest
      | none => none
    | .format name :: .string parts :: rest =>
      match readParts fuel parts with
      | some parts =>
        let key := Term.ofParts (some name) parts
        readValue fuel key (.memberOf key) rest
      | none => none
    | .sign "(" :: rest =>
      match readTerm true fuel rest with
      | some (key, .sign ")" :: .sign ":" :: rest) =>
        (readTerm false fuel rest).map fun (value, rest) => ((key, value), rest)
      | _ => none
    | _ => none

/-- The value of a member, or the given one if none is written. -/
def readValue : Nat → Term → Term → List Token → Parsed (Term × Term)
  | 0, _, _, _ => none
  | fuel + 1, key, otherwise, tokens =>
    match tokens with
    | .sign ":" :: rest =>
      (readTerm false fuel rest).map fun (value, rest) => ((key, value), rest)
    | rest => some ((key, otherwise), rest)

/-- A pattern; variables for whole values that it takes apart are named by their place in it. -/
def readPattern (place : String) : Nat → List Token → Parsed Pattern
  | 0, _ => none
  | fuel + 1, tokens =>
    match tokens with
    | .variable name :: rest => some (⟨name, []⟩, rest)
    | .sign "[" :: rest =>
      (readItemPatterns place 0 fuel rest).map fun (parts, rest) => (⟨place, parts⟩, rest)
    | .sign "\x7b" :: rest =>
      (readMemberPatterns place 0 fuel rest).map fun (parts, rest) => (⟨place, parts⟩, rest)
    | _ => none

def readItemPatterns (place : String) (i : Nat) : Nat → List Token → Parsed (List (Term × String))
  | 0, _ => none
  | fuel + 1, tokens =>
    match readPattern (place ++ "." ++ toString i) fuel tokens with
    | some (item, rest) =>
      let parts := (.index (.variable place) (.number (toString i)) false, item.name) :: item.parts
      match rest with
      | .sign "," :: rest =>
        (readItemPatterns place (i + 1) fuel rest).map fun (others, rest) => (parts ++ others, rest)
      | rest => (expectSign "]" rest).map fun rest => (parts, rest)
    | none => none

def readMemberPatterns (place : String) (i : Nat) : Nat → List Token → Parsed (List (Term × String))
  | 0, _ => none
  | fuel + 1, tokens =>
    match readMemberPattern (place ++ "." ++ toString i) place fuel tokens with
    | some (parts, .sign "," :: rest) =>
      (readMemberPatterns place (i + 1) fuel rest).map fun (others, rest) => (parts ++ others, rest)
    | some (parts, rest) => (expectSign "\x7d" rest).map fun rest => (parts, rest)
    | none => none

/-- A pattern for a member of the object that a variable holds. -/
def readMemberPattern (place whole : String) : Nat → List Token → Parsed (List (Term × String))
  | 0, _ => none
  | fuel + 1, tokens =>
    match tokens with
    | .variable name :: rest =>
      let own := (Term.index (.variable whole) (.text name) false, name)
      match rest with
      | .sign ":" :: rest =>
        (readPattern place fuel rest).map fun (inner, rest) =>
          (own :: (.variable name, inner.name) :: inner.parts, rest)
      | rest => some ([own], rest)
    | .word name :: .sign ":" :: rest => readInnerPattern place whole fuel (.text name) rest
    | .string parts :: .sign ":" :: rest =>
      match readParts fuel parts with
      | some parts => readInnerPattern place whole fuel (.ofParts none parts) rest
      | none => none
    | .sign "(" :: rest =>
      match readTerm true fuel rest with
      | some (key, .sign ")" :: .sign ":" :: rest) => readInnerPattern place whole fuel key rest
      | _ => none
    | _ => none

/-- The pattern for the value under a key. -/
def readInnerPattern (place whole : String) :
    Nat → Term → List Token → Parsed (List (Term × String))
  | 0, _, _ => none
  | fuel + 1, key, tokens =>
    (readPattern place fuel tokens).map fun (inner, rest) =>
      ((.index (.variable whole) key false, inner.name) :: inner.parts, rest)

def readDefinition : Nat → List Token → Parsed Definition
  | 0, _ => none
  | fuel + 1, tokens =>
    match tokens with
    | .word "def" :: .word name :: rest =>
      match readParameters rest with
      | some (parameters, .sign ":" :: rest) =>
        match readTerm true fuel rest with
        | some (body, rest) =>
          (expectSign ";" rest).map fun rest => (⟨name, parameters, body⟩, rest)
        | none => none
      | _ => none
    | _ => none

end

mutual

/-- A bound on the calls that reading tokens takes. -/
def Token.weight : Token → Nat
  | .string parts => partsWeight parts + 1
  | _ => 1

/-- The bound for the parts of a string. -/
def partsWeight : List StringPart → Nat
  | [] => 0
  | .text _ :: rest => partsWeight rest + 1
  | .filter tokens :: rest => tokensWeight tokens + partsWeight rest + 1

/-- The bound for several tokens. -/
def tokensWeight : List Token → Nat
  | [] => 1
  | token :: rest => token.weight + tokensWeight rest

end

/-- The fuel for reading tokens: several calls for each of them. -/
def readingFuel (tokens : List Token) : Nat := 8 * tokensWeight tokens + 8

def Term.ofText? (text : String) : Option Term :=
  match Token.ofText? text with
  | some tokens =>
    match readTerm true (readingFuel tokens) tokens with
    | some (term, []) => some term
    | _ => none
  | none => none

def readDefinitions : Nat → List Token → List Definition
  | 0, _ => []
  | fuel + 1, tokens =>
    match readDefinition fuel tokens with
    | some (definition, rest) => definition :: readDefinitions fuel rest
    | none => []

def Definition.listOfText (text : String) : List Definition :=
  match Token.ofText? text with
  | some tokens => readDefinitions (readingFuel tokens) tokens
  | none => []

end SchemaTables.Jq
