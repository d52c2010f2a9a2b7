/-!
# Patterns

The parse tree of a regular expression, as far as it decides whether the expression is a valid
one: what its characters match is not kept beyond what that takes.
-/

namespace SchemaTables.Pattern

/-- The short classes `\d`, `\s` and `\w`. -/
inductive ShortClass
  | digit
  | space
  | word
  deriving DecidableEq, Inhabited

/-- What a property class asks for. -/
inductive Query
  | named (name : String)
  | valued (name value : String)
  deriving DecidableEq, Inhabited

/-- A literal character; `byte` when it was written as two hexadecimal digits. -/
structure Letter where
  char : Char
  byte : Bool := false
  deriving DecidableEq, Inhabited

/-- How two sets in a bracketed class are combined. -/
inductive SetOperation
  | intersection
  | difference
  | symmetricDifference
  deriving DecidableEq, Inhabited

/-- The set inside a bracketed class. -/
inductive ClassSet
  | empty
  | letter (letter : Letter)
  | range (first last : Letter)
  /-- A class such as `[:alpha:]`. -/
  | posix (negated : Bool)
  | short (kind : ShortClass) (negated : Bool)
  | property (query : Query) (negated : Bool)
  | bracketed (negated : Bool) (set : ClassSet)
  | union (items : List ClassSet)
  | operation (kind : SetOperation) (left right : ClassSet)
  deriving Inhabited

/-- The flags that a pattern can switch. -/
inductive Flag
  | caseInsensitive
  | multiLine
  | dotMatchesNewLine
  | swapGreed
  | unicode
  | carriageReturn
  | ignoreBlanks
  deriving DecidableEq, Inhabited

/-- Flags in the order written; `none` is the sign that negates those after it. -/
abbrev Flags := List (Option Flag)

/-- The last word of flags on one of them. -/
def Flags.state? (flags : Flags) (flag : Flag) : Option Bool :=
  (flags.foldl
    (fun (negated, state) item =>
      match item with
      | none => (true, state)
      | some other => if other = flag then (negated, some (!negated)) else (negated, state))
    (false, none)).2

/-- What a group is for. -/
inductive GroupKind
  | capture
  | named (name : String)
  | plain (flags : Flags)
  deriving DecidableEq, Inhabited

/-- A regular expression. -/
inductive Tree
  | empty
  | flags (flags : Flags)
  | letter (letter : Letter)
  | dot
  /-- A place between characters, such as `^` or `\b`. -/
  | place
  | short (kind : ShortClass) (negated : Bool)
  | property (query : Query) (negated : Bool)
  | bracketed (negated : Bool) (set : ClassSet)
  /-- At least `least` and at most `most?` times. -/
  | repetition (least : Nat) (most? : Option Nat) (body : Tree)
  | group (kind : GroupKind) (body : Tree)
  | alternation (branches : List Tree)
  | concat (parts : List Tree)
  deriving Inhabited

/-- Parts one after the other; a single part stands for itself. -/
def Tree.ofParts : List Tree → Tree
  | [] => .empty
  | [part] => part
  | parts => .concat parts

/-- Branches of a choice; a single branch stands for itself. -/
def Tree.ofBranches : List Tree → Tree
  | [] => .empty
  | [branch] => branch
  | branches => .alternation branches

/-- Items of a set; a single item stands for itself. -/
def ClassSet.ofItems : List ClassSet → ClassSet
  | [] => .empty
  | [item] => item
  | items => .union items

mutual

/-- How deep sets are nested in a set. -/
def ClassSet.depth : ClassSet → Nat
  | .bracketed _ set => set.depth + 1
  | .union items => depthAll items + 1
  | .operation _ left right => max left.depth right.depth + 1
  | _ => 0

def ClassSet.depthAll : List ClassSet → Nat
  | [] => 0
  | item :: rest => max item.depth (depthAll rest)

end

mutual

def Tree.depth : Tree → Nat
  | .bracketed _ set => set.depth + 1
  | .repetition _ _ body => body.depth + 1
  | .group _ body => body.depth + 1
  | .alternation branches => depthAll branches + 1
  | .concat parts => depthAll parts + 1
  | _ => 0

def Tree.depthAll : List Tree → Nat
  | [] => 0
  | part :: rest => max part.depth (depthAll rest)

end

end SchemaTables.Pattern
