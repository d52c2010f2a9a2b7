import SchemaTables.Files.Path

/-!
# Wildcards

A pattern of file names.  `?` stands for one character, `*` for any characters, and brackets for
one character of those inside them or, after an exclamation mark, for one that is not inside.  The
name `**` stands for directories at any depth.
-/

namespace SchemaTables.Wildcard

/-- A part of a pattern. -/
inductive Token
  | char (c : Char)
  | anyChar
  | anyChars
  | anyDepth
  /-- One of some characters, given by their first and last ones. -/
  | oneOf (ranges : List (Char × Char))
  | noneOf (ranges : List (Char × Char))
  deriving DecidableEq, Inhabited

/-- What can be wrong with a pattern. -/
inductive Flaw
  | tooManyStars
  | starsBesideName
  | badBrackets
  deriving DecidableEq, Inhabited

/-- A flaw, and the number of characters before the place where it shows. -/
structure PatternError where
  position : Nat
  flaw : Flaw
  deriving DecidableEq, Inhabited

def Flaw.message : Flaw → String
  | .tooManyStars => "wildcards are either regular \x60*\x60 or recursive \x60**\x60"
  | .starsBesideName => "recursive wildcards must form a single path component"
  | .badBrackets => "invalid range pattern"

def PatternError.message (error : PatternError) : String :=
  "Pattern syntax error near position " ++ toString error.position ++ ": " ++ error.flaw.message

/-! ## Reading -/

/-- The ranges that are written between brackets. -/
def ranges : List Char → List (Char × Char)
  | first :: '-' :: last :: rest => (first, last) :: ranges rest
  | c :: rest => (c, c) :: ranges rest
  | [] => []

/-- Cuts a text at its first closing bracket. -/
def untilBracket? : List Char → Option (List Char × List Char)
  | [] => none
  | ']' :: rest => some ([], rest)
  | c :: rest => (untilBracket? rest).map fun (inside, behind) => (c :: inside, behind)

theorem length_untilBracket? {text inside behind : List Char}
    (h : untilBracket? text = some (inside, behind)) :
    text.length = inside.length + behind.length + 1 := by
  fun_induction untilBracket? text generalizing inside with
  | case1 => simp at h
  | case2 rest => simp_all
  | case3 c rest _ ih =>
    obtain ⟨⟨inner, tail⟩, hinner, heq⟩ := Option.map_eq_some_iff.1 h
    obtain ⟨rfl, rfl⟩ := Prod.mk.inj heq
    have := ih hinner
    simp only [List.length_cons]
    omega

/-- Reads brackets behind the opening one: their token, the length of what is inside, and what
follows the closing one.  The first character inside may be a closing bracket itself. -/
def brackets? : List Char → Option (Token × List Char)
  | '!' :: c :: rest =>
    (untilBracket? rest).map fun (inside, behind) => (.noneOf (ranges (c :: inside)), behind)
  | '!' :: [] => none
  | c :: rest =>
    (untilBracket? rest).map fun (inside, behind) => (.oneOf (ranges (c :: inside)), behind)
  | [] => none

theorem length_brackets? {text behind : List Char} {token : Token}
    (h : brackets? text = some (token, behind)) : behind.length < text.length := by
  unfold brackets? at h
  split at h <;> try simp at h
  all_goals
    obtain ⟨inside, hinside, -⟩ := h
    have := length_untilBracket? hinside
    simp only [List.length_cons]
    omega

/-- Reads the tokens of a pattern behind a character, if there is one, from a position on. -/
def tokens (before? : Option Char) (position : Nat) (text : List Char) :
    Except PatternError (List Token) :=
  match text with
  | [] => .ok []
  | '?' :: rest => (tokens (some '?') (position + 1) rest).map (.anyChar :: ·)
  | '*' :: '*' :: '*' :: _ => .error ⟨position + 2, .tooManyStars⟩
  | '*' :: '*' :: rest =>
    if before?.getD '/' = '/' then
      match rest with
      | [] => .ok [.anyDepth]
      | '/' :: rest => (tokens (some '/') (position + 3) rest).map (.anyDepth :: ·)
      | _ => .error ⟨position + 2, .starsBesideName⟩
    else .error ⟨position - 1, .starsBesideName⟩
  | '*' :: rest => (tokens (some '*') (position + 1) rest).map (.anyChars :: ·)
  | '[' :: rest =>
    match h : brackets? rest with
    | some (token, behind) =>
      have := length_brackets? h
      (tokens (some ']') (position + 1 + (rest.length - behind.length)) behind).map (token :: ·)
    | none => .error ⟨position, .badBrackets⟩
  | c :: rest => (tokens (some c) (position + 1) rest).map (.char c :: ·)
termination_by text.length
decreasing_by all_goals simp_wf <;> omega

abbrev NamePattern := List Token

structure PathPattern where
  absolute : Bool
  /-- The patterns of the names on the way. -/
  names : List NamePattern
  /-- A pattern that ends in a slash is one of directories only. -/
  directoriesOnly : Bool
  deriving Inhabited

/-- The segments of a path pattern; nothing is behind a slash at the end. -/
def segments (text : String) : List String :=
  let all := Text.split '/' text
  if all.getLast? = some "" then all.dropLast else all

/-- Reads a pattern for paths.  It has to be one as a whole before its segments are looked at. -/
def PathPattern.ofText (text : String) : Except PatternError PathPattern := do
  let _ ← tokens none 0 text.toList
  let below := (Text.afterStart? "/" text).getD text
  let names ← (segments below).mapM fun segment => tokens none 0 segment.toList
  return ⟨Path.isAbsolute text, names, text.toList.getLast? = some '/'⟩

/-! ## Matching -/

def Token.accepts (c : Char) : Token → Bool
  | .char d => c == d
  | .anyChar => true
  | .anyChars => true
  | .anyDepth => true
  | .oneOf ranges => ranges.any fun (first, last) => first ≤ c && c ≤ last
  | .noneOf ranges => !ranges.any fun (first, last) => first ≤ c && c ≤ last

/-- Does a pattern stand for a name? -/
def Token.accept : NamePattern → List Char → Bool
  | [], name => name.isEmpty
  | .anyChars :: rest, [] => accept rest []
  | .anyChars :: rest, c :: name => accept rest (c :: name) || accept (.anyChars :: rest) name
  | _ :: _, [] => false
  | token :: rest, c :: name => token.accepts c && accept rest name
termination_by pattern name => pattern.length + name.length

namespace NamePattern

/-- The only name that a pattern stands for, if it has no wildcard. -/
def literal? (pattern : NamePattern) : Option String :=
  String.ofList <$> pattern.mapM fun
    | .char c => some c
    | _ => none

def accepts (pattern : NamePattern) (name : String) : Bool := Token.accept pattern name.toList

/-- Is it the pattern of directories at any depth? -/
def isAnyDepth (pattern : NamePattern) : Bool := pattern == [.anyDepth]

/-- The names of a directory itself and of its parent that a pattern with a dot in front stands
for. -/
def dots (pattern : NamePattern) : List String :=
  if pattern.head? = some (.char '.') then ["..", "."].filter (accepts pattern) else []

end NamePattern

end SchemaTables.Wildcard
