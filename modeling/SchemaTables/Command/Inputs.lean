import SchemaTables.Command.Arguments
import SchemaTables.Command.Tools
import SchemaTables.Json.Pointer
import SchemaTables.Json.Reader

/-!
# Loading inputs

Paths and patterns are turned into the paths of files; every file is read as a document, of which a
pointer may select a part and a filter may make any number of documents.  Loading ends at the first
failure.
-/

namespace SchemaTables.Command

/-- Why a command ends before it has done its work. -/
inductive RunError
  | unreadable (path : String) (cause : AccessError)
  | malformed (path : String) (cause : Json.ReadError)
  | nothingSelected (path pointer : String)
  | badFilter (filter : String) (cause : Jq.FilterError)
  | filterFailed (path filter cause : String)
  | badPattern (cause : String)
  | noMatches (pattern : String)
  | searchFailed (cause : String)
  | unwritable (path : String) (cause : AccessError)
  deriving Inhabited

/-- A text, and behind it the cause that it ends with once more. -/
def withCause (before cause : String) : String := before ++ cause ++ ": " ++ cause

def filterMessage (filter : String) : Jq.FilterError → String
  | .unreadable => "parse error in \x60" ++ filter ++ "\x60"
  | .undefined names => Text.join "\n" (Jq.undefinedLines filter names)

def RunError.message : RunError → String
  | .unreadable path cause => withCause ("failed to read " ++ path ++ ": ") cause.message
  | .malformed path cause => withCause ("failed to parse JSON in " ++ path ++ ": ") cause.message
  | .nothingSelected path pointer =>
    "JSON pointer " ++ pointer ++ " selects nothing in " ++ path
  | .badFilter filter cause => "invalid jq expression: " ++ filterMessage filter cause
  | .filterFailed path filter cause =>
    "jq expression failed on " ++ path ++ ": " ++ Jq.faultMessage filter path cause
  | .badPattern cause => withCause "invalid glob pattern: " cause
  | .noMatches pattern => "glob pattern matched no files: " ++ pattern
  | .searchFailed cause => withCause "unreadable glob match: " cause
  | .unwritable path cause => withCause ("failed to write " ++ path ++ ": ") cause.message

/-- A document to work on. -/
structure Input where
  /-- The path of the file that it comes from. -/
  source : String
  /-- What the script of the document is called. -/
  name : String
  document : Json
  deriving Inhabited

/-! ## Files -/

section

variable {m : Type → Type} [Monad m]

/-- Do any characters of a text make it a pattern? -/
def isPattern (text : String) : Bool := text.toList.any fun c => c ∈ ['*', '?', '[', '\x7b']

/-- The paths that a pattern stands for; a path that is no pattern stands for itself. -/
def expand (tools : Tools m) (pattern : String) : ExceptT RunError m (List String) :=
  if isPattern pattern then do
    match ← (tools.search pattern : m _) with
    | .error cause => throw (.badPattern cause)
    | .ok entries =>
      match entries.mapM id with
      | .error cause => throw (.searchFailed cause)
      | .ok [] => throw (.noMatches pattern)
      | .ok paths => return paths
  else return [pattern]

def readDocument (system : System m) (path : String) : ExceptT RunError m Json := do
  match ← system.read path with
  | .error cause => throw (.unreadable path cause)
  | .ok text =>
    match Json.read text with
    | .error cause => throw (.malformed path cause)
    | .ok document => return document

end

/-! ## Documents -/

/-- The name of a file that has none. -/
def unnamed : String := "schema"

/-- The part of a document that the settings select. -/
def select (pointer? : Option String) (path : String) (document : Json) : Except RunError Json :=
  match pointer? with
  | none => .ok document
  | some pointer =>
    match document.pointer? pointer with
    | some part => .ok part
    | none => .error (.nothingSelected path pointer)

/-- Documents under the name of a file; of several ones each gets its position behind the name. -/
def named (path : String) (documents : List Json) : List Input :=
  let stem := (Path.stem? path).getD unnamed
  match documents with
  | [document] => [⟨path, stem, document⟩]
  | documents => documents.mapIdx fun i document => ⟨path, stem ++ "_" ++ toString i, document⟩

variable {m : Type → Type}

/-- A filter, and the text that it was made from. -/
structure Filter (tools : Tools m) where
  source : String
  program : tools.Program

/-- The documents that a filter makes of the document in a file. -/
def filtered {tools : Tools m} (filter? : Option (Filter tools)) (path : String) (document : Json) :
    Except RunError (List Input) :=
  match filter? with
  | none => .ok (named path [document])
  | some filter =>
    match tools.outputs filter.program document with
    | .ok documents => .ok (named path documents)
    | .error cause => .error (.filterFailed path filter.source cause)

def InputSettings.compileFilter (tools : Tools m) (settings : InputSettings) :
    Except RunError (Option (Filter tools)) :=
  match settings.filter with
  | none => .ok none
  | some text =>
    match tools.compile text with
    | .ok program => .ok (some ⟨text, program⟩)
    | .error cause => .error (.badFilter text cause)

variable [Monad m]

def loadFile {tools : Tools m} (system : System m) (settings : InputSettings)
    (filter? : Option (Filter tools)) (path : String) : ExceptT RunError m (List Input) := do
  let document ← readDocument system path
  let part ← ExceptT.mk (pure (select settings.pointer path document))
  ExceptT.mk (pure (filtered filter? path part))

/-- The documents that the settings choose, in the order of the paths. -/
def load (tools : Tools m) (system : System m) (settings : InputSettings) :
    ExceptT RunError m (List Input) := do
  let paths := (← settings.patterns.mapM (expand tools)).flatten
  let filter? ← ExceptT.mk (pure (settings.compileFilter tools))
  return (← paths.mapM (loadFile system settings filter?)).flatten

end SchemaTables.Command
