import SchemaTables.Files.System
import SchemaTables.Files.Wildcard

/-!
# Searching for files

The paths that a pattern stands for, each directory before what is in it, and what is in a
directory by name.
-/

namespace SchemaTables

/-- A directory that cannot be looked into. -/
structure SearchError where
  path : String
  cause : AccessError
  deriving DecidableEq, Inhabited

def SearchError.message (error : SearchError) : String :=
  "attempting to read \x60" ++ error.path ++ "\x60 resulted in an error: " ++ error.cause.message

namespace Search

open Wildcard

variable {m : Type → Type} [Monad m]

/-- The path of a name in a directory; the working directory is left unsaid. -/
def inside (directory name : String) : String :=
  if directory = "." then name else Path.join directory name

/-- The found paths of several searches, one after the other. -/
def all (search : String → ExceptT SearchError m (List String)) (names : List String) :
    ExceptT SearchError m (List String) :=
  List.flatten <$> names.mapM search

/-- The names in a directory in ascending order. -/
def sortedNames (system : System m) (directory : String) :
    ExceptT SearchError m (List String) :=
  ExceptT.mk do
    match ← system.names directory with
    | .ok names => return .ok (names.mergeSort fun a b => a ≤ b)
    | .error cause => return .error ⟨directory, cause⟩

/-- A path that a whole pattern stands for. -/
def found (system : System m) (pattern : PathPattern) (path : String) :
    ExceptT SearchError m (List String) := do
  if !pattern.directoriesOnly || (← system.isDirectory path) then return [path] else return []

mutual

/-- The paths below a directory that patterns of names stand for. -/
def below (system : System m) (pattern : PathPattern) :
    Nat → List NamePattern → String → ExceptT SearchError m (List String)
  | 0, _, _ => return []
  | _ + 1, [], path => found system pattern path
  | depth + 1, first :: rest, directory => do
    match first.literal? with
    | some name =>
      let path := inside directory name
      let isThere ←
        if name = "." || name = ".." then system.isDirectory directory else system.exists? path
      if isThere then below system pattern depth rest path else return []
    | none =>
      if ← system.isDirectory directory then
        let around ← all (fun name => below system pattern depth rest (Path.join directory name))
          first.dots
        let names ← sortedNames system directory
        let within ← all (fun name =>
          entry system pattern depth (first :: rest) name (inside directory name)) names
        return around ++ within
      else return []

/-- The paths that patterns stand for, at an entry of a directory and below it. -/
def entry (system : System m) (pattern : PathPattern) :
    Nat → List NamePattern → String → String → ExceptT SearchError m (List String)
  | 0, _, _, _ => return []
  | _ + 1, [], _, _ => return []
  | depth + 1, first :: rest, name, path => do
    if first.isAnyDepth then
      let rest := rest.dropWhile NamePattern.isAnyDepth
      let isDirectory ← system.isDirectory path
      let here ←
        match rest with
        | [] => pure (if isDirectory then [path] else [])
        | next :: others =>
          if next.accepts name then below system pattern depth others path else pure []
      if isDirectory then return here ++ (← below system pattern depth (first :: rest) path)
      else return here
    else if first.accepts name then below system pattern depth rest path
    else return []

end

/-- No path leads through more directories than this. -/
def maxDepth : Nat := 4096

/-- The paths that a pattern stands for. -/
def run (system : System m) (pattern : PathPattern) : m (Except SearchError (List String)) :=
  below system pattern (2 * (maxDepth + pattern.names.length)) pattern.names
    (if pattern.absolute then "/" else ".")

/-- The paths that a text stands for as a pattern; a directory that cannot be looked into comes in
their place. -/
def ofText (system : System m) (text : String) :
    m (Except String (List (Except String String))) :=
  match PathPattern.ofText text with
  | .error cause => return .error cause.message
  | .ok pattern => do
    match ← run system pattern with
    | .ok paths => return .ok (paths.map .ok)
    | .error cause => return .ok [.error cause.message]

end Search

end SchemaTables
