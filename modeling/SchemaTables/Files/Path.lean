import SchemaTables.Text.Segments

/-!
# Paths

A path is a text of names with slashes between them.  It is absolute when it begins with a slash,
and relative to a working directory otherwise.  Names that are empty or a dot lead nowhere else.
-/

namespace SchemaTables.Path

/-- Does a path begin at the root? -/
def isAbsolute (path : String) : Bool := Text.startsWith "/" path

/-- A path continued by another one, which counts alone when it is absolute. -/
def join (base path : String) : String :=
  if isAbsolute path || base.isEmpty then path
  else if base.toList.getLast? = some '/' then base ++ path
  else base ++ "/" ++ path

/-- The names of a path that lead somewhere. -/
def names (path : String) : List String :=
  (Text.split '/' path).filter fun name => name != "" && name != "."

/-- The path of names from the root or the working directory. -/
def ofNames (absolute : Bool) (names : List String) : String :=
  (if absolute then "/" else "") ++ Text.join "/" names

/-- The characters of a name before its last dot; a dot in front does not count. -/
def beforeLastDot (name : List Char) : List Char :=
  match (name.reverse.dropWhile (· ≠ '.')).drop 1 with
  | [] => name
  | before => before.reverse

/-- The last name of a path without its extension; a path that ends in its parent has none. -/
def stem? (path : String) : Option String :=
  match (names path).getLast? with
  | none => none
  | some ".." => none
  | some name => some (String.ofList (beforeLastDot name.toList))

end SchemaTables.Path
