/-!
# What a command may do

A command reads and writes files, prints, and looks at the clock through the operations collected
here, and in no other way.  It can so be run on a file system kept in memory as well as on a real
one.
-/

namespace SchemaTables

/-- Why a file or a directory cannot be used. -/
inductive AccessError
  | notFound
  | alreadyThere
  | notDirectory
  | isDirectory
  | nameTooLong
  /-- The bytes of a file are no text. -/
  | notText
  | other (description : String)
  deriving DecidableEq, Inhabited

def AccessError.message : AccessError → String
  | .notFound => "No such file or directory (os error 2)"
  | .alreadyThere => "File exists (os error 17)"
  | .notDirectory => "Not a directory (os error 20)"
  | .isDirectory => "Is a directory (os error 21)"
  | .nameTooLong => "File name too long (os error 36)"
  | .notText => "stream did not contain valid UTF-8"
  | .other description => description

/-- What a path may lead to. -/
inductive EntryKind
  | directory
  | file
  deriving DecidableEq, Inhabited

/-- A point in time, counted from the beginning of 1970. -/
structure Moment where
  seconds : Nat
  microseconds : Nat := 0
  deriving DecidableEq, Inhabited

/-- The operations of a system on which a command runs. -/
structure System (m : Type → Type) where
  /-- What a path leads to, if it leads anywhere. -/
  kind? : String → m (Option EntryKind)
  /-- The names in a directory, in any order. -/
  names : String → m (Except AccessError (List String))
  read : String → m (Except AccessError String)
  write : String → String → m (Except AccessError Unit)
  /-- Makes a directory in one that is there. -/
  makeDirectory : String → m (Except AccessError Unit)
  print : String → m Unit
  /-- Prints where errors are shown. -/
  printError : String → m Unit
  now : m Moment

namespace System

variable {m : Type → Type} [Monad m]

def isDirectory (system : System m) (path : String) : m Bool :=
  (fun kind? => kind? == some .directory) <$> system.kind? path

def exists? (system : System m) (path : String) : m Bool :=
  Option.isSome <$> system.kind? path

end System

end SchemaTables
