import SchemaTables.Command.Run
import Std.Time.Format

/-!
# The program

Runs a command on the file system, the streams and the clock of the machine.
-/

open SchemaTables
open SchemaTables.Command

/-- The number of a failure, which may come with a minus sign. -/
def failureNumber? : IO.Error → Option UInt32
  | .noFileOrDirectory _ code _ => some (min code (0 - code))
  | .alreadyExists _ code _ => some (min code (0 - code))
  | .inappropriateType _ code _ => some (min code (0 - code))
  | .invalidArgument _ code _ => some (min code (0 - code))
  | .otherError code _ => some (min code (0 - code))
  | _ => none

/-- The cause of a failure. -/
def accessError (error : IO.Error) : AccessError :=
  match failureNumber? error with
  | some 2 => .notFound
  | some 17 => .alreadyThere
  | some 20 => .notDirectory
  | some 21 => .isDirectory
  | some 36 => .nameTooLong
  | _ => .other (toString error)

/-- What comes of an operation that may fail. -/
def attempt (operation : IO α) : IO (Except AccessError α) := do
  try return .ok (← operation)
  catch error => return .error (accessError error)

/-- The machine as the system that a command runs on. -/
def machine : System IO where
  kind? path := do
    match ← attempt (IO.FS.realPath path) with
    | .ok place => if ← place.isDir then return some .directory else return some .file
    | .error _ => return none
  names path := attempt do
    let place ← IO.FS.realPath path
    return ((← place.readDir).map fun entry => entry.fileName).toList
  read path := do
    match ← attempt (IO.FS.readBinFile path) with
    | .error cause => return .error cause
    | .ok content =>
      match String.fromUTF8? content with
      | some text => return .ok text
      | none => return .error .notText
  write path text := attempt (IO.FS.writeBinFile path text.toUTF8)
  makeDirectory path := attempt (IO.FS.createDir path)
  print text := do (← IO.getStdout).putStr text
  printError text := do (← IO.getStderr).putStr text
  now := do
    let nanoseconds := (← Std.Time.Timestamp.now).toNanosecondsSinceUnixEpoch.val.toNat
    return ⟨nanoseconds / 1000000000, nanoseconds / 1000 % 1000000⟩

/-- The environment of the program, as far as it is looked at. -/
def environment : IO Environment := do
  let names := ["JSON_DDL_DIALECT", "JSON_DDL_OUT_DIR", "RUST_LOG", "NO_COLOR", "CLICOLOR",
    "CLICOLOR_FORCE"]
  let values ← names.mapM fun name => return (name, ← IO.getEnv name)
  return fun name => (values.lookup name).join

/-- Shows how the program is used, or runs a command. -/
def main (words : List String) : IO UInt32 := do
  let environment ← environment
  match Request.ofWords environment false words with
  | .error e =>
    (← IO.getStderr).putStr e.report
    return 2
  | .ok request =>
    let terminal ← (← IO.getStdout).isTty
    request.run machine environment terminal
