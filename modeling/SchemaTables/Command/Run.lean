import SchemaTables.Command.Dump
import SchemaTables.Command.Inputs
import SchemaTables.Command.Log
import SchemaTables.Compilation
import SchemaTables.Json.Printer

/-!
# Running commands

What a command does with its documents is first planned as a list of actions and then carried out.
The plan tells for every document, in order, what happens in its compilation, and then, in the same
order, what its result is; no document has a say in what is planned for another one.
-/

namespace SchemaTables.Command

/-- What a command does. -/
inductive Action
  | log (event : Event)
  | print (text : String)
  | printError (text : String)
  /-- Writes a script into a directory of its own. -/
  | save (directory : String) (script : Script)
  deriving DecidableEq, Inhabited

/-- How results are presented. -/
structure Presentation where
  /-- Are results coloured? -/
  colours : Bool := false
  /-- What the names of the directories of scripts begin with. -/
  stamp : String
  deriving Inhabited

/-! ## Events of a compilation -/

def referenceCount (tables : List (TableWith ρ)) : Nat :=
  (tables.flatMap fun table => table.references).length

/-- What happens when a document is checked. -/
def checkEvents (document : Json) : List Event :=
  if !Schema.isDocument document then [.rejected]
  else
    match Database.read document with
    | .error _ => []
    | .ok database =>
      let tables := database.tables
      let first : List Event := [.validated database.length, .visited tables.length]
      match resolveAll tables with
      | .error _ => first
      | .ok resolved => first ++ [.resolved (referenceCount resolved)]

/-- What happens when a document is compiled. -/
def compileEvents (dialect : Dialect) (document : Json) : List Event :=
  checkEvents document ++
    match compile dialect document with
    | .error _ => []
    | .ok script => [.generated script.up.length script.down.length (dialectLabel dialect)]

/-! ## Results -/

/-- Lines, each with its end. -/
def lines (texts : List String) : String := Text.concat (texts.map fun text => text ++ "\n")

def Script.printed (script : Script) : String :=
  lines script.up ++ lines ["-- down"] ++ lines script.down

/-- What is wrong with a document, as it is printed. -/
def failureReport (colours : Bool) (source : String) (diagnostics : List Diagnostic) : String :=
  lines ((paint colours "1;31" "error:" ++ " " ++ source) ::
    diagnostics.map fun diagnostic =>
      "  " ++ paint colours "33" ("/" ++ diagnostic.location) ++ " " ++ diagnostic.message)

/-- What is done with the result of one of several documents. -/
def resultActions (settings : CompileSettings) (presentation : Presentation) (several : Bool)
    (input : Input) : List Action :=
  let result := compile settings.dialect input.document
  match settings.format with
  | .json => [.print ((resultDocument result).pretty ++ "\n")]
  | .sql =>
    match result, settings.directory with
    | .error diagnostics, _ =>
      [.printError (failureReport presentation.colours input.source diagnostics)]
    | .ok script, none =>
      [.print ((if several then lines ["-- " ++ input.source] else "") ++ Script.printed script)]
    | .ok script, some base =>
      let directory := Path.join base (presentation.stamp ++ "_" ++ input.name)
      [.save directory script,
        .printError (lines [paint presentation.colours "32" "wrote" ++ " " ++ directory])]

def compilePlan (settings : CompileSettings) (presentation : Presentation) (inputs : List Input) :
    List Action :=
  (inputs.flatMap fun input => (compileEvents settings.dialect input.document).map .log) ++
    inputs.flatMap (resultActions settings presentation (1 < inputs.length))

/-- What is said about one of the checked documents. -/
def verdict (colours : Bool) (input : Input) : String :=
  match check input.document with
  | [] => lines [paint colours "32" "ok" ++ " " ++ input.source]
  | diagnostics => failureReport colours input.source diagnostics

def checkPlan (presentation : Presentation) (inputs : List Input) : List Action :=
  (inputs.flatMap fun input => (checkEvents input.document).map .log) ++
    inputs.map fun input => .printError (verdict presentation.colours input)

def allSound (inputs : List Input) : Bool := inputs.all fun input => (check input.document).isEmpty

/-! ## Carrying out -/

/-- What the environment of a command says about its output. -/
structure Console where
  directives : List Directive
  /-- Are results coloured? -/
  colours : Bool := false
  /-- Are log lines coloured? -/
  logColours : Bool := false
  deriving Inhabited

/-- Results are coloured on a terminal, unless variables of the environment say otherwise. -/
def Console.ofEnvironment (environment : Environment) (terminal verbose : Bool) : Console where
  directives := Directive.ofEnvironment environment verbose
  colours :=
    if (environment "CLICOLOR_FORCE").any (· != "0") then true
    else if (environment "NO_COLOR").isSome then false
    else terminal && (environment "CLICOLOR").all (· != "0")
  logColours := (environment "NO_COLOR").all (· == "")

variable {m : Type → Type} [Monad m]

/-- Makes a directory and those above it that are not there; names are given last one first. -/
def makeDirectories (system : System m) (absolute : Bool) :
    List String → m (Except AccessError Unit)
  | [] => return .ok ()
  | name :: above => do
    let path := Path.ofNames absolute (name :: above).reverse
    match ← system.makeDirectory path with
    | .ok () => return .ok ()
    | .error .notFound =>
      match ← makeDirectories system absolute above with
      | .error cause => return .error cause
      | .ok () => settle system path (← system.makeDirectory path)
    | .error cause => settle system path (.error cause)
where
  /-- A directory that could not be made may be there. -/
  settle (system : System m) (path : String) : Except AccessError Unit → m (Except AccessError Unit)
    | .ok () => return .ok ()
    | .error cause => do
      if ← system.isDirectory path then return .ok () else return .error cause

def fileText (statements : List String) : String := Text.join "\n" statements ++ "\n"

/-- Writes a file, or ends the command. -/
def writeFile (system : System m) (path text : String) : ExceptT RunError m Unit := do
  match ← system.write path text with
  | .ok () => return ()
  | .error cause => throw (.unwritable path cause)

def saveScript (system : System m) (directory : String) (script : Script) :
    ExceptT RunError m Unit := do
  let names := (Path.names directory).reverse
  match ← (makeDirectories system (Path.isAbsolute directory) names : m _) with
  | .error cause => throw (.unwritable directory cause)
  | .ok () =>
    writeFile system (Path.join directory "up.sql") (fileText script.up)
    writeFile system (Path.join directory "down.sql") (fileText script.down)

def Action.perform (system : System m) (console : Console) : Action → ExceptT RunError m Unit
  | .log event => do
    if event.isShown console.directives then
      system.printError (event.line console.logColours (← system.now))
  | .print text => system.print text
  | .printError text => system.printError text
  | .save directory script => saveScript system directory script

/-- Carries out a plan, up to the first action that fails. -/
def performAll (system : System m) (console : Console) (plan : List Action) :
    ExceptT RunError m Unit :=
  plan.forM fun action => action.perform system console

/-- Does a task, and tells whether all documents are sound. -/
def Task.run (tools : Tools m) (system : System m) (console : Console) :
    Task → ExceptT RunError m Bool
  | .compile settings => do
    let inputs ← load tools system settings.inputs
    Action.perform system console (.log (.inputsLoaded inputs.length))
    let presentation : Presentation := ⟨console.colours, (← system.now).stamp⟩
    performAll system console (compilePlan settings presentation inputs)
    return allSound inputs
  | .check settings => do
    let inputs ← load tools system settings
    Action.perform system console (.log (.inputsLoaded inputs.length))
    performAll system console (checkPlan ⟨console.colours, ""⟩ inputs)
    return allSound inputs

def Task.isDryRun : Task → Bool
  | .compile settings => settings.dryRun
  | .check _ => false

/-- Runs a command and tells its exit code. -/
def Invocation.run (tools : Tools m) (system : System m) (console : Console)
    (invocation : Invocation) : m UInt32 := do
  if invocation.task.isDryRun then
    system.printError invocation.dump
    return 0
  else
    match ← invocation.task.run tools system console with
    | .ok sound => return if sound then 0 else 1
    | .error e =>
      system.printError ("error: " ++ e.message ++ "\n")
      return 1

def versionLine : String := "json-ddl 0.1.0\n"

def usage : String :=
  lines [
    "Usage: json-ddl [--verbose] compile --input <INPUT>... [OPTIONS]",
    "       json-ddl [--verbose] check --input <INPUT>... [OPTIONS]",
    "",
    "Options of both:",
    "  -i, --input <INPUT>...        paths or patterns of paths",
    "      --json-pointer <POINTER>  the part of every document to take",
    "      --jq-expr <FILTER>        a filter; each output is a document",
    "      --verbose                 tell about every step",
    "",
    "Options of compile:",
    "      --dialect <DIALECT>       pg or mysql",
    "      --out-dir <DIR>           write scripts instead of printing them",
    "      --format <FORMAT>         sql or json",
    "      --no-op                   show the settings and do nothing"]

/-- What is printed for a command line that asks for nothing. -/
def UsageError.report (error : UsageError) : String :=
  "error: " ++ error.message ++ "\n\n" ++ usage

/-- Does what a command line asks for and tells the exit code. -/
def Request.run (system : System m) (environment : Environment) (terminal : Bool)
    (request : Request) (tools : Tools m := .standard system) : m UInt32 :=
  match request with
  | .help => do
    system.print usage
    return 0
  | .version => do
    system.print versionLine
    return 0
  | .invoke invocation =>
    invocation.run tools system (Console.ofEnvironment environment terminal invocation.verbose)

end SchemaTables.Command
