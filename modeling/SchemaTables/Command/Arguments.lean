import SchemaTables.Ddl.Statement

/-!
# Command lines

The words of a command line are read from left to right as options, their values and the name of a
task.  A word that begins with a dash and is longer than it is an option and never the value of
one, unless it is attached to it.  The first word that does not fit decides.

The dialect and the directory for output may also be set in the environment, for the task that
knows these options and where no word sets them.
-/

namespace SchemaTables.Command

/-- How documents are chosen. -/
structure InputSettings where
  pointer : Option String := none
  filter : Option String := none
  /-- Paths and patterns of paths. -/
  patterns : List String
  deriving DecidableEq, Inhabited

/-- How statements are printed. -/
inductive OutputFormat
  | sql
  | json
  deriving DecidableEq, Inhabited

/-- How documents are compiled. -/
structure CompileSettings where
  inputs : InputSettings
  dialect : Dialect := .pg
  /-- Where scripts are written to; they are printed when there is none. -/
  directory : Option String := none
  format : OutputFormat := .sql
  /-- Show the settings and do nothing. -/
  dryRun : Bool := false
  deriving DecidableEq, Inhabited

/-- What is to be done. -/
inductive Task
  | compile (settings : CompileSettings)
  | check (inputs : InputSettings)
  deriving DecidableEq, Inhabited

/-- A task, and how much is said about it. -/
structure Invocation where
  verbose : Bool := false
  task : Task
  deriving DecidableEq, Inhabited

/-- What a command line asks for. -/
inductive Request
  | invoke (invocation : Invocation)
  | help
  | version
  deriving DecidableEq, Inhabited

/-- Why a command line asks for nothing. -/
inductive UsageError
  | noTask
  | unexpected (word : String)
  | repeated (option : String)
  | noValue (option : String)
  | badValue (option value : String)
  | noInput
  deriving DecidableEq, Inhabited

def UsageError.message : UsageError → String
  | .noTask => "a subcommand is required"
  | .unexpected word => "unexpected argument '" ++ word ++ "'"
  | .repeated option => "the argument '--" ++ option ++ "' cannot be used multiple times"
  | .noValue option => "a value is required for '--" ++ option ++ "'"
  | .badValue option value => "invalid value '" ++ value ++ "' for '--" ++ option ++ "'"
  | .noInput => "the argument '--input' is required"

/-! ## Words -/

/-- A word by its shape. -/
inductive Word
  /-- Two dashes alone: no options come after them. -/
  | separator
  | long (name : String) (attached? : Option String)
  | short (letter : Char) (behind : List Char)
  | plain (text : String)
  deriving DecidableEq, Inhabited

def Word.ofText (text : String) : Word :=
  match text.toList with
  | ['-', '-'] => .separator
  | '-' :: '-' :: rest =>
    let name := String.ofList (rest.takeWhile (· ≠ '='))
    match rest.dropWhile (· ≠ '=') with
    | [] => .long name none
    | _ :: value => .long name (some (String.ofList value))
  | '-' :: letter :: rest => .short letter rest
  | _ => .plain text

/-- The value attached to a letter; an equals sign may stand before it. -/
def attachedTo : List Char → Option String
  | [] => none
  | '=' :: value => some (String.ofList value)
  | value => some (String.ofList value)

/-! ## Options -/

/-- The options of tasks. -/
inductive OptionName
  | help
  | verbose
  | pointer
  | filter
  | input
  | dialect
  | directory
  | format
  | dryRun
  deriving DecidableEq, Inhabited

/-- The tasks by name. -/
inductive TaskName
  | compile
  | check
  deriving DecidableEq, Inhabited

namespace OptionName

/-- An option as it is written behind two dashes. -/
def text : OptionName → String
  | .help => "help"
  | .verbose => "verbose"
  | .pointer => "json-pointer"
  | .filter => "jq-expr"
  | .input => "input"
  | .dialect => "dialect"
  | .directory => "out-dir"
  | .format => "format"
  | .dryRun => "no-op"

/-- Does an option stand without a value? -/
def isFlag : OptionName → Bool
  | .help => true
  | .verbose => true
  | .dryRun => true
  | _ => false

def ofTask : TaskName → List OptionName
  | .compile => [.help, .verbose, .pointer, .filter, .input, .dialect, .directory, .format, .dryRun]
  | .check => [.help, .verbose, .pointer, .filter, .input]

def ofText? (task : TaskName) (name : String) : Option OptionName :=
  (ofTask task).find? fun option => option.text == name

def ofLetter? : Char → Option OptionName
  | 'h' => some .help
  | 'i' => some .input
  | _ => none

end OptionName

/-! ## Values -/

def dialect? : String → Option Dialect
  | "pg" => some .pg
  | "postgres" => some .pg
  | "postgresql" => some .pg
  | "mysql" => some .mysql
  | _ => none

def OutputFormat.ofName? : String → Option OutputFormat
  | "sql" => some .sql
  | "json" => some .json
  | _ => none

/-- The options of a task that have been read. -/
structure Given where
  verbose : Bool := false
  dryRun : Bool := false
  pointer : Option String := none
  filter : Option String := none
  patterns : List String := []
  dialect : Option Dialect := none
  directory : Option String := none
  format : Option OutputFormat := none
  deriving DecidableEq, Inhabited

namespace Given

/-- The options with a value set, unless the option had a value before. -/
def once (option : OptionName) (before? : Option α) (given : Given) : Except UsageError Given :=
  if before?.isSome then .error (.repeated option.text) else .ok given

def addFlag (given : Given) : OptionName → Except UsageError Given
  | .verbose =>
    if given.verbose then .error (.repeated "verbose") else .ok { given with verbose := true }
  | .dryRun =>
    if given.dryRun then .error (.repeated "no-op") else .ok { given with dryRun := true }
  | _ => .ok given

def addValue (given : Given) (option : OptionName) (value : String) : Except UsageError Given :=
  match option with
  | .pointer => once option given.pointer { given with pointer := some value }
  | .filter => once option given.filter { given with filter := some value }
  | .input => .ok { given with patterns := given.patterns ++ [value] }
  | .dialect =>
    match dialect? value with
    | some dialect => once option given.dialect { given with dialect := some dialect }
    | none => .error (.badValue option.text value)
  | .directory =>
    if value.isEmpty then .error (.noValue option.text)
    else once option given.directory { given with directory := some value }
  | .format =>
    match OutputFormat.ofName? value with
    | some format => once option given.format { given with format := some format }
    | none => .error (.badValue option.text value)
  | option => .error (.badValue option.text value)

end Given

/-! ## Tasks -/

/-- What the next word may be. -/
inductive Expecting
  | option
  /-- A value of this option has to come. -/
  | value (option : OptionName)
  /-- More inputs may come. -/
  | inputs
  deriving DecidableEq, Inhabited

/-- What may come behind a value of an option. -/
def Expecting.behind : OptionName → Expecting
  | .input => .inputs
  | _ => .option

/-- What reading the words of a task may end in. -/
inductive Outcome
  | given (given : Given)
  | help
  deriving DecidableEq, Inhabited

/-- An option with what is attached to it. -/
def Word.option? (task : TaskName) : Word → Option (OptionName × Option String)
  | .long name attached? => (OptionName.ofText? task name).map fun option => (option, attached?)
  | .short letter behind =>
    (OptionName.ofLetter? letter).map fun option =>
      (option, if option.isFlag then none else attachedTo behind)
  | _ => none

/-- Reads the words behind the name of a task. -/
def readOptions (task : TaskName) : Expecting → Given → List String → Except UsageError Outcome
  | .value option, _, [] => .error (.noValue option.text)
  | _, given, [] => .ok (.given given)
  | expecting, given, text :: rest =>
    match expecting, Word.ofText text with
    | .option, .plain _ => .error (.unexpected text)
    | .value option, .plain value =>
      match given.addValue option value with
      | .ok given => readOptions task (.behind option) given rest
      | .error e => .error e
    | .inputs, .plain value =>
      readOptions task .inputs { given with patterns := given.patterns ++ [value] } rest
    | .value option, _ => .error (.noValue option.text)
    | _, .separator =>
      match rest with
      | [] => .ok (.given given)
      | next :: _ => .error (.unexpected next)
    | _, word =>
      match word.option? task with
      | none => .error (.unexpected text)
      | some (.help, none) => .ok .help
      | some (option, attached?) =>
        if option.isFlag then
          match attached?, given.addFlag option with
          | some value, _ => .error (.badValue option.text value)
          | none, .ok given => readOptions task .option given rest
          | none, .error e => .error e
        else
          match attached? with
          | none => readOptions task (.value option) given rest
          | some value =>
            match given.addValue option value with
            | .ok given => readOptions task .option given rest
            | .error e => .error e

/-- The value of a variable of the environment. -/
abbrev Environment := String → Option String

/-- Adds what the environment sets and no word does. -/
def Given.addEnvironment (environment : Environment) (given : Given) : Except UsageError Given := do
  let given ←
    match given.dialect, environment "JSON_DDL_DIALECT" with
    | none, some value => given.addValue .dialect value
    | _, _ => pure given
  match given.directory, environment "JSON_DDL_OUT_DIR" with
  | none, some value => given.addValue .directory value
  | _, _ => pure given

def Given.task (environment : Environment) (task : TaskName) (given : Given) :
    Except UsageError Task :=
  if given.patterns.isEmpty then .error .noInput
  else
    let inputs : InputSettings := ⟨given.pointer, given.filter, given.patterns⟩
    match task with
    | .check => .ok (.check inputs)
    | .compile => do
      let given ← given.addEnvironment environment
      return .compile ⟨inputs, given.dialect.getD .pg, given.directory, given.format.getD .sql,
        given.dryRun⟩

def readTask (environment : Environment) (verbose : Bool) (task : TaskName) (words : List String) :
    Except UsageError Request := do
  match ← readOptions task .option {} words with
  | .help => return .help
  | .given given => return .invoke ⟨verbose || given.verbose, ← given.task environment task⟩

def Request.ofWords (environment : Environment) (verbose : Bool) :
    List String → Except UsageError Request
  | [] => .error .noTask
  | text :: rest =>
    match Word.ofText text with
    | .plain "compile" => readTask environment verbose .compile rest
    | .plain "check" => readTask environment verbose .check rest
    | .plain "help" =>
      match rest with
      | [] => .ok .help
      | [task] =>
        if task ∈ ["compile", "check", "help"] then .ok .help else .error (.unexpected task)
      | _ :: word :: _ => .error (.unexpected word)
    | .long "verbose" none =>
      if verbose then .error (.repeated "verbose") else ofWords environment true rest
    | .long "help" none => .ok .help
    | .long "version" none => .ok .version
    | .short 'h' _ => .ok .help
    | .short 'V' _ => .ok .version
    | _ => .error (.unexpected text)

end SchemaTables.Command
