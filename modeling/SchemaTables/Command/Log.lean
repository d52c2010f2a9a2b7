import SchemaTables.Command.Arguments
import SchemaTables.Files.Clock
import SchemaTables.Text.CharacterRanges
import SchemaTables.Text.Segments

/-!
# Log lines

What a command tells about its work.  Every event belongs to a part of the program and has a
level; directives say from which level on the events of which parts are shown.  The directive with
the longest name that the part's name begins with decides.
-/

namespace SchemaTables.Command

/-- How urgent an event is. -/
inductive Level
  | error
  | warn
  | info
  | debug
  | trace
  deriving DecidableEq, Inhabited

namespace Level

/-- A level as a number, smaller for more urgent ones. -/
def rank : Level → Nat
  | .error => 1
  | .warn => 2
  | .info => 3
  | .debug => 4
  | .trace => 5

/-- The name of a level, as wide as the longest one. -/
def label : Level → String
  | .error => "ERROR"
  | .warn => " WARN"
  | .info => " INFO"
  | .debug => "DEBUG"
  | .trace => "TRACE"

/-- The escape code of a level's colour. -/
def colour : Level → String
  | .error => "31"
  | .warn => "33"
  | .info => "32"
  | .debug => "34"
  | .trace => "35"

end Level

/-! ## Events -/

/-- What a command tells. -/
inductive Event
  | inputsLoaded (documents : Nat)
  | rejected
  | validated (tables : Nat)
  | visited (tables : Nat)
  | resolved (references : Nat)
  | generated (up down : Nat) (dialect : String)
  deriving DecidableEq, Inhabited

namespace Event

def level : Event → Level
  | .rejected => .warn
  | _ => .debug

/-- The part of the program that an event belongs to. -/
def part : Event → String
  | .inputsLoaded _ => "json_ddl::cli"
  | .rejected => "json_ddl::validate"
  | .validated _ => "json_ddl::validate"
  | .visited _ => "json_ddl::visit"
  | .resolved _ => "json_ddl::resolve"
  | .generated .. => "json_ddl::generate"

def message : Event → String
  | .inputsLoaded _ => "inputs loaded"
  | .rejected => "rejecting document: Invalid JSON Schema syntax"
  | .validated _ => "schema validated"
  | .visited _ => "schema visited"
  | .resolved _ => "references resolved"
  | .generated .. => "statements generated"

def values : Event → List (String × String)
  | .inputsLoaded documents => [("documents", toString documents)]
  | .rejected => []
  | .validated tables => [("tables", toString tables)]
  | .visited tables => [("tables", toString tables)]
  | .resolved references => [("references", toString references)]
  | .generated up down dialect =>
    [("up", toString up), ("down", toString down), ("dialect", dialect)]

end Event

/-- A text between the escape codes that colour it, where colours are on. -/
def paint (colours : Bool) (code text : String) : String :=
  if colours then "\x1b[" ++ code ++ "m" ++ text ++ "\x1b[0m" else text

def Event.line (colours : Bool) (time : Moment) (event : Event) : String :=
  paint colours "2" time.text ++ " " ++ paint colours event.level.colour event.level.label ++ " " ++
    paint colours "2" event.part ++ paint colours "2" ":" ++ " " ++ event.message ++
    Text.concat (event.values.map fun (name, value) =>
      " " ++ paint colours "3" name ++ paint colours "2" "=" ++ value) ++ "\n"

/-! ## Directives -/

/-- A directive: from which level on the events of some parts are shown. -/
structure Directive where
  /-- What the names of the parts begin with. -/
  start : String := ""
  /-- The rank of the least urgent level that is shown. -/
  rank : Nat
  deriving DecidableEq, Inhabited

/-- The names of levels, in the order of their ranks. -/
def levelNames : List String := ["off", "error", "warn", "info", "debug", "trace"]

/-- The rank that a name or a number gives. -/
def rank? (text : String) : Option Nat :=
  match text.toList with
  | [] => some Level.error.rank
  | chars =>
    let digits := if chars.head? = some '+' then chars.drop 1 else chars
    if !digits.isEmpty && digits.all Char.isDigit then
      match digits.dropWhile (· = '0') with
      | [] => some 0
      | [digit] =>
        let rank := digit.toNat - '0'.toNat
        if rank < levelNames.length then some rank else none
      | _ => none
    else levelNames.findIdx? fun name => name == text.map Char.toLower

/-- What is left behind the brackets that name a span and its fields. -/
def behindSpan? : List Char → Option (List Char)
  | [] => none
  | ']' :: rest => some rest
  | '\x7b' :: rest => behindFields? true rest
  | _ :: rest => behindSpan? rest
where
  /-- What is left behind fields; none of them may be empty. -/
  behindFields? (empty : Bool) : List Char → Option (List Char)
    | [] => none
    | '\x7d' :: ']' :: rest => if empty then none else some rest
    | '\x7d' :: _ => none
    | ',' :: rest => if empty then none else behindFields? true rest
    | _ :: rest => behindFields? false rest

/-- The rank that is written behind a name. -/
def rankBehind? : List Char → Option Nat
  | [] => some Level.trace.rank
  | ['='] => some Level.trace.rank
  | '=' :: level => rank? (String.ofList level)
  | _ => none

/-- Can a directive begin with this character? -/
def startsDirective (c : Char) : Bool :=
  c == '-' || c == ':' || c == '_' || c == '[' || Text.isAlphanumeric c

/-- Reads a directive.  One that is about spans is read and never applies, since there are none;
a blank in front makes a name that no part has. -/
def Directive.ofText? (text : String) : Option (List Directive) :=
  let blanks := text.toList.takeWhile Text.isBlank
  let chars := text.toList.drop blanks.length
  match chars.head? with
  | none => none
  | some c =>
    if !startsDirective c then none
    else
      let name := chars.takeWhile fun c => c ≠ '=' && c ≠ '['
      match chars.drop name.length with
      | [] =>
        let whole := String.ofList (blanks ++ name)
        match rank? whole with
        | some rank => some [⟨"", rank⟩]
        | none => some [⟨whole, Level.trace.rank⟩]
      | '[' :: span => (behindSpan? span).bind fun rest => (rankBehind? rest).map fun _ => []
      | level =>
        if blanks.isEmpty then (rankBehind? level).map fun rank => [⟨String.ofList name, rank⟩]
        else none

/-- Reads directives between commas; a single one that cannot be read spoils all of them. -/
def Directive.listOfText? (text : String) : Option (List Directive) :=
  List.flatten <$> ((Text.split ',' text).filter fun part => part != "").mapM Directive.ofText?

/-- The later of two directives for the same parts replaces the earlier one, and the one for the
longer name goes before the one for the shorter. -/
def Directive.stronger (first second : Directive) : Directive :=
  if second.start.utf8ByteSize < first.start.utf8ByteSize then first else second

def Event.isShown (directives : List Directive) (event : Event) : Bool :=
  let applying := directives.filter fun directive => Text.startsWith directive.start event.part
  match applying with
  | [] => false
  | first :: rest => event.level.rank ≤ (rest.foldl Directive.stronger first).rank

/-- What is shown where the environment does not say it. -/
def Directive.default (verbose : Bool) : Directive :=
  ⟨"json_ddl", if verbose then Level.debug.rank else Level.warn.rank⟩

/-- The directives of the environment, or the default one. -/
def Directive.ofEnvironment (environment : Environment) (verbose : Bool) : List Directive :=
  ((environment "RUST_LOG").bind Directive.listOfText?).getD [Directive.default verbose]

end SchemaTables.Command
