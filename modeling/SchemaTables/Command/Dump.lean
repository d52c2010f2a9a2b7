import SchemaTables.Command.Arguments
import SchemaTables.Text.Escaped
import SchemaTables.Text.Segments

/-!
# Settings as text

The settings of a command as a tree of named records, written with one field or item a line.
-/

namespace SchemaTables.Command

/-- A value as it is shown. -/
inductive Shown
  | word (text : String)
  /-- Parts between an opening and a closing text, each behind a label that may be empty. -/
  | group (opening closing : String) (parts : List (String × Shown))
  deriving Inhabited

namespace Shown

/-- The blanks in front of a line. -/
def margin (level : Nat) : String := String.ofList (List.replicate (4 * level) ' ')

mutual

/-- A value at a level; the lines of its parts are one level further in. -/
def text (level : Nat) : Shown → String
  | .word text => text
  | .group opening closing parts =>
    opening ++ "\n" ++ lines (level + 1) parts ++ margin level ++ closing

/-- The lines of parts at a level. -/
def lines (level : Nat) : List (String × Shown) → String
  | [] => ""
  | (label, part) :: rest => margin level ++ label ++ part.text level ++ ",\n" ++ lines level rest

end

def ofBool : Bool → Shown
  | true => .word "true"
  | false => .word "false"

def ofText (text : String) : Shown := .word (Text.escaped text)

/-- A named value with one unlabelled part. -/
def variant (name : String) (part : Shown) : Shown := .group (name ++ "(") ")" [("", part)]

def record (name : String) (fields : List (String × Shown)) : Shown :=
  .group (name ++ " \x7b") "\x7d" (fields.map fun (field, value) => (field ++ ": ", value))

def ofText? : Option String → Shown
  | none => .word "None"
  | some text => variant "Some" (ofText text)

end Shown

/-- A dialect as it is named in settings and in the log. -/
def dialectLabel : Dialect → String
  | .pg => "Pg"
  | .mysql => "Mysql"

def InputSettings.shown (settings : InputSettings) : Shown :=
  .record "InputSettings" [
    ("json_pointer", .ofText? settings.pointer),
    ("jq_expr", .ofText? settings.filter),
    ("input", .group "[" "]" (settings.patterns.map fun pattern => ("", .ofText pattern)))]

def CompileSettings.shown (settings : CompileSettings) : Shown :=
  .record "CompileOut" [
    ("input_settings", settings.inputs.shown),
    ("dialect", .word (dialectLabel settings.dialect)),
    ("out_dir", .ofText? settings.directory),
    ("format", .word (match settings.format with | .sql => "Sql" | .json => "Json")),
    ("no_op", .ofBool settings.dryRun)]

def Task.shown : Task → Shown
  | .compile settings => .variant "Compile" settings.shown
  | .check inputs => .variant "Check" (.record "CheckOut" [("input_settings", inputs.shown)])

def Invocation.shown (invocation : Invocation) : Shown :=
  .record "CommandLineInterface" [
    ("verbose", .ofBool invocation.verbose),
    ("cmd", invocation.task.shown)]

def Invocation.dump (invocation : Invocation) : String := invocation.shown.text 0 ++ "\n"

end SchemaTables.Command
