import SchemaTables.Diagnostic
import SchemaTables.Schema.Metadata
import SchemaTables.Schema.WellFormed

/-!
# Reading a database

A document is read in two tiers.  One that is not well-formed is refused as a whole.  Of all others
every table is read, with every property in it, and every fault is reported: those of the
properties come before those of the table around them.

The rules on keys look at what a property says it is (`Declared`), so that they are also checked
where the property itself could not be read.
-/

namespace SchemaTables

/-- What was read, together with the faults that were met, in order. -/
structure Report (α : Type) where
  value : α
  faults : List Diagnostic := []
  deriving Inhabited

namespace Report

/-- Nothing could be read. -/
def refuse (path : List String) (fault : Fault) : Report (Option α) := ⟨none, [⟨path, fault⟩]⟩

def map (f : α → β) (report : Report α) : Report β := ⟨f report.value, report.faults⟩

/-- Goes on with what was read, if anything was. -/
def andThen (report : Report (Option α)) (f : α → Report (Option β)) : Report (Option β) :=
  match report.value with
  | some value => ⟨(f value).value, report.faults ++ (f value).faults⟩
  | none => ⟨none, report.faults⟩

end Report

/-- The types of properties. -/
inductive TypeName
  | primitive (kind : Primitive)
  | string
  | container (shape : Container)
  deriving DecidableEq, Inhabited

def TypeName.ofName? (name : String) : Option TypeName :=
  if name = "boolean" then some (.primitive .boolean)
  else if name = "number" then some (.primitive .number)
  else if name = "integer" then some (.primitive .integer)
  else if name = "string" then some .string
  else if name = "object" then some (.container .object)
  else if name = "array" then some (.container .array)
  else none

def typeName? (members : Keyed Json) : Option TypeName :=
  (Json.stringMember? members "type").bind TypeName.ofName?

/-! ## What a property says it is -/

/-- What a property says it is, whether it can be read or not. -/
inductive Declared
  | reference
  /-- It becomes a table of its own. -/
  | nested (shape : Container)
  /-- It is stored whole. -/
  | document (shape : Container)
  | number
  | text (format : Option TextFormat)
  | other
  deriving DecidableEq, Inhabited

namespace Declared

/-- Does the metadata of a property name a storage? -/
def namesStorage (members : Keyed Json) : Bool :=
  match (members.get? "metadata").bind (·.get? "type") with
  | some (.string name) => name == JsonStorage.json.name || name == JsonStorage.jsonb.name
  | _ => false

/-- What the members of a property say it is. -/
def ofMembers (members : Keyed Json) : Declared :=
  if (Json.stringMember? members "$ref").isSome then .reference
  else
    match typeName? members with
    | some (.container shape) => if namesStorage members then .document shape else .nested shape
    | some (.primitive .number) => .number
    | some .string => .text ((Json.stringMember? members "format").bind TextFormat.ofName?)
    | _ => .other

def ofJson : Json → Declared
  | .object members => ofMembers members
  | _ => .other

/-- The container that becomes a table. -/
def nested? : Declared → Option Container
  | .nested shape => some shape
  | _ => none

/-- Why the property cannot be a primary key, if it cannot. -/
def keyProblem? : Declared → Option KeyProblem
  | .reference => some .reference
  | .nested shape => some (.container shape)
  | .document shape => some (.container shape)
  | .number => some .number
  | .text (some format) => if format.isTemporal then some (.temporal format) else none
  | .text none => none
  | .other => none

end Declared

/-! ## The rules on keys -/

/-- The first property that becomes a table of its own. -/
def firstNested? : Keyed Json → Option (String × Container)
  | [] => none
  | (name, property) :: rest =>
    match (Declared.ofJson property).nested? with
    | some shape => some (name, shape)
    | none => firstNested? rest

/-- A property `id` that stands in for a primary key has to be fit for one. -/
def implicitKeyFaults (key? : Option String) (properties : Keyed Json) : List Fault :=
  let problem? :=
    (properties.get? "id").bind fun property => (Declared.ofJson property).keyProblem?
  match key?, problem? with
  | none, some problem => [.implicitKey problem]
  | _, _ => []

/-- A table with nested tables has a key. -/
def keylessFaults (key? : Option String) (properties : Keyed Json) : List Fault :=
  if key?.isNone && !properties.contains "id" then
    match firstNested? properties with
    | some (name, shape) => [.keyless name shape]
    | none => []
  else []

/-- What a table requires is there. -/
def missingFieldFaults (required : List String) (properties : Keyed Json) : List Fault :=
  (required.filter fun name => !properties.contains name).map .missingField

/-- The primary key is there and fit for one. -/
def explicitKeyFaults (key? : Option String) (properties : Keyed Json) : List Fault :=
  match key? with
  | none => []
  | some key =>
    match properties.get? key with
    | none => [.unknownKey key]
    | some property =>
      match (Declared.ofJson property).keyProblem? with
      | some problem => [.explicitKey problem]
      | none => []

/-- The faults of a table, those of its properties apart. -/
def tableFaults (key? : Option String) (required : List String) (properties : Keyed Json) :
    List Fault :=
  implicitKeyFaults key? properties ++ keylessFaults key? properties ++
    missingFieldFaults required properties ++ explicitKeyFaults key? properties

/-! ## The attributes of a property -/

/-- The default, where there is one; `none` if it cannot be read. -/
def readDefault (path : List String) : Option Json → Report (Option (Option Scalar))
  | none => ⟨some none, []⟩
  | some value =>
    match Scalar.ofJson? value with
    | some scalar => ⟨some (some scalar), []⟩
    | none => .refuse (path ++ ["default"]) .defaultNotScalar

/-- The values of an enumeration, where there is one; `none` if they cannot be read. -/
def readChoices (path : List String) : Option Json → Report (Option (Option (List Scalar)))
  | some (.array items) =>
    match items.mapM Scalar.ofJson? with
    | some scalars => ⟨some (some scalars), []⟩
    | none => .refuse (path ++ ["enum"]) .choiceNotScalar
  | _ => ⟨some none, []⟩

/-- The metadata; `none` if they cannot be read. -/
def readMetadata (path : List String) : Option Json → Report (Option Metadata)
  | none => ⟨some {}, []⟩
  | some value =>
    match Metadata.decode value with
    | .ok metadata => ⟨some metadata, []⟩
    | .error e => .refuse (path ++ "metadata" :: e.path) (.metadata e.misfit)

/-- The attributes of a property; `none` if some of them cannot be read. -/
def readAttributes (path : List String) (members : Keyed Json) : Report (Option Attributes) :=
  let initial := readDefault path (members.get? "default")
  let choices := readChoices path (members.get? "enum")
  let metadata := readMetadata path (members.get? "metadata")
  ⟨match initial.value, choices.value, metadata.value with
    | some initial, some choices, some metadata =>
      some
        { default := initial
          choices := choices
          title := Json.stringMember? members "title"
          description := Json.stringMember? members "description"
          minimum := (members.get? "minimum").bind Json.number?
          maximum := (members.get? "maximum").bind Json.number?
          metadata := metadata }
    | _, _, _ => none,
    initial.faults ++ choices.faults ++ metadata.faults⟩

/-! ## Properties -/

/-- The number of segments of a path to a column of a top-level table, `#` among them. -/
def shortestReference : Nat := 3

def referenceFaults (path : List String) (target : String) : List Diagnostic :=
  (if Text.startsWith "#/" target then [] else [⟨path ++ ["$ref"], .referenceStart⟩]) ++
    if (Text.split '/' target).length < shortestReference then
      [⟨path ++ ["$ref"], .referenceTooShort⟩]
    else []

/-- The format of a text property.  A property whose format is not known is read without it. -/
def readFormat (path : List String) (members : Keyed Json) : Report (Option TextFormat) :=
  match Json.stringMember? members "format" with
  | none => ⟨none, []⟩
  | some name =>
    match TextFormat.ofName? name with
    | some format => ⟨some format, []⟩
    | none => ⟨none, [⟨path ++ ["format"], .unsupportedFormat name⟩]⟩

def readText (path : List String) (members : Keyed Json) : Report (Option Property) :=
  let format := readFormat path members
  let attributes := readAttributes path members
  ⟨attributes.value.map (.text format.value), format.faults ++ attributes.faults⟩

def requiredNames (members : Keyed Json) : List String :=
  match members.get? "required" with
  | some (.array items) => items.filterMap Json.string?
  | _ => []

/-- A table whose properties have been read: `members` are those of its schema and `raw` those
of its `properties`. -/
def Report.toTable (path : List String) (members raw : Keyed Json)
    (properties : Report (Keyed Property)) : Report TableSchema :=
  let required := requiredNames members
  let key? := Json.stringMember? members "x-primary-key"
  ⟨⟨properties.value, required, key?⟩,
    properties.faults ++ (tableFaults key? required raw).map (Diagnostic.mk path)⟩

/-- A container that is stored whole if its metadata say so, and else what `inside` reads. -/
def readContainer (path : List String) (members : Keyed Json) (shape : Container)
    (inside : Report (Option Property)) : Report (Option Property) :=
  (readAttributes path members).andThen fun attributes =>
    match attributes.metadata.storage with
    | some storage => ⟨some (.document shape storage attributes), []⟩
    | none => inside

mutual

def readProperty (path : List String) : Json → Report (Option Property)
  | .object members =>
    match Json.stringMember? members "$ref" with
    | some target => ⟨some (.reference target), referenceFaults path target⟩
    | none =>
      match typeName? members with
      | some (.primitive kind) =>
        (readAttributes path members).map (Option.map (Property.primitive kind))
      | some .string => readText path members
      | some (.container .object) =>
        readContainer path members .object (readNested path members members)
      | some (.container .array) => readContainer path members .array (readList path members)
      | none => .refuse path .unsupportedColumn
  | _ => .refuse path .unsupportedColumn

/-- Reads the table that an object declares; its properties are looked for in the last argument. -/
def readNested (path : List String) (members : Keyed Json) :
    List (String × Json) → Report (Option Property)
  | [] => .refuse path .objectWithoutProperties
  | (key, value) :: rest =>
    if key = "properties" then
      match value with
      | .object raw =>
        ((readProperties path raw).toTable path members raw).map fun table => some (.nested table)
      | _ => .refuse path .objectWithoutProperties
    else readNested path members rest

/-- Reads the items that an array declares. -/
def readList (path : List String) : List (String × Json) → Report (Option Property)
  | [] => .refuse path .arrayWithoutItems
  | (key, value) :: rest =>
    if key = "items" then
      match value with
      | .object inner =>
        if typeName? inner = some (.container .array) then .refuse path .arrayOfArrays
        else (readProperty (path ++ ["items"]) value).map (Option.map Property.list)
      | _ => .refuse path .arrayWithoutItems
    else readList path rest

/-- Reads the properties of a table.  What cannot be read is left out. -/
def readProperties (path : List String) : List (String × Json) → Report (Keyed Property)
  | [] => ⟨[], []⟩
  | (key, value) :: rest =>
    let property := readProperty (path ++ ["properties", key]) value
    let others := readProperties path rest
    ⟨match property.value with
      | some property => (key, property) :: others.value
      | none => others.value,
      property.faults ++ others.faults⟩

end

/-! ## Tables and databases -/

/-- Reads a table of the database. -/
def readTable (path : List String) : Json → Report (Option TableSchema)
  | .object members =>
    match Schema.objectProperties? members with
    | some raw => ((readProperties path raw).toTable path members raw).map some
    | none => .refuse path .notATable
  | _ => .refuse path .notATable

def readTables : Keyed Json → Report Database
  | [] => ⟨[], []⟩
  | (name, value) :: rest =>
    let table := readTable ["properties", name] value
    let others := readTables rest
    ⟨match table.value with
      | some table => (name, table) :: others.value
      | none => others.value,
      table.faults ++ others.faults⟩

/-- Reads a document: a database without faults, or all faults. -/
def Database.read (document : Json) : Except (List Diagnostic) Database :=
  match Schema.documentProperties? document with
  | none => .error [⟨["#"], .malformed⟩]
  | some properties =>
    match readTables properties with
    | ⟨database, []⟩ => .ok database
    | ⟨_, faults⟩ => .error faults

end SchemaTables
