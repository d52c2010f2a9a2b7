import SchemaTables.Table.Basic
import SchemaTables.Text.Segments

/-!
# Flattening

A table that is nested in another becomes a table of its own, named by the path to it, and gets a
reference back to the key of the table around it.  A nested list becomes a table with a row for
each item; items that are no tables go into a column `value`.

Nested tables come before the table around them.
-/

namespace SchemaTables

/-- A flat table together with the names of the tables around it, its own name last. -/
structure PlacedTable where
  path : List String
  table : LinkedTable
  deriving Inhabited

/-- Where the properties of a table stand. -/
structure Place where
  /-- The names of the tables around the properties. -/
  path : List String
  /-- The path to the properties in the document. -/
  origin : List String
  /-- Whether the table comes from a list. -/
  cardinality : Cardinality
  deriving Inhabited

namespace Place

/-- The properties of a table at the top of the document. -/
def top (name : String) : Place := ⟨[name], ["properties", name, "properties"], .one⟩

/-- The properties of a table that is nested under a name. -/
def nested (place : Place) (name : String) : Place :=
  ⟨place.path ++ [name], place.origin ++ [name, "properties"], .one⟩

/-- The properties of the items of a list that is nested under a name. -/
def items (place : Place) (name : String) : Place :=
  ⟨place.path ++ [name], place.origin ++ [name, "items", "properties"], .many⟩

def tableName (place : Place) : String := Text.join "_" place.path

def link (place : Place) (name target : String) : Link :=
  ⟨name, target, place.origin, place.cardinality⟩

end Place

/-- A reference from a nested table to the key of the table around it: a name and a target. -/
structure BackReference where
  name : String
  target : String
  deriving DecidableEq, Inhabited

/-- The reference back to the key of the table at a place. -/
def Place.backReference (place : Place) (key : String) : BackReference :=
  ⟨place.tableName ++ "_" ++ key, "#/" ++ Text.join "/" place.path ++ "/" ++ key⟩

/-- What the properties of a table become: columns and references of the table itself, and tables
below it. -/
structure Pieces where
  columns : List Column := []
  links : List Link := []
  below : List PlacedTable := []
  deriving Inhabited

namespace Pieces

/-- Pieces of some properties and of further ones. -/
def append (first second : Pieces) : Pieces :=
  ⟨first.columns ++ second.columns, first.links ++ second.links, first.below ++ second.below⟩

def ofColumn (name : String) (storage : StorageType) (attributes : Attributes) : Pieces :=
  { columns := [⟨name, storage, attributes⟩] }

def ofLink (link : Link) : Pieces := { links := [link] }

def ofBackReference? (place : Place) : Option BackReference → Pieces
  | some back => .ofLink (place.link back.name back.target)
  | none => {}

/-- The tables below a table, and then the table. -/
def toTables (pieces : Pieces) (place : Place) (required : List String)
    (primaryKey : Option String) : List PlacedTable :=
  pieces.below ++
    [⟨place.path, ⟨place.tableName, required, primaryKey, pieces.columns, pieces.links⟩⟩]

end Pieces

mutual

/-- What a property becomes in the table at a place, whose nested tables refer back to `key`. -/
def flattenProperty (place : Place) (key name : String) : Property → Pieces
  | .primitive kind attributes => .ofColumn name (.ofPrimitive kind) attributes
  | .text format attributes => .ofColumn name (.ofFormat format) attributes
  | .document _ storage attributes => .ofColumn name (.ofJson storage) attributes
  | .reference target => .ofLink (place.link name target)
  | .nested table =>
    { below := flattenTable (place.nested name) (some (place.backReference key)) table }
  | .list items =>
    match items with
    | .nested table =>
      { below := flattenTable (place.items name) (some (place.backReference key)) table }
    | items =>
      let inside := place.items name
      { below :=
          ((flattenProperty inside "id" "value" items).append
            (.ofBackReference? inside (some (place.backReference key)))).toTables inside [] none }

/-- The tables that a table at a place becomes. -/
def flattenTable (place : Place) (back : Option BackReference) : TableOf Property → List PlacedTable
  | ⟨properties, required, primaryKey⟩ =>
    let pieces := flattenProperties place (primaryKey.getD "id") back properties
    pieces.toTables place required primaryKey

/-- What properties become.  The reference back takes the place of a property of its name, and is
the last of the references if there is none. -/
def flattenProperties (place : Place) (key : String) (back : Option BackReference) :
    List (String × Property) → Pieces
  | [] => .ofBackReference? place back
  | (name, property) :: rest =>
    if back.any (·.name == name) then
      (Pieces.ofBackReference? place back).append (flattenProperties place key none rest)
    else (flattenProperty place key name property).append (flattenProperties place key back rest)

end

namespace Database

/-- The flat tables of a database with their paths. -/
def placedTables : Database → List PlacedTable
  | [] => []
  | (name, table) :: rest => flattenTable (.top name) none table ++ placedTables rest

def tables (database : Database) : List LinkedTable := database.placedTables.map (·.table)

end Database

end SchemaTables
