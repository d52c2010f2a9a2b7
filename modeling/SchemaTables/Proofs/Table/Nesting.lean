import SchemaTables.Proofs.Keyed
import SchemaTables.Proofs.Text.Segments
import SchemaTables.Table.Flattening

/-!
# Nested tables

A database is a forest: every table in it stands at a place, and has children, which are the tables
nested directly in it.  A node of this forest knows its place, its schema and the reference back to
the table around it; its columns, its references and its children are read off its own properties
alone.

The main statement is `Node.tables_eq`: flattening a node gives the tables of its children, one
child after the other, and then the table of the node itself.  `Node.declared_induction` is
the induction that goes with it.
-/

namespace SchemaTables

/-! ## Single properties -/

namespace Property

/-- The column in which a property is stored. -/
def column? (name : String) : Property → Option Column
  | .primitive kind attributes => some ⟨name, .ofPrimitive kind, attributes⟩
  | .text format attributes => some ⟨name, .ofFormat format, attributes⟩
  | .document _ storage attributes => some ⟨name, .ofJson storage, attributes⟩
  | _ => none

/-- The reference that a property declares at a place. -/
def link? (place : Place) (name : String) : Property → Option Link
  | .reference target => some (place.link name target)
  | _ => none

/-- The table with a row for each item of a list. -/
def itemTable : Property → TableSchema
  | .nested table => table
  | items => { properties := [("value", items)] }

theorem column?_name {name : String} {property : Property} {column : Column}
    (h : property.column? name = some column) : column.name = name := by
  cases property <;> simp [column?] at h <;> rw [← h]

theorem link?_eq_none_of_column? {name : String} {property : Property} {column : Column}
    (h : property.column? name = some column) (place : Place) (other : String) :
    property.link? place other = none := by
  cases property <;> first | rfl | cases h

theorem link?_name {place : Place} {name : String} {property : Property} {link : Link}
    (h : property.link? place name = some link) : link.name = name := by
  cases property <;> simp [link?] at h
  rw [← h, Place.link]

end Property

/-! ## Nodes -/

/-- A table where it stands, with the reference back to the table around it. -/
structure Node where
  place : Place
  back? : Option BackReference
  schema : TableSchema

/-- The properties of a table with a reference back among them: it takes the place of a property of
its name, and is the last of all if there is none. -/
def withBack : Option BackReference → Keyed Property → Keyed Property
  | none, properties => properties
  | some back, properties => properties.insert back.name (.reference back.target)

namespace Node

/-- A table at the top of a database. -/
def top (name : String) (schema : TableSchema) : Node := ⟨.top name, none, schema⟩

/-- The reference by which the tables inside refer back to this one. -/
def backReference (node : Node) : BackReference := node.place.backReference node.schema.keyOrId

/-- The node of a property that becomes a table of its own. -/
def child? (node : Node) (name : String) : Property → Option Node
  | .nested table => some ⟨node.place.nested name, some node.backReference, table⟩
  | .list items => some ⟨node.place.items name, some node.backReference, items.itemTable⟩
  | _ => none

/-- The nodes that properties become. -/
def nodesOf (node : Node) (properties : Keyed Property) : List Node :=
  properties.filterMap fun entry => node.child? entry.1 entry.2

/-- The nodes that the schema declares directly inside. -/
def declared (node : Node) : List Node := node.nodesOf node.schema.properties

/-- The properties of the table, with the reference back. -/
def properties (node : Node) : Keyed Property := withBack node.back? node.schema.properties

def children (node : Node) : List Node := node.nodesOf node.properties

/-- The columns that store values. -/
def columns (node : Node) : List Column :=
  node.properties.filterMap fun entry => entry.2.column? entry.1

/-- The references, with the one back. -/
def links (node : Node) : List Link :=
  node.properties.filterMap fun entry => entry.2.link? node.place entry.1

def table (node : Node) : LinkedTable :=
  ⟨node.place.tableName, node.schema.required, node.schema.primaryKey, node.columns, node.links⟩

/-- The flat table with its path. -/
def placed (node : Node) : PlacedTable := ⟨node.place.path, node.table⟩

/-- The flat tables of the node and of all nodes below it. -/
def tables (node : Node) : List PlacedTable := flattenTable node.place node.back? node.schema

theorem child?_eq_none_of_column? {name : String} {property : Property} {column : Column}
    (h : property.column? name = some column) (node : Node) (other : String) :
    node.child? other property = none := by
  cases property <;> first | rfl | cases h

theorem child?_back? {node child : Node} {name : String} {property : Property}
    (h : node.child? name property = some child) : child.back? = some node.backReference := by
  cases property <;> simp [child?] at h <;> rw [← h]

theorem child?_path {node child : Node} {name : String} {property : Property}
    (h : node.child? name property = some child) :
    child.place.path = node.place.path ++ [name] := by
  cases property <;> simp [child?] at h <;> rw [← h] <;> rfl

theorem mem_nodesOf {node child : Node} {properties : Keyed Property} :
    child ∈ node.nodesOf properties ↔
      ∃ name property, (name, property) ∈ properties ∧
        node.child? name property = some child := by
  simp [nodesOf, List.mem_filterMap]

theorem mem_columns {node : Node} {column : Column} :
    column ∈ node.columns ↔ ∃ property, (column.name, property) ∈ node.properties ∧
      property.column? column.name = some column :=
  Keyed.mem_filterMap fun _ _ => Property.column?_name

theorem mem_links {node : Node} {link : Link} :
    link ∈ node.links ↔ ∃ property, (link.name, property) ∈ node.properties ∧
      property.link? node.place link.name = some link :=
  Keyed.mem_filterMap fun _ _ => Property.link?_name

/-- What stands among the properties of a node is declared there, or is the reference back. -/
theorem mem_properties {node : Node} {name : String} {property : Property}
    (h : (name, property) ∈ node.properties) :
    (name, property) ∈ node.schema.properties ∨
      ∃ back, node.back? = some back ∧ name = back.name ∧ property = .reference back.target := by
  rw [properties] at h
  cases hback : node.back? with
  | none =>
      rw [hback] at h
      exact Or.inl h
  | some back =>
      rw [hback] at h
      rcases Keyed.mem_of_mem_insert h with hnew | hold
      · exact Or.inr ⟨back, rfl, hnew⟩
      · exact Or.inl hold

theorem mem_declared_of_mem_children {node child : Node} (h : child ∈ node.children) :
    child ∈ node.declared := by
  obtain ⟨name, property, hmem, hchild⟩ := mem_nodesOf.mp h
  rcases mem_properties hmem with hdeclared | ⟨back, -, -, rfl⟩
  · exact mem_nodesOf.mpr ⟨name, property, hdeclared, hchild⟩
  · cases hchild

end Node

theorem backReference_name_ne {place : Place} {key name : String} (h : Text.Avoids '_' name) :
    (place.backReference key).name ≠ name := by
  intro heq
  apply h
  rw [← heq, Place.backReference]
  simp [String.toList_append]

/-! ## Flattening a node -/

/-- The pieces of properties, one property after the other. -/
def piecesOf (place : Place) (key : String) : Keyed Property → Pieces
  | [] => {}
  | (name, property) :: rest =>
    (flattenProperty place key name property).append (piecesOf place key rest)

theorem Pieces.append_empty (pieces : Pieces) : pieces.append {} = pieces := by
  simp [Pieces.append]

/-- A reference back counts as one more property. -/
theorem flattenProperties_eq (place : Place) (key : String) (back? : Option BackReference)
    (properties : Keyed Property) :
    flattenProperties place key back? properties =
      piecesOf place key (withBack back? properties) := by
  induction properties generalizing back? with
  | nil =>
      cases back? with
      | none => rfl
      | some back =>
          rw [withBack, Keyed.insert, piecesOf, piecesOf, Pieces.append_empty]
          rfl
  | cons entry rest ih =>
      obtain ⟨name, property⟩ := entry
      cases back? with
      | none =>
          have hrest := ih none
          rw [withBack] at hrest
          simp [flattenProperties, withBack, piecesOf, hrest]
      | some back =>
          by_cases hname : back.name = name
          · subst hname
            have hrest := ih none
            rw [withBack] at hrest
            rw [flattenProperties, if_pos (by simp), hrest, withBack, Keyed.insert, if_pos rfl,
              piecesOf]
            rfl
          · have hrest := ih (some back)
            rw [withBack] at hrest
            rw [flattenProperties, if_neg (by simpa using hname), hrest, withBack, Keyed.insert,
              if_neg (Ne.symm hname), piecesOf]

namespace Node

/-- The pieces of one property: at most one column, one reference or one table with all below. -/
theorem flattenProperty_eq (node : Node) (name : String) (property : Property) :
    flattenProperty node.place node.schema.keyOrId name property =
      ⟨(property.column? name).toList, (property.link? node.place name).toList,
        (node.child? name property).toList.flatMap tables⟩ := by
  cases property with
  | list items =>
      cases items with
      | nested table =>
          simp [flattenProperty, Property.column?, Property.link?, child?, Property.itemTable,
            tables, backReference]
      | _ =>
          -- the table of the items has no property under the name of the reference back
          have hname :
              ((node.place.backReference node.schema.keyOrId).name == "value") = false := by
            simpa using backReference_name_ne (by decide)
          simp [flattenProperty, flattenTable, flattenProperties, Property.column?,
            Property.link?, child?, Property.itemTable, tables, backReference, hname]
  | _ =>
      simp [flattenProperty, Property.column?, Property.link?, child?, tables, backReference,
        Pieces.ofColumn, Pieces.ofLink]

theorem piecesOf_eq (node : Node) (properties : Keyed Property) :
    piecesOf node.place node.schema.keyOrId properties =
      ⟨properties.filterMap fun entry => entry.2.column? entry.1,
        properties.filterMap fun entry => entry.2.link? node.place entry.1,
        (node.nodesOf properties).flatMap tables⟩ := by
  induction properties with
  | nil => rfl
  | cons entry rest ih =>
      obtain ⟨name, property⟩ := entry
      rw [piecesOf, ih, flattenProperty_eq, Pieces.append]
      simp only [nodesOf, List.filterMap_eq_flatMap_toList, List.flatMap_cons,
        List.flatMap_append]

/-- Flattening a node gives the tables of its children in order, and then its own. -/
theorem tables_eq (node : Node) :
    node.tables = node.children.flatMap tables ++ [node.placed] := by
  have hflatten : node.tables =
      (flattenProperties node.place node.schema.keyOrId node.back?
        node.schema.properties).toTables node.place node.schema.required
        node.schema.primaryKey := by
    obtain ⟨place, back?, ⟨properties, required, primaryKey⟩⟩ := node
    rw [tables, flattenTable]
    rfl
  rw [hflatten, flattenProperties_eq, piecesOf_eq]
  rfl

end Node

/-! ## What the reference back overwrites -/

namespace Node

/-- The reference back takes the place of a different property of its name. -/
def Overwrites (node : Node) : Prop :=
  ∃ back property, node.back? = some back ∧ (back.name, property) ∈ node.schema.properties ∧
    property ≠ .reference back.target

/-- The reference back as one of the references of the table. -/
def backLink? (node : Node) : Option Link :=
  node.back?.map fun back => node.place.link back.name back.target

variable {node : Node} {back : BackReference} {name : String} {property : Property}

theorem mem_properties_of_back? (h : node.back? = some back) :
    (back.name, .reference back.target) ∈ node.properties := by
  rw [properties, h, withBack]
  exact Keyed.mem_insert_self

theorem mem_links_of_backLink? {link : Link} (h : node.backLink? = some link) :
    link ∈ node.links := by
  obtain ⟨back, hback, rfl⟩ := Option.map_eq_some_iff.mp h
  exact mem_links.mpr ⟨.reference back.target, mem_properties_of_back? hback, rfl⟩

theorem mem_properties_of_declared (h : ¬ node.Overwrites)
    (hmem : (name, property) ∈ node.schema.properties) : (name, property) ∈ node.properties := by
  cases hback : node.back? with
  | none =>
      rw [properties, hback, withBack]
      exact hmem
  | some back =>
      by_cases hname : name = back.name
      · subst hname
        by_cases hproperty : property = .reference back.target
        · rw [hproperty]
          exact mem_properties_of_back? hback
        · exact absurd ⟨back, property, hback, hmem, hproperty⟩ h
      · rw [properties, hback, withBack]
        exact Keyed.mem_insert_of_ne hname hmem

theorem mem_children_of_declared (h : ¬ node.Overwrites) {child : Node}
    (hchild : child ∈ node.declared) : child ∈ node.children := by
  obtain ⟨name, property, hmem, hchild⟩ := mem_nodesOf.mp hchild
  exact mem_nodesOf.mpr ⟨name, property, mem_properties_of_declared h hmem, hchild⟩

theorem properties_distinct (h : Keyed.Distinct node.schema.properties) :
    Keyed.Distinct node.properties := by
  rw [properties]
  cases node.back? with
  | none => exact h
  | some back => exact Keyed.Distinct.insert h _ _

end Node

/-! ## Induction along nested tables -/

mutual

private theorem holds_of_property {motive : Node → Prop}
    (step : ∀ node : Node, (∀ child ∈ node.declared, motive child) → motive node) :
    ∀ (property : Property) (node : Node) (name : String) (child : Node),
      node.child? name property = some child → motive child
  | .nested table, _, _, _, h => by
      cases h
      exact holds_of_table step table _ _
  | .list (.nested table), _, _, _, h => by
      cases h
      exact holds_of_table step table _ _
  | .list (.primitive _ _), _, _, _, h | .list (.text _ _), _, _, _, h
  | .list (.document _ _ _), _, _, _, h | .list (.reference _), _, _, _, h => by
      cases h
      refine step _ ?_
      intro child hchild
      simp [Node.declared, Node.nodesOf, Property.itemTable, Node.child?] at hchild
  | .list (.list items), _, _, _, h => by
      cases h
      refine step _ ?_
      intro child hchild
      obtain ⟨name, property, hmem, hchild⟩ := Node.mem_nodesOf.mp hchild
      cases List.mem_singleton.mp hmem
      exact holds_of_property step (.list items) _ _ _ hchild
  | .primitive _ _, _, _, _, h | .text _ _, _, _, _, h | .document _ _ _, _, _, _, h
  | .reference _, _, _, _, h => by
      cases h

private theorem holds_of_table {motive : Node → Prop}
    (step : ∀ node : Node, (∀ child ∈ node.declared, motive child) → motive node) :
    ∀ (schema : TableOf Property) (place : Place) (back? : Option BackReference),
      motive ⟨place, back?, schema⟩
  | ⟨properties, _, _⟩, _, _ => by
      refine step _ ?_
      intro child hchild
      obtain ⟨name, property, hmem, hchild⟩ := Node.mem_nodesOf.mp hchild
      exact holds_of_properties step properties _ _ hmem _ _ hchild

private theorem holds_of_properties {motive : Node → Prop}
    (step : ∀ node : Node, (∀ child ∈ node.declared, motive child) → motive node) :
    ∀ (properties : List (String × Property)) (name : String) (property : Property),
      (name, property) ∈ properties →
        ∀ node child : Node, node.child? name property = some child → motive child
  | [], _, _, hmem, _, _, _ => by simp at hmem
  | (other, stored) :: rest, name, property, hmem, node, child, h => by
      rcases List.mem_cons.mp hmem with heq | hmem
      · cases heq
        exact holds_of_property step stored node _ child h
      · exact holds_of_properties step rest name property hmem node child h

end

/-- What holds of a node as soon as it holds of all nodes declared in it holds of every node. -/
theorem Node.declared_induction {motive : Node → Prop}
    (step : ∀ node : Node, (∀ child ∈ node.declared, motive child) → motive node)
    (node : Node) : motive node :=
  holds_of_table step node.schema node.place node.back?

/-! ## The nodes of a database -/

/-- The tables that a database declares, at the top and inside other tables. -/
inductive Database.Declares (database : Database) : Node → Prop
  | top {name : String} {schema : TableSchema} (hmem : (name, schema) ∈ database) :
      Declares database (.top name schema)
  | inside {outer inner : Node} (houter : Declares database outer)
      (hinner : inner ∈ outer.declared) : Declares database inner

/-- The tables that flattening comes to.  It does not look into a property whose place a reference
back has taken. -/
inductive Database.Visits (database : Database) : Node → Prop
  | top {name : String} {schema : TableSchema} (hmem : (name, schema) ∈ database) :
      Visits database (.top name schema)
  | inside {outer inner : Node} (houter : Visits database outer)
      (hinner : inner ∈ outer.children) : Visits database inner

namespace Database

variable {database : Database} {node : Node}

theorem Visits.declares (h : database.Visits node) : database.Declares node := by
  induction h with
  | top hmem => exact .top hmem
  | inside _ hinner ih => exact .inside ih (Node.mem_declared_of_mem_children hinner)

theorem placedTables_eq (database : Database) :
    database.placedTables =
      database.flatMap fun entry => (Node.top entry.1 entry.2).tables := by
  induction database with
  | nil => rfl
  | cons entry rest ih =>
      obtain ⟨name, schema⟩ := entry
      rw [placedTables, ih, List.flatMap_cons]
      rfl

theorem Visits.tables_subset (h : database.Visits node) :
    node.tables ⊆ database.placedTables := by
  induction h with
  | top hmem =>
      intro placed hplaced
      rw [placedTables_eq]
      exact List.mem_flatMap.mpr ⟨_, hmem, hplaced⟩
  | @inside outer inner _ hinner ih =>
      intro placed hplaced
      apply ih
      rw [Node.tables_eq]
      exact List.mem_append_left _ (List.mem_flatMap.mpr ⟨inner, hinner, hplaced⟩)

/-- Where nothing is overwritten, flattening comes to every table. -/
theorem Declares.visits (h : database.Declares node)
    (hkept : ∀ node, database.Declares node → ¬ node.Overwrites) : database.Visits node := by
  induction h with
  | top hmem => exact .top hmem
  | @inside outer inner houter hinner ih =>
      exact .inside ih (Node.mem_children_of_declared (hkept outer houter) hinner)

/-- The flat tables below a visited node are those of visited nodes. -/
theorem Visits.exists_of_mem_tables (h : database.Visits node) {placed : PlacedTable}
    (hplaced : placed ∈ node.tables) : ∃ inner, database.Visits inner ∧ placed = inner.placed := by
  induction node using Node.declared_induction with
  | step node ih =>
      rw [Node.tables_eq] at hplaced
      rcases List.mem_append.mp hplaced with hbelow | hself
      · obtain ⟨child, hchild, hplaced⟩ := List.mem_flatMap.mp hbelow
        exact ih child (Node.mem_declared_of_mem_children hchild) (.inside h hchild) hplaced
      · exact ⟨node, h, List.mem_singleton.mp hself⟩

/-- The flat tables of a database are those of the nodes that flattening visits. -/
theorem mem_placedTables {placed : PlacedTable} :
    placed ∈ database.placedTables ↔ ∃ node, database.Visits node ∧ placed = node.placed := by
  constructor
  · intro h
    rw [placedTables_eq] at h
    obtain ⟨⟨name, schema⟩, hmem, hplaced⟩ := List.mem_flatMap.mp h
    exact Visits.exists_of_mem_tables (.top hmem) hplaced
  · rintro ⟨node, hvisits, rfl⟩
    apply hvisits.tables_subset
    rw [Node.tables_eq]
    exact List.mem_append_right _ List.mem_cons_self

theorem mem_tables {table : LinkedTable} :
    table ∈ database.tables ↔ ∃ node, database.Visits node ∧ table = node.table := by
  rw [tables, List.mem_map]
  constructor
  · rintro ⟨placed, hplaced, rfl⟩
    obtain ⟨node, hvisits, rfl⟩ := mem_placedTables.mp hplaced
    exact ⟨node, hvisits, rfl⟩
  · rintro ⟨node, hvisits, rfl⟩
    exact ⟨node.placed, mem_placedTables.mpr ⟨node, hvisits, rfl⟩, rfl⟩

end Database

end SchemaTables
