import SchemaTables.Proofs.Table.BackReference

/-!
# What flattening preserves

Flattening is to keep every declared property: as one column, as one reference, or as one table with
all tables below it.  It does so unless the reference back of a nested table meets a different
property of its name, whose place it takes (`Node.Overwrites`).  The property is then lost, with all
tables below it.

The main statement is `flattening_preserves_iff`: these are all the ways in which a property of an
accepted document is lost.
-/

namespace SchemaTables

/-- The flat table holds each property that the node declares once, and beside these at most the
reference back. -/
structure Node.KeptIn (node : Node) (table : LinkedTable) : Prop where
  column : ∀ name property column, (name, property) ∈ node.schema.properties →
    property.column? name = some column →
      table.columns.filter (fun other => other.name = name) = [column]
  reference : ∀ name property link, (name, property) ∈ node.schema.properties →
    property.link? node.place name = some link →
      table.references.filter (fun other => other.name = name) = [link]
  column_declared : ∀ column ∈ table.columns, ∃ name property,
    (name, property) ∈ node.schema.properties ∧ property.column? name = some column
  reference_declared : ∀ link ∈ table.references, node.backLink? = some link ∨ ∃ name property,
    (name, property) ∈ node.schema.properties ∧ property.link? node.place name = some link

/-- Each table that the database declares, at whatever depth, is kept in the one flat table of its
path, and there are no other flat tables. -/
structure Database.Preserves (database : Database) : Prop where
  kept : ∀ node, database.Declares node → ∃ table,
    database.placedTables.filter (fun placed => placed.path = node.place.path) =
        [⟨node.place.path, table⟩] ∧
      node.KeptIn table
  declared : ∀ placed ∈ database.placedTables, ∃ node, database.Declares node ∧
    placed.path = node.place.path

theorem filter_eq_singleton {α : Type u} {β : Type v} [DecidableEq β] {value : α → β}
    {list : List α} {a : α} (h : list.Pairwise fun first second => value first ≠ value second)
    (ha : a ∈ list) : list.filter (fun b => value b = value a) = [a] := by
  induction list with
  | nil => simp at ha
  | cons head rest ih =>
      obtain ⟨hhead, hrest⟩ := List.pairwise_cons.mp h
      rcases List.mem_cons.mp ha with rfl | hmem
      · have hnone : rest.filter (fun b => value b = value a) = [] := by
          rw [List.filter_eq_nil_iff]
          intro b hb
          simpa using Ne.symm (hhead b hb)
        rw [List.filter_cons_of_pos (by simp), hnone]
      · rw [List.filter_cons_of_neg (by simpa using hhead a hmem)]
        exact ih hrest hmem

theorem mem_of_filter_eq_singleton {α : Type u} {p : α → Bool} {list : List α} {a : α}
    (h : list.filter p = [a]) : a ∈ list := by
  have hmem : a ∈ list.filter p := by
    rw [h]
    exact List.mem_cons_self
  exact List.mem_of_mem_filter hmem

/-! ## Nodes that keep what they declare -/

namespace Node

variable {node : Node} {back : BackReference} {name : String} {property : Property}

/-- A node that overwrites nothing is kept in its table. -/
theorem keptIn_table (hdistinct : Keyed.Distinct node.schema.properties)
    (hkept : ¬ node.Overwrites) : node.KeptIn node.table := by
  have hproperties := properties_distinct hdistinct
  constructor
  · intro name property column hmem hcolumn
    have hname := Property.column?_name hcolumn
    subst hname
    refine filter_eq_singleton (hproperties.pairwise_filterMap ?_) ?_
    · intro entry other hother
      exact Property.column?_name hother
    · exact mem_columns.mpr ⟨property, mem_properties_of_declared hkept hmem, hcolumn⟩
  · intro name property link hmem hlink
    have hname := Property.link?_name hlink
    subst hname
    refine filter_eq_singleton (hproperties.pairwise_filterMap ?_) ?_
    · intro entry other hother
      exact Property.link?_name hother
    · exact mem_links.mpr ⟨property, mem_properties_of_declared hkept hmem, hlink⟩
  · intro column hcolumn
    obtain ⟨property, hmem, hcolumn⟩ := mem_columns.mp hcolumn
    rcases mem_properties hmem with hdeclared | ⟨back, -, -, rfl⟩
    · exact ⟨_, property, hdeclared, hcolumn⟩
    · cases hcolumn
  · intro link hlink
    obtain ⟨property, hmem, hlinked⟩ := mem_links.mp hlink
    rcases mem_properties hmem with hdeclared | ⟨back, hback, hname, rfl⟩
    · exact Or.inr ⟨_, property, hdeclared, hlinked⟩
    · left
      rw [backLink?, hback, Option.map_some, ← hname]
      exact hlinked

/-- A property is stored in a column, refers to another table or becomes one. -/
theorem column_or_link_or_child (node : Node) (name : String) (property : Property) :
    (∃ column, property.column? name = some column) ∨
      (∃ link, property.link? node.place name = some link) ∨
        ∃ child, node.child? name property = some child := by
  cases property with
  | primitive kind attributes => exact Or.inl ⟨_, rfl⟩
  | text format attributes => exact Or.inl ⟨_, rfl⟩
  | document shape storage attributes => exact Or.inl ⟨_, rfl⟩
  | reference target => exact Or.inr (Or.inl ⟨_, rfl⟩)
  | nested table => exact Or.inr (Or.inr ⟨_, rfl⟩)
  | list items => exact Or.inr (Or.inr ⟨_, rfl⟩)

/-- Under the name of the reference back stands the reference back alone. -/
theorem eq_reference_of_mem_properties (hdistinct : Keyed.Distinct node.schema.properties)
    (hback : node.back? = some back) (hmem : (back.name, property) ∈ node.properties) :
    property = .reference back.target :=
  (properties_distinct hdistinct).eq_of_mem hmem (mem_properties_of_back? hback)

/-- A column, a reference or a table that is overwritten is found nowhere in the node. -/
theorem not_mem_of_overwritten (hdistinct : Keyed.Distinct node.schema.properties)
    (hback : node.back? = some back) (hproperty : property ≠ .reference back.target) :
    (∀ column, property.column? back.name = some column → column ∉ node.columns) ∧
      (∀ link, property.link? node.place back.name = some link → link ∉ node.links) ∧
        ∀ child, node.child? back.name property = some child → child ∉ node.children := by
  refine ⟨?_, ?_, ?_⟩
  · intro column hcolumn hmem
    obtain ⟨stored, hentry, hstored⟩ := mem_columns.mp hmem
    rw [Property.column?_name hcolumn] at hentry
    rw [eq_reference_of_mem_properties hdistinct hback hentry] at hstored
    cases hstored
  · intro link hlink hmem
    obtain ⟨stored, hentry, hstored⟩ := mem_links.mp hmem
    rw [Property.link?_name hlink] at hentry hstored
    rw [eq_reference_of_mem_properties hdistinct hback hentry] at hstored
    cases property with
    | reference target =>
        cases hstored
        cases hlink
        exact hproperty rfl
    | _ => cases hlink
  · intro child hchild hmem
    obtain ⟨name, stored, hentry, hstored⟩ := mem_nodesOf.mp hmem
    have hname : name = back.name := by
      have hpath := (child?_path hstored).symm.trans (child?_path hchild)
      simpa using hpath
    subst hname
    rw [eq_reference_of_mem_properties hdistinct hback hentry] at hstored
    cases hstored

end Node

/-! ## Databases -/

namespace Database

variable {database : Database} {node outer inner : Node}

/-- The node that flattening comes to under a path is the one declared there. -/
theorem Declares.visits_of_mem_placedTables (h : database.Declares node)
    (hkeyed : database.WellKeyed) {table : LinkedTable}
    (hmem : ⟨node.place.path, table⟩ ∈ database.placedTables) :
    database.Visits node ∧ table = node.table := by
  obtain ⟨visited, hvisits, hplaced⟩ := mem_placedTables.mp hmem
  obtain ⟨hpath, htable⟩ := PlacedTable.mk.inj hplaced
  have heq : node = visited := h.eq_of_path hvisits.declares hkeyed hpath
  rw [heq]
  exact ⟨hvisits, htable⟩

/-- A nested table that flattening comes to is one of the children of the table around it. -/
theorem Visits.mem_children (h : database.Visits inner) (houter : database.Declares outer)
    (hkeyed : database.WellKeyed) {name : String}
    (hpath : inner.place.path = outer.place.path ++ [name]) : inner ∈ outer.children := by
  cases h with
  | top _ =>
      have hlength := congrArg List.length hpath
      exact absurd (by simpa [Node.top, Place.top] using hlength) houter.path_ne_nil
  | @inside second _ hsecond hinner =>
      obtain ⟨other, property, -, hchild⟩ := Node.mem_nodesOf.mp hinner
      rw [Node.child?_path hchild] at hpath
      have hplace : second.place.path = outer.place.path := (List.append_inj' hpath rfl).1
      have heq : second = outer := hsecond.declares.eq_of_path houter hkeyed hplace
      rw [← heq]
      exact hinner

theorem preserves_of_not_overwrites (hkeyed : database.WellKeyed)
    (hkept : ∀ node, database.Declares node → ¬ node.Overwrites) : database.Preserves := by
  constructor
  · intro node hnode
    refine ⟨node.table, ?_,
      Node.keptIn_table (hkeyed.declared node hnode).distinct (hkept node hnode)⟩
    exact filter_eq_singleton (a := node.placed) (paths_pairwise hkeyed)
      (mem_placedTables.mpr ⟨node, hnode.visits hkept, rfl⟩)
  · intro placed hplaced
    obtain ⟨node, hvisits, rfl⟩ := mem_placedTables.mp hplaced
    exact ⟨node, hvisits.declares, rfl⟩

/-- The table of a declared node, if it is preserved, is that of the node itself. -/
theorem Preserves.keptIn_table (h : database.Preserves) (hkeyed : database.WellKeyed)
    (hnode : database.Declares node) : database.Visits node ∧ node.KeptIn node.table := by
  obtain ⟨table, hfilter, hkept⟩ := h.kept node hnode
  obtain ⟨hvisits, rfl⟩ :=
    hnode.visits_of_mem_placedTables hkeyed (mem_of_filter_eq_singleton hfilter)
  exact ⟨hvisits, hkept⟩

theorem Preserves.not_overwrites (h : database.Preserves)
    (hkeyed : database.WellKeyed) (hnode : database.Declares node) : ¬ node.Overwrites := by
  rintro ⟨back, property, hback, hmem, hproperty⟩
  obtain ⟨-, hkept⟩ := h.keptIn_table hkeyed hnode
  obtain ⟨hcolumns, hlinks, hchildren⟩ := Node.not_mem_of_overwritten
    (hkeyed.declared node hnode).distinct hback hproperty
  rcases node.column_or_link_or_child back.name property with
    ⟨column, hcolumn⟩ | ⟨link, hlink⟩ | ⟨child, hchild⟩
  · have hfilter := hkept.column back.name property column hmem hcolumn
    exact hcolumns column hcolumn (mem_of_filter_eq_singleton hfilter)
  · have hfilter := hkept.reference back.name property link hmem hlink
    exact hlinks link hlink (mem_of_filter_eq_singleton hfilter)
  · have hinner : database.Declares child :=
      hnode.inside (Node.mem_nodesOf.mpr ⟨back.name, property, hmem, hchild⟩)
    obtain ⟨hvisits, -⟩ := h.keptIn_table hkeyed hinner
    exact hchildren child hchild
      (hvisits.mem_children hnode hkeyed (Node.child?_path hchild))

/-- Flattening preserves an accepted document if and only if no reference back overwrites a property
of one of its tables. -/
theorem flattening_preserves_iff {document : Json} (hread : Database.read document = .ok database)
    (hdistinct : document.Distinct) :
    database.Preserves ↔ ∀ node, database.Declares node → ¬ node.Overwrites := by
  have hkeyed := wellKeyed_of_read hread hdistinct
  constructor
  · intro h node hnode
    exact h.not_overwrites hkeyed hnode
  · intro hkept
    exact preserves_of_not_overwrites hkeyed hkept

end Database

theorem flattening_preserves_accounts : accounts.Preserves :=
  (Database.flattening_preserves_iff read_accountDocument accountDocument_distinct).mpr
    fun _ h => h.not_overwrites (by decide)

/-! ## A column that is lost -/

/-- Settings with a property that has the name of their reference back. -/
def renamedSettings : TableSchema :=
  { properties := [("users_id", .text none {}), ("theme", .text none {})] }

def renamedUsers : Database :=
  [("users",
    { properties := [("id", .primitive .integer {}), ("settings", .nested renamedSettings)] })]

def renamedUsersDocument : Json :=
  .object
    [("type", .string "object"),
      ("properties", .object
        [("users", .object
          [("type", .string "object"),
            ("properties", .object
              [("id", .object [("type", .string "integer")]),
                ("settings", .object
                  [("type", .string "object"),
                    ("properties", .object
                      [("users_id", .object [("type", .string "string")]),
                        ("theme", .object [("type", .string "string")])])])])])])]

theorem flattening_loses_column :
    renamedUsersDocument.Distinct ∧
      Database.read renamedUsersDocument = .ok renamedUsers ∧ ¬ renamedUsers.Preserves := by
  have hread : Database.read renamedUsersDocument = .ok renamedUsers := rfl
  have hdistinct : renamedUsersDocument.Distinct := by
    simp [renamedUsersDocument, Json.Distinct, Json.DistinctMembers, Keyed.Distinct, Keyed.keys]
  refine ⟨hdistinct, hread, ?_⟩
  intro h
  have hsettings : renamedUsers.Declares
      ⟨(Place.top "users").nested "settings", some ⟨"users_id", "#/users/id"⟩,
        renamedSettings⟩ := by
    refine .inside (.top List.mem_cons_self) ?_
    exact Node.mem_nodesOf.mpr
      ⟨"settings", .nested renamedSettings, List.mem_cons_of_mem _ List.mem_cons_self, rfl⟩
  exact h.not_overwrites (Database.wellKeyed_of_read hread hdistinct) hsettings
    ⟨_, .text none {}, rfl, List.mem_cons_self, by simp⟩

end SchemaTables
