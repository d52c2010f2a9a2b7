import SchemaTables.Proofs.Table.Acceptance

/-!
# Paths and names of tables

A table is known by its path: no two declared tables, and no two flat tables, have the same one.
Nested tables come first: no path goes on behind that of an earlier flat table
(`Database.placedTables_pairwise`).

The name of a table joins its path, so names are known to differ only where no name in the database
holds the character that joins them.
-/

namespace SchemaTables

/-! ## The names in a database -/

mutual

/-- The names of the properties of all tables in a property. -/
def Property.names : Property → List String
  | .nested table => table.names
  | .list items => items.names
  | _ => []

/-- The names of the properties of a table and of all tables in it. -/
def TableOf.names : TableOf Property → List String
  | ⟨properties, _, _⟩ => propertyNames properties

/-- The names of properties, and of those of all tables in them. -/
def propertyNames : List (String × Property) → List String
  | [] => []
  | (name, property) :: rest => name :: (property.names ++ propertyNames rest)

end

/-- The names of the tables at the top of a database, and of all properties of tables in it. -/
def Database.names (database : Database) : List String :=
  database.flatMap fun entry => entry.1 :: entry.2.names

/-- No name in the database holds the character. -/
def Database.NamesAvoid (c : Char) (database : Database) : Prop :=
  ∀ name ∈ database.names, Text.Avoids c name

instance (c : Char) (database : Database) : Decidable (database.NamesAvoid c) :=
  inferInstanceAs (Decidable (∀ name ∈ database.names, Text.Avoids c name))

theorem mem_propertyNames {properties : Keyed Property} {name : String} {property : Property}
    (hmem : (name, property) ∈ properties) :
    name ∈ propertyNames properties ∧ property.names ⊆ propertyNames properties := by
  induction properties with
  | nil => simp at hmem
  | cons entry rest ih =>
      obtain ⟨other, stored⟩ := entry
      rw [propertyNames]
      rcases List.mem_cons.mp hmem with heq | hrest
      · cases heq
        refine ⟨List.mem_cons_self, ?_⟩
        intro inner hinner
        exact List.mem_cons_of_mem _ (List.mem_append_left _ hinner)
      · obtain ⟨hname, hsubset⟩ := ih hrest
        refine ⟨List.mem_cons_of_mem _ (List.mem_append_right _ hname), ?_⟩
        intro inner hinner
        exact List.mem_cons_of_mem _ (List.mem_append_right _ (hsubset hinner))

theorem TableOf.names_subset_of_mem {schema : TableSchema} {name : String} {property : Property}
    (hmem : (name, property) ∈ schema.properties) :
    name ∈ schema.names ∧ property.names ⊆ schema.names := by
  obtain ⟨properties, required, primaryKey⟩ := schema
  exact mem_propertyNames hmem

/-- The table of the items of a list brings in at most the name of its one column. -/
theorem mem_names_itemTable {items : Property} {name : String}
    (h : name ∈ items.itemTable.names) : name = "value" ∨ name ∈ items.names := by
  cases items <;>
    simp only [Property.itemTable, Property.names, TableOf.names, propertyNames,
      List.append_nil, List.mem_cons, List.not_mem_nil, or_false] at h ⊢ <;>
    simp_all

namespace Database

variable {database : Database} {node : Node} {c : Char}

/-- What is said of the names in a database holds of the path and of the properties of each of its
tables; the column of the items of a list has a name of its own. -/
theorem Declares.avoids (h : database.Declares node) (hnames : database.NamesAvoid c)
    (hvalue : Text.Avoids c "value") :
    (∀ segment ∈ node.place.path, Text.Avoids c segment) ∧
      ∀ name ∈ node.schema.names, Text.Avoids c name := by
  induction h with
  | @top name schema hmem =>
      have hsubset : name :: schema.names ⊆ database.names := by
        intro inner hinner
        exact List.mem_flatMap.mpr ⟨_, hmem, hinner⟩
      constructor
      · intro segment hsegment
        cases List.mem_singleton.mp hsegment
        exact hnames _ (hsubset List.mem_cons_self)
      · intro inner hinner
        exact hnames _ (hsubset (List.mem_cons_of_mem _ hinner))
  | @inside outer inner _ hinner ih =>
      obtain ⟨hpath, houter⟩ := ih
      obtain ⟨name, property, hmem, hchild⟩ := Node.mem_nodesOf.mp hinner
      obtain ⟨hname, hsubset⟩ := TableOf.names_subset_of_mem hmem
      have hsubset : ∀ other, other = name ∨ other ∈ property.names → Text.Avoids c other := by
        rintro other (rfl | hother)
        · exact houter _ hname
        · exact houter _ (hsubset hother)
      constructor
      · rw [Node.child?_path hchild]
        intro segment hsegment
        rcases List.mem_append.mp hsegment with hsegment | hsegment
        · exact hpath segment hsegment
        · exact hsubset segment (Or.inl (List.mem_singleton.mp hsegment))
      · intro other hother
        cases property with
        | nested table =>
            cases hchild
            exact hsubset other (Or.inr hother)
        | list items =>
            cases hchild
            rcases mem_names_itemTable hother with rfl | hother
            · exact hvalue
            · exact hsubset other (Or.inr hother)
        | _ => cases hchild

theorem Declares.avoids_path (h : database.Declares node) (hnames : database.NamesAvoid c)
    (hvalue : Text.Avoids c "value") : ∀ segment ∈ node.place.path, Text.Avoids c segment :=
  (h.avoids hnames hvalue).1

theorem Declares.avoids_name (h : database.Declares node) (hnames : database.NamesAvoid c)
    (hvalue : Text.Avoids c "value") {name : String}
    (hname : name ∈ Keyed.keys node.schema.properties) : Text.Avoids c name := by
  obtain ⟨property, hmem⟩ := Keyed.mem_keys_iff.mp hname
  exact (h.avoids hnames hvalue).2 name (TableOf.names_subset_of_mem hmem).1

/-! ## Paths -/

theorem Declares.path_ne_nil (h : database.Declares node) : node.place.path ≠ [] := by
  cases h with
  | top hmem => simp [Node.top, Place.top]
  | inside _ hinner =>
      obtain ⟨name, property, -, hchild⟩ := Node.mem_nodesOf.mp hinner
      simp [Node.child?_path hchild]

/-- A table whose path goes on behind another path is nested in the table of that path. -/
theorem Declares.exists_outer {inner : Node} (h : database.Declares inner) {path : List String}
    {name : String} (hpath : inner.place.path = path ++ [name]) (hne : path ≠ []) :
    ∃ outer property, database.Declares outer ∧ outer.place.path = path ∧
      (name, property) ∈ outer.schema.properties ∧ outer.child? name property = some inner := by
  cases h with
  | top _ =>
      have hempty : [] = path :=
        (List.append_inj' (show [] ++ [_] = path ++ [name] from hpath) rfl).1
      exact absurd hempty.symm hne
  | @inside outer _ houter hinner =>
      obtain ⟨other, property, hmem, hchild⟩ := Node.mem_nodesOf.mp hinner
      rw [Node.child?_path hchild] at hpath
      obtain ⟨hplace, hlast⟩ := List.append_inj' hpath rfl
      cases (List.cons.inj hlast).1
      exact ⟨outer, property, houter, hplace, hmem, hchild⟩

theorem Declares.eq_of_path {other : Node} (h : database.Declares node)
    (hother : database.Declares other) (hkeyed : database.WellKeyed)
    (hpath : node.place.path = other.place.path) : node = other := by
  induction h generalizing other with
  | @top name schema hmem =>
      cases hother with
      | @top second _ hsecond =>
          have hname : name = second := by simpa [Node.top, Place.top] using hpath
          subst hname
          rw [hkeyed.distinct.eq_of_mem hmem hsecond]
      | inside houter hinner =>
          obtain ⟨last, property, -, hchild⟩ := Node.mem_nodesOf.mp hinner
          rw [Node.child?_path hchild] at hpath
          have hlength := congrArg List.length hpath
          exact absurd (by simpa [Node.top, Place.top] using hlength) houter.path_ne_nil
  | @inside outer inner houter hinner ih =>
      obtain ⟨name, property, hmem, hchild⟩ := Node.mem_nodesOf.mp hinner
      rw [Node.child?_path hchild] at hpath
      obtain ⟨second, property', hsecond, hplace, hmem', hchild'⟩ :=
        hother.exists_outer hpath.symm houter.path_ne_nil
      cases ih hsecond hplace.symm
      rw [(hkeyed.declared outer houter).distinct.eq_of_mem hmem hmem'] at hchild
      exact Option.some.inj (hchild.symm.trans hchild')

end Database

/-! ## Paths of flat tables -/

namespace Node

theorem path_prefix_of_mem_tables {node : Node} {placed : PlacedTable} (h : placed ∈ node.tables) :
    node.place.path <+: placed.path := by
  induction node using Node.declared_induction with
  | step node ih =>
      rw [tables_eq] at h
      rcases List.mem_append.mp h with hbelow | hself
      · obtain ⟨child, hchild, hplaced⟩ := List.mem_flatMap.mp hbelow
        obtain ⟨name, property, -, hproperty⟩ := mem_nodesOf.mp hchild
        have hprefix := ih child (mem_declared_of_mem_children hchild) hplaced
        rw [child?_path hproperty] at hprefix
        exact (List.prefix_append _ _).trans hprefix
      · rw [List.mem_singleton.mp hself]
        exact List.prefix_refl _

theorem eq_of_prefix (path : List String) {first second whole : List String} {a b : String}
    (hfirst : first = path ++ [a]) (hsecond : second = path ++ [b])
    (h₁ : first <+: whole) (h₂ : second <+: whole) : a = b := by
  have hprefix : first <+: second :=
    List.prefix_of_prefix_length_le h₁ h₂ (by simp [hfirst, hsecond])
  have heq : first = second := hprefix.eq_of_length (by simp [hfirst, hsecond])
  rw [hfirst, hsecond] at heq
  simpa using heq

/-- No path below one child of a node goes on behind a path below another. -/
theorem children_pairwise {node : Node} (h : Keyed.Distinct node.schema.properties) :
    node.children.Pairwise fun first second =>
      ∀ a ∈ first.tables, ∀ b ∈ second.tables, ¬ a.path <+: b.path := by
  have hdistinct := properties_distinct h
  rw [Keyed.Distinct, Keyed.keys, List.Nodup, List.pairwise_map] at hdistinct
  rw [children, nodesOf, List.pairwise_filterMap]
  refine hdistinct.imp ?_
  intro first second hne child hchild child' hchild' a ha b hb hbehind
  apply hne
  exact eq_of_prefix node.place.path (child?_path hchild) (child?_path hchild')
    ((path_prefix_of_mem_tables ha).trans hbehind) (path_prefix_of_mem_tables hb)

end Node

namespace Database

variable {database : Database}

/-- Among the flat tables below a visited node, no path goes on behind that of an earlier table. -/
theorem Visits.tables_pairwise {node : Node} (h : database.Visits node)
    (hkeyed : database.WellKeyed) :
    node.tables.Pairwise fun a b => ¬ a.path <+: b.path := by
  induction node using Node.declared_induction with
  | step node ih =>
      rw [Node.tables_eq, List.pairwise_append, List.pairwise_flatMap]
      refine ⟨⟨?_, Node.children_pairwise (hkeyed.declared node h.declares).distinct⟩,
        List.pairwise_singleton _ _, ?_⟩
      · intro child hchild
        exact ih child (Node.mem_declared_of_mem_children hchild) (.inside h hchild)
      · intro placed hplaced own hown hbehind
        -- a table below has a longer path than the table of the node
        obtain ⟨child, hchild, hplaced⟩ := List.mem_flatMap.mp hplaced
        obtain ⟨name, property, -, hproperty⟩ := Node.mem_nodesOf.mp hchild
        have hprefix := ((Node.path_prefix_of_mem_tables hplaced).trans hbehind).length_le
        rw [List.mem_singleton.mp hown, Node.child?_path hproperty] at hprefix
        have hlength : (node.place.path ++ [name]).length ≤ node.place.path.length := hprefix
        rw [List.length_append, List.length_singleton] at hlength
        omega

/-- No path of a flat table goes on behind that of an earlier one: nested tables come first. -/
theorem placedTables_pairwise (hkeyed : database.WellKeyed) :
    database.placedTables.Pairwise fun a b => ¬ a.path <+: b.path := by
  rw [placedTables_eq, List.pairwise_flatMap]
  constructor
  · intro entry hentry
    exact Visits.tables_pairwise (.top hentry) hkeyed
  · have htop := hkeyed.distinct
    rw [Keyed.Distinct, Keyed.keys, List.Nodup, List.pairwise_map] at htop
    refine htop.imp ?_
    intro first second hne a ha b hb hbehind
    apply hne
    exact Node.eq_of_prefix [] rfl rfl ((Node.path_prefix_of_mem_tables ha).trans hbehind)
      (Node.path_prefix_of_mem_tables hb)

/-- No two flat tables of a database have the same path. -/
theorem paths_pairwise (hkeyed : database.WellKeyed) :
    database.placedTables.Pairwise fun a b => a.path ≠ b.path := by
  refine (placedTables_pairwise hkeyed).imp ?_
  intro a b hbehind heq
  rw [heq] at hbehind
  exact hbehind (List.prefix_refl _)

/-! ## Names of tables -/

theorem Declares.eq_of_tableName {first second : Node} (hfirst : database.Declares first)
    (hsecond : database.Declares second) (hkeyed : database.WellKeyed)
    (hnames : database.NamesAvoid '_')
    (heq : first.place.tableName = second.place.tableName) : first = second := by
  have hvalue : Text.Avoids '_' "value" := by decide
  exact hfirst.eq_of_path hsecond hkeyed
    (Text.join_injective hfirst.path_ne_nil hsecond.path_ne_nil
      (hfirst.avoids_path hnames hvalue) (hsecond.avoids_path hnames hvalue) heq)

end Database

end SchemaTables
