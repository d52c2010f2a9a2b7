import Mathlib.Data.List.Nodup
import Mathlib.Data.List.Pairwise
import Mathlib.Data.List.Perm.Basic
import SchemaTables.Proofs.Ddl.Executability
import SchemaTables.Proofs.Table.TableNames

/-!
# Names at the level of a schema

Beside tables, a script makes types, indexes and constraints that need names of their own in the
whole schema.  They are joined with `_` from the name of a table, mostly a column, and the kind of
what is made, so the kind is the last word of such a name.

Within one table these names never clash, and neither do names of different kinds.  For tables of
different names there remain two ways (`schemaNames_nodup_iff`): a table is called like something
that is made for another one, or two tables have columns that read the same together with their
names.
-/

namespace SchemaTables

/-- The names that a statement introduces in the schema. -/
def Statement.introduced : Statement → List String
  | .createEnumType name _ => [name]
  | .createTable table => table.name :: (table.primaryKey.map fun _ => keyName table.name).toList
  | .createIndex table column => [constraintName table column "index"]
  | .addUnique table column => [constraintName table column "unique"]
  | _ => []

def introducedNames (statements : List Statement) : List String :=
  statements.flatMap Statement.introduced

namespace Table

/-- The columns with a type of their own. -/
def enumerated (table : Table) : List String :=
  (table.columns.filter fun column => column.attributes.choices.isSome).map (·.name)

def indexed (table : Table) : List String :=
  (table.columns.filter fun column => column.attributes.metadata.index).map (·.name)

/-- The references to at most one row. -/
def single (table : Table) : List String :=
  (table.references.filter fun reference => reference.cardinality = .one).map (·.name)

/-- The columns for which something is made, each with its kind. -/
def marks (table : Table) : List (String × String) :=
  table.enumerated.map (·, "enum") ++ table.indexed.map (·, "index") ++
    (table.uniqueNames ++ table.single).map (·, "unique")

/-- The names of what is made for a table. -/
def generatedNames (table : Table) : List String :=
  (table.marks.map fun mark => constraintName table.name mark.1 mark.2) ++
    (table.key?.map fun _ => keyName table.name).toList

end Table

/-! ## The names of one table -/

namespace Table

variable {table first second : Table}

theorem mem_generatedNames {name : String} :
    name ∈ table.generatedNames ↔
      (∃ mark ∈ table.marks, name = constraintName table.name mark.1 mark.2) ∨
        (table.key?.isSome = true ∧ name = keyName table.name) := by
  rw [generatedNames, List.mem_append, List.mem_map]
  constructor
  · rintro (⟨mark, hmark, rfl⟩ | hkey)
    · exact Or.inl ⟨mark, hmark, rfl⟩
    · obtain ⟨key, hsome, rfl⟩ := Option.map_eq_some_iff.mp (Option.mem_toList.mp hkey)
      exact Or.inr ⟨by rw [hsome]; rfl, rfl⟩
  · rintro (⟨mark, hmark, rfl⟩ | ⟨hsome, rfl⟩)
    · exact Or.inl ⟨mark, hmark, rfl⟩
    · obtain ⟨key, hkey⟩ := Option.isSome_iff_exists.mp hsome
      exact Or.inr (Option.mem_toList.mpr (Option.map_eq_some_iff.mpr ⟨key, hkey, rfl⟩))

theorem mem_marks_kind {mark : String × String} (h : mark ∈ table.marks) :
    mark.2 ∈ ["enum", "index", "unique"] := by
  simp only [marks, List.mem_append, List.mem_map] at h
  rcases h with (⟨_, -, rfl⟩ | ⟨_, -, rfl⟩) | ⟨_, -, rfl⟩
  all_goals simp

theorem avoids_kind {mark : String × String} (h : mark ∈ table.marks) :
    Text.Avoids '_' mark.2 := by
  have hkinds : ∀ kind ∈ ["enum", "index", "unique"], Text.Avoids '_' kind := by decide
  exact hkinds _ (mem_marks_kind h)

theorem name_notMem_generatedNames (table : Table) : table.name ∉ table.generatedNames := by
  intro h
  rcases mem_generatedNames.mp h with ⟨mark, -, hname⟩ | ⟨-, hname⟩
  · have hlength := congrArg (fun text => text.toList.length) hname
    simp [toList_constraintName] at hlength
  · have hlength := congrArg (fun text => text.toList.length) hname
    simp [keyName, String.toList_append] at hlength

theorem nodup_generatedNames
    (h : (table.columns.map (·.name) ++ table.references.map (·.name)).Nodup) :
    table.generatedNames.Nodup := by
  have hcolumns := (List.nodup_append.mp h).1
  have henumerated : table.enumerated.Nodup := (List.filter_sublist.map _).nodup hcolumns
  have hindexed : table.indexed.Nodup := (List.filter_sublist.map _).nodup hcolumns
  have hunique : (table.uniqueNames ++ table.single).Nodup :=
    (table.uniqueNames_sublist.append (List.filter_sublist.map _)).nodup h
  let groups : Keyed (List String) :=
    [("enum", table.enumerated), ("index", table.indexed),
      ("unique", table.uniqueNames ++ table.single)]
  have hgroups : (table.marks.map fun mark => constraintName table.name mark.1 mark.2) =
      groups.flatMap fun group => group.2.map (constraintName table.name · group.1) := by
    simp [groups, marks, Function.comp_def]
  rw [generatedNames, hgroups]
  refine nodup_names_of_kinds ?_ ?_ ?_ table.name table.key?
  · exact (by decide : ["enum", "index", "unique"].Nodup)
  · exact (by decide : ∀ kind ∈ ["enum", "index", "unique"], Text.Avoids '_' kind)
  · simp [groups, henumerated, hindexed, hunique]

/-! ## The names of two tables -/

theorem split_constraintName (name column : String) {kind : String} (h : Text.Avoids '_' kind) :
    Text.split '_' (constraintName name column kind) =
      Text.split '_' name ++ Text.split '_' column ++ [kind] := by
  have hname : constraintName name column kind =
      name ++ '_'.toString ++ column ++ '_'.toString ++ kind := rfl
  rw [hname, Text.split_append, Text.split_append, Text.split_of_avoids h]

theorem split_keyName (name : String) :
    Text.split '_' (keyName name) = Text.split '_' name ++ ["pkey"] := by
  have hkey : "_pkey" = '_'.toString ++ "pkey" := by decide
  rw [keyName, hkey, ← String.append_assoc, Text.split_append]
  rfl

/-- Two columns for which the same kind of thing is made do not read alike with their tables. -/
def ColumnsApart (first second : Table) : Prop :=
  ∀ kind column other, (column, kind) ∈ first.marks → (other, kind) ∈ second.marks →
    Text.split '_' first.name ++ Text.split '_' column ≠
      Text.split '_' second.name ++ Text.split '_' other

theorem mark_ne_of_columnsApart (h : ColumnsApart first second) {mark other : String × String}
    (hmark : mark ∈ first.marks) (hother : other ∈ second.marks) :
    constraintName first.name mark.1 mark.2 ≠ constraintName second.name other.1 other.2 := by
  intro hname
  have hwords := congrArg (Text.split '_') hname
  rw [split_constraintName _ _ (avoids_kind hmark), split_constraintName _ _ (avoids_kind hother)]
    at hwords
  obtain ⟨hcolumns, hkinds⟩ := List.append_inj' hwords rfl
  obtain ⟨column, kind⟩ := mark
  obtain ⟨otherColumn, otherKind⟩ := other
  cases hkinds
  exact h kind column otherColumn hmark hother hcolumns

theorem mark_ne_keyName {mark : String × String} (hmark : mark ∈ first.marks) (name : String) :
    constraintName first.name mark.1 mark.2 ≠ keyName name := by
  intro hname
  have hwords := congrArg (Text.split '_') hname
  rw [split_constraintName _ _ (avoids_kind hmark), split_keyName] at hwords
  have hkind := mem_marks_kind hmark
  rw [List.singleton_inj.mp (List.append_inj' hwords rfl).2] at hkind
  exact absurd hkind (by decide)

/-- What is made for two tables of different names. -/
theorem disjoint_generatedNames (hne : first.name ≠ second.name) :
    List.Disjoint first.generatedNames second.generatedNames ↔ ColumnsApart first second := by
  constructor
  · intro hdisjoint kind column other hcolumn hother hwords
    have hname : constraintName first.name column kind = constraintName second.name other kind := by
      apply Text.split_injective
      rw [split_constraintName _ _ (avoids_kind hcolumn),
        split_constraintName _ _ (avoids_kind hother), hwords]
    exact hdisjoint (mem_generatedNames.mpr (Or.inl ⟨_, hcolumn, rfl⟩))
      (mem_generatedNames.mpr (Or.inl ⟨_, hother, hname⟩))
  · intro hapart name hfirst hsecond
    rcases mem_generatedNames.mp hfirst with ⟨mark, hmark, hname⟩ | ⟨-, hname⟩
    · rcases mem_generatedNames.mp hsecond with ⟨other, hother, hsame⟩ | ⟨-, hsame⟩
      · exact mark_ne_of_columnsApart hapart hmark hother (hname.symm.trans hsame)
      · exact mark_ne_keyName hmark _ (hname.symm.trans hsame)
    · rcases mem_generatedNames.mp hsecond with ⟨other, hother, hsame⟩ | ⟨-, hsame⟩
      · exact mark_ne_keyName hother _ (hsame.symm.trans hname)
      · have hwords := congrArg (Text.split '_') (hname.symm.trans hsame)
        rw [split_keyName, split_keyName] at hwords
        exact hne (Text.split_injective (List.append_inj' hwords rfl).1)

theorem disjoint_names_iff (hne : first.name ≠ second.name) :
    List.Disjoint (first.name :: first.generatedNames) (second.name :: second.generatedNames) ↔
      first.name ∉ second.generatedNames ∧ second.name ∉ first.generatedNames ∧
        ColumnsApart first second := by
  rw [List.disjoint_cons_left, List.disjoint_cons_right, List.mem_cons, not_or,
    disjoint_generatedNames hne]
  constructor
  · rintro ⟨⟨-, hfirst⟩, hsecond, hcolumns⟩
    exact ⟨hfirst, hsecond, hcolumns⟩
  · rintro ⟨hfirst, hsecond, hcolumns⟩
    exact ⟨⟨hne, hfirst⟩, hsecond, hcolumns⟩

end Table

/-! ## The names of a script -/

namespace Table

variable {table : Table}

theorem introducedNames_append (first second : List Statement) :
    introducedNames (first ++ second) = introducedNames first ++ introducedNames second :=
  List.flatMap_append

theorem introducedNames_enumTypes (table : Table) :
    introducedNames ((table.enumTypes .pg).map fun type => .createEnumType type.1 type.2) =
      table.enumerated.map fun column => constraintName table.name column "enum" := by
  have hcolumns : ∀ columns : List Column,
      introducedNames ((columns.filterMap fun column => column.attributes.choices.map fun choices =>
          (enumTypeName table.name column.name, choiceTexts choices)).map fun type =>
            .createEnumType type.1 type.2) =
        ((columns.filter fun column => column.attributes.choices.isSome).map (·.name)).map
          fun column => constraintName table.name column "enum" := by
    intro columns
    induction columns with
    | nil => rfl
    | cons column rest ih =>
        cases hchoices : column.attributes.choices with
        | none => simpa [hchoices] using ih
        | some choices =>
            simpa [hchoices, introducedNames, Statement.introduced, enumTypeName_eq] using ih
  exact hcolumns table.columns

theorem introducedNames_details (table : Table) :
    introducedNames (table.details .pg) =
      (table.indexed.map fun column => constraintName table.name column "index") ++
        table.uniqueNames.map fun column => constraintName table.name column "unique" := by
  have hcomments : introducedNames (table.comments .pg) = [] := by
    rw [introducedNames, List.flatMap_eq_nil_iff]
    intro statement hstatement
    obtain ⟨column, -, text, rfl⟩ := mem_comments hstatement
    rfl
  have hindexes : introducedNames table.indexes =
      table.indexed.map fun column => constraintName table.name column "index" := by
    rw [introducedNames, indexes, indexed, List.flatMap_map, List.map_map, List.map_eq_flatMap]
    rfl
  have huniques : introducedNames table.uniques =
      table.uniqueNames.map fun column => constraintName table.name column "unique" := by
    rw [introducedNames, uniques, uniqueNames, List.flatMap_map, List.map_map,
      List.map_eq_flatMap]
    rfl
  rw [details, introducedNames_append, introducedNames_append, hcomments, hindexes, huniques]
  rfl

theorem introducedNames_connection (table : Table) :
    introducedNames (table.connection .pg) =
      table.single.map fun column => constraintName table.name column "unique" := by
  have hadded : introducedNames (table.addedColumns .pg) = [] := by
    rw [introducedNames, List.flatMap_eq_nil_iff]
    intro statement hstatement
    rw [(mem_addedColumns hstatement).1]
    rfl
  have hreferences : ∀ references : List Reference,
      introducedNames (references.flatMap (constraints table.name)) =
        ((references.filter fun reference => reference.cardinality = .one).map (·.name)).map
          fun column => constraintName table.name column "unique" := by
    intro references
    induction references with
    | nil => rfl
    | cons reference rest ih =>
        rw [List.flatMap_cons, introducedNames_append, ih]
        cases hcardinality : reference.cardinality with
        | one =>
            simp [hcardinality, constraints, introducedNames, Statement.introduced]
        | many =>
            simp [hcardinality, constraints, introducedNames, Statement.introduced]
  rw [connection, introducedNames_append, hadded, hreferences]
  rfl

/-- Both passes over a table introduce its name and what is made for it. -/
theorem introducedNames_perm (table : Table) :
    (introducedNames (table.creation .pg) ++ introducedNames (table.connection .pg)).Perm
      (table.name :: table.generatedNames) := by
  have htable : introducedNames [.createTable (table.definition .pg)] =
      table.name :: (table.key?.map fun _ => keyName table.name).toList :=
    List.append_nil _
  rw [creation_eq, introducedNames_append, introducedNames_enumTypes, ← List.singleton_append,
    introducedNames_append, htable, introducedNames_details, introducedNames_connection,
    generatedNames, marks]
  rw [List.perm_iff_count]
  intro name
  simp only [List.map_append, List.map_map, List.count_append, List.count_cons, Function.comp_def]
  omega

end Table

/-- No table is called like something that is made for another, and no two tables have columns that
read alike. -/
structure NamesApart (all : List Table) : Prop where
  tables : ∀ first ∈ all, ∀ second ∈ all, first.name ∉ second.generatedNames
  columns : ∀ first ∈ all, ∀ second ∈ all, first.name ≠ second.name →
    Table.ColumnsApart first second

theorem introducedNames_up_perm (tables : List Table) :
    (introducedNames (Migration.ofTables .pg tables).up).Perm
      (tables.flatMap fun table => table.name :: table.generatedNames) := by
  have hpasses : introducedNames (Migration.ofTables .pg tables).up =
      tables.flatMap (fun table => introducedNames (table.creation .pg)) ++
        tables.flatMap fun table => introducedNames (table.connection .pg) := by
    rw [Migration.ofTables, Table.introducedNames_append, introducedNames, introducedNames,
      List.flatMap_assoc, List.flatMap_assoc]
    rfl
  rw [hpasses]
  exact (List.flatMap_append_perm tables _ _).trans
    (List.Perm.flatMap_left _ fun table _ => table.introducedNames_perm)

theorem nodup_names_iff {tables : List Table} (hnames : (tables.map (·.name)).Nodup)
    (hcolumns : ∀ table ∈ tables,
      (table.columns.map (·.name) ++ table.references.map (·.name)).Nodup) :
    (tables.flatMap fun table => table.name :: table.generatedNames).Nodup ↔ NamesApart tables := by
  have hsymm : Std.Symm (Function.onFun List.Disjoint fun table : Table =>
      table.name :: table.generatedNames) := ⟨fun _ _ h _ hfirst hsecond => h hsecond hfirst⟩
  rw [List.nodup_flatMap]
  constructor
  · rintro ⟨-, hpairs⟩
    -- Clashes are symmetric, so the order of the two tables in the list does not matter.
    have hpair : ∀ first ∈ tables, ∀ second ∈ tables, first.name ≠ second.name →
        first.name ∉ second.generatedNames ∧ second.name ∉ first.generatedNames ∧
          Table.ColumnsApart first second := by
      intro first hfirst second hsecond hne
      apply (Table.disjoint_names_iff hne).mp
      exact hpairs.forall hfirst hsecond fun heq => hne (by rw [heq])
    constructor
    · intro first hfirst second hsecond
      by_cases hname : first.name = second.name
      · rw [hname]
        exact second.name_notMem_generatedNames
      · exact (hpair first hfirst second hsecond hname).1
    · intro first hfirst second hsecond hne
      exact (hpair first hfirst second hsecond hne).2.2
  · intro hapart
    constructor
    · intro table htable
      exact List.nodup_cons.mpr
        ⟨table.name_notMem_generatedNames, Table.nodup_generatedNames (hcolumns table htable)⟩
    · refine (List.pairwise_map.mp hnames).imp_of_mem ?_
      intro first second hfirst hsecond hne
      exact (Table.disjoint_names_iff hne).mpr ⟨hapart.tables first hfirst second hsecond,
        hapart.tables second hsecond first hfirst, hapart.columns first hfirst second hsecond hne⟩

/-- For an accepted document whose tables have different names, the names that its script introduces
in a schema are different exactly if no table is called like a type, an index or a constraint of
another one and no columns of two tables for which the same kind of thing is made read alike. -/
theorem schemaNames_nodup_iff {document : Json} {database : Database} {script : Script}
    (hread : Database.read document = .ok database) (hdistinct : document.Distinct)
    (hnames : (database.tables.map (·.name)).Nodup) (h : compile .pg document = .ok script) :
    ∃ tables, compileTables document = .ok tables ∧
      script = (Migration.ofTables .pg tables).script .pg ∧
      ((introducedNames (Migration.ofTables .pg tables).up).Nodup ↔ NamesApart tables) := by
  obtain ⟨tables, htables, hscript⟩ := compile_eq_ok h
  obtain ⟨found, hfound, hresolve⟩ := compileTables_eq_ok htables
  cases hread.symm.trans hfound
  have hkeyed := Database.wellKeyed_of_read hread hdistinct
  have hcolumns : ∀ table ∈ tables,
      (table.columns.map (·.name) ++ table.references.map (·.name)).Nodup := by
    intro table htable
    rw [resolveAll_eq_ok hresolve] at htable
    obtain ⟨linked, hlinked, rfl⟩ := List.mem_map.mp htable
    obtain ⟨placed, hplaced, rfl⟩ := List.mem_map.mp hlinked
    obtain ⟨node, hvisits, rfl⟩ := Database.mem_placedTables.mp hplaced
    exact Node.nodup_resolve _ (hkeyed.declared node hvisits.declares).distinct
  refine ⟨tables, htables, hscript, ?_⟩
  rw [(introducedNames_up_perm tables).nodup_iff]
  apply nodup_names_iff _ hcolumns
  rw [names_of_resolveAll hresolve]
  exact hnames

theorem schemaNames_nodup_accounts :
    (accounts.tables.map (·.name)).Nodup ∧ NamesApart accountTables := by
  have hnames : (accounts.tables.map (·.name)).Nodup := by decide
  have hnodup : (introducedNames (Migration.ofTables .pg accountTables).up).Nodup := by decide
  obtain ⟨tables, htables, -, hiff⟩ := schemaNames_nodup_iff read_accountDocument
    accountDocument_distinct hnames (compile_of_compileTables compileTables_accountDocument)
  cases compileTables_accountDocument.symm.trans htables
  exact ⟨hnames, hiff.mp hnodup⟩

/-! ## A table that is called like a type -/

/-- Users by their role, and a table beside them. -/
def userRoles : Database :=
  [("users",
      { properties := [("role", .text none { choices := some [.text "admin", .text "guest"] })] }),
    ("users_role_enum", { properties := [("id", .primitive .integer {})] })]

def userRolesDocument : Json :=
  .object
    [("type", .string "object"),
      ("properties", .object
        [("users", .object
          [("type", .string "object"),
            ("properties", .object
              [("role", .object
                [("type", .string "string"),
                  ("enum", .array [.string "admin", .string "guest"])])])]),
          ("users_role_enum", .object
            [("type", .string "object"),
              ("properties", .object [("id", .object [("type", .string "integer")])])])])]

def userRolesTables : List Table :=
  [{ name := "users"
     columns := [⟨"role", .string, { choices := some [.text "admin", .text "guest"] }⟩] },
    { name := "users_role_enum", columns := [⟨"id", .integer, {}⟩] }]

theorem schemaNames_repeat_userRoles :
    userRolesDocument.Distinct ∧
      Database.read userRolesDocument = .ok userRoles ∧
      (userRoles.tables.map (·.name)).Nodup ∧
      compile .pg userRolesDocument =
        .ok ((Migration.ofTables .pg userRolesTables).script .pg) ∧
      introducedNames (Migration.ofTables .pg userRolesTables).up =
        ["users_role_enum", "users", "users_role_enum", "users_role_enum_pkey"] ∧
      ¬ (introducedNames (Migration.ofTables .pg userRolesTables).up).Nodup := by
  have htables : compileTables userRolesDocument = .ok userRolesTables := rfl
  refine ⟨?_, rfl, by decide, compile_of_compileTables htables, by decide, by decide⟩
  simp [userRolesDocument, Json.Distinct, Json.DistinctMembers, Json.DistinctItems, Keyed.Distinct,
    Keyed.keys]

end SchemaTables
