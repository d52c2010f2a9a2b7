import SchemaTables.Proofs.Ddl.Columns
import SchemaTables.Proofs.Ddl.ReferenceTypes
import SchemaTables.Proofs.Table.Preservation

/-!
# Checks of ranges

A column of integers whose values are bounded gets a check of its range in the statement that
creates its table.  The check belongs on columns of the type of integers, but the type of an
enumeration takes precedence over it, and the bounds of an enumeration are checked nevertheless.

The main statement is `checks_on_integers_iff`: all checks are on columns of integers exactly if no
integer property has both an enumeration and a bound.
-/

namespace SchemaTables

/-! ## Columns of integers -/

/-- The type of integers in the words of a dialect. -/
def Dialect.integerText : Dialect → String
  | .pg => "integer"
  | .mysql => "int"

theorem text_integer (dialect : Dialect) :
    ColumnType.text dialect .integer = dialect.integerText := by
  cases dialect with
  | pg => decide
  | mysql => decide

/-- The definition of a table has one column of the name, and it is written as one of integers. -/
def TableDefinition.DeclaresInteger (dialect : Dialect) (created : TableDefinition)
    (name : String) : Prop :=
  ∃ definition, created.columns.filter (fun other => other.name = name) = [definition] ∧
    definition.type.text dialect = dialect.integerText

/-- The type of a column of integers is written as such, if the column is no enumeration. -/
theorem Column.text_type_eq_integerText_iff {dialect : Dialect} {table : String} {column : Column}
    (h : column.storage = .integer) :
    (column.type table).text dialect = dialect.integerText ↔ column.attributes.choices = none := by
  have hinteger : ColumnType.text dialect (.ofStorage column.storage) = dialect.integerText := by
    rw [h]
    exact text_integer dialect
  rw [← hinteger, eq_comm]
  exact text_ofStorage_eq_iff dialect table column

/-- Only integer properties are stored as integers. -/
theorem Property.eq_integer_of_column? {name : String} {property : Property} {column : Column}
    (h : property.column? name = some column) (hstorage : column.storage = .integer) :
    property = .primitive .integer column.attributes := by
  cases property with
  | primitive kind attributes =>
      cases kind <;> cases h <;> first | rfl | cases hstorage
  | text format attributes =>
      cases h
      rcases format with _ | format
      · cases hstorage
      · cases format <;> cases hstorage
  | document shape storage attributes =>
      cases h
      cases storage <;> cases hstorage
  | _ => cases h

/-! ## The checks of a table -/

namespace Node

variable {node : Node} {linked : List LinkedTable} {table : Table} {dialect : Dialect}

/-- The node has an integer property whose values are bounded. -/
def HasRange (node : Node) (name : String) (attributes : Attributes) : Prop :=
  (name, .primitive .integer attributes) ∈ node.properties ∧
    (attributes.minimum.isSome ∨ attributes.maximum.isSome)

/-- The statement that creates the table of a node checks the range of each integer property that
is bounded, and of no other; the column of an integer property has the type of integers if and only
if the property is no enumeration. -/
structure ChecksRanges (dialect : Dialect) (node : Node) (table : Table) : Prop where
  checks : ∀ check, check ∈ (table.definition dialect).checks ↔ ∃ attributes,
    node.HasRange check.column attributes ∧
      check = ⟨check.column, attributes.minimum, attributes.maximum⟩
  integer : ∀ name attributes, (name, .primitive .integer attributes) ∈ node.properties →
    ((table.definition dialect).DeclaresInteger dialect name ↔ attributes.choices = none)

theorem mem_checks_iff (h : TableWith.ResolvesTo linked node.table table) {check : Check} :
    check ∈ (table.definition dialect).checks ↔ ∃ attributes,
      node.HasRange check.column attributes ∧
        check = ⟨check.column, attributes.minimum, attributes.maximum⟩ := by
  -- the guard of a check is on the storage, which an enumeration leaves as it is
  have hcolumns : table.columns = node.columns := h.columns
  have hchecks : (table.definition dialect).checks = node.columns.filterMap Column.check? :=
    congrArg (List.filterMap Column.check?) hcolumns
  rw [hchecks, List.mem_filterMap]
  constructor
  · rintro ⟨column, hcolumn, hcheck⟩
    rw [Column.check?] at hcheck
    split at hcheck
    · next hbounded =>
        cases hcheck
        obtain ⟨property, hmem, hstored⟩ := mem_columns.mp hcolumn
        rw [Property.eq_integer_of_column? hstored hbounded.1] at hmem
        exact ⟨column.attributes, ⟨hmem, hbounded.2⟩, rfl⟩
    · cases hcheck
  · rintro ⟨attributes, ⟨hmem, hbounded⟩, hcheck⟩
    refine ⟨⟨check.column, .integer, attributes⟩, mem_columns.mpr ⟨_, hmem, rfl⟩, ?_⟩
    rw [Column.check?, if_pos ⟨rfl, hbounded⟩, ← hcheck]

/-- The column of a stored property is the one column of its name in the statement that creates the
table. -/
theorem filter_columns_definition (h : TableWith.ResolvesTo linked node.table table)
    (hdistinct : Keyed.Distinct node.schema.properties) {column : Column}
    (hcolumn : column ∈ node.columns) :
    (table.definition dialect).columns.filter (fun other => other.name = column.name) =
      [column.definition table.name table.required] := by
  have hcolumns : table.columns = node.columns := h.columns
  have hnodup : ((table.definition dialect).columns.map (·.name)).Nodup :=
    (List.Sublist.map _ Table.columns_definition_sublist).nodup (nodup_definitions h hdistinct)
  have hmem : column.definition table.name table.required ∈ (table.definition dialect).columns := by
    rw [← hcolumns] at hcolumn
    exact List.mem_append_left _ (List.mem_map_of_mem hcolumn)
  exact filter_eq_singleton (List.pairwise_map.mp hnodup) hmem

theorem checksRanges (h : TableWith.ResolvesTo linked node.table table)
    (hdistinct : Keyed.Distinct node.schema.properties) : node.ChecksRanges dialect table := by
  refine ⟨fun check => mem_checks_iff h, ?_⟩
  intro name attributes hmem
  have hcolumn : ⟨name, .integer, attributes⟩ ∈ node.columns := mem_columns.mpr ⟨_, hmem, rfl⟩
  have hfilter : (table.definition dialect).columns.filter (fun other => other.name = name) =
      [Column.definition table.name table.required ⟨name, .integer, attributes⟩] :=
    filter_columns_definition h hdistinct hcolumn
  have htype : (Column.type table.name ⟨name, .integer, attributes⟩).text dialect =
      dialect.integerText ↔ attributes.choices = none :=
    Column.text_type_eq_integerText_iff rfl
  rw [← htype]
  constructor
  · rintro ⟨definition, honly, htext⟩
    cases List.singleton_inj.mp (honly.symm.trans hfilter)
    exact htext
  · intro htext
    exact ⟨_, hfilter, htext⟩

end Node

/-! ## Compiled documents -/

/-- In the statements of an accepted document, the ranges of integer properties are checked, and of
no others.  All checks are on columns of integers if and only if no integer property that is bounded
is an enumeration as well. -/
theorem checks_on_integers_iff {document : Json} {dialect : Dialect} {script : Script}
    (hdistinct : document.Distinct) (h : compile dialect document = .ok script) :
    ∃ database nodes tables, document.Becomes database nodes tables ∧
      script = (Migration.ofTables dialect tables).script dialect ∧
      List.Forall₂ (Node.ChecksRanges dialect) nodes tables ∧
      ((∀ created, .createTable created ∈ (Migration.ofTables dialect tables).up →
          ∀ check ∈ created.checks, created.DeclaresInteger dialect check.column) ↔
        ∀ node, database.Visits node → ∀ name attributes, node.HasRange name attributes →
          attributes.choices = none) := by
  obtain ⟨database, nodes, tables, hbecomes, hkeyed, hscript⟩ := exists_becomes hdistinct h
  have hranges : ∀ node table, database.Visits node →
      TableWith.ResolvesTo database.tables node.table table → node.ChecksRanges dialect table :=
    fun node table hnode hresolved =>
      Node.checksRanges hresolved (hkeyed.declared node hnode.declares).distinct
  refine ⟨database, nodes, tables, hbecomes, hscript, hbecomes.forall₂ hranges, ?_, ?_⟩
  · intro hchecks node hnode name attributes hrange
    obtain ⟨table, htable, hresolved⟩ := hbecomes.exists_table hnode
    have htableRanges := hranges node table hnode hresolved
    have hcheck : ⟨name, attributes.minimum, attributes.maximum⟩ ∈
        (table.definition dialect).checks :=
      (htableRanges.checks _).mpr ⟨attributes, hrange, rfl⟩
    rw [← htableRanges.integer name attributes hrange.1]
    exact hchecks _ (Migration.createTable_mem_up_iff.mpr ⟨table, htable, rfl⟩) _ hcheck
  · intro hnone created hcreated check hcheck
    obtain ⟨table, htable, rfl⟩ := Migration.createTable_mem_up_iff.mp hcreated
    obtain ⟨node, hnode, hresolved⟩ := hbecomes.exists_node htable
    have htableRanges := hranges node table hnode hresolved
    obtain ⟨attributes, hrange, -⟩ := (htableRanges.checks check).mp hcheck
    rw [htableRanges.integer check.column attributes hrange.1]
    exact hnone node hnode check.column attributes hrange

/-! ## Films with bounds -/

def filmDocument (rating : Keyed Json) : Json :=
  .object
    [("type", .string "object"),
      ("properties", .object
        [("films", .object
          [("type", .string "object"),
            ("properties", .object
              [("year", .object
                [("type", .string "integer"), ("minimum", .number (.int 1888))]),
                ("rating", .object rating)])])])]

def filmProperties (rating : Attributes) : Keyed Property :=
  [("year", .primitive .integer { minimum := some (.int 1888) }),
    ("rating", .primitive .integer rating)]

def filmTable (rating : Attributes) : Table :=
  { name := "films"
    columns :=
      [⟨"year", .integer, { minimum := some (.int 1888) }⟩, ⟨"rating", .integer, rating⟩] }

/-- A rating of one or two stars. -/
def starRating : Attributes := { choices := some [.number (.int 1), .number (.int 2)] }

/-- What declares such a rating. -/
def starMembers : Keyed Json :=
  [("type", .string "integer"), ("enum", .array [.number (.int 1), .number (.int 2)])]

/-- The check of the year is on a column of integers, whatever the rating is. -/
theorem checks_on_integers_stars :
    (filmDocument starMembers).Distinct ∧
      ∃ created, .createTable created ∈ (Migration.ofTables .mysql [filmTable starRating]).up ∧
        created.checks = [⟨"year", some (.int 1888), none⟩] ∧
        created.DeclaresInteger .mysql "year" := by
  have hdistinct : (filmDocument starMembers).Distinct := by
    simp [filmDocument, starMembers, Json.Distinct, Json.DistinctMembers, Json.DistinctItems,
      Keyed.Distinct, Keyed.keys]
  have htables : compileTables (filmDocument starMembers) = .ok [filmTable starRating] := rfl
  have hread : Database.read (filmDocument starMembers) =
      .ok [("films", { properties := filmProperties starRating })] := rfl
  have hcompile : compile .mysql (filmDocument starMembers) =
      .ok ((Migration.ofTables .mysql [filmTable starRating]).script .mysql) :=
    compile_of_compileTables htables
  obtain ⟨database, nodes, tables, hbecomes, -, -, hiff⟩ :=
    checks_on_integers_iff hdistinct hcompile
  cases htables.symm.trans hbecomes.compiled
  cases hread.symm.trans hbecomes.read
  have hchecks := hiff.mpr ?_
  · refine ⟨hdistinct, (filmTable starRating).definition .mysql, ?_, rfl, ?_⟩
    · exact Migration.createTable_mem_up_iff.mpr ⟨_, List.mem_cons_self, rfl⟩
    · exact hchecks _ (Migration.createTable_mem_up_iff.mpr ⟨_, List.mem_cons_self, rfl⟩) _
        List.mem_cons_self
  · rintro node hnode name attributes ⟨hmem, hbounded⟩
    have hflat : ∀ top schema, (top, schema) ∈
        [("films", ({ properties := filmProperties starRating } : TableSchema))] →
          (Node.top top schema).children = [] := by
      intro top schema hmem
      cases List.mem_singleton.mp hmem
      rfl
    obtain ⟨top, schema, hfilms, rfl⟩ := hnode.exists_top hflat
    cases List.mem_singleton.mp hfilms
    rcases List.mem_cons.mp hmem with hyear | hmem
    · cases hyear
      rfl
    · cases List.mem_singleton.mp hmem
      exact absurd hbounded (by decide)

/-- The check of a rating that is bounded is on an enumeration, in either dialect. -/
theorem checks_off_integers_stars :
    (filmDocument (("minimum", .number (.int 1)) :: starMembers)).Distinct ∧
      compileTables (filmDocument (("minimum", .number (.int 1)) :: starMembers)) =
        .ok [filmTable { starRating with minimum := some (.int 1) }] ∧
      ∀ dialect, ∃ created,
        .createTable created ∈ (Migration.ofTables dialect
          [filmTable { starRating with minimum := some (.int 1) }]).up ∧
        ∃ check ∈ created.checks, ¬ created.DeclaresInteger dialect check.column := by
  refine ⟨?_, rfl, ?_⟩
  · simp [filmDocument, starMembers, Json.Distinct, Json.DistinctMembers, Json.DistinctItems,
      Keyed.Distinct, Keyed.keys]
  · intro dialect
    refine ⟨_, Migration.createTable_mem_up_iff.mpr ⟨_, List.mem_cons_self, rfl⟩,
      ⟨"rating", some (.int 1), none⟩, List.mem_cons_of_mem _ List.mem_cons_self, ?_⟩
    rintro ⟨definition, hfilter, htext⟩
    cases hfilter
    cases dialect with
    | pg => exact absurd htext (by decide)
    | mysql => exact absurd htext (by decide)

end SchemaTables
