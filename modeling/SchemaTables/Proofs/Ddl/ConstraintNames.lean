import Mathlib.Data.List.Nodup
import Mathlib.Data.List.Perm.Basic
import SchemaTables.Proofs.Ddl.Nullability
import SchemaTables.Proofs.Ddl.SchemaNames

/-!
# Names within a table

The columns that store values and the references of a flat table have different names: the reference
back, which is added to a nested table, takes the place of a property of its name.  The constraints
on them are therefore told apart by their names, whatever the table and its columns are called
(`Table.nodup_constraintNames_of_names`).

Which constraints the statements on a table name is read off what is written: a name of a constraint
is one that stands right behind the word `constraint`.

The main statement is `namesWithinTable_nodup`.
-/

namespace SchemaTables

/-! ## Names behind a word -/

/-- The piece ends in the word that stands in front of the name of a constraint. -/
def Piece.opensConstraint : Piece → Bool
  | .words text => "constraint ".toList.isSuffixOf text.toList
  | _ => false

def Piece.name? : Piece → Option String
  | .name text => some text
  | _ => none

/-- The names that stand right behind the word `constraint`. -/
def namedConstraints : List Piece → List String
  | [] => []
  | piece :: rest =>
    (if piece.opensConstraint then (rest.head?.bind Piece.name?).toList else []) ++
      namedConstraints rest

/-- None of the pieces ends in that word. -/
def NoneOpens (pieces : List Piece) : Prop := ∀ piece ∈ pieces, piece.opensConstraint = false

/-- The last piece does not end in that word, so what stands behind the pieces does not matter. -/
def Ended (pieces : List Piece) : Prop :=
  ∀ last, pieces.getLast? = some last → last.opensConstraint = false

section Pieces

variable {pieces first second : List Piece} {piece : Piece} {between : String}

theorem namedConstraints_cons (h : piece.opensConstraint = false) (rest : List Piece) :
    namedConstraints (piece :: rest) = namedConstraints rest := by
  rw [namedConstraints, h]
  rfl

theorem NoneOpens.namedConstraints_eq_nil (h : NoneOpens pieces) :
    namedConstraints pieces = [] := by
  induction pieces with
  | nil => rfl
  | cons piece rest ih =>
      obtain ⟨hpiece, hrest⟩ := List.forall_mem_cons.mp h
      rw [namedConstraints_cons hpiece, ih hrest]

theorem NoneOpens.ended (h : NoneOpens pieces) : Ended pieces :=
  fun last hlast => h last (List.mem_of_getLast? hlast)

/-- Whatever the names and literals among the pieces are, this can be computed from the words. -/
theorem noneOpens_of_all (h : pieces.all (fun piece => !piece.opensConstraint) = true) :
    NoneOpens pieces := by
  intro piece hpiece
  simpa using List.all_eq_true.mp h piece hpiece

theorem noneOpens_append (hfirst : NoneOpens first) (hsecond : NoneOpens second) :
    NoneOpens (first ++ second) :=
  List.forall_mem_append.mpr ⟨hfirst, hsecond⟩

theorem noneOpens_separated {parts : List (List Piece)}
    (hbetween : (Piece.words between).opensConstraint = false)
    (h : ∀ part ∈ parts, NoneOpens part) : NoneOpens (separated between parts) := by
  intro piece hpiece
  rcases mem_of_mem_separated hpiece with rfl | ⟨part, hpart, hmem⟩
  · exact hbetween
  · exact h part hpart piece hmem

theorem namedConstraints_opened {text : String} (hopens : (Piece.words text).opensConstraint = true)
    (name : String) (hrest : NoneOpens pieces) :
    namedConstraints (.words text :: .name name :: pieces) = [name] := by
  rw [namedConstraints, hopens, namedConstraints_cons rfl, hrest.namedConstraints_eq_nil]
  rfl

theorem namedConstraints_append (h : Ended first) (second : List Piece) :
    namedConstraints (first ++ second) = namedConstraints first ++ namedConstraints second := by
  -- a piece looks only at the next one, which an appended list changes for the last piece alone
  induction first with
  | nil => rfl
  | cons piece rest ih =>
      cases rest with
      | nil =>
          have hpiece : piece.opensConstraint = false := h piece rfl
          rw [List.singleton_append, namedConstraints_cons hpiece, namedConstraints_cons hpiece]
          rfl
      | cons next others =>
          have hrest : Ended (next :: others) := fun last hlast => h last hlast
          rw [List.cons_append, namedConstraints, ih hrest, ← List.append_assoc]
          rfl

theorem ended_concat (front : List Piece) (h : piece.opensConstraint = false) :
    Ended (front ++ [piece]) := by
  intro last hlast
  rw [List.getLast?_concat] at hlast
  rw [← Option.some.inj hlast]
  exact h

theorem ended_append (hfirst : Ended first) (hsecond : Ended second) : Ended (first ++ second) := by
  intro last hlast
  rw [List.getLast?_append, Option.or_eq_some_iff] at hlast
  rcases hlast with hlast | ⟨-, hlast⟩
  · exact hsecond last hlast
  · exact hfirst last hlast

/-- In a list, the parts name their constraints one after the other. -/
theorem namedConstraints_separated {parts : List (List Piece)}
    (hbetween : (Piece.words between).opensConstraint = false)
    (h : ∀ part ∈ parts, Ended part) :
    namedConstraints (separated between parts) = parts.flatMap namedConstraints ∧
      Ended (separated between parts) := by
  induction parts with
  | nil => exact ⟨rfl, fun _ hlast => by cases hlast⟩
  | cons part rest ih =>
      obtain ⟨hpart, hrest⟩ := List.forall_mem_cons.mp h
      obtain ⟨hnames, hended⟩ := ih hrest
      by_cases hnil : rest = []
      · subst hnil
        exact ⟨(List.append_nil _).symm, hpart⟩
      · have hmiddle : Ended [Piece.words between] := by
          intro last hlast
          cases hlast
          exact hbetween
        rw [separated.eq_3 _ _ _ hnil]
        constructor
        · rw [namedConstraints_append hpart, namedConstraints_cons hbetween, hnames]
          rfl
        · exact ended_append hpart (ended_append hmiddle hended)

end Pieces

/-! ## What statements name -/

/-- A text in front of the name of a constraint ends in a blank. -/
theorem opensConstraint_words {text : String} (h : text.toList.getLast? ≠ some ' ') :
    (Piece.words text).opensConstraint = false := by
  rw [Piece.opensConstraint, Bool.eq_false_iff]
  intro hsuffix
  obtain ⟨front, hfront⟩ := List.isSuffixOf_iff_suffix.mp hsuffix
  apply h
  rw [← hfront, List.getLast?_append]
  rfl

theorem noneOpens_listed {α : Type} {print : α → List Piece} (h : ∀ a, NoneOpens (print a))
    (items : List α) : NoneOpens (listed (items.map print)) := by
  refine noneOpens_separated (by decide) ?_
  intro part hpart
  obtain ⟨a, -, rfl⟩ := List.mem_map.mp hpart
  exact h a

theorem noneOpens_literals (values : List String) :
    NoneOpens (listed (values.map fun value => [.literal value])) :=
  noneOpens_listed (fun _ => noneOpens_of_all rfl) values

theorem ColumnType.noneOpens (dialect : Dialect) (type : ColumnType) :
    NoneOpens (type.pieces dialect) := by
  cases type with
  | varchar length =>
      have hlast : ("varchar(" ++ toString length ++ ")").toList.getLast? = some ')' := by
        rw [String.toList_append, List.getLast?_append]
        rfl
      intro piece hpiece
      cases List.mem_singleton.mp hpiece
      refine opensConstraint_words ?_
      rw [hlast]
      decide
  | enumeration name values =>
      cases dialect with
      | pg => exact noneOpens_of_all rfl
      | mysql =>
          have hfront : NoneOpens [.words "enum("] := noneOpens_of_all rfl
          exact noneOpens_append (noneOpens_append hfront (noneOpens_literals values))
            (noneOpens_of_all rfl)
  | _ => cases dialect <;> exact noneOpens_of_all rfl

theorem ColumnDefinition.noneOpens (dialect : Dialect) (column : ColumnDefinition) :
    NoneOpens (column.pieces dialect) := by
  have hname : NoneOpens [.name column.name, .words " "] := noneOpens_of_all rfl
  have hnotNull : NoneOpens (if column.notNull then [.words " not null"] else []) := by
    split
    all_goals exact noneOpens_of_all rfl
  have hdefault : NoneOpens ((column.default.map Default.pieces).getD []) := by
    rcases column.default with _ | (text | expression)
    all_goals exact noneOpens_of_all rfl
  have hcomment : NoneOpens (column.commentPieces dialect) := by
    rw [commentPieces]
    split
    all_goals exact noneOpens_of_all rfl
  have htype := noneOpens_append hname (column.type.noneOpens dialect)
  exact noneOpens_append (noneOpens_append (noneOpens_append htype hnotNull) hdefault) hcomment

theorem opensConstraint_name (text : String) : (Piece.name text).opensConstraint = false := rfl

/-- The constraint of a range is named in front of its bounds, which name no other. -/
theorem Check.namedConstraints_pieces (table : String) (check : Check) :
    namedConstraints (check.pieces table) = [constraintName table check.column "check"] := by
  have hopens : (Piece.words "constraint ").opensConstraint = true := by decide
  have hcheck : (Piece.words " check (").opensConstraint = false := by decide
  have hand : (Piece.words " and ").opensConstraint = false := by decide
  have hclose : (Piece.words ")").opensConstraint = false := by decide
  -- a bound may end in any text, but no name stands right behind it
  rcases check with ⟨column, _ | minimum, _ | maximum⟩
  all_goals
    simp [pieces, bounds, separated, namedConstraints, Piece.name?, opensConstraint_name, hopens,
      hcheck, hand, hclose]

theorem namedConstraints_keyPieces (table key : String) :
    namedConstraints (keyPieces table key) = [keyName table] :=
  namedConstraints_opened (by decide) _ (noneOpens_of_all rfl)

/-- The definition of a table names a constraint for each range, and one for its key. -/
def TableDefinition.constraintNames (table : TableDefinition) : List String :=
  table.checks.map (fun check => constraintName table.name check.column "check") ++
    (table.primaryKey.map fun _ => keyName table.name).toList

theorem TableDefinition.namedConstraints_parts (dialect : Dialect) (table : TableDefinition) :
    namedConstraints (listed (table.parts dialect)) = table.constraintNames ∧
      Ended (listed (table.parts dialect)) := by
  have hended : ∀ part ∈ table.parts dialect, Ended part := by
    intro part hpart
    rcases List.mem_append.mp hpart with hpart | hkey
    · rcases List.mem_append.mp hpart with hcolumn | hcheck
      · obtain ⟨column, -, rfl⟩ := List.mem_map.mp hcolumn
        exact (column.noneOpens dialect).ended
      · obtain ⟨check, -, rfl⟩ := List.mem_map.mp hcheck
        exact ended_concat _ (by decide)
    · obtain ⟨key, -, rfl⟩ := Option.map_eq_some_iff.mp (Option.mem_toList.mp hkey)
      exact ended_concat [_, _, _, _] (by decide)
  have hcolumns : (table.columns.map (ColumnDefinition.pieces dialect)).flatMap namedConstraints =
      [] := by
    rw [List.flatMap_eq_nil_iff]
    intro part hpart
    obtain ⟨column, -, rfl⟩ := List.mem_map.mp hpart
    exact (column.noneOpens dialect).namedConstraints_eq_nil
  have hchecks : (table.checks.map (Check.pieces table.name)).flatMap namedConstraints =
      table.checks.map fun check => constraintName table.name check.column "check" := by
    rw [List.flatMap_map, List.map_eq_flatMap]
    exact List.flatMap_congr fun check _ => check.namedConstraints_pieces table.name
  have hkey : (table.primaryKey.map (keyPieces table.name)).toList.flatMap namedConstraints =
      (table.primaryKey.map fun _ => keyName table.name).toList := by
    cases table.primaryKey with
    | none => rfl
    | some key => exact (List.append_nil _).trans (namedConstraints_keyPieces table.name key)
  have hcomma : (Piece.words ", ").opensConstraint = false := by decide
  obtain ⟨hnames, hlast⟩ := namedConstraints_separated hcomma hended
  refine ⟨?_, hlast⟩
  rw [listed, hnames, parts, List.flatMap_append, List.flatMap_append, hcolumns, hchecks, hkey]
  rfl

/-- The names of the constraints that a statement makes. -/
def Statement.constraintNames : Statement → List String
  | .createTable table => table.constraintNames
  | statement => statement.newConstraints

theorem Statement.constraintNames_of_altered? {statement : Statement} {table : String}
    (h : statement.altered? = some table) :
    statement.constraintNames = statement.newConstraints := by
  cases statement with
  | createTable table => cases h
  | _ => rfl

/-- What stands behind the word in the text of a statement are the names of its constraints. -/
theorem Statement.namedConstraints_pieces (dialect : Dialect) (statement : Statement) :
    namedConstraints (statement.pieces dialect) = statement.constraintNames := by
  cases statement with
  | createTable table =>
      obtain ⟨hnames, hended⟩ := table.namedConstraints_parts dialect
      rw [pieces, List.cons_append, List.cons_append, List.cons_append,
        namedConstraints_cons (by decide), namedConstraints_cons rfl,
        namedConstraints_cons (by decide), namedConstraints_append hended, hnames]
      exact List.append_nil _
  | createEnumType name values =>
      have hfront : NoneOpens [.words "create type ", .name name, .words " as enum ("] :=
        noneOpens_of_all rfl
      have hvalues := noneOpens_append hfront (noneOpens_literals values)
      exact (noneOpens_append hvalues (noneOpens_of_all rfl)).namedConstraints_eq_nil
  | addColumns table columns =>
      have hfront : NoneOpens [.words "alter table ", .name table, .words " "] :=
        noneOpens_of_all rfl
      have hcolumn : ∀ column : ColumnDefinition,
          NoneOpens (.words "add column " :: column.pieces dialect) := fun column =>
        noneOpens_append (noneOpens_of_all rfl : NoneOpens [_]) (column.noneOpens dialect)
      have hcolumns := noneOpens_append hfront (noneOpens_listed hcolumn columns)
      exact (noneOpens_append hcolumns (noneOpens_of_all rfl)).namedConstraints_eq_nil
  | addUnique table column =>
      rw [pieces, namedConstraints_cons (by decide), namedConstraints_cons rfl]
      exact namedConstraints_opened (by decide) _ (noneOpens_of_all rfl)
  | addForeignKey table column targetTable targetColumn =>
      rw [pieces, namedConstraints_cons (by decide), namedConstraints_cons rfl]
      exact namedConstraints_opened (by decide) _ (noneOpens_of_all rfl)
  | _ => exact (noneOpens_of_all rfl).namedConstraints_eq_nil

/-! ## The constraints of a table -/

namespace Table

variable {dialect : Dialect} {table : Table}

/-- The columns with a range. -/
def checked (table : Table) : List String :=
  (table.columns.filterMap Column.check?).map (·.column)

/-- The columns on which constraints are put, by the kinds of these. -/
def constrained (table : Table) : Keyed (List String) :=
  [("check", table.checked), ("unique", table.uniqueNames ++ table.single),
    ("foreign", table.references.map (·.name))]

def constraintNames (table : Table) : List String :=
  (table.constrained.flatMap fun (kind, columns) =>
      columns.map (constraintName table.name · kind)) ++
    (table.key?.map fun _ => keyName table.name).toList

/-- The names behind the word `constraint` in the statements on a table. -/
def writtenConstraints (dialect : Dialect) (table : Table) : List String :=
  (table.creation dialect ++ table.connection dialect).flatMap fun statement =>
    namedConstraints (statement.pieces dialect)

/-- Where columns and references have different names, so do the constraints on them. -/
theorem nodup_constraintNames_of_names
    (h : (table.columns.map (·.name) ++ table.references.map (·.name)).Nodup) :
    table.constraintNames.Nodup := by
  obtain ⟨hcolumns, hreferences, -⟩ := List.nodup_append.mp h
  have hdistinct : table.constrained.Distinct :=
    (by decide : ["check", "unique", "foreign"].Nodup)
  have hkinds : ∀ kind ∈ table.constrained.keys, Text.Avoids '_' kind :=
    (by decide : ∀ kind ∈ ["check", "unique", "foreign"], Text.Avoids '_' kind)
  have hgroups : ∀ group ∈ table.constrained, group.2.Nodup := by
    have hchecked : table.checked.Nodup := (Catalog.checks_sublist table).nodup hcolumns
    have hunique : (table.uniqueNames ++ table.single).Nodup :=
      (table.uniqueNames_sublist.append (List.filter_sublist.map _)).nodup h
    simp [constrained, hchecked, hunique, hreferences]
  exact nodup_names_of_kinds hdistinct hkinds hgroups table.name table.key?

/-- The statements that create a table name the constraints on its ranges, its key and its unique
columns. -/
theorem constraintNames_creation :
    (table.creation dialect).flatMap Statement.constraintNames =
      (table.checked.map (constraintName table.name · "check") ++
        (table.key?.map fun _ => keyName table.name).toList) ++
          table.uniqueNames.map (constraintName table.name · "unique") := by
  have htypes : ((table.enumTypes dialect).map fun type =>
      Statement.createEnumType type.1 type.2).flatMap Statement.constraintNames = [] := by
    rw [List.flatMap_eq_nil_iff]
    intro statement hstatement
    obtain ⟨type, -, rfl⟩ := List.mem_map.mp hstatement
    rfl
  have hdefinition : (table.definition dialect).constraintNames =
      table.checked.map (constraintName table.name · "check") ++
        (table.key?.map fun _ => keyName table.name).toList := by
    rw [TableDefinition.constraintNames, checked, List.map_map]
    rfl
  have hdetails : (table.details dialect).flatMap Statement.constraintNames =
      table.uniqueNames.map (constraintName table.name · "unique") := by
    have hnew := @newConstraints_details dialect table
    rw [← hnew]
    exact List.flatMap_congr fun statement hstatement =>
      Statement.constraintNames_of_altered? (altered?_of_mem_details hstatement)
  rw [creation_eq, List.flatMap_append, htypes, List.flatMap_cons, hdetails, ← hdefinition]
  rfl

/-- Each reference has a foreign key, and one that no two rows share is unique. -/
theorem constraintNames_references (name : String) (references : List Reference) :
    ((references.flatMap (constraints name)).flatMap Statement.constraintNames).Perm
      (((references.filter fun reference => reference.cardinality = .one).map (·.name)).map
          (constraintName name · "unique") ++
        (references.map (·.name)).map (constraintName name · "foreign")) := by
  induction references with
  | nil => exact .refl _
  | cons reference rest ih =>
      rw [List.flatMap_cons, List.flatMap_append]
      have hforeign := (ih.cons (constraintName name reference.name "foreign")).trans
        List.perm_middle.symm
      cases hcardinality : reference.cardinality with
      | one =>
          rw [List.filter_cons_of_pos (by simpa using hcardinality), constraints, hcardinality]
          exact (List.Perm.swap _ _ _).trans (hforeign.cons _)
      | many =>
          rw [List.filter_cons_of_neg (by simp [hcardinality]), constraints, hcardinality]
          exact hforeign

theorem constraintNames_connection :
    ((table.connection dialect).flatMap Statement.constraintNames).Perm
      (table.single.map (constraintName table.name · "unique") ++
        (table.references.map (·.name)).map (constraintName table.name · "foreign")) := by
  have hadded : (table.addedColumns dialect).flatMap Statement.constraintNames = [] := by
    rw [List.flatMap_eq_nil_iff]
    intro statement hstatement
    rw [(mem_addedColumns hstatement).1]
    rfl
  rw [connection, List.flatMap_append, hadded]
  exact constraintNames_references table.name table.references

/-- The statements on a table name its constraints, each of them once. -/
theorem writtenConstraints_perm (dialect : Dialect) (table : Table) :
    (table.writtenConstraints dialect).Perm table.constraintNames := by
  have hwritten : table.writtenConstraints dialect =
      (table.creation dialect ++ table.connection dialect).flatMap Statement.constraintNames :=
    List.flatMap_congr fun statement _ => statement.namedConstraints_pieces dialect
  have hnames : table.constraintNames =
      table.checked.map (constraintName table.name · "check") ++
        ((table.uniqueNames.map (constraintName table.name · "unique") ++
            (table.single.map (constraintName table.name · "unique") ++
              (table.references.map (·.name)).map (constraintName table.name · "foreign"))) ++
          (table.key?.map fun _ => keyName table.name).toList) := by
    simp [constraintNames, constrained]
  rw [hwritten, List.flatMap_append, constraintNames_creation, hnames, List.append_assoc,
    List.append_assoc]
  refine List.Perm.append_left _ (List.perm_append_comm.trans ?_)
  exact (constraintNames_connection.append_left _).append_right _

end Table

/-! ## The tables of documents -/

theorem TableWith.ResolvesTo.nodup {others : List LinkedTable} {linked : LinkedTable}
    {table : Table} (h : linked.ResolvesTo others table)
    (hnodup : (linked.columns.map (·.name) ++ linked.references.map (·.name)).Nodup) :
    (table.columns.map (·.name) ++ table.references.map (·.name)).Nodup := by
  rw [h.columns, h.names]
  exact hnodup

/-- In every flat table of an accepted document, the columns that store values and the references
have different names; one of the references of a nested table is the one back, whose name no column
has, even if a property is declared under it.  In the statements on the table, each of its
constraints is therefore named once, whatever its references lead to. -/
theorem namesWithinTable_nodup {document : Json} {database : Database}
    (hread : Database.read document = .ok database) (hdistinct : document.Distinct) :
    (∀ linked ∈ database.tables,
      (linked.columns.map (·.name) ++ linked.references.map (·.name)).Nodup ∧
        ∀ others table dialect, linked.ResolvesTo others table →
          (table.writtenConstraints dialect).Perm table.constraintNames ∧
            (table.writtenConstraints dialect).Nodup) ∧
      (∀ node back, database.Visits node → node.back? = some back →
        node.table ∈ database.tables ∧ back.name ∈ node.table.references.map (·.name) ∧
          back.name ∉ node.table.columns.map (·.name)) ∧
      ∀ dialect script, compile dialect document = .ok script →
        ∃ tables, compileTables document = .ok tables ∧
          List.Forall₂ (TableWith.ResolvesTo database.tables) database.tables tables ∧
          script.up = (tables.flatMap (Table.creation dialect) ++
            tables.flatMap (Table.connection dialect)).map (Statement.text dialect) := by
  have hkeyed := Database.wellKeyed_of_read hread hdistinct
  have hnames : ∀ node, database.Visits node →
      (node.table.columns.map (·.name) ++ node.table.references.map (·.name)).Nodup :=
    fun node hnode => Node.nodup_names (hkeyed.declared node hnode.declares).distinct
  refine ⟨?_, ?_, ?_⟩
  · intro linked hlinked
    obtain ⟨node, hnode, rfl⟩ := Database.mem_tables.mp hlinked
    refine ⟨hnames node hnode, ?_⟩
    intro others table dialect hresolves
    have hperm := Table.writtenConstraints_perm dialect table
    have hnodup : table.constraintNames.Nodup :=
      Table.nodup_constraintNames_of_names (hresolves.nodup (hnames node hnode))
    exact ⟨hperm, hperm.nodup_iff.mpr hnodup⟩
  · intro node back hnode hback
    have hreference : back.name ∈ node.table.references.map (·.name) :=
      Node.mem_map_links_iff.mpr (Or.inl ⟨back, hback, rfl⟩)
    refine ⟨Database.mem_tables.mpr ⟨node, hnode, rfl⟩, hreference, ?_⟩
    intro hcolumn
    exact (List.nodup_append.mp (hnames node hnode)).2.2 _ hcolumn _ hreference rfl
  · intro dialect script hcompile
    obtain ⟨tables, htables, hscript⟩ := compile_eq_ok hcompile
    obtain ⟨found, hfound, hresolve⟩ := compileTables_eq_ok htables
    cases hread.symm.trans hfound
    refine ⟨tables, htables, forall₂_resolvesTo_of_resolveAll hresolve, ?_⟩
    rw [hscript]
    rfl

/-- Users with settings, among them a property that has the name of their reference back, and one
that is called like a constraint on another. -/
def themedUsers : Database :=
  [("users",
    { properties :=
        [("id", .primitive .integer { minimum := some (.int 1) }),
          ("settings", .nested
            { properties :=
                [("users_id", .text none { metadata := { unique := true } }),
                  ("theme", .text none { metadata := { unique := true } }),
                  ("theme_unique",
                    .primitive .integer
                      { minimum := some (.int 0), metadata := { unique := true } })] })] })]

def themedUsersDocument : Json :=
  .object
    [("type", .string "object"),
      ("properties", .object
        [("users", .object
          [("type", .string "object"),
            ("properties", .object
              [("id", .object [("type", .string "integer"), ("minimum", .number (.int 1))]),
                ("settings", .object
                  [("type", .string "object"),
                    ("properties", .object
                      [("users_id", .object
                        [("type", .string "string"),
                          ("metadata", .object [("unique", .bool true)])]),
                        ("theme", .object
                          [("type", .string "string"),
                            ("metadata", .object [("unique", .bool true)])]),
                        ("theme_unique", .object
                          [("type", .string "integer"), ("minimum", .number (.int 0)),
                            ("metadata", .object [("unique", .bool true)])])])])])])])]

def themedUsersTables : List Table :=
  [{ name := "users_settings"
     columns :=
      [⟨"theme", .string, { metadata := { unique := true } }⟩,
        ⟨"theme_unique", .integer,
          { minimum := some (.int 0), metadata := { unique := true } }⟩]
     references := [⟨"users_id", .integer, "users", "id", .one⟩] },
    { name := "users", columns := [⟨"id", .integer, { minimum := some (.int 1) }⟩] }]

theorem namesWithinTable_nodup_settings :
    themedUsersDocument.Distinct ∧ Database.read themedUsersDocument = .ok themedUsers ∧
      compileTables themedUsersDocument = .ok themedUsersTables ∧
      themedUsersTables.map (Table.writtenConstraints .pg) =
        [["users_settings_theme_unique_check", "users_settings_theme_unique",
            "users_settings_theme_unique_unique", "users_settings_users_id_foreign",
            "users_settings_users_id_unique"],
          ["users_id_check", "users_pkey"]] ∧
      ∀ dialect, ∀ table ∈ themedUsersTables, (table.writtenConstraints dialect).Nodup := by
  have hdistinct : themedUsersDocument.Distinct := by
    simp [themedUsersDocument, Json.Distinct, Json.DistinctMembers, Keyed.Distinct, Keyed.keys]
  have hread : Database.read themedUsersDocument = .ok themedUsers := rfl
  have htables : compileTables themedUsersDocument = .ok themedUsersTables := rfl
  refine ⟨hdistinct, hread, htables, by decide, ?_⟩
  obtain ⟨hnames, -, hcompiled⟩ := namesWithinTable_nodup hread hdistinct
  intro dialect table htable
  obtain ⟨found, hfound, hresolved, -⟩ :=
    hcompiled dialect _ (compile_of_compileTables htables)
  cases htables.symm.trans hfound
  obtain ⟨linked, hlinked, hresolves⟩ := exists_left_of_forall₂ hresolved htable
  exact ((hnames linked hlinked).2 _ table dialect hresolves).2

end SchemaTables
