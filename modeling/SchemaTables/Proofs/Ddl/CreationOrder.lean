import SchemaTables.Proofs.Compilation
import SchemaTables.Proofs.Ddl.Executability
import SchemaTables.Proofs.Ddl.Rollback
import SchemaTables.Proofs.Table.Order

/-!
# The order of creation

Flattening lists nested tables before the tables around them.  The tables of a document are created
and dropped in the order of that list, whatever statements stand between, so a nested table is
created and dropped before the table around it (`nested_tables_first`).
-/

namespace SchemaTables

/-! ## Positions in lists -/

/-- The elements of a list from which something is selected stand at these positions: at the `i`-th
of them that from which the `i`-th value is selected. -/
structure ListedAt {α β : Type} (select : α → Option β) (list : List α) (selected : List β)
    (position : Nat → Nat) : Prop where
  listed : ∀ i b, selected[i]? = some b → ∃ a, list[position i]? = some a ∧ select a = some b
  complete : ∀ p a b, list[p]? = some a → select a = some b →
    ∃ i, position i = p ∧ selected[i]? = some b
  increasing : ∀ i j, i < j → j < selected.length → position i < position j

namespace ListedAt

variable {α β : Type} {select : α → Option β} {list : List α} {selected : List β}
  {position : Nat → Nat}

theorem cons_none (h : ListedAt select list selected position) {a : α} (ha : select a = none) :
    ListedAt select (a :: list) selected fun i => position i + 1 := by
  constructor
  · intro i b hb
    rw [List.getElem?_cons_succ]
    exact h.listed i b hb
  · intro p c b hc hb
    cases p with
    | zero =>
        rw [List.getElem?_cons_zero] at hc
        cases hc
        rw [ha] at hb
        cases hb
    | succ p =>
        rw [List.getElem?_cons_succ] at hc
        obtain ⟨i, hi, hselected⟩ := h.complete p c b hc hb
        exact ⟨i, congrArg (· + 1) hi, hselected⟩
  · intro i j hij hj
    exact Nat.succ_lt_succ (h.increasing i j hij hj)

theorem cons_some (h : ListedAt select list selected position) {a : α} {b : β}
    (ha : select a = some b) :
    ListedAt select (a :: list) (b :: selected) fun i =>
      if i = 0 then 0 else position (i - 1) + 1 := by
  constructor
  · intro i c hc
    cases i with
    | zero =>
        rw [List.getElem?_cons_zero] at hc
        cases hc
        exact ⟨a, rfl, ha⟩
    | succ i =>
        rw [List.getElem?_cons_succ] at hc
        exact h.listed i c hc
  · intro p d c hd hc
    cases p with
    | zero =>
        rw [List.getElem?_cons_zero] at hd
        cases hd
        exact ⟨0, rfl, ha.symm.trans hc⟩
    | succ p =>
        rw [List.getElem?_cons_succ] at hd
        obtain ⟨i, hi, hselected⟩ := h.complete p d c hd hc
        exact ⟨i + 1, congrArg (· + 1) hi, hselected⟩
  · intro i j hij hj
    rw [List.length_cons] at hj
    cases j with
    | zero => exact absurd hij (Nat.not_lt_zero i)
    | succ j =>
        cases i with
        | zero => exact Nat.succ_pos _
        | succ i => exact Nat.succ_lt_succ (h.increasing i j (by omega) (by omega))

theorem exists_filterMap (select : α → Option β) (list : List α) :
    ∃ position, ListedAt select list (list.filterMap select) position := by
  induction list with
  | nil => exact ⟨id, by simp, by simp, by simp⟩
  | cons a rest ih =>
      obtain ⟨position, h⟩ := ih
      cases ha : select a with
      | none =>
          rw [List.filterMap_cons_none ha]
          exact ⟨_, h.cons_none ha⟩
      | some b =>
          rw [List.filterMap_cons_some ha]
          exact ⟨_, h.cons_some ha⟩

end ListedAt

/-! ## Nested tables -/

/-- Of two flat tables, of which the path of the second goes on behind that of the first, the second
is listed first. -/
theorem Database.position_lt_of_prefix {database : Database} (hkeyed : database.WellKeyed)
    {i j : Nat} {outer inner : PlacedTable} (houter : database.placedTables[i]? = some outer)
    (hinner : database.placedTables[j]? = some inner) (hbehind : outer.path <+: inner.path)
    (hne : outer.path ≠ inner.path) : j < i := by
  obtain ⟨hi, rfl⟩ := List.getElem?_eq_some_iff.mp houter
  obtain ⟨hj, rfl⟩ := List.getElem?_eq_some_iff.mp hinner
  rcases Nat.lt_trichotomy i j with hlt | rfl | hlt
  · exact absurd hbehind (List.pairwise_iff_getElem.mp (placedTables_pairwise hkeyed) i j hi hj hlt)
  · exact absurd rfl hne
  · exact hlt

/-- The tables of an accepted document are created and dropped in the order in which they are
listed, and a table in which another one is nested comes behind it.  The tables below one table at
the top are listed together with it, in the order of the document, and that table is the last of
them. -/
theorem nested_tables_first {document : Json} {dialect : Dialect} {script : Script}
    (hdistinct : document.Distinct) (h : compile dialect document = .ok script) :
    ∃ properties database tables created dropped,
      Schema.documentProperties? document = some properties ∧
      Database.read document = .ok database ∧ compileTables document = .ok tables ∧
      script = (Migration.ofTables dialect tables).script dialect ∧
      tables = database.placedTables.map (fun placed => placed.table.resolve database.tables) ∧
      ListedAt Statement.created? (Migration.ofTables dialect tables).up
        (tables.map (Table.definition dialect)) created ∧
      ListedAt Statement.droppedTable? (Migration.ofTables dialect tables).down
        (tables.map (·.name)) dropped ∧
      (∀ i j outer inner, database.placedTables[i]? = some outer →
        database.placedTables[j]? = some inner → outer.path <+: inner.path →
          outer.path ≠ inner.path → j < i ∧ created j < created i ∧ dropped j < dropped i) ∧
      database.placedTables = properties.keys.flatMap database.run ∧
      ∀ name ∈ properties.keys, ∃ below own,
        database.run name = below ++ [own] ∧ own.path = [name] := by
  obtain ⟨tables, htables, hscript⟩ := compile_eq_ok h
  obtain ⟨database, hread, hresolve⟩ := compileTables_eq_ok htables
  have hkeyed := Database.wellKeyed_of_read hread hdistinct
  obtain ⟨hdocument, members, properties, rfl, hmembers, hmeans⟩ := Database.read_eq_ok_iff.mp hread
  have hproperties : Schema.documentProperties? (.object members) = some properties :=
    documentProperties?_eq_some_iff.mpr ⟨hdocument, members, rfl, hmembers⟩
  have hplaced : tables = database.placedTables.map
      fun placed => placed.table.resolve database.tables := by
    rw [resolveAll_eq_ok hresolve, Database.tables, List.map_map]
    rfl
  have hlength : tables.length = database.placedTables.length := by rw [hplaced, List.length_map]
  obtain ⟨created, hcreated⟩ :=
    ListedAt.exists_filterMap Statement.created? (Migration.ofTables dialect tables).up
  obtain ⟨dropped, hdropped⟩ :=
    ListedAt.exists_filterMap Statement.droppedTable? (Migration.ofTables dialect tables).down
  rw [Migration.created_up] at hcreated
  rw [Migration.droppedTables_down] at hdropped
  have hkeys : database.keys = Keyed.keys properties := MeansTables.keys_eq hmeans
  refine ⟨properties, database, tables, created, dropped, hproperties, hread, htables, hscript,
    hplaced, hcreated, hdropped, ?_, ?_, ?_⟩
  · intro i j outer inner houter hinner hbehind hne
    have hlt := Database.position_lt_of_prefix hkeyed houter hinner hbehind hne
    have hi : i < tables.length := hlength ▸ (List.getElem?_eq_some_iff.mp houter).1
    exact ⟨hlt, hcreated.increasing j i hlt (by rwa [List.length_map]),
      hdropped.increasing j i hlt (by rwa [List.length_map])⟩
  · rw [← hkeys]
    exact Database.placedTables_eq_runs hkeyed.distinct
  · rw [← hkeys]
    exact fun name hname => Database.exists_run_eq hkeyed.distinct hname

/-- The panels of the settings of users are created and dropped before the users. -/
theorem nested_tables_first_accounts :
    accountDocument.Distinct ∧
      compile .mysql accountDocument =
        .ok ((Migration.ofTables .mysql accountTables).script .mysql) ∧
      ∃ created dropped,
        ListedAt Statement.created? (Migration.ofTables .mysql accountTables).up
          (accountTables.map (Table.definition .mysql)) created ∧
        ListedAt Statement.droppedTable? (Migration.ofTables .mysql accountTables).down
          ["users_settings_panels", "users_settings", "users", "posts"] dropped ∧
        created 0 < created 2 ∧ dropped 0 < dropped 2 := by
  have hcompile : compile .mysql accountDocument =
      .ok ((Migration.ofTables .mysql accountTables).script .mysql) :=
    compile_of_compileTables compileTables_accountDocument
  obtain ⟨properties, database, tables, created, dropped, -, hread, htables, -, -, hcreated,
    hdropped, hfirst, -, -⟩ := nested_tables_first accountDocument_distinct hcompile
  cases read_accountDocument.symm.trans hread
  cases compileTables_accountDocument.symm.trans htables
  have hbehind : ["users"] <+: ["users", "settings", "panels"] :=
    List.prefix_append ["users"] ["settings", "panels"]
  obtain ⟨-, hlt⟩ := hfirst 2 0 (Node.top "users" usersSchema).placed panelsNode.placed rfl rfl
    hbehind (by decide)
  exact ⟨accountDocument_distinct, hcompile, created, dropped, hcreated, hdropped, hlt⟩

end SchemaTables
