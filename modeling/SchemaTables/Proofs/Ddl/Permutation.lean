import SchemaTables.Proofs.Compilation
import SchemaTables.Proofs.Schema.Shapes
import SchemaTables.Proofs.Schema.TableLists
import SchemaTables.Proofs.Table.BackReference

/-!
# The order of tables

The order in which a document declares its tables is the order of the statements, and has no other
influence.  Every step of a compilation takes a permutation to a permutation, of what it gives or of
the errors that it reports (`SameUpToOrder`).

Resolving looks tables up by name and takes the first one, so this step needs tables of different
names: the table that is found is then the same in every order (`table?_perm`).
-/

namespace SchemaTables

open Json

/-- An object with these tables as its properties, between other members. -/
def Json.withTables (before after tables : Keyed Json) : Json :=
  .object (before ++ ("properties", .object tables) :: after)

/-- The second document declares the same tables in some order, and is the same in all else. -/
def Json.PermutesTables (document permuted : Json) : Prop :=
  document = permuted ∨
    ∃ before after tables others, document = withTables before after tables ∧
      permuted = withTables before after others ∧ "properties" ∉ Keyed.keys before ∧
        tables.Perm others

/-- Both steps succeed, with related results, or both fail, with the same errors in some order. -/
inductive SameUpToOrder {α : Type} (Related : α → α → Prop) :
    Except (List Diagnostic) α → Except (List Diagnostic) α → Prop
  | ok {first second : α} (h : Related first second) :
      SameUpToOrder Related (.ok first) (.ok second)
  | error {first second : List Diagnostic} (h : first.Perm second) :
      SameUpToOrder Related (.error first) (.error second)

/-- The same statements in some order, in both directions. -/
structure Script.Perm (first second : Script) : Prop where
  up : first.up.Perm second.up
  down : first.down.Perm second.down

namespace SameUpToOrder

variable {α β : Type} {Related : α → α → Prop}

theorem refl (hrefl : ∀ a, Related a a) (outcome : Except (List Diagnostic) α) :
    SameUpToOrder Related outcome outcome := by
  cases outcome with
  | ok result => exact .ok (hrefl result)
  | error diagnostics => exact .error (.refl diagnostics)

theorem map {Related' : β → β → Prop} {f : α → β}
    {first second : Except (List Diagnostic) α} (h : SameUpToOrder Related first second)
    (hf : ∀ a b, Related a b → Related' (f a) (f b)) :
    SameUpToOrder Related' (first.map f) (second.map f) := by
  cases h with
  | ok h => exact .ok (hf _ _ h)
  | error h => exact .error h

theorem bind {Related' : β → β → Prop} {f : α → Except (List Diagnostic) β}
    {first second : Except (List Diagnostic) α} (h : SameUpToOrder Related first second)
    (hf : ∀ a b, first = .ok a → Related a b → SameUpToOrder Related' (f a) (f b)) :
    SameUpToOrder Related' (first.bind f) (second.bind f) := by
  cases h with
  | ok h => exact hf _ _ rfl h
  | error h => exact .error h

theorem toExcept {first second : Report α} (hfaults : first.faults.Perm second.faults)
    (hvalue : first.faults = [] → Related first.value second.value) :
    SameUpToOrder Related first.toExcept second.toExcept := by
  obtain ⟨value, faults⟩ := first
  obtain ⟨other, others⟩ := second
  cases faults with
  | nil =>
      have hnone : others = [] := hfaults.nil_eq.symm
      subst hnone
      exact .ok (hvalue rfl)
  | cons fault rest =>
      cases others with
      | nil => cases hfaults.eq_nil
      | cons other rest => exact .error hfaults

end SameUpToOrder

/-! ## Reading -/

namespace Schema

variable {before after : Keyed Json} {tables others : Keyed Json}

theorem get?_properties (h : "properties" ∉ Keyed.keys before) :
    Keyed.get? (before ++ ("properties", .object tables) :: after) "properties" =
      some (.object tables) := by
  rw [Keyed.get?_append, Keyed.get?_eq_none_iff.mpr h, Option.none_or, Keyed.get?, if_pos rfl]

theorem isObjectSchema_withTables :
    isObjectSchema (before ++ ("properties", .object tables) :: after) =
      isObjectSchema (before ++ after) := by
  have hne : "properties" ≠ "type" := by decide
  rw [isObjectSchema, isObjectSchema, stringMember?, stringMember?, Keyed.get?_append,
    Keyed.get?_append, Keyed.get?, if_neg hne]

theorem isWellFormed_perm (h : tables.Perm others) :
    isWellFormed (withTables before after tables) =
      isWellFormed (withTables before after others) := by
  have htables : hasShape Pattern.isValid (shapeOf "properties") (.object tables) =
      hasShape Pattern.isValid (shapeOf "properties") (.object others) := by
    have hshape : shapeOf "properties" = .schemaMap := rfl
    rw [hshape]
    exact h.all_eq
  rw [withTables, withTables, isWellFormed, isWellFormed, allKeywords_eq_all, allKeywords_eq_all,
    List.all_append, List.all_append, List.all_cons, List.all_cons, htables]

theorem documentProperties?_withTables (hbefore : "properties" ∉ Keyed.keys before) :
    documentProperties? (withTables before after tables) =
      if isObjectSchema (before ++ after) ∧ isWellFormed (withTables before after tables) then
        some tables
      else none := by
  rw [withTables, documentProperties?, objectProperties?, isObjectSchema_withTables,
    get?_properties hbefore]
  by_cases hobject : isObjectSchema (before ++ after) = true
  · simp [hobject, members?]
  · simp [hobject]

end Schema

theorem Json.PermutesTables.read {document permuted : Json} (h : document.PermutesTables permuted) :
    SameUpToOrder List.Perm (Database.read document) (Database.read permuted) := by
  rcases h with rfl | ⟨before, after, tables, others, rfl, rfl, hbefore, hperm⟩
  · exact .refl List.Perm.refl _
  · have hfirst := @Schema.documentProperties?_withTables before after tables hbefore
    have hsecond := @Schema.documentProperties?_withTables before after others hbefore
    rw [← Schema.isWellFormed_perm hperm] at hsecond
    by_cases hdocument : Schema.isObjectSchema (before ++ after) ∧
        Schema.isWellFormed (withTables before after tables)
    · rw [if_pos hdocument] at hfirst hsecond
      obtain ⟨hvalue, hfaults⟩ := readTables_perm hperm
      rw [Database.read_eq_toExcept hfirst, Database.read_eq_toExcept hsecond]
      exact .toExcept hfaults fun _ => hvalue
    · rw [if_neg hdocument] at hfirst hsecond
      rw [Database.read, Database.read, hfirst, hsecond]
      exact .error (.refl _)

/-! ## Flattening and resolving -/

theorem Database.tables_perm {database other : Database} (h : database.Perm other) :
    database.tables.Perm other.tables := by
  rw [tables, tables, placedTables_eq, placedTables_eq]
  exact (h.flatMap_right _).map _

/-- Of tables of different names, a look-up finds the same one in every order. -/
theorem table?_perm {tables others : List (TableWith ρ)} (h : tables.Perm others)
    (hnodup : (tables.map (·.name)).Nodup) : table? tables = table? others := by
  funext name
  cases htable : table? others name with
  | none =>
      rw [table?, List.find?_eq_none] at htable ⊢
      intro table hmem
      exact htable table (h.mem_iff.mp hmem)
  | some table =>
      have hname : table.name = name := table?_name htable
      apply find?_eq_some_of_unique
      · exact h.mem_iff.mpr (mem_of_table? htable)
      · simpa using hname
      · intro other hother hsame
        have heq : other.name = table.name := (eq_of_beq hsame).trans hname.symm
        exact List.inj_on_of_nodup_map hnodup hother (h.mem_iff.mpr (mem_of_table? htable)) heq

theorem resolveAll_eq_toExcept (tables : List LinkedTable) :
    resolveAll tables =
      Report.toExcept
        ⟨tables.map fun table => table.resolve tables, referenceDiagnostics tables⟩ := rfl

/-- Tables of different names are resolved alike in every order. -/
theorem resolveAll_perm {tables others : List LinkedTable} (h : tables.Perm others)
    (hnodup : (tables.map (·.name)).Nodup) :
    SameUpToOrder List.Perm (resolveAll tables) (resolveAll others) := by
  have hlink : Link.resolve tables = Link.resolve others := by
    funext link
    rw [Link.resolve, Link.resolve, table?_perm h hnodup]
  have hresolve : TableWith.resolve tables = TableWith.resolve others := by
    funext table
    rw [TableWith.resolve, TableWith.resolve, hlink]
  have hdiagnose : Link.diagnose tables = Link.diagnose others := by
    funext link
    rw [Link.diagnose, Link.diagnose, hlink]
  rw [resolveAll_eq_toExcept, resolveAll_eq_toExcept, hresolve, referenceDiagnostics,
    referenceDiagnostics, hdiagnose]
  exact .toExcept (h.flatMap_right _) fun _ => h.map _

/-! ## Compiling -/

theorem Migration.script_perm (dialect : Dialect) {tables others : List Table}
    (h : tables.Perm others) :
    ((ofTables dialect tables).script dialect).Perm ((ofTables dialect others).script dialect) := by
  constructor
  · have hcreation := h.flatMap_right (Table.creation dialect)
    have hconnection := h.flatMap_right (Table.connection dialect)
    exact (hcreation.append hconnection).map _
  · exact (h.flatMap_right (Table.removal dialect)).map _

theorem compileTables_eq_bind (document : Json) :
    compileTables document =
      (Database.read document).bind fun database => resolveAll database.tables := by
  rw [compileTables]
  cases Database.read document <;> rfl

/-- Documents that declare the same tables in different orders are compiled to the same statements in
different orders, or are refused with the same errors in different orders, provided that the flat
tables of an accepted document have different names. -/
theorem compile_permuted {document permuted : Json} (hpermutes : document.PermutesTables permuted)
    (hnames : ∀ database, Database.read document = .ok database →
      (database.tables.map (·.name)).Nodup) (dialect : Dialect) :
    SameUpToOrder Script.Perm (compile dialect document) (compile dialect permuted) := by
  have htables : SameUpToOrder List.Perm (compileTables document) (compileTables permuted) := by
    rw [compileTables_eq_bind, compileTables_eq_bind]
    apply hpermutes.read.bind
    intro database other hread hperm
    exact resolveAll_perm (Database.tables_perm hperm) (hnames database hread)
  have hmigrations : SameUpToOrder
      (fun first second : Migration => (first.script dialect).Perm (second.script dialect))
      (migrate dialect document) (migrate dialect permuted) :=
    htables.map fun _ _ => Migration.script_perm dialect
  exact hmigrations.map fun _ _ hscripts => hscripts

/-! ## Ships and sailors -/

def shipJson : Json :=
  .object
    [("type", .string "object"),
      ("properties", .object
        [("id", .object [("type", .string "integer")]),
          ("captain", .object [("$ref", .string "#/sailors/id")])])]

def sailorJson : Json :=
  .object
    [("type", .string "object"),
      ("properties", .object
        [("id", .object [("type", .string "integer")]),
          ("ship", .object [("$ref", .string "#/ships/id")])])]

/-- What ships and sailors are read as. -/
def fleet : Database :=
  [("ships",
      { properties := [("id", .primitive .integer {}), ("captain", .reference "#/sailors/id")] }),
    ("sailors",
      { properties := [("id", .primitive .integer {}), ("ship", .reference "#/ships/id")] })]

def fleetDocument : Json :=
  .object
    [("type", .string "object"),
      ("properties", .object [("ships", shipJson), ("sailors", sailorJson)])]

/-- The document that declares sailors and then ships. -/
def sailorsFirstDocument : Json :=
  .object
    [("type", .string "object"),
      ("properties", .object [("sailors", sailorJson), ("ships", shipJson)])]

theorem compile_permuted_fleet :
    ∃ script other, compile .pg fleetDocument = .ok script ∧
      compile .pg sailorsFirstDocument = .ok other ∧ script.Perm other := by
  have hpermutes : fleetDocument.PermutesTables sailorsFirstDocument :=
    Or.inr ⟨[("type", .string "object")], [], [("ships", shipJson), ("sailors", sailorJson)],
      [("sailors", sailorJson), ("ships", shipJson)], rfl, rfl, by decide, .swap _ _ _⟩
  have hread : Database.read fleetDocument = .ok fleet := rfl
  have hnames : ∀ database, Database.read fleetDocument = .ok database →
      (database.tables.map (·.name)).Nodup := by
    intro database hdatabase
    cases hread.symm.trans hdatabase
    decide
  have hsame := compile_permuted hpermutes hnames .pg
  obtain ⟨script, hscript⟩ : ∃ script, compile .pg fleetDocument = .ok script := ⟨_, rfl⟩
  obtain ⟨other, hother⟩ : ∃ other, compile .pg sailorsFirstDocument = .ok other := ⟨_, rfl⟩
  rw [hscript, hother] at hsame
  cases hsame with
  | ok hperm => exact ⟨script, other, hscript, hother, hperm⟩

end SchemaTables
