import SchemaTables.Table.Resolution

/-!
# Resolved references

A reference that is resolved leads to the first column of a name in the first table of a name, and
has the type of that column.  Resolving all tables keeps this: every reference of a resolved table
points to a column of one of the resolved tables (`pointsInto_of_resolveAll`).
-/

namespace SchemaTables

/-- The reference leads to the first table of its target's name and the first column of its target's
name in it, and stores what that column does. -/
def Reference.PointsInto (tables : List (TableWith ρ)) (reference : Reference) : Prop :=
  ∃ table column, table? tables reference.table = some table ∧
    table.column? reference.column = some column ∧ reference.type.storage = column.storage

/-! ## Look-ups -/

theorem table?_name {tables : List (TableWith ρ)} {table : TableWith ρ} {name : String}
    (h : table? tables name = some table) : table.name = name := by
  simpa using List.find?_some h

theorem mem_of_table? {tables : List (TableWith ρ)} {table : TableWith ρ} {name : String}
    (h : table? tables name = some table) : table ∈ tables := List.mem_of_find?_eq_some h

theorem TableWith.column?_name {table : TableWith ρ} {column : Column} {name : String}
    (h : table.column? name = some column) : column.name = name := by
  simpa using List.find?_some h

theorem TableWith.mem_of_column? {table : TableWith ρ} {column : Column} {name : String}
    (h : table.column? name = some column) : column ∈ table.columns := List.mem_of_find?_eq_some h

theorem table?_map_resolve {linked tables : List LinkedTable} (name : String) :
    table? (tables.map fun table => table.resolve linked) name =
      (table? tables name).map fun table => table.resolve linked := by
  rw [table?, table?, List.find?_map]
  rfl

/-! ## Single references -/

/-- The ways in which the look-ups of a reference end. -/
inductive Link.Ends (tables : List LinkedTable) (link : Link) : Except Fault Reference → Prop
  | noTable (htable : table? tables (Target.ofPath link.target).table = none) :
      Ends tables link (.error (.unknownTable link.target (Target.ofPath link.target).table))
  | noColumn {table : LinkedTable}
      (htable : table? tables (Target.ofPath link.target).table = some table)
      (hcolumn : table.column? (Target.ofPath link.target).column = none) :
      Ends tables link (.error (.unknownColumn link.target (Target.ofPath link.target).table
        (Target.ofPath link.target).column))
  | noKey {table : LinkedTable} {column : Column}
      (htable : table? tables (Target.ofPath link.target).table = some table)
      (hcolumn : table.column? (Target.ofPath link.target).column = some column)
      (htype : KeyType.ofStorage? column.storage = none) :
      Ends tables link (.error (.unreferenceable link.target (Target.ofPath link.target).table
        (Target.ofPath link.target).column column.storage))
  | found {table : LinkedTable} {column : Column} {type : KeyType}
      (htable : table? tables (Target.ofPath link.target).table = some table)
      (hcolumn : table.column? (Target.ofPath link.target).column = some column)
      (htype : KeyType.ofStorage? column.storage = some type) :
      Ends tables link (.ok ⟨link.name, type, table.name, column.name, link.cardinality⟩)

theorem Link.ends_resolve (tables : List LinkedTable) (link : Link) :
    link.Ends tables (link.resolve tables) := by
  rw [resolve]
  split
  · next htable => exact .noTable htable
  · next htable =>
      split
      · next hcolumn => exact .noColumn htable hcolumn
      · next hcolumn =>
          split
          · next htype => exact .noKey htable hcolumn htype
          · next htype => exact .found htable hcolumn htype

theorem Link.resolve_eq_ok {tables : List LinkedTable} {link : Link} {reference : Reference}
    (h : link.resolve tables = .ok reference) :
    reference.name = link.name ∧ reference.cardinality = link.cardinality ∧
      reference.PointsInto tables := by
  have hends := link.ends_resolve tables
  rw [h] at hends
  cases hends with
  | @found table column type htable hcolumn htype =>
      refine ⟨rfl, rfl, table, column, ?_, ?_, KeyType.ofStorage?_eq_some_iff.mp htype⟩
      · rw [table?_name htable]
        exact htable
      · rw [TableWith.column?_name hcolumn]
        exact hcolumn

theorem TableWith.mem_references_resolve {linked : List LinkedTable} {table : LinkedTable}
    {reference : Reference} :
    reference ∈ (table.resolve linked).references ↔
      ∃ link ∈ table.references, link.resolve linked = .ok reference := by
  rw [resolve, List.mem_filterMap]
  constructor
  · rintro ⟨link, hlink, h⟩
    cases hresolve : link.resolve linked with
    | error fault => simp [hresolve, Except.toOption] at h
    | ok found =>
        rw [hresolve] at h
        cases h
        exact ⟨link, hlink, hresolve⟩
  · rintro ⟨link, hlink, h⟩
    exact ⟨link, hlink, by rw [h]; rfl⟩

/-! ## All references -/

theorem mem_referenceDiagnostics {tables : List LinkedTable} {diagnostic : Diagnostic} :
    diagnostic ∈ referenceDiagnostics tables ↔
      ∃ table ∈ tables, ∃ link ∈ table.references, ∃ fault,
        link.resolve tables = .error fault ∧
          diagnostic = ⟨link.origin ++ [link.name], fault⟩ := by
  simp only [referenceDiagnostics, List.mem_flatMap]
  constructor
  · rintro ⟨table, htable, link, hlink, hdiagnostic⟩
    rw [Link.diagnose] at hdiagnostic
    cases hresolve : link.resolve tables with
    | ok reference => simp [hresolve] at hdiagnostic
    | error fault =>
        rw [hresolve] at hdiagnostic
        exact ⟨table, htable, link, hlink, fault, hresolve, List.mem_singleton.mp hdiagnostic⟩
  · rintro ⟨table, htable, link, hlink, fault, hresolve, rfl⟩
    exact ⟨table, htable, link, hlink, by simp [Link.diagnose, hresolve]⟩

theorem resolveAll_eq_error {tables : List LinkedTable} {diagnostics : List Diagnostic}
    (h : resolveAll tables = .error diagnostics) : diagnostics = referenceDiagnostics tables := by
  rw [resolveAll] at h
  split at h
  · cases h
  · cases h
    rfl

theorem resolveAll_eq_ok {linked : List LinkedTable} {tables : List Table}
    (h : resolveAll linked = .ok tables) :
    tables = linked.map fun table => table.resolve linked := by
  rw [resolveAll] at h
  split at h
  · cases h
    rfl
  · cases h

theorem exists_resolve_of_resolveAll {linked : List LinkedTable} {tables : List Table}
    (h : resolveAll linked = .ok tables) {table : LinkedTable} (htable : table ∈ linked)
    {link : Link} (hlink : link ∈ table.references) :
    ∃ reference, link.resolve linked = .ok reference := by
  cases hresolve : link.resolve linked with
  | ok reference => exact ⟨reference, rfl⟩
  | error fault =>
      have hmem : ⟨link.origin ++ [link.name], fault⟩ ∈ referenceDiagnostics linked :=
        mem_referenceDiagnostics.mpr ⟨table, htable, link, hlink, fault, hresolve, rfl⟩
      rw [resolveAll] at h
      split at h
      · next hnone =>
          rw [hnone] at hmem
          cases hmem
      · cases h

/-- Every reference of a resolved table points to a column of a resolved table. -/
theorem pointsInto_of_resolveAll {linked : List LinkedTable} {tables : List Table}
    (h : resolveAll linked = .ok tables) :
    ∀ table ∈ tables, ∀ reference ∈ table.references, reference.PointsInto tables := by
  intro table htable reference hreference
  rw [resolveAll_eq_ok h] at htable ⊢
  obtain ⟨origin, horigin, rfl⟩ := List.mem_map.mp htable
  obtain ⟨link, hlink, hresolve⟩ := TableWith.mem_references_resolve.mp hreference
  obtain ⟨-, -, target, column, htarget, hcolumn, htype⟩ := Link.resolve_eq_ok hresolve
  refine ⟨target.resolve linked, column, ?_, hcolumn, htype⟩
  rw [table?_map_resolve, htarget]
  rfl

end SchemaTables
