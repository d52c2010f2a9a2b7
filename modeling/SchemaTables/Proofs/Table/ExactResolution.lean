import Mathlib.Data.List.Forall2
import SchemaTables.Proofs.Table.Resolution
import SchemaTables.Proofs.Text.Segments

/-!
# What a reference leads to

The rules by which references are resolved are stated here apart from the look-ups that follow them:
which names a path holds (`Target.IsNamedBy`), which table and column a reference leads to
(`Link.LeadsTo`), and with which message it fails (`Link.FailsWith`).

The main statement is `resolveAll_exact`: all references are resolved as these rules say, or each
reference that leads nowhere is reported once, in the order in which the tables list them.
-/

namespace SchemaTables

/-! ## The names in a path -/

namespace Target

/-- A path holds the names of a table and a column: what stands behind its last slash is the column,
and what stands before, up to the first slash, makes up the table.  A path without a slash holds
empty names. -/
inductive IsNamedBy (path : String) : Target → Prop
  | segments {first column : String} {inner : List String}
      (hpath : path = Text.join "/" (first :: (inner ++ [column])))
      (havoids : ∀ segment ∈ first :: (inner ++ [column]), Text.Avoids '/' segment) :
      IsNamedBy path ⟨Text.join "_" inner, column⟩
  | none (havoids : Text.Avoids '/' path) : IsNamedBy path ⟨"", ""⟩

theorem ofPath_of_segments {first column : String} {inner : List String}
    (h : ∀ segment ∈ first :: (inner ++ [column]), Text.Avoids '/' segment) :
    ofPath (Text.join "/" (first :: (inner ++ [column]))) = ⟨Text.join "_" inner, column⟩ := by
  have hsplit : Text.split '/' (Text.join "/" (first :: (inner ++ [column]))) =
      first :: (inner ++ [column]) := Text.split_join (by simp) h
  rw [ofPath, hsplit]
  simp [ofSegments]

theorem ofPath_of_avoids {path : String} (h : Text.Avoids '/' path) : ofPath path = ⟨"", ""⟩ := by
  rw [ofPath, Text.split_of_avoids h]
  rfl

theorem isNamedBy_ofPath (path : String) : IsNamedBy path (ofPath path) := by
  have hjoin : Text.join "/" (Text.split '/' path) = path := @Text.join_split '/' path
  have havoids : ∀ segment ∈ Text.split '/' path, Text.Avoids '/' segment :=
    fun _ hsegment => Text.avoids_of_mem_split hsegment
  cases hsplit : Text.split '/' path with
  | nil => exact absurd (List.map_eq_nil_iff.mp hsplit) (Text.splitChars_ne_nil '/' path.toList)
  | cons first rest =>
      rw [hsplit] at hjoin havoids
      rcases List.eq_nil_or_concat' rest with rfl | ⟨inner, column, rfl⟩
      · have hpath : Text.Avoids '/' path := hjoin ▸ havoids first List.mem_cons_self
        rw [ofPath_of_avoids hpath]
        exact .none hpath
      · rw [← hjoin, ofPath_of_segments havoids]
        exact .segments rfl havoids

/-- A path holds one pair of names. -/
theorem isNamedBy_iff {path : String} {target : Target} :
    IsNamedBy path target ↔ target = ofPath path := by
  constructor
  · intro h
    cases h with
    | segments hpath havoids => rw [hpath, ofPath_of_segments havoids]
    | none havoids => rw [ofPath_of_avoids havoids]
  · rintro rfl
    exact isNamedBy_ofPath path

end Target

/-! ## First matches -/

/-- The first element of a list of which something holds. -/
inductive IsFirst {α : Type} (p : α → Prop) : List α → α → Prop
  | here {a : α} {rest : List α} (h : p a) : IsFirst p (a :: rest) a
  | later {a other : α} {rest : List α} (hother : ¬ p other) (h : IsFirst p rest a) :
      IsFirst p (other :: rest) a

theorem find?_eq_some_iff_isFirst {α : Type} {test : α → Bool} {p : α → Prop}
    (htest : ∀ a, test a = true ↔ p a) {list : List α} {a : α} :
    list.find? test = some a ↔ IsFirst p list a := by
  constructor
  · intro h
    induction list with
    | nil => cases h
    | cons b rest ih =>
        by_cases hb : test b = true
        · rw [List.find?_cons_of_pos hb] at h
          cases h
          exact .here ((htest _).mp hb)
        · rw [List.find?_cons_of_neg hb] at h
          exact .later (fun hp => hb ((htest _).mpr hp)) (ih h)
  · intro h
    induction h with
    | here h => exact List.find?_cons_of_pos ((htest _).mpr h)
    | later hother _ ih =>
        rw [List.find?_cons_of_neg fun hb => hother ((htest _).mp hb), ih]

theorem table?_eq_some_iff {tables : List (TableWith ρ)} {table : TableWith ρ} {name : String} :
    table? tables name = some table ↔ IsFirst (fun other => other.name = name) tables table :=
  find?_eq_some_iff_isFirst fun _ => beq_iff_eq

theorem table?_eq_none_iff {tables : List (TableWith ρ)} {name : String} :
    table? tables name = none ↔ ∀ table ∈ tables, table.name ≠ name := by
  simp [table?]

theorem TableWith.column?_eq_some_iff {table : TableWith ρ} {column : Column} {name : String} :
    table.column? name = some column ↔
      IsFirst (fun other => other.name = name) table.columns column :=
  find?_eq_some_iff_isFirst fun _ => beq_iff_eq

theorem TableWith.column?_eq_none_iff {table : TableWith ρ} {name : String} :
    table.column? name = none ↔ ∀ column ∈ table.columns, column.name ≠ name := by
  simp [column?]

/-! ## Single references -/

/-- What columns store to which no reference may lead. -/
def StorageType.unreferenceable : List StorageType := [.date, .datetime, .dateTime, .number]

theorem KeyType.ofStorage?_eq_none_iff {type : StorageType} :
    ofStorage? type = none ↔ type ∈ StorageType.unreferenceable := by
  cases type <;> simp [ofStorage?, StorageType.unreferenceable]

namespace Link

variable {tables : List LinkedTable} {link : Link}

/-- The reference leads to a column of a table: both are the first ones of the names in its path,
and the column may be referred to. -/
structure LeadsTo (tables : List LinkedTable) (link : Link) (table : LinkedTable)
    (column : Column) : Prop where
  first : ∃ target, Target.IsNamedBy link.target target ∧
    IsFirst (fun other => other.name = target.table) tables table ∧
    IsFirst (fun other => other.name = target.column) table.columns column
  fit : column.storage ∉ StorageType.unreferenceable

/-- The reference leads nowhere, and this message says why: there is no table of the name, or no
column in the first one, or what the first column stores may not be referred to. -/
inductive FailsWith (tables : List LinkedTable) (link : Link) : String → Prop
  | table {target : Target} (hnames : Target.IsNamedBy link.target target)
      (hnone : ∀ table ∈ tables, table.name ≠ target.table) :
      FailsWith tables link (link.target ++ " references unknown table \"" ++ target.table ++ "\"")
  | column {target : Target} {table : LinkedTable} (hnames : Target.IsNamedBy link.target target)
      (htable : IsFirst (fun other => other.name = target.table) tables table)
      (hnone : ∀ column ∈ table.columns, column.name ≠ target.column) :
      FailsWith tables link (link.target ++ " references unknown column \"" ++ target.column ++
        "\" in table \"" ++ target.table ++ "\"")
  | type {target : Target} {table : LinkedTable} {column : Column}
      (hnames : Target.IsNamedBy link.target target)
      (htable : IsFirst (fun other => other.name = target.table) tables table)
      (hcolumn : IsFirst (fun other => other.name = target.column) table.columns column)
      (hunfit : column.storage ∈ StorageType.unreferenceable) :
      FailsWith tables link (link.target ++ " references disallowed \"" ++ column.storage.name ++
        "\" type column \"" ++ target.column ++ "\" in table \"" ++ target.table ++ "\"")

/-- The reference as it is resolved: its own name and cardinality, and the names of what it leads to
with the type of that. -/
def ResolvesTo (tables : List LinkedTable) (link : Link) (reference : Reference) : Prop :=
  reference.name = link.name ∧ reference.cardinality = link.cardinality ∧
    ∃ table column, link.LeadsTo tables table column ∧ reference.table = table.name ∧
      reference.column = column.name ∧ reference.type.storage = column.storage

/-- A reference that is resolved leads to what the rules say. -/
theorem resolvesTo_of_resolve {reference : Reference} (h : link.resolve tables = .ok reference) :
    link.ResolvesTo tables reference := by
  have hends := link.ends_resolve tables
  rw [h] at hends
  cases hends with
  | @found table column type htable hcolumn htype =>
      have hfit : column.storage ∉ StorageType.unreferenceable := by
        rw [← KeyType.ofStorage?_eq_none_iff, htype]
        simp
      have hleads : link.LeadsTo tables table column :=
        ⟨⟨_, Target.isNamedBy_ofPath link.target, table?_eq_some_iff.mp htable,
          TableWith.column?_eq_some_iff.mp hcolumn⟩, hfit⟩
      exact ⟨rfl, rfl, table, column, hleads, rfl, rfl, KeyType.ofStorage?_eq_some_iff.mp htype⟩

/-- A reference that is refused fails as the rules say. -/
theorem failsWith_of_resolve {fault : Fault} (h : link.resolve tables = .error fault) :
    link.FailsWith tables fault.message := by
  have hnames := Target.isNamedBy_ofPath link.target
  have hends := link.ends_resolve tables
  rw [h] at hends
  cases hends with
  | noTable htable => exact .table hnames (table?_eq_none_iff.mp htable)
  | noColumn htable hcolumn =>
      exact .column hnames (table?_eq_some_iff.mp htable) (TableWith.column?_eq_none_iff.mp hcolumn)
  | noKey htable hcolumn htype =>
      exact .type hnames (table?_eq_some_iff.mp htable) (TableWith.column?_eq_some_iff.mp hcolumn)
        (KeyType.ofStorage?_eq_none_iff.mp htype)

/-- The reference leads to some column. -/
def Leads (tables : List LinkedTable) (link : Link) : Prop :=
  ∃ table column, link.LeadsTo tables table column

/-- The look-ups succeed exactly where the reference leads to a column. -/
theorem exists_resolve_iff_leads :
    (∃ reference, link.resolve tables = .ok reference) ↔ link.Leads tables := by
  constructor
  · rintro ⟨reference, h⟩
    obtain ⟨-, -, table, column, hleads, -⟩ := resolvesTo_of_resolve h
    exact ⟨table, column, hleads⟩
  · rintro ⟨table, column, ⟨target, hnames, htable, hcolumn⟩, hfit⟩
    cases Target.isNamedBy_iff.mp hnames
    cases htype : KeyType.ofStorage? column.storage with
    | none => exact absurd (KeyType.ofStorage?_eq_none_iff.mp htype) hfit
    | some type =>
        refine ⟨⟨link.name, type, table.name, column.name, link.cardinality⟩, ?_⟩
        simp only [resolve, table?_eq_some_iff.mpr htable,
          TableWith.column?_eq_some_iff.mpr hcolumn, htype]

instance (tables : List LinkedTable) : DecidablePred (Leads tables) := fun link =>
  decidable_of_iff ((link.resolve tables).isOk = true) (by
    rw [← exists_resolve_iff_leads]
    cases link.resolve tables <;> simp [Except.isOk, Except.toBool])

/-- The diagnostic tells of the reference: where it stands, and why it leads nowhere. -/
def ReportedBy (tables : List LinkedTable) (link : Link) (diagnostic : Diagnostic) : Prop :=
  diagnostic.path = link.origin ++ [link.name] ∧ link.FailsWith tables diagnostic.message

end Link

/-! ## All references -/

/-- The table with each of its references resolved, and nothing else changed. -/
structure TableWith.ResolvesTo (linked : List LinkedTable) (table : LinkedTable)
    (resolved : Table) : Prop where
  name : resolved.name = table.name
  required : resolved.required = table.required
  primaryKey : resolved.primaryKey = table.primaryKey
  columns : resolved.columns = table.columns
  references : List.Forall₂ (Link.ResolvesTo linked) table.references resolved.references

variable {linked : List LinkedTable}

theorem forall₂_filterMap_resolve {links : List Link} (h : ∀ link ∈ links, link.Leads linked) :
    List.Forall₂ (Link.ResolvesTo linked) links
      (links.filterMap fun link => (link.resolve linked).toOption) := by
  induction links with
  | nil => exact .nil
  | cons link rest ih =>
      obtain ⟨hlink, hrest⟩ := List.forall_mem_cons.mp h
      obtain ⟨reference, hresolve⟩ := Link.exists_resolve_iff_leads.mpr hlink
      have hsome : (link.resolve linked).toOption = some reference := by
        rw [hresolve]
        rfl
      rw [List.filterMap_cons, hsome]
      exact .cons (Link.resolvesTo_of_resolve hresolve) (ih hrest)

theorem TableWith.resolvesTo_resolve {table : LinkedTable}
    (h : ∀ link ∈ table.references, link.Leads linked) :
    table.ResolvesTo linked (table.resolve linked) :=
  ⟨rfl, rfl, rfl, rfl, forall₂_filterMap_resolve h⟩

theorem TableWith.ResolvesTo.names {table : LinkedTable} {resolved : Table}
    (h : table.ResolvesTo linked resolved) :
    resolved.references.map (·.name) = table.references.map (·.name) := by
  have hnames : List.Forall₂ Eq (resolved.references.map (·.name))
      (table.references.map (·.name)) := by
    rw [List.forall₂_map_left_iff, List.forall₂_map_right_iff]
    exact h.references.flip.imp fun _ _ hreference => hreference.1
  rwa [List.forall₂_eq_eq_eq] at hnames

/-- Where all references are resolved, each table becomes the one in its place. -/
theorem forall₂_resolvesTo_of_resolveAll {tables : List Table}
    (h : resolveAll linked = .ok tables) :
    List.Forall₂ (TableWith.ResolvesTo linked) linked tables := by
  rw [resolveAll_eq_ok h, List.forall₂_map_right_iff, List.forall₂_same]
  intro table htable
  refine TableWith.resolvesTo_resolve ?_
  intro link hlink
  exact Link.exists_resolve_iff_leads.mp (exists_resolve_of_resolveAll h htable hlink)

/-- Each reference that leads nowhere is reported once, in order. -/
theorem forall₂_diagnose (linked : List LinkedTable) (links : List Link) :
    List.Forall₂ (Link.ReportedBy linked) (links.filter fun link => ¬ link.Leads linked)
      (links.flatMap fun link => link.diagnose linked) := by
  induction links with
  | nil => exact .nil
  | cons link rest ih =>
      rw [List.flatMap_cons, Link.diagnose]
      cases hresolve : link.resolve linked with
      | ok reference =>
          have hleads : link.Leads linked := Link.exists_resolve_iff_leads.mp ⟨reference, hresolve⟩
          rw [List.filter_cons_of_neg (by simpa using hleads)]
          exact ih
      | error fault =>
          have hfails : ¬ link.Leads linked := by
            rw [← Link.exists_resolve_iff_leads, hresolve]
            simp
          rw [List.filter_cons_of_pos (by simpa using hfails)]
          exact .cons ⟨rfl, Link.failsWith_of_resolve hresolve⟩ ih

theorem referenceDiagnostics_eq (tables : List LinkedTable) :
    referenceDiagnostics tables =
      (tables.flatMap (·.references)).flatMap fun link => link.diagnose tables :=
  List.flatMap_assoc.symm

theorem referenceDiagnostics_eq_nil_iff {tables : List LinkedTable} :
    referenceDiagnostics tables = [] ↔
      ∀ table ∈ tables, ∀ link ∈ table.references, link.Leads tables := by
  have hreports := forall₂_diagnose tables (tables.flatMap (·.references))
  rw [← referenceDiagnostics_eq] at hreports
  have hnone : referenceDiagnostics tables = [] ↔
      (tables.flatMap (·.references)).filter (fun link => ¬ link.Leads tables) = [] := by
    rw [← List.length_eq_zero_iff, ← hreports.length_eq, List.length_eq_zero_iff]
  rw [hnone, List.filter_eq_nil_iff]
  constructor
  · intro h table htable link hlink
    simpa using h link (List.mem_flatMap.mpr ⟨table, htable, hlink⟩)
  · intro h link hmem
    obtain ⟨table, htable, hlink⟩ := List.mem_flatMap.mp hmem
    simpa using h table htable link hlink

/-- All references are resolved if each of them leads to a column.  The tables are then the same
with each reference resolved in its place.  Otherwise nothing but the diagnostics is returned: one
for each reference that leads nowhere, in the order of the tables and of their references. -/
theorem resolveAll_exact (tables : List LinkedTable) :
    ((∃ resolved, resolveAll tables = .ok resolved) ↔
        ∀ table ∈ tables, ∀ link ∈ table.references, link.Leads tables) ∧
      (∀ resolved, resolveAll tables = .ok resolved →
        List.Forall₂ (TableWith.ResolvesTo tables) tables resolved) ∧
      ∀ diagnostics, resolveAll tables = .error diagnostics →
        List.Forall₂ (Link.ReportedBy tables)
          ((tables.flatMap (·.references)).filter fun link => ¬ link.Leads tables) diagnostics := by
  have hok : (∃ resolved, resolveAll tables = .ok resolved) ↔
      ∀ table ∈ tables, ∀ link ∈ table.references, link.Leads tables := by
    rw [← referenceDiagnostics_eq_nil_iff, resolveAll]
    split
    · next hnone => exact iff_of_true ⟨_, rfl⟩ hnone
    · next hsome => exact iff_of_false (by simp) hsome
  refine ⟨hok, ?_, ?_⟩
  · intro resolved hresolved
    have hleads := hok.mp ⟨resolved, hresolved⟩
    rw [resolveAll_eq_ok hresolved, List.forall₂_map_right_iff, List.forall₂_same]
    intro table htable
    exact TableWith.resolvesTo_resolve (hleads table htable)
  · intro diagnostics herror
    rw [resolveAll_eq_error herror, referenceDiagnostics_eq]
    exact forall₂_diagnose tables _

/-- Two tables of one name; the first one has two columns of one name and the references. -/
def twinTables (links : List Link) : List LinkedTable :=
  [{ name := "users"
     columns := [⟨"id", .integer, {}⟩, ⟨"born", .date, {}⟩, ⟨"id", .uuid, {}⟩]
     references := links },
    { name := "users", columns := [⟨"email", .email, {}⟩] }]

/-- References of which only the second one leads to a column. -/
def twinLinks : List Link :=
  [⟨"a", "#/users/email", [], .one⟩, ⟨"b", "#/users/id", [], .one⟩,
    ⟨"c", "#/users/born", [], .one⟩, ⟨"d", "users", [], .one⟩]

/-- The first column of the first table counts.  What only the second table has, what cannot be
referred to and a path without slashes are refused, in this order. -/
theorem resolveAll_exact_twins :
    (∃ resolved, resolveAll (twinTables [⟨"self", "#/users/id", [], .many⟩]) = .ok resolved ∧
      resolved.map (·.references) = [[⟨"self", .integer, "users", "id", .many⟩], []] ∧
      List.Forall₂ (TableWith.ResolvesTo (twinTables [⟨"self", "#/users/id", [], .many⟩]))
        (twinTables [⟨"self", "#/users/id", [], .many⟩]) resolved) ∧
      ∃ diagnostics, resolveAll (twinTables twinLinks) = .error diagnostics ∧
        diagnostics.map Diagnostic.text =
          ["#/users/email references unknown column \"email\" in table \"users\" at a",
            "#/users/born references disallowed \"date\" type column \"born\" in table \"users\" at c",
            "users references unknown table \"\" at d"] ∧
        List.Forall₂ (Link.ReportedBy (twinTables twinLinks)) (twinLinks.eraseIdx 1) diagnostics :=
  ⟨⟨_, rfl, rfl, (resolveAll_exact _).2.1 _ rfl⟩, _, rfl, rfl, (resolveAll_exact _).2.2 _ rfl⟩

end SchemaTables
