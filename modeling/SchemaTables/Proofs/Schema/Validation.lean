import SchemaTables.Proofs.Schema.Completeness
import SchemaTables.Proofs.Schema.Grammar
import SchemaTables.Proofs.Table.BackReference

/-!
# The documents that are accepted

A document is read as a database exactly if it declares one (`Database.read_eq_ok_iff`), and what is
read is what is declared, member by member.  It declares one exactly if it is in the grammar
(`Database.read_iff_grammar`), where a container that is stored whole counts as nested if its
metadata do not name the storage by a text.  The grammar without this addition is larger
(`Database.read_hidden`).
-/

namespace SchemaTables.Json

variable {members raw : Keyed Json} {value : Json} {Nests : Json → Prop}

/-! ## Columns -/

mutual

theorem Means.isColumn : ∀ {value : Json} {property : Property}, Means value property →
    IsColumn IsDeclaredNested value
  | _, _, .reference href hstart hlength => .reference href hstart hlength
  | _, _, .primitive href htype hattributes =>
      .primitive href htype (hasAttributes_iff.mpr ⟨_, hattributes⟩)
  | _, _, .text href htype hformat hattributes =>
      .text href htype (exists_meansFormat_iff.mp ⟨_, hformat⟩)
        (hasAttributes_iff.mpr ⟨_, hattributes⟩)
  | _, _, .document href htype hattributes hstorage =>
      .stored ⟨href, _, htype⟩ (hasAttributes_iff.mpr ⟨_, hattributes⟩)
        ((isStored_iff hattributes).mpr (by rw [hstorage]; exact Option.some_ne_none _))
  | _, _, .nested href htype hattributes hstorage hproperties htable =>
      .table href htype (hasAttributes_iff.mpr ⟨_, hattributes⟩)
        (fun hstored => (isStored_iff hattributes).mp hstored hstorage) hproperties
        htable.isColumns.1 htable.isColumns.2
  | _, _, .list href htype hattributes hstorage hitems hinner hmeans =>
      .list href htype (hasAttributes_iff.mpr ⟨_, hattributes⟩)
        (fun hstored => (isStored_iff hattributes).mp hstored hstorage) hitems hinner hmeans.isColumn

theorem MeansTable.isColumns : ∀ {members raw : Keyed Json} {table : TableSchema},
    MeansTable members raw table →
      (∀ name value, (name, value) ∈ raw → IsColumn IsDeclaredNested value) ∧
        TableRules IsDeclaredNested members raw
  | _, _, _, .mk hproperties hrules =>
      ⟨hproperties.isColumn_of_mem, tableFaults_eq_nil_iff.mp hrules⟩

theorem MeansAll.isColumn_of_mem : ∀ {raw : Keyed Json} {properties : Keyed Property},
    MeansAll raw properties →
      ∀ name value, (name, value) ∈ raw → IsColumn IsDeclaredNested value
  | _, _, .nil, _, _, hmem => by cases hmem
  | _, _, .cons hmeans hrest, name, value, hmem => by
      rcases List.mem_cons.mp hmem with heq | hmem
      · cases heq
        exact hmeans.isColumn
      · exact hrest.isColumn_of_mem name value hmem

end

theorem exists_meansAll (h : ∀ name value, (name, value) ∈ raw → ∃ property, Means value property) :
    ∃ properties, MeansAll raw properties := by
  induction raw with
  | nil => exact ⟨[], .nil⟩
  | cons entry rest ih =>
      obtain ⟨name, value⟩ := entry
      obtain ⟨property, hmeans⟩ := h name value List.mem_cons_self
      obtain ⟨properties, hrest⟩ := ih fun other stored hmem =>
        h other stored (List.mem_cons_of_mem _ hmem)
      exact ⟨(name, property) :: properties, .cons hmeans hrest⟩

theorem exists_meansTable
    (hcolumns : ∀ name value, (name, value) ∈ raw → ∃ property, Means value property)
    (hrules : TableRules IsDeclaredNested members raw) : ∃ table, MeansTable members raw table := by
  obtain ⟨properties, hproperties⟩ := exists_meansAll hcolumns
  exact ⟨_, .mk hproperties (tableFaults_eq_nil_iff.mpr hrules)⟩

/-- A column of the grammar declares a property. -/
theorem IsColumn.exists_means (h : IsColumn IsDeclaredNested value) :
    ∃ property, Means value property := by
  induction h with
  | @reference members target href hstart hparts =>
      exact ⟨.reference target, .reference href hstart hparts⟩
  | primitive href htype hattributes =>
      obtain ⟨attributes, hmeans⟩ := hasAttributes_iff.mp hattributes
      exact ⟨_, .primitive href htype hmeans⟩
  | text href htype hformat hattributes =>
      obtain ⟨attributes, hmeans⟩ := hasAttributes_iff.mp hattributes
      obtain ⟨format, hformat⟩ := exists_meansFormat_iff.mpr hformat
      exact ⟨_, .text href htype hformat hmeans⟩
  | stored hcontainer hattributes hstored =>
      obtain ⟨href, shape, htype⟩ := hcontainer
      obtain ⟨attributes, hmeans⟩ := hasAttributes_iff.mp hattributes
      obtain ⟨storage, hstorage⟩ :=
        Option.ne_none_iff_exists'.mp ((isStored_iff hmeans).mp hstored)
      exact ⟨_, .document href htype hmeans hstorage⟩
  | table href htype hattributes hstored hproperties _ hrules ih =>
      obtain ⟨attributes, hmeans⟩ := hasAttributes_iff.mp hattributes
      have hnone : attributes.metadata.storage = none := by
        by_contra hstorage
        exact hstored ((isStored_iff hmeans).mpr hstorage)
      obtain ⟨table, htable⟩ := exists_meansTable ih hrules
      exact ⟨_, .nested href htype hmeans hnone hproperties htable⟩
  | list href htype hattributes hstored hitems hinner _ ih =>
      obtain ⟨attributes, hmeans⟩ := hasAttributes_iff.mp hattributes
      have hnone : attributes.metadata.storage = none := by
        by_contra hstorage
        exact hstored ((isStored_iff hmeans).mpr hstorage)
      obtain ⟨items, hitemsMean⟩ := ih
      exact ⟨_, .list href htype hmeans hnone hitems hinner hitemsMean⟩

/-! ## What counts as nested -/

theorem IsColumn.hasAttributes (h : IsColumn Nests (.object members))
    (hcontainer : IsContainer members) : HasAttributes members := by
  obtain ⟨hnone, -, -⟩ := hcontainer
  cases h with
  | reference href => simp [hnone] at href
  | primitive _ _ hattributes => exact hattributes
  | text _ _ _ hattributes => exact hattributes
  | stored _ hattributes => exact hattributes
  | table _ _ hattributes => exact hattributes
  | list _ _ hattributes => exact hattributes

/-- A column is taken for a nested table if it becomes one or hides its storage. -/
theorem IsColumn.isDeclaredNested_iff (h : IsColumn Nests value) (hdistinct : value.Distinct) :
    IsDeclaredNested value ↔ value.BecomesTable ∨ value.HidesStorage := by
  rw [Json.isDeclaredNested_iff]
  constructor
  · rintro ⟨members, rfl, hcontainer, hnames⟩
    by_cases hstored : IsStored members
    · exact Or.inr ⟨members, rfl, hcontainer, hstored, hnames⟩
    · exact Or.inl ⟨members, rfl, hcontainer, hstored⟩
  · rintro (⟨members, rfl, hcontainer, hstored⟩ | ⟨members, rfl, hcontainer, -, hnames⟩)
    · refine ⟨members, rfl, hcontainer, ?_⟩
      -- A storage that is named by a text is the one that the metadata decode to.
      intro hnames
      obtain ⟨attributes, hmeans⟩ := hasAttributes_iff.mp (h.hasAttributes hcontainer)
      have hstorage := storage_of_namesStorage hdistinct hmeans.metadata hnames
      exact hstored ((isStored_iff hmeans).mpr hstorage)
    · exact ⟨members, rfl, hcontainer, hnames⟩

theorem TableRules.congr {Others : Json → Prop} (h : TableRules Nests members raw)
    (hothers : ∀ name value, (name, value) ∈ raw → Others value → Nests value) :
    TableRules Others members raw :=
  ⟨h.required, h.key_mem, h.key_fits, fun name value hmem hnested =>
    h.nests name value hmem (hothers name value hmem hnested)⟩

theorem IsColumn.congr {Others : Json → Prop} (h : IsColumn Nests value)
    (hothers : ∀ value, value.Distinct → IsColumn Nests value → Others value → Nests value)
    (hdistinct : value.Distinct) : IsColumn Others value := by
  induction h with
  | reference href hstart hparts => exact .reference href hstart hparts
  | primitive href htype hattributes => exact .primitive href htype hattributes
  | text href htype hformat hattributes => exact .text href htype hformat hattributes
  | stored hcontainer hattributes hstored => exact .stored hcontainer hattributes hstored
  | table href htype hattributes hstored hproperties hcolumns hrules ih =>
      have hraw := hdistinct.get? hproperties
      refine .table href htype hattributes hstored hproperties
        (fun name value hmem => ih name value hmem (hraw.of_mem hmem)) (hrules.congr ?_)
      intro name value hmem
      exact hothers value (hraw.of_mem hmem) (hcolumns name value hmem)
  | list href htype hattributes hstored hitems hinner _ ih =>
      exact .list href htype hattributes hstored hitems hinner (ih (hdistinct.get? hitems))

/-! ## Tables and databases -/

theorem isTable_iff : IsTable IsDeclaredNested value ↔ ∃ table, value.MeansTopTable table := by
  constructor
  · rintro ⟨members, raw, rfl, htype, hraw, hcolumns, hrules⟩
    obtain ⟨table, htable⟩ :=
      exists_meansTable (fun name value hmem => (hcolumns name value hmem).exists_means) hrules
    exact ⟨table, members, raw, rfl, htype, hraw, htable⟩
  · rintro ⟨table, members, raw, rfl, htype, hraw, htable⟩
    exact ⟨members, raw, rfl, htype, hraw, htable.isColumns⟩

theorem exists_meansTables_iff {properties : Keyed Json} :
    (∃ database, MeansTables properties database) ↔
      ∀ name value, (name, value) ∈ properties → ∃ table, value.MeansTopTable table := by
  induction properties with
  | nil => exact ⟨fun _ _ _ hmem => by simp at hmem, fun _ => ⟨[], .nil⟩⟩
  | cons entry rest ih =>
      obtain ⟨name, value⟩ := entry
      constructor
      · rintro ⟨database, htables⟩ other stored hmem
        cases htables with
        | cons htable hrest =>
            rcases List.mem_cons.mp hmem with heq | hmem
            · cases heq
              exact ⟨_, htable.2⟩
            · exact ih.mp ⟨_, hrest⟩ other stored hmem
      · intro h
        obtain ⟨table, htable⟩ := h name value List.mem_cons_self
        obtain ⟨database, hrest⟩ := ih.mpr fun other stored hmem =>
          h other stored (List.mem_cons_of_mem _ hmem)
        exact ⟨(name, table) :: database, .cons ⟨rfl, htable⟩ hrest⟩

theorem isDatabase_iff {document : Json} :
    document.IsDatabase IsDeclaredNested ↔ ∃ database, document.MeansDatabase database := by
  constructor
  · rintro ⟨hdocument, members, properties, hobject, hproperties, htables⟩
    obtain ⟨database, hdatabase⟩ := exists_meansTables_iff.mpr fun name value hmem =>
      isTable_iff.mp (htables name value hmem)
    exact ⟨database, hdocument, members, properties, hobject, hproperties, hdatabase⟩
  · rintro ⟨database, hdocument, members, properties, hobject, hproperties, htables⟩
    refine ⟨hdocument, members, properties, hobject, hproperties, ?_⟩
    intro name value hmem
    exact isTable_iff.mpr (exists_meansTables_iff.mp ⟨database, htables⟩ name value hmem)

theorem IsTable.congr {Others : Json → Prop} (h : IsTable Nests value)
    (hothers : ∀ value, value.Distinct → IsColumn Nests value → Others value → Nests value)
    (hdistinct : value.Distinct) : IsTable Others value := by
  obtain ⟨members, raw, rfl, htype, hraw, hcolumns, hrules⟩ := h
  have hproperties := hdistinct.get? hraw
  refine ⟨members, raw, rfl, htype, hraw, ?_, hrules.congr ?_⟩
  · intro name value hmem
    exact (hcolumns name value hmem).congr hothers (hproperties.of_mem hmem)
  · intro name value hmem
    exact hothers value (hproperties.of_mem hmem) (hcolumns name value hmem)

theorem IsDatabase.congr {Others : Json → Prop} {document : Json} (h : document.IsDatabase Nests)
    (hothers : ∀ value, value.Distinct → IsColumn Nests value → Others value → Nests value)
    (hdistinct : document.Distinct) : document.IsDatabase Others := by
  obtain ⟨hdocument, members, properties, rfl, hproperties, htables⟩ := h
  have htop := hdistinct.get? hproperties
  refine ⟨hdocument, members, properties, rfl, hproperties, ?_⟩
  intro name value hmem
  exact (htables name value hmem).congr hothers (htop.of_mem hmem)

end SchemaTables.Json

namespace SchemaTables

open Json

/-! ## Reading -/

namespace Database

/-- What a document that names each member once is read as is the database that it declares, with
all of its tables and their properties.  It is read as one exactly if it is in the grammar, where a
container that is stored whole counts as nested if its metadata do not name the storage by a text;
it is then also in the grammar where only containers that become tables count. -/
theorem read_iff_grammar {document : Json} (hdistinct : document.Distinct) :
    (∀ database, Database.read document = .ok database ↔ document.MeansDatabase database) ∧
      ((∃ database, Database.read document = .ok database) ↔
        document.IsDatabase fun value => value.BecomesTable ∨ value.HidesStorage) ∧
      ((∃ database, Database.read document = .ok database) → document.IsDatabase BecomesTable) := by
  have hdeclared : (∃ database, Database.read document = .ok database) ↔
      document.IsDatabase IsDeclaredNested := by
    rw [isDatabase_iff]
    exact exists_congr fun database => read_eq_ok_iff
  refine ⟨fun database => read_eq_ok_iff, ?_, ?_⟩
  · rw [hdeclared]
    constructor
    · intro h
      exact h.congr (fun value hvalue hcolumn hnests =>
        (hcolumn.isDeclaredNested_iff hvalue).mpr hnests) hdistinct
    · intro h
      exact h.congr (fun value hvalue hcolumn hnests =>
        (hcolumn.isDeclaredNested_iff hvalue).mp hnests) hdistinct
  · intro h
    exact (hdeclared.mp h).congr (fun value hvalue hcolumn hnests =>
      (hcolumn.isDeclaredNested_iff hvalue).mpr (Or.inl hnests)) hdistinct

end Database

theorem read_iff_grammar_accounts :
    accountDocument.Distinct ∧ accountDocument.IsDatabase BecomesTable ∧
      accountDocument.MeansDatabase accounts := by
  obtain ⟨hmeans, -, hgrammar⟩ := Database.read_iff_grammar accountDocument_distinct
  exact ⟨accountDocument_distinct, hgrammar ⟨accounts, read_accountDocument⟩,
    (hmeans accounts).mp read_accountDocument⟩

/-! ## A container whose storage is hidden -/

/-- A column of objects that are stored whole: its metadata name the storage by an object. -/
def hiddenMembers : Keyed Json :=
  [("type", .string "object"), ("metadata", .object [("type", .object [("jsonb", .null)])])]

/-- Users with their preferences, which are stored whole, and without a key. -/
def preferencesDocument : Json :=
  .object
    [("type", .string "object"),
      ("properties", .object
        [("users", .object
          [("type", .string "object"),
            ("properties", .object [("preferences", .object hiddenMembers)])])])]

theorem isStored_hiddenMembers : IsStored hiddenMembers :=
  ⟨_, { storage := some .jsonb }, rfl, rfl, by simp⟩

theorem isColumn_hiddenMembers : IsColumn BecomesTable (.object hiddenMembers) := by
  refine .stored ⟨rfl, .object, rfl⟩ ⟨?_, ?_, ?_⟩ isStored_hiddenMembers
  · intro value hvalue
    cases hvalue
  · intro items hitems
    cases hitems
  · intro value hvalue
    cases hvalue
    exact ⟨{ storage := some .jsonb }, rfl⟩

/-- The document is in the grammar, and no table in it is nested in another; it is refused because
the preferences are taken for a nested table. -/
theorem read_hidden :
    preferencesDocument.Distinct ∧ preferencesDocument.IsDatabase BecomesTable ∧
      ¬ BecomesTable (.object hiddenMembers) ∧
      Database.read preferencesDocument =
        .error [⟨["properties", "users"], .keyless "preferences" .object⟩] := by
  have hwhole : ¬ BecomesTable (.object hiddenMembers) := by
    rintro ⟨members, hmembers, -, hstored⟩
    cases hmembers
    exact hstored isStored_hiddenMembers
  refine ⟨?_, ⟨by decide, _, _, rfl, rfl, ?_⟩, hwhole, rfl⟩
  · simp [preferencesDocument, hiddenMembers, Json.Distinct, Json.DistinctMembers, Keyed.Distinct,
      Keyed.keys]
  · intro name value hmem
    cases List.mem_singleton.mp hmem
    refine ⟨_, [("preferences", .object hiddenMembers)], rfl, rfl, rfl, ?_, ?_, ?_, ?_, ?_⟩
    · intro name value hmem
      cases List.mem_singleton.mp hmem
      exact isColumn_hiddenMembers
    · intro name hname
      cases hname
    · intro key hkey
      cases hkey
    · intro value hvalue
      cases hvalue
    · intro name value hmem hnested
      cases List.mem_singleton.mp hmem
      exact absurd hnested hwhole

end SchemaTables
