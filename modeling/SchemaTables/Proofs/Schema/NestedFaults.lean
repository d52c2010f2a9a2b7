import SchemaTables.Proofs.Schema.Places
import SchemaTables.Proofs.Schema.Shapes
import SchemaTables.Proofs.Schema.Grammar
import SchemaTables.Proofs.Json.Distinct

/-!
# Faults in nested tables

A nested table lies in columns of objects and of arrays, one inside the other.  Its faults are those
that it has on its own, told from the whole document; but the reader comes to it only if it looks
into every column on the way.  It does not look into a column whose default, enumeration or metadata
cannot be read, nor into an array of arrays, and then no fault of the table is reported
(`nested_fault_reported_iff`).
-/

namespace SchemaTables

namespace Json

/-! ## Ways to nested tables -/

/-- The column holds the table at a place within it.  The columns on the way are listed with their
members, the one of the table itself being the last; none of them is stored whole. -/
inductive HoldsTable : Json → List String → List (Keyed Json) → Json → Prop
  | here {members raw : Keyed Json} (href : stringMember? members "$ref" = none)
      (htype : typeName? members = some (.container .object)) (hstored : ¬ IsStored members)
      (hproperties : Keyed.get? members "properties" = some (.object raw)) :
      HoldsTable (.object members) [] [members] (.object members)
  | property {members raw : Keyed Json} {name : String} {value table : Json} {place : List String}
      {columns : List (Keyed Json)} (href : stringMember? members "$ref" = none)
      (htype : typeName? members = some (.container .object)) (hstored : ¬ IsStored members)
      (hproperties : Keyed.get? members "properties" = some (.object raw))
      (hmem : (name, value) ∈ raw) (hinside : HoldsTable value place columns table) :
      HoldsTable (.object members) ("properties" :: name :: place) (members :: columns) table
  | item {members inner : Keyed Json} {table : Json} {place : List String}
      {columns : List (Keyed Json)} (href : stringMember? members "$ref" = none)
      (htype : typeName? members = some (.container .array)) (hstored : ¬ IsStored members)
      (hitems : members.get? "items" = some (.object inner))
      (hinside : HoldsTable (.object inner) place columns table) :
      HoldsTable (.object members) ("items" :: place) (members :: columns) table

/-- The well-formed document holds the table in a column of one of its top-level tables. -/
inductive NestsTable (document : Json) : List String → List (Keyed Json) → Json → Prop
  | mk {properties members raw : Keyed Json} {name column : String} {value table : Json}
      {place : List String} {columns : List (Keyed Json)}
      (hdocument : Schema.documentProperties? document = some properties)
      (htop : (name, .object members) ∈ properties)
      (hraw : Schema.objectProperties? members = some raw) (hmem : (column, value) ∈ raw)
      (hinside : value.HoldsTable place columns table) :
      NestsTable document ("properties" :: name :: "properties" :: column :: place) columns table

/-- A column that the reader looks into: its attributes can be read, and it is no array of
arrays. -/
structure IsOpen (members : Keyed Json) : Prop where
  attributes : HasAttributes members
  items : typeName? members = some (.container .array) → ∀ inner,
    members.get? "items" = some (.object inner) → typeName? inner ≠ some (.container .array)

/-- The document that has a table at its top, and nothing else. -/
def standalone (name : String) (table : Json) : Json :=
  .object [("type", .string "object"), ("properties", .object [(name, table)])]

end Json

/-- The faults that are met in reading a document. -/
def Database.faults (document : Json) : List Diagnostic :=
  match Database.read document with
  | .ok _ => []
  | .error faults => faults

open Json

/-! ## Columns that the reader does not look into -/

/-- The keyword gives a value, or it gives none and all faults are met there. -/
def Report.SettledAt (keyword : String) (report : Report (Option α)) : Prop :=
  (∃ value, report = ⟨some value, []⟩) ∨
    report.value = none ∧ ∀ diagnostic ∈ report.faults, ∃ rest, diagnostic.path = keyword :: rest

theorem Report.settledAt_refuse (keyword : String) (rest : List String) (fault : Fault) :
    (refuse (keyword :: rest) fault : Report (Option α)).SettledAt keyword := by
  refine Or.inr ⟨rfl, ?_⟩
  intro diagnostic hdiagnostic
  rw [List.mem_singleton.mp hdiagnostic]
  exact ⟨rest, rfl⟩

theorem settledAt_readDefault (value? : Option Json) :
    (readDefault [] value?).SettledAt "default" := by
  rw [readDefault.eq_def]
  split
  · exact Or.inl ⟨none, rfl⟩
  · split
    · exact Or.inl ⟨_, rfl⟩
    · exact Report.settledAt_refuse _ _ _

theorem settledAt_readChoices (value? : Option Json) :
    (readChoices [] value?).SettledAt "enum" := by
  rw [readChoices.eq_def]
  split
  · split
    · exact Or.inl ⟨_, rfl⟩
    · exact Report.settledAt_refuse _ _ _
  · exact Or.inl ⟨none, rfl⟩

theorem settledAt_readMetadata (value? : Option Json) :
    (readMetadata [] value?).SettledAt "metadata" := by
  rw [readMetadata.eq_def]
  split
  · exact Or.inl ⟨{}, rfl⟩
  · split
    · exact Or.inl ⟨_, rfl⟩
    · exact Report.settledAt_refuse _ _ _

section

variable {members raw inner : Keyed Json} {value : Json} {diagnostic : Diagnostic}

theorem readAttributes_of_not_hasAttributes (h : ¬ HasAttributes members) :
    (readAttributes [] members).value = none ∧
      ∀ diagnostic ∈ (readAttributes [] members).faults, ∃ keyword rest,
        keyword ∈ ["default", "enum", "metadata"] ∧ diagnostic.path = keyword :: rest := by
  have hdefault := settledAt_readDefault (members.get? "default")
  have hchoices := settledAt_readChoices (members.get? "enum")
  have hmetadata := settledAt_readMetadata (members.get? "metadata")
  constructor
  · by_contra hvalue
    apply h
    -- a value is only given where none of the three readings has a fault
    have hfaults : (readAttributes [] members).faults = [] := by
      rw [readAttributes] at hvalue ⊢
      rcases hdefault with ⟨initial, hinitial⟩ | ⟨hnone, -⟩
      · rcases hchoices with ⟨choices, hchoices⟩ | ⟨hnone, -⟩
        · rcases hmetadata with ⟨metadata, hmetadata⟩ | ⟨hnone, -⟩
          · rw [hinitial, hchoices, hmetadata]
            rfl
          · simp [hnone] at hvalue
        · simp [hnone] at hvalue
      · simp [hnone] at hvalue
    obtain ⟨attributes, -, hmeans⟩ := readAttributes_means hfaults
    exact hasAttributes_iff.mpr ⟨attributes, hmeans⟩
  · have hmet : ∀ {α : Type} {keyword : String} {report : Report (Option α)},
        report.SettledAt keyword → ∀ diagnostic ∈ report.faults, ∃ rest,
          diagnostic.path = keyword :: rest := by
      intro α keyword report hsettled diagnostic hmem
      rcases hsettled with ⟨value, rfl⟩ | ⟨-, hfaults⟩
      · simp at hmem
      · exact hfaults diagnostic hmem
    intro diagnostic hmem
    rcases List.mem_append.mp hmem with hmem | hmem
    · rcases List.mem_append.mp hmem with hmem | hmem
      · obtain ⟨rest, hrest⟩ := hmet hdefault diagnostic hmem
        exact ⟨"default", rest, by simp, hrest⟩
      · obtain ⟨rest, hrest⟩ := hmet hchoices diagnostic hmem
        exact ⟨"enum", rest, by simp, hrest⟩
    · obtain ⟨rest, hrest⟩ := hmet hmetadata diagnostic hmem
      exact ⟨"metadata", rest, by simp, hrest⟩

/-! ## What is read inside of a column -/

theorem readContainer_of_not_hasAttributes (h : ¬ HasAttributes members) (shape : Container)
    (inside : Report (Option Property)) :
    (readContainer [] members shape inside).faults = (readAttributes [] members).faults := by
  rw [readContainer, Report.andThen, (readAttributes_of_not_hasAttributes h).1]

theorem readContainer_of_hasAttributes (h : HasAttributes members) (hstored : ¬ IsStored members)
    (path : List String) (shape : Container) (inside : Report (Option Property)) :
    readContainer path members shape inside = inside := by
  obtain ⟨attributes, hmeans⟩ := hasAttributes_iff.mp h
  have hstorage : attributes.metadata.storage = none := by
    by_contra hsome
    exact hstored ((isStored_iff hmeans).mpr hsome)
  rw [readContainer_eq hmeans, hstorage]

theorem readProperty_object (href : stringMember? members "$ref" = none)
    (htype : typeName? members = some (.container .object))
    (hproperties : Keyed.get? members "properties" = some (.object raw)) (path : List String) :
    readProperty path (.object members) = readContainer path members .object
      (((readProperties path raw).toTable path members raw).map fun table =>
        some (.nested table)) := by
  rw [readProperty, href]
  dsimp only
  rw [htype]
  dsimp only
  rw [readNested_eq, hproperties]
  rfl

theorem readProperty_array (href : stringMember? members "$ref" = none)
    (htype : typeName? members = some (.container .array))
    (hitems : members.get? "items" = some (.object inner)) (path : List String) :
    readProperty path (.object members) = readContainer path members .array
      (if typeName? inner = some (.container .array) then .refuse path .arrayOfArrays
        else (readProperty (path ++ ["items"]) (.object inner)).map
          (Option.map Property.list)) := by
  rw [readProperty, href]
  dsimp only
  rw [htype]
  dsimp only
  rw [readList_eq, hitems]
  rfl

/-- The faults that are met in the properties of a table, one property after the other. -/
theorem readProperties_faults (raw : Keyed Json) :
    (readProperties [] raw).faults = raw.flatMap fun entry =>
      (readProperty [] entry.2).faults.map (Diagnostic.under ["properties", entry.1]) := by
  induction raw with
  | nil => rw [readProperties, List.flatMap_nil]
  | cons entry rest ih =>
      obtain ⟨key, value⟩ := entry
      rw [readProperties, List.flatMap_cons, ← ih, List.nil_append,
        readProperty_eq_under ["properties", key], Report.under]

/-- Among the faults of all entries, those under the name of one are its own. -/
theorem mem_flatMap_under_iff {entries : Keyed Json} {name : String} {place : List String}
    {cause : Fault} (faults : Json → List Diagnostic) (hdistinct : Keyed.Distinct entries)
    (hmem : (name, value) ∈ entries) :
    ⟨"properties" :: name :: place, cause⟩ ∈ (entries.flatMap fun entry =>
        (faults entry.2).map (Diagnostic.under ["properties", entry.1])) ↔
      ⟨place, cause⟩ ∈ faults value := by
  constructor
  · intro h
    obtain ⟨⟨key, other⟩, hother, hfault⟩ := List.mem_flatMap.mp h
    obtain ⟨met, hmet, heq⟩ := List.mem_map.mp hfault
    simp only [Diagnostic.under, List.cons_append, List.nil_append, Diagnostic.mk.injEq,
      List.cons.injEq, true_and] at heq
    obtain ⟨⟨rfl, rfl⟩, rfl⟩ := heq
    rw [hdistinct.eq_of_mem hother hmem] at hmet
    exact hmet
  · intro h
    exact List.mem_flatMap.mpr ⟨(name, value), hmem, List.mem_map.mpr ⟨_, h, rfl⟩⟩

/-- The faults of a table are met at it, or in its properties. -/
theorem path_of_mem_toTable
    (h : diagnostic ∈ ((readProperties [] raw).toTable [] members raw).faults) :
    diagnostic.path = [] ∨ ∃ rest, diagnostic.path = "properties" :: rest := by
  rcases List.mem_append.mp h with hinside | hself
  · rw [readProperties_faults] at hinside
    obtain ⟨⟨key, value⟩, -, hvalue⟩ := List.mem_flatMap.mp hinside
    obtain ⟨met, -, rfl⟩ := List.mem_map.mp hvalue
    exact Or.inr ⟨key :: met.path, rfl⟩
  · obtain ⟨fault, -, rfl⟩ := List.mem_map.mp hself
    exact Or.inl rfl

/-- The faults of a table in one of its properties are those of the property. -/
theorem mem_toTable_iff {name : String} {place : List String} {cause : Fault}
    (hdistinct : Keyed.Distinct raw) (hmem : (name, value) ∈ raw) :
    ⟨"properties" :: name :: place, cause⟩ ∈
        ((readProperties [] raw).toTable [] members raw).faults ↔
      ⟨place, cause⟩ ∈ (readProperty [] value).faults := by
  rw [Report.toTable, List.mem_append, readProperties_faults,
    mem_flatMap_under_iff (fun value => (readProperty [] value).faults) hdistinct hmem]
  -- the faults of the table itself are met at no property
  refine or_iff_left ?_
  intro hself
  obtain ⟨fault, -, heq⟩ := List.mem_map.mp hself
  cases heq

/-- The faults of a nested table are those of its column if the attributes can be read. -/
theorem mem_readProperty_object_iff {place : List String} {cause : Fault}
    (href : stringMember? members "$ref" = none)
    (htype : typeName? members = some (.container .object)) (hstored : ¬ IsStored members)
    (hproperties : Keyed.get? members "properties" = some (.object raw))
    (hplace : place = [] ∨ ∃ rest, place = "properties" :: rest) :
    ⟨place, cause⟩ ∈ (readProperty [] (.object members)).faults ↔ HasAttributes members ∧
      ⟨place, cause⟩ ∈ ((readProperties [] raw).toTable [] members raw).faults := by
  rw [readProperty_object href htype hproperties]
  by_cases hattributes : HasAttributes members
  · rw [readContainer_of_hasAttributes hattributes hstored]
    exact (and_iff_right hattributes).symm
  · rw [readContainer_of_not_hasAttributes hattributes]
    refine iff_of_false ?_ fun h => hattributes h.1
    -- the faults of the attributes are met elsewhere
    intro hmem
    obtain ⟨keyword, rest, hkeyword, hpath⟩ :=
      (readAttributes_of_not_hasAttributes hattributes).2 _ hmem
    rcases hplace with rfl | ⟨others, rfl⟩
    · cases hpath
    · cases hpath
      revert hkeyword
      decide

/-- The faults of items are those of their column if its attributes can be read and the items are
no arrays. -/
theorem mem_readProperty_array_iff {place : List String} {cause : Fault}
    (href : stringMember? members "$ref" = none)
    (htype : typeName? members = some (.container .array)) (hstored : ¬ IsStored members)
    (hitems : members.get? "items" = some (.object inner)) :
    ⟨"items" :: place, cause⟩ ∈ (readProperty [] (.object members)).faults ↔
      (HasAttributes members ∧ typeName? inner ≠ some (.container .array)) ∧
        ⟨place, cause⟩ ∈ (readProperty [] (.object inner)).faults := by
  rw [readProperty_array href htype hitems]
  by_cases hattributes : HasAttributes members
  · rw [readContainer_of_hasAttributes hattributes hstored]
    by_cases hinner : typeName? inner = some (.container .array)
    · rw [if_pos hinner]
      refine iff_of_false ?_ fun h => h.1.2 hinner
      intro hmem
      cases List.mem_singleton.mp hmem
    · rw [if_neg hinner, List.nil_append, readProperty_eq_under ["items"],
        and_iff_right ⟨hattributes, hinner⟩]
      constructor
      · intro hmem
        obtain ⟨met, hmet, heq⟩ := List.mem_map.mp hmem
        cases heq
        exact hmet
      · intro hmem
        exact List.mem_map.mpr ⟨_, hmem, rfl⟩
  · rw [readContainer_of_not_hasAttributes hattributes]
    refine iff_of_false ?_ fun h => hattributes h.1.1
    intro hmem
    obtain ⟨keyword, rest, hkeyword, hpath⟩ :=
      (readAttributes_of_not_hasAttributes hattributes).2 _ hmem
    cases hpath
    revert hkeyword
    decide

/-! ## Along the way to a nested table -/

theorem isOpen_object_iff (htype : typeName? members = some (.container .object)) :
    IsOpen members ↔ HasAttributes members := by
  refine ⟨IsOpen.attributes, fun h => ⟨h, ?_⟩⟩
  intro harray
  simp [htype] at harray

theorem isOpen_array_iff (htype : typeName? members = some (.container .array))
    (hitems : members.get? "items" = some (.object inner)) :
    IsOpen members ↔ HasAttributes members ∧ typeName? inner ≠ some (.container .array) := by
  refine ⟨fun h => ⟨h.attributes, h.items htype inner hitems⟩, fun h => ⟨h.1, ?_⟩⟩
  intro _ other hother
  cases hitems.symm.trans hother
  exact h.2

theorem typeName?_object_iff :
    typeName? members = some (.container .object) ↔
      stringMember? members "type" = some "object" := by
  rw [typeName?]
  constructor
  · intro h
    obtain ⟨name, hname, htype⟩ := Option.bind_eq_some_iff.mp h
    rw [TypeName.ofName?] at htype
    grind
  · intro h
    rw [h]
    rfl

theorem readTable_of_properties (htype : typeName? members = some (.container .object))
    (hproperties : Keyed.get? members "properties" = some (.object raw)) (path : List String) :
    readTable path (.object members) =
      ((readProperties path raw).toTable path members raw).map some := by
  have hraw : Schema.objectProperties? members = some raw :=
    objectProperties?_eq_some_iff.mpr ⟨typeName?_object_iff.mp htype, hproperties⟩
  rw [readTable, hraw]

/-- A fault of a nested table is one of the column that holds the table if the reader looks into
every column on the way. -/
theorem Json.HoldsTable.mem_faults_iff {place rest : List String} {columns : List (Keyed Json)}
    {table : Json} {cause : Fault} (h : value.HoldsTable place columns table)
    (hdistinct : value.Distinct) (hfault : ⟨rest, cause⟩ ∈ (readTable [] table).faults) :
    ⟨place ++ rest, cause⟩ ∈ (readProperty [] value).faults ↔
      ∀ members ∈ columns, IsOpen members := by
  induction h with
  | here href htype hstored hproperties =>
      rw [readTable_of_properties htype hproperties] at hfault
      rw [List.nil_append, mem_readProperty_object_iff href htype hstored hproperties
        (path_of_mem_toTable hfault), List.forall_mem_singleton, isOpen_object_iff htype]
      exact and_iff_left hfault
  | property href htype hstored hproperties hmem _ ih =>
      have hraw := hdistinct.get? hproperties
      rw [List.cons_append, List.cons_append, mem_readProperty_object_iff href htype hstored
        hproperties (Or.inr ⟨_, rfl⟩), mem_toTable_iff hraw.keyed hmem,
        ih (hraw.of_mem hmem) hfault, List.forall_mem_cons, isOpen_object_iff htype]
  | item href htype hstored hitems _ ih =>
      rw [List.cons_append, mem_readProperty_array_iff href htype hstored hitems,
        ih (hdistinct.get? hitems) hfault, List.forall_mem_cons, isOpen_array_iff htype hitems]

end

/-! ## Well-formed parts -/

section

variable {members raw : Keyed Json} {value : Json}

theorem hasShape_of_get? (h : Schema.isWellFormed (.object members) = true) {keyword : String}
    (hvalue : members.get? keyword = some value) :
    Schema.hasShape Pattern.isValid (Schema.shapeOf keyword) value = true := by
  rw [Schema.isWellFormed, Schema.allKeywords_eq_all, List.all_eq_true] at h
  exact h (keyword, value) (Keyed.mem_of_get? hvalue)

theorem isWellFormed_of_mem_properties (h : Schema.isWellFormed (.object members) = true)
    (hproperties : Keyed.get? members "properties" = some (.object raw)) {name : String}
    (hmem : (name, value) ∈ raw) : Schema.isWellFormed value = true := by
  have hshape : (raw.all fun entry => Schema.isWellFormed entry.2) = true :=
    hasShape_of_get? h hproperties
  exact List.all_eq_true.mp hshape (name, value) hmem

theorem Json.HoldsTable.isWellFormed {place : List String} {columns : List (Keyed Json)}
    {table : Json} (h : value.HoldsTable place columns table)
    (hvalue : Schema.isWellFormed value = true) : Schema.isWellFormed table = true := by
  induction h with
  | here => exact hvalue
  | property _ _ _ hproperties hmem _ ih =>
      exact ih (isWellFormed_of_mem_properties hvalue hproperties hmem)
  | item _ _ _ hitems _ ih => exact ih (hasShape_of_get? hvalue hitems)

theorem isWellFormed_of_documentProperties? {document : Json} {properties : Keyed Json}
    (h : Schema.documentProperties? document = some properties) {name : String}
    (hmem : (name, value) ∈ properties) : Schema.isWellFormed value = true := by
  obtain ⟨members, rfl, hmembers⟩ := documentProperties?_eq_some h
  have hdocument : Schema.isWellFormed (.object members) = true := by
    rw [Schema.documentProperties?] at h
    by_contra hnot
    simp only [hnot] at h
    split at h <;> simp at h
  exact isWellFormed_of_mem_properties hdocument hmembers hmem

end

/-! ## Faults of documents -/

namespace Database

theorem faults_eq_readTables {document : Json} {properties : Keyed Json}
    (h : Schema.documentProperties? document = some properties) :
    faults document = (readTables properties).faults := by
  rw [faults, read_eq_toExcept h, Report.toExcept]
  cases (readTables properties).faults <;> rfl

/-- The faults of a well-formed document are those of its top-level tables, in order. -/
theorem faults_eq {document : Json} {properties : Keyed Json}
    (h : Schema.documentProperties? document = some properties) :
    faults document = properties.flatMap fun entry =>
      (readTable [] entry.2).faults.map (Diagnostic.under ["properties", entry.1]) := by
  rw [faults_eq_readTables h, readTables_eq]
  refine List.flatMap_congr ?_
  intro entry _
  rw [entryFaults, readTable_eq_under, Report.under]

/-- A table that stands alone in a document has the faults that it has on its own. -/
theorem faults_standalone {table : Json} (htable : Schema.isWellFormed table = true)
    (name : String) :
    faults (Json.standalone name table) =
      (readTable [] table).faults.map (Diagnostic.under ["properties", name]) := by
  have hdocument : Schema.documentProperties? (Json.standalone name table) =
      some [(name, table)] := by
    rw [documentProperties?_eq_some_iff]
    refine ⟨?_, _, rfl, rfl⟩
    simp [Schema.isDocument, Schema.documentProperties?, Json.standalone,
      Schema.objectProperties?, Schema.isObjectSchema, Json.stringMember?, Keyed.get?,
      Schema.isWellFormed, Schema.allKeywords, Schema.shapeOf, Schema.keywords, Schema.isTypeNames,
      Schema.typeNames, Schema.allMembers, htable, Json.members?, Json.string?]
  rw [faults_eq hdocument, List.flatMap_singleton]

end Database

/-- A fault that a nested table has when it stands alone is reported for the whole document, with its
place told from there, exactly if the reader looks into every column on the way to the table. -/
theorem nested_fault_reported_iff {document table : Json} {path : List String}
    {columns : List (Keyed Json)} (hdistinct : document.Distinct)
    (h : document.NestsTable path columns table) (name : String) {diagnostic : Diagnostic}
    (hfault : diagnostic ∈ Database.faults (Json.standalone name table)) :
    ∃ rest, diagnostic.path = "properties" :: name :: rest ∧
      (⟨path ++ rest, diagnostic.fault⟩ ∈ Database.faults document ↔
        ∀ members ∈ columns, Json.IsOpen members) := by
  obtain @⟨properties, members, raw, top, column, value, table, place, columns, hdocument, htop,
    hraw, hmem, hinside⟩ := h
  obtain ⟨documentMembers, rfl, hproperties⟩ := documentProperties?_eq_some hdocument
  obtain ⟨htype, hget⟩ := objectProperties?_eq_some_iff.mp hraw
  have hobject := typeName?_object_iff.mpr htype
  have hvalue : Schema.isWellFormed value = true :=
    isWellFormed_of_mem_properties (isWellFormed_of_documentProperties? hdocument htop) hget hmem
  rw [Database.faults_standalone (hinside.isWellFormed hvalue)] at hfault
  obtain ⟨met, hmet, rfl⟩ := List.mem_map.mp hfault
  have hentries := hdistinct.get? hproperties
  rw [Json.Distinct] at hentries
  have hcolumns := (hentries.2.of_mem htop).get? hget
  rw [Json.Distinct] at hcolumns
  refine ⟨met.path, rfl, ?_⟩
  rw [Database.faults_eq hdocument]
  simp only [List.cons_append]
  rw [mem_flatMap_under_iff (fun value => (readTable [] value).faults) hentries.1 htop,
    readTable_of_properties hobject hget]
  exact (mem_toTable_iff hcolumns.1 hmem).trans
    (hinside.mem_faults_iff (hcolumns.2.of_mem hmem) hmet)

/-! ## Settings with a theme of no known format -/

/-- A column of settings whose theme has a format that is not known, with further keywords. -/
def themedSettings (further : Keyed Json) : Keyed Json :=
  [("type", .string "object"),
    ("properties", .object
      [("theme", .object [("type", .string "string"), ("format", .string "colour")])])] ++ further

def themedDocument (further : Keyed Json) : Json :=
  .object
    [("type", .string "object"),
      ("properties", .object
        [("users", .object
          [("type", .string "object"),
            ("properties", .object
              [("id", .object [("type", .string "integer")]),
                ("settings", .object (themedSettings further))])])])]

/-- The settings are nested in the users. -/
theorem nestsTable_themedDocument {further : Keyed Json} {properties : Keyed Json}
    (hdocument : Schema.documentProperties? (themedDocument further) = some properties)
    (href : stringMember? further "$ref" = none) (hstored : ¬ IsStored (themedSettings further)) :
    (themedDocument further).NestsTable ["properties", "users", "properties", "settings"]
      [themedSettings further] (.object (themedSettings further)) := by
  obtain ⟨members, hmembers, hget⟩ := documentProperties?_eq_some hdocument
  cases hmembers
  cases hget
  exact .mk hdocument List.mem_cons_self rfl (List.mem_cons_of_mem _ List.mem_cons_self)
    (.here href rfl hstored rfl)

/-- The fault of the theme is reported for the whole document, at its place there. -/
theorem nested_fault_reported_themed :
    (themedDocument []).Distinct ∧
      (⟨["properties", "users", "properties", "settings", "properties", "theme", "format"],
        .unsupportedFormat "colour"⟩ : Diagnostic) ∈ Database.faults (themedDocument []) := by
  have hdistinct : (themedDocument []).Distinct := by
    simp [themedDocument, themedSettings, Json.Distinct, Json.DistinctMembers, Keyed.Distinct,
      Keyed.keys]
  have hstored : ¬ IsStored (themedSettings []) := by
    rintro ⟨value, metadata, hvalue, -, -⟩
    cases hvalue
  have hnests := nestsTable_themedDocument rfl rfl hstored
  have halone : (⟨["properties", "settings", "properties", "theme", "format"],
      .unsupportedFormat "colour"⟩ : Diagnostic) ∈
        Database.faults (Json.standalone "settings" (.object (themedSettings []))) :=
    List.mem_cons_self
  obtain ⟨rest, hrest, hreported⟩ := nested_fault_reported_iff hdistinct hnests "settings" halone
  cases hrest
  refine ⟨hdistinct, hreported.mpr ?_⟩
  refine List.forall_mem_singleton.mpr ⟨⟨?_, ?_, ?_⟩, ?_⟩
  · intro value hvalue
    cases hvalue
  · intro items hitems
    cases hitems
  · intro value hvalue
    cases hvalue
  · intro htype
    cases htype

/-- With a default that is null the settings are not looked into: their own fault, which they have
when they stand alone, is not reported. -/
theorem nested_fault_hidden_themed :
    (themedDocument [("default", .null)]).NestsTable ["properties", "users", "properties", "settings"]
        [themedSettings [("default", .null)]] (.object (themedSettings [("default", .null)])) ∧
      Database.read (Json.standalone "settings" (.object (themedSettings [("default", .null)]))) =
        .error [⟨["properties", "settings", "properties", "theme", "format"],
          .unsupportedFormat "colour"⟩] ∧
      Database.read (themedDocument [("default", .null)]) =
        .error [⟨["properties", "users", "properties", "settings", "default"],
          .defaultNotScalar⟩] ∧
      (⟨["properties", "users", "properties", "settings", "properties", "theme", "format"],
          .unsupportedFormat "colour"⟩ : Diagnostic) ∉
        Database.faults (themedDocument [("default", .null)]) := by
  have hstored : ¬ IsStored (themedSettings [("default", .null)]) := by
    rintro ⟨value, metadata, hvalue, -, -⟩
    cases hvalue
  have hread : Database.read (themedDocument [("default", .null)]) =
      .error [⟨["properties", "users", "properties", "settings", "default"],
        .defaultNotScalar⟩] := rfl
  refine ⟨nestsTable_themedDocument rfl rfl hstored, rfl, hread, ?_⟩
  rw [Database.faults, hread]
  simp

end SchemaTables
