import SchemaTables.Proofs.Schema.NestedFaults

/-!
# Documents with one table

The tables of a document are read independently of each other.  A document that keeps one of the
tables of a well-formed document, and all else, is well-formed again; the faults of the document are
those of the documents with one table, one after the other, and its tables are theirs
(`faults_eq_flatMap_onlyTable`).
-/

namespace SchemaTables

/-- The document with one of its tables in place of all. -/
def Json.onlyTable (entry : String × Json) : Json → Json
  | .object members => .object (Keyed.insert members "properties" (.object [entry]))
  | document => document

namespace Schema

variable {members properties : Keyed Json}

theorem documentProperties?_object_eq_some_iff :
    documentProperties? (.object members) = some properties ↔
      objectProperties? members = some properties ∧ isWellFormed (.object members) = true := by
  rw [documentProperties?]
  cases hproperties : objectProperties? members with
  | none => simp
  | some found =>
      by_cases hwellFormed : isWellFormed (.object members) = true
      · simp [hwellFormed]
      · simp [hwellFormed]

theorem isWellFormed_insert (h : isWellFormed (.object members) = true) {keyword : String}
    {value : Json} (hvalue : hasShape Pattern.isValid (shapeOf keyword) value = true) :
    isWellFormed (.object (Keyed.insert members keyword value)) = true := by
  rw [isWellFormed, allKeywords_eq_all, List.all_eq_true] at h ⊢
  rintro ⟨name, stored⟩ hmem
  rcases Keyed.mem_of_mem_insert hmem with ⟨rfl, rfl⟩ | hold
  · exact hvalue
  · exact h (name, stored) hold

/-- A document that keeps one table is well-formed, and has that table. -/
theorem documentProperties?_onlyTable {document : Json}
    (h : documentProperties? document = some properties) {entry : String × Json}
    (hentry : entry ∈ properties) :
    documentProperties? (document.onlyTable entry) = some [entry] := by
  obtain ⟨name, table⟩ := entry
  have htable : isWellFormed table = true := isWellFormed_of_documentProperties? h hentry
  obtain ⟨members, rfl, -⟩ := documentProperties?_eq_some h
  obtain ⟨hobject, hwellFormed⟩ := documentProperties?_object_eq_some_iff.mp h
  obtain ⟨htype, -⟩ := objectProperties?_eq_some_iff.mp hobject
  refine documentProperties?_object_eq_some_iff.mpr ⟨objectProperties?_eq_some_iff.mpr ⟨?_, ?_⟩, ?_⟩
  · have hne : "properties" ≠ "type" := by decide
    rw [Json.stringMember?, Keyed.get?_insert, if_neg hne]
    exact htype
  · rw [Keyed.get?_insert, if_pos rfl]
  · apply isWellFormed_insert hwellFormed
    have hshape : shapeOf "properties" = .schemaMap := rfl
    rw [hshape, hasShape, List.all_cons, htable]
    rfl

end Schema

theorem forall₂_congr_left {α β : Type} {R S : α → β → Prop} {first : List α} {second : List β}
    (h : ∀ a ∈ first, ∀ b, R a b ↔ S a b) :
    List.Forall₂ R first second ↔ List.Forall₂ S first second := by
  induction first generalizing second with
  | nil => rw [List.forall₂_nil_left_iff, List.forall₂_nil_left_iff]
  | cons a rest ih =>
      obtain ⟨ha, hrest⟩ := List.forall_mem_cons.mp h
      simp only [List.forall₂_cons_left_iff, ha, ih hrest]

namespace Database

variable {document : Json} {properties : Keyed Json}

theorem read_eq_ok_iff_meansTables (h : Schema.documentProperties? document = some properties)
    {database : Database} :
    read document = .ok database ↔ Json.MeansTables properties database := by
  obtain ⟨hdocument, members, rfl, hmembers⟩ := documentProperties?_eq_some_iff.mp h
  rw [read_eq_ok_iff]
  constructor
  · rintro ⟨-, others, found, hobject, hfound, htables⟩
    cases hobject
    cases hmembers.symm.trans hfound
    exact htables
  · intro htables
    exact ⟨hdocument, members, properties, rfl, hmembers, htables⟩

/-- A document that keeps one table has the faults of that table. -/
theorem faults_onlyTable (h : Schema.documentProperties? document = some properties)
    {entry : String × Json} (hentry : entry ∈ properties) :
    faults (document.onlyTable entry) = entryFaults entry := by
  rw [faults_eq_readTables (Schema.documentProperties?_onlyTable h hentry), readTables_eq,
    List.flatMap_singleton]

theorem read_onlyTable_eq_ok_iff (h : Schema.documentProperties? document = some properties)
    {entry : String × Json} (hentry : entry ∈ properties) {table : String × TableSchema} :
    read (document.onlyTable entry) = .ok [table] ↔
      entry.1 = table.1 ∧ entry.2.MeansTopTable table.2 := by
  rw [read_eq_ok_iff_meansTables (Schema.documentProperties?_onlyTable h hentry),
    Json.MeansTables, List.forall₂_cons]
  exact and_iff_left List.Forall₂.nil

end Database

/-- The faults of a well-formed document are those of the documents that keep one of its tables, in
order; and it is read as a database exactly if each of them is, and then as the tables of these. -/
theorem faults_eq_flatMap_onlyTable {document : Json} {properties : Keyed Json}
    (h : Schema.documentProperties? document = some properties) :
    (∀ entry ∈ properties,
        Schema.documentProperties? (document.onlyTable entry) = some [entry]) ∧
      Database.faults document =
        properties.flatMap (fun entry => Database.faults (document.onlyTable entry)) ∧
      ∀ database, Database.read document = .ok database ↔
        List.Forall₂ (fun entry table => Database.read (document.onlyTable entry) = .ok [table])
          properties database := by
  refine ⟨fun entry hentry => Schema.documentProperties?_onlyTable h hentry, ?_, ?_⟩
  · rw [Database.faults_eq_readTables h, readTables_eq]
    exact List.flatMap_congr fun entry hentry => (Database.faults_onlyTable h hentry).symm
  · intro database
    rw [Database.read_eq_ok_iff_meansTables h]
    apply forall₂_congr_left
    intro entry hentry table
    exact (Database.read_onlyTable_eq_ok_iff h hentry).symm

/-! ## Users and posts -/

/-- Users whose identifier has no known format and who lack a field that is required, and posts
whose author is a table without a column. -/
def draftTables : Keyed Json :=
  [("users", .object
      [("type", .string "object"),
        ("required", .array [.string "key"]),
        ("properties", .object
          [("id", .object [("type", .string "string"), ("format", .string "key")])])]),
    ("posts", .object
      [("type", .string "object"),
        ("properties", .object [("author", .object [("$ref", .string "#/users")])])])]

def draftDocument : Json :=
  .object
    [("title", .string "drafts"), ("type", .string "object"),
      ("properties", .object draftTables)]

/-- The three faults are met one table after the other. -/
theorem faults_eq_flatMap_onlyTable_drafts :
    Schema.documentProperties? draftDocument = some draftTables ∧
      (Database.faults draftDocument).map (·.path) =
        [["properties", "users", "properties", "id", "format"], ["properties", "users"],
          ["properties", "posts", "properties", "author", "$ref"]] := by
  have hdocument : Schema.documentProperties? draftDocument = some draftTables := rfl
  obtain ⟨-, hfaults, -⟩ := faults_eq_flatMap_onlyTable hdocument
  refine ⟨hdocument, ?_⟩
  rw [hfaults]
  rfl

end SchemaTables
