import SchemaTables.Proofs.Schema.Meaning

/-!
# What a part of a document means is read

The converse of `readProperty_means`: a part of a document that declares a property is read as this
property, and no fault is met (`Json.Means.read`).  A part therefore declares at most one property.

Together the two directions describe the reading of whole documents: a document is read as the
database that it declares, and as no other (`Database.read_eq_ok_iff`).
-/

namespace SchemaTables

open Json

/-! ## Attributes -/

theorem readDefault_eq {value? : Option Json} {initial : Option Scalar}
    (h : value?.map Scalar.ofJson? = initial.map some) (path : List String) :
    readDefault path value? = ⟨some initial, []⟩ := by
  cases value? with
  | none =>
      cases initial with
      | none => rfl
      | some scalar => cases h
  | some value =>
      cases initial with
      | none => cases h
      | some scalar =>
          have hscalar : Scalar.ofJson? value = some scalar := Option.some.inj h
          rw [readDefault, hscalar]

theorem readChoices_eq {value? : Option Json} {choices : Option (List Scalar)}
    (h : (value?.bind items?).map (List.mapM Scalar.ofJson?) = choices.map some)
    (path : List String) : readChoices path value? = ⟨some choices, []⟩ := by
  cases hitems : value?.bind items? with
  | none =>
      have hnone : choices = none := by
        rw [hitems] at h
        exact Option.map_eq_none_iff.mp h.symm
      subst hnone
      cases value? with
      | none => rfl
      | some value => cases value <;> first | rfl | cases hitems
  | some items =>
      obtain ⟨value, rfl, hvalue⟩ := Option.bind_eq_some_iff.mp hitems
      cases value with
      | array found =>
          cases hvalue
          cases choices with
          | none => cases h
          | some scalars =>
              have hscalars : items.mapM Scalar.ofJson? = some scalars := Option.some.inj h
              rw [readChoices, hscalars]
      | _ => cases hvalue

theorem readMetadata_eq {value? : Option Json} {metadata : Metadata}
    (h : MeansMetadata value? metadata) (path : List String) :
    readMetadata path value? = ⟨some metadata, []⟩ := by
  cases value? with
  | none =>
      have hmetadata : metadata = {} := h
      rw [hmetadata]
      rfl
  | some value =>
      have hdecode : Metadata.decode value = .ok metadata := h
      rw [readMetadata, hdecode]

theorem readAttributes_eq {members : Keyed Json} {attributes : Attributes}
    (h : MeansAttributes members attributes) (path : List String) :
    readAttributes path members = ⟨some attributes, []⟩ := by
  rw [readAttributes, readDefault_eq h.default, readChoices_eq h.choices,
    readMetadata_eq h.metadata, ← h.title, ← h.description, ← h.minimum, ← h.maximum]
  rfl

theorem readFormat_eq {members : Keyed Json} {format : Option TextFormat}
    (h : MeansFormat members format) (path : List String) :
    readFormat path members = ⟨format, []⟩ := by
  rw [MeansFormat] at h
  rw [readFormat]
  cases hname : stringMember? members "format" with
  | none =>
      rw [hname] at h
      rw [Option.map_eq_none_iff.mp h.symm]
  | some name =>
      rw [hname] at h
      cases format with
      | none => cases h
      | some found =>
          have hformat : TextFormat.ofName? name = some found := Option.some.inj h
          simp only [hformat]

/-! ## Members that hold others -/

/-- A nested table is read from the properties that a look-up finds. -/
theorem readNested_eq (path : List String) (members : Keyed Json) :
    ∀ rest : Keyed Json, readNested path members rest =
      match (rest.get? "properties").bind members? with
      | some raw =>
        ((readProperties path raw).toTable path members raw).map fun table => some (.nested table)
      | none => .refuse path .objectWithoutProperties
  | [] => by rw [readNested, Keyed.get?, Option.bind_none]
  | (key, value) :: rest => by
      rw [readNested.eq_def]
      dsimp only
      rw [Keyed.get?]
      by_cases hkey : key = "properties"
      · rw [if_pos hkey, if_pos hkey]
        cases value <;> rfl
      · rw [if_neg hkey, if_neg hkey]
        exact readNested_eq path members rest

/-- A list is read from the items that a look-up finds. -/
theorem readList_eq (path : List String) :
    ∀ rest : Keyed Json, readList path rest =
      match (rest.get? "items").bind members? with
      | some inner =>
        if typeName? inner = some (.container .array) then .refuse path .arrayOfArrays
        else (readProperty (path ++ ["items"]) (.object inner)).map (Option.map Property.list)
      | none => .refuse path .arrayWithoutItems
  | [] => by rw [readList, Keyed.get?, Option.bind_none]
  | (key, value) :: rest => by
      rw [readList.eq_def]
      dsimp only
      rw [Keyed.get?]
      by_cases hkey : key = "items"
      · rw [if_pos hkey, if_pos hkey]
        cases value <;> rfl
      · rw [if_neg hkey, if_neg hkey]
        exact readList_eq path rest

theorem readContainer_eq {members : Keyed Json} {attributes : Attributes}
    (h : MeansAttributes members attributes) (path : List String) (shape : Container)
    (inside : Report (Option Property)) :
    readContainer path members shape inside =
      match attributes.metadata.storage with
      | some storage => ⟨some (.document shape storage attributes), []⟩
      | none => inside := by
  rw [readContainer, readAttributes_eq h, Report.andThen]
  dsimp only
  cases attributes.metadata.storage <;> rfl

/-! ## Properties and tables -/

theorem toTable_eq {path : List String} {members raw : Keyed Json} {properties : Keyed Property}
    (hproperties : readProperties path raw = ⟨properties, []⟩)
    (hrules :
      tableFaults (stringMember? members "x-primary-key") (requiredNames members) raw = []) :
    (readProperties path raw).toTable path members raw =
      ⟨⟨properties, requiredNames members, stringMember? members "x-primary-key"⟩, []⟩ := by
  rw [hproperties, Report.toTable]
  dsimp only
  rw [hrules]
  rfl

namespace Json

mutual

/-- What a part of a document means is what is read from it, without faults. -/
theorem Means.read : ∀ {value : Json} {property : Property}, Means value property →
    ∀ path, readProperty path value = ⟨some property, []⟩
  | _, _, .reference href hstart hlength, path => by
      rw [readProperty, href]
      dsimp only
      rw [referenceFaults_eq_nil_iff.mpr ⟨hstart, hlength⟩]
  | _, _, .primitive href htype hattributes, path => by
      rw [readProperty, href]
      dsimp only
      rw [htype]
      dsimp only
      rw [readAttributes_eq hattributes]
      rfl
  | _, _, .text href htype hformat hattributes, path => by
      rw [readProperty, href]
      dsimp only
      rw [htype]
      dsimp only
      rw [readText, readFormat_eq hformat, readAttributes_eq hattributes]
      rfl
  | _, _, @Means.document members shape storage attributes href htype hattributes hstorage, path => by
      rw [readProperty, href]
      dsimp only
      rw [htype]
      cases shape with
      | object =>
          dsimp only
          rw [readContainer_eq hattributes, hstorage]
      | array =>
          dsimp only
          rw [readContainer_eq hattributes, hstorage]
  | _, _, .nested href htype hattributes hstorage hproperties htable, path => by
      rw [readProperty, href]
      dsimp only
      rw [htype]
      dsimp only
      rw [readContainer_eq hattributes, hstorage]
      dsimp only
      rw [readNested_eq, hproperties, Option.bind_some, members?]
      dsimp only
      rw [htable.read path]
      rfl
  | _, _, .list href htype hattributes hstorage hitems hinner hmeans, path => by
      rw [readProperty, href]
      dsimp only
      rw [htype]
      dsimp only
      rw [readContainer_eq hattributes, hstorage]
      dsimp only
      rw [readList_eq, hitems, Option.bind_some, members?]
      dsimp only
      rw [if_neg hinner, hmeans.read]
      rfl

theorem MeansTable.read : ∀ {members raw : Keyed Json} {table : TableSchema},
    MeansTable members raw table →
      ∀ path, (readProperties path raw).toTable path members raw = ⟨table, []⟩
  | _, _, _, .mk hproperties hrules, path => toTable_eq (hproperties.read path) hrules

theorem MeansAll.read : ∀ {raw : Keyed Json} {properties : Keyed Property},
    MeansAll raw properties → ∀ path, readProperties path raw = ⟨properties, []⟩
  | _, _, .nil, path => by rw [readProperties]
  | _, _, .cons hmeans hrest, path => by
      rw [readProperties, hmeans.read, hrest.read]
      rfl

end

/-- A part of a document declares one property at most. -/
theorem Means.unique {value : Json} {first second : Property} (hfirst : Means value first)
    (hsecond : Means value second) : first = second := by
  have hread := (hfirst.read []).symm.trans (hsecond.read [])
  exact Option.some.inj (congrArg Report.value hread)

/-! ## Tables and databases -/

/-- The value declares the table of a database. -/
def MeansTopTable (value : Json) (table : TableSchema) : Prop :=
  ∃ members raw, value = .object members ∧ stringMember? members "type" = some "object" ∧
    Keyed.get? members "properties" = some (.object raw) ∧ MeansTable members raw table

/-- The members of an object declare these tables, one by one. -/
def MeansTables (properties : Keyed Json) (database : Database) : Prop :=
  List.Forall₂ (fun member table => member.1 = table.1 ∧ member.2.MeansTopTable table.2)
    properties database

/-- The document declares the database. -/
def MeansDatabase (document : Json) (database : Database) : Prop :=
  Schema.isDocument document = true ∧
    ∃ members properties, document = .object members ∧
      Keyed.get? members "properties" = some (.object properties) ∧
        MeansTables properties database

end Json

theorem objectProperties?_eq_some_iff {members raw : Keyed Json} :
    Schema.objectProperties? members = some raw ↔
      stringMember? members "type" = some "object" ∧
        Keyed.get? members "properties" = some (.object raw) := by
  rw [Schema.objectProperties?]
  by_cases hobject : Schema.isObjectSchema members = true
  · have htype : stringMember? members "type" = some "object" := by
      simpa [Schema.isObjectSchema] using hobject
    rw [if_pos hobject, Option.bind_eq_some_iff]
    constructor
    · rintro ⟨value, hvalue, hmembers⟩
      cases value with
      | object found =>
          cases hmembers
          exact ⟨htype, hvalue⟩
      | _ => cases hmembers
    · rintro ⟨-, hraw⟩
      exact ⟨.object raw, hraw, rfl⟩
  · have htype : stringMember? members "type" ≠ some "object" := by
      simpa [Schema.isObjectSchema] using hobject
    simp [hobject, htype]

theorem documentProperties?_eq_some {document : Json} {properties : Keyed Json}
    (h : Schema.documentProperties? document = some properties) :
    ∃ members, document = .object members ∧
      Keyed.get? members "properties" = some (.object properties) := by
  rw [Schema.documentProperties?.eq_def] at h
  cases document with
  | object members =>
      dsimp only at h
      cases hproperties : Schema.objectProperties? members with
      | none => simp [hproperties] at h
      | some found =>
          rw [hproperties] at h
          dsimp only at h
          split at h
          · cases h
            exact ⟨members, rfl, (objectProperties?_eq_some_iff.mp hproperties).2⟩
          · cases h
  | _ => cases h

theorem documentProperties?_eq_some_iff {document : Json} {properties : Keyed Json} :
    Schema.documentProperties? document = some properties ↔
      Schema.isDocument document = true ∧ ∃ members, document = .object members ∧
        Keyed.get? members "properties" = some (.object properties) := by
  constructor
  · intro h
    refine ⟨?_, documentProperties?_eq_some h⟩
    rw [Schema.isDocument, h]
    rfl
  · rintro ⟨hdocument, members, rfl, hmembers⟩
    obtain ⟨found, hfound⟩ := Option.isSome_iff_exists.mp hdocument
    obtain ⟨others, hobject, hothers⟩ := documentProperties?_eq_some hfound
    cases hobject
    cases hmembers.symm.trans hothers
    exact hfound

theorem readTable_means {path : List String} {value : Json}
    (h : (readTable path value).faults = []) :
    ∃ table, (readTable path value).value = some table ∧ value.MeansTopTable table := by
  cases value with
  | object members =>
      rw [readTable] at h ⊢
      cases hraw : Schema.objectProperties? members with
      | none => simp [hraw, Report.refuse] at h
      | some raw =>
          rw [hraw] at h
          obtain ⟨htype, hmembers⟩ := objectProperties?_eq_some_iff.mp hraw
          obtain ⟨hproperties, hrules⟩ := List.append_eq_nil_iff.mp h
          exact ⟨_, rfl, members, raw, rfl, htype, hmembers,
            .mk (readProperties_means path raw hproperties) (List.map_eq_nil_iff.mp hrules)⟩
  | _ => simp [readTable, Report.refuse] at h

theorem Json.MeansTopTable.read {value : Json} {table : TableSchema} (h : value.MeansTopTable table)
    (path : List String) : readTable path value = ⟨some table, []⟩ := by
  obtain ⟨members, raw, rfl, htype, hraw, htable⟩ := h
  rw [readTable, objectProperties?_eq_some_iff.mpr ⟨htype, hraw⟩]
  dsimp only
  rw [htable.read path]
  rfl

theorem readTables_eq_iff {properties : Keyed Json} {database : Database} :
    readTables properties = ⟨database, []⟩ ↔ MeansTables properties database := by
  induction properties generalizing database with
  | nil =>
      rw [readTables]
      constructor
      · intro h
        cases congrArg Report.value h
        exact .nil
      · intro h
        cases h
        rfl
  | cons entry rest ih =>
      obtain ⟨name, value⟩ := entry
      rw [readTables]
      constructor
      · intro h
        obtain ⟨hfaults, hrest⟩ := List.append_eq_nil_iff.mp (congrArg Report.faults h)
        obtain ⟨table, hvalue, htable⟩ := readTable_means hfaults
        have hothers : readTables rest = ⟨(readTables rest).value, []⟩ := by rw [← hrest]
        have hdatabase := congrArg Report.value h
        dsimp only at hdatabase
        rw [hvalue] at hdatabase
        rw [← hdatabase]
        exact .cons ⟨rfl, htable⟩ (ih.mp hothers)
      · intro h
        cases h with
        | @cons _ table _ tables hhead hrest =>
            obtain ⟨hname, htable⟩ := hhead
            obtain ⟨other, schema⟩ := table
            cases hname
            rw [htable.read, ih.mpr hrest]
            rfl

/-- A document is read as the database that it declares, and as no other. -/
theorem Database.read_eq_ok_iff {document : Json} {database : Database} :
    Database.read document = .ok database ↔ document.MeansDatabase database := by
  have hread : Database.read document = .ok database ↔
      ∃ properties, Schema.documentProperties? document = some properties ∧
        readTables properties = ⟨database, []⟩ := by
    rw [Database.read]
    cases hproperties : Schema.documentProperties? document with
    | none => simp
    | some properties =>
        dsimp only
        constructor
        · intro h
          refine ⟨properties, rfl, ?_⟩
          split at h
          · next found hfound =>
              cases h
              exact hfound
          · cases h
        · rintro ⟨found, hfound, htables⟩
          cases hfound
          rw [htables]
  rw [hread]
  constructor
  · rintro ⟨properties, hproperties, htables⟩
    obtain ⟨hdocument, members, hobject, hmembers⟩ :=
      documentProperties?_eq_some_iff.mp hproperties
    exact ⟨hdocument, members, properties, hobject, hmembers, readTables_eq_iff.mp htables⟩
  · rintro ⟨hdocument, members, properties, hobject, hmembers, htables⟩
    exact ⟨properties, documentProperties?_eq_some_iff.mpr ⟨hdocument, members, hobject, hmembers⟩,
      readTables_eq_iff.mpr htables⟩

end SchemaTables
