import SchemaTables.Proofs.Keyed
import SchemaTables.Schema.Reading

/-!
# What the parts of a document mean

The relation `Json.Means` says which property a part of a document declares, without faults and
without the order in which a reader looks for them.  It has one rule for each kind of property, and
is tied to the reader by `readProperty_means`: where a reading meets no fault, it gives a property
that the part means.  Facts about accepted documents are then proved by cases on these rules.
-/

namespace SchemaTables

namespace Json

/-! ## Attributes -/

/-- The value of the `metadata` keyword, or its absence, declares these metadata. -/
def MeansMetadata : Option Json → Metadata → Prop
  | none, metadata => metadata = {}
  | some value, metadata => Metadata.decode value = .ok metadata

/-- The members of a property declare these attributes. -/
structure MeansAttributes (members : Keyed Json) (attributes : Attributes) : Prop where
  default : (members.get? "default").map Scalar.ofJson? = attributes.default.map some
  choices :
    ((members.get? "enum").bind items?).map (List.mapM Scalar.ofJson?) =
      attributes.choices.map some
  title : attributes.title = stringMember? members "title"
  description : attributes.description = stringMember? members "description"
  minimum : attributes.minimum = (members.get? "minimum").bind number?
  maximum : attributes.maximum = (members.get? "maximum").bind number?
  metadata : MeansMetadata (members.get? "metadata") attributes.metadata

/-- The members of a text property declare this format. -/
def MeansFormat (members : Keyed Json) (format : Option TextFormat) : Prop :=
  (stringMember? members "format").map TextFormat.ofName? = format.map some

/-! ## Properties and tables -/

mutual

/-- The part of a document declares the property. -/
inductive Means : Json → Property → Prop
  | reference {members : Keyed Json} {target : String}
      (href : stringMember? members "$ref" = some target)
      (hstart : Text.startsWith "#/" target = true)
      (hlength : shortestReference ≤ (Text.split '/' target).length) :
      Means (.object members) (.reference target)
  | primitive {members : Keyed Json} {kind : Primitive} {attributes : Attributes}
      (href : stringMember? members "$ref" = none)
      (htype : typeName? members = some (.primitive kind))
      (hattributes : MeansAttributes members attributes) :
      Means (.object members) (.primitive kind attributes)
  | text {members : Keyed Json} {format : Option TextFormat} {attributes : Attributes}
      (href : stringMember? members "$ref" = none)
      (htype : typeName? members = some .string)
      (hformat : MeansFormat members format)
      (hattributes : MeansAttributes members attributes) :
      Means (.object members) (.text format attributes)
  | document {members : Keyed Json} {shape : Container} {storage : JsonStorage}
      {attributes : Attributes}
      (href : stringMember? members "$ref" = none)
      (htype : typeName? members = some (.container shape))
      (hattributes : MeansAttributes members attributes)
      (hstorage : attributes.metadata.storage = some storage) :
      Means (.object members) (.document shape storage attributes)
  | nested {members raw : Keyed Json} {attributes : Attributes} {table : TableSchema}
      (href : stringMember? members "$ref" = none)
      (htype : typeName? members = some (.container .object))
      (hattributes : MeansAttributes members attributes)
      (hstorage : attributes.metadata.storage = none)
      (hproperties : members.get? "properties" = some (.object raw))
      (htable : MeansTable members raw table) :
      Means (.object members) (.nested table)
  | list {members inner : Keyed Json} {attributes : Attributes} {items : Property}
      (href : stringMember? members "$ref" = none)
      (htype : typeName? members = some (.container .array))
      (hattributes : MeansAttributes members attributes)
      (hstorage : attributes.metadata.storage = none)
      (hitems : members.get? "items" = some (.object inner))
      (hinner : typeName? inner ≠ some (.container .array))
      (hmeans : Means (.object inner) items) :
      Means (.object members) (.list items)

/-- An object with these members, and with these properties among them, declares the table. -/
inductive MeansTable : Keyed Json → Keyed Json → TableSchema → Prop
  | mk {members raw : Keyed Json} {properties : Keyed Property}
      (hproperties : MeansAll raw properties)
      (hrules :
        tableFaults (stringMember? members "x-primary-key") (requiredNames members) raw = []) :
      MeansTable members raw
        ⟨properties, requiredNames members, stringMember? members "x-primary-key"⟩

/-- Each member declares the property of its name and place. -/
inductive MeansAll : Keyed Json → Keyed Property → Prop
  | nil : MeansAll [] []
  | cons {name : String} {value : Json} {property : Property} {rest : Keyed Json}
      {properties : Keyed Property}
      (hmeans : Means value property) (hrest : MeansAll rest properties) :
      MeansAll ((name, value) :: rest) ((name, property) :: properties)

end

end Json

open Json

/-! ## A reading without faults gives what is meant -/

theorem readDefault_means {path : List String} {value? : Option Json}
    (h : (readDefault path value?).faults = []) :
    ∃ initial, (readDefault path value?).value = some initial ∧
      value?.map Scalar.ofJson? = initial.map some := by
  cases value? with
  | none => exact ⟨none, rfl, rfl⟩
  | some value =>
      cases hscalar : Scalar.ofJson? value with
      | none => simp [readDefault, hscalar, Report.refuse] at h
      | some scalar => exact ⟨some scalar, by simp [readDefault, hscalar], by simp [hscalar]⟩

theorem readChoices_means {path : List String} {value? : Option Json}
    (h : (readChoices path value?).faults = []) :
    ∃ choices, (readChoices path value?).value = some choices ∧
      (value?.bind items?).map (List.mapM Scalar.ofJson?) = choices.map some := by
  cases value? with
  | none => exact ⟨none, rfl, rfl⟩
  | some value =>
      cases value with
      | array items =>
          cases hscalars : items.mapM Scalar.ofJson? with
          | none => simp [readChoices, hscalars, Report.refuse] at h
          | some scalars =>
              exact ⟨some scalars, by simp [readChoices, hscalars], by simp [items?, hscalars]⟩
      | _ => exact ⟨none, rfl, rfl⟩

theorem readMetadata_means {path : List String} {value? : Option Json}
    (h : (readMetadata path value?).faults = []) :
    ∃ metadata, (readMetadata path value?).value = some metadata ∧
      MeansMetadata value? metadata := by
  cases value? with
  | none => exact ⟨{}, rfl, rfl⟩
  | some value =>
      cases hdecode : Metadata.decode value with
      | error e => simp [readMetadata, hdecode, Report.refuse] at h
      | ok metadata => exact ⟨metadata, by simp [readMetadata, hdecode], hdecode⟩

theorem readAttributes_means {path : List String} {members : Keyed Json}
    (h : (readAttributes path members).faults = []) :
    ∃ attributes, (readAttributes path members).value = some attributes ∧
      MeansAttributes members attributes := by
  rw [readAttributes] at h
  dsimp only at h
  rw [List.append_eq_nil_iff, List.append_eq_nil_iff] at h
  obtain ⟨⟨hdefault, hchoices⟩, hmetadata⟩ := h
  obtain ⟨initial, hinitial, hscalar⟩ := readDefault_means hdefault
  obtain ⟨choices, hchoice, hscalars⟩ := readChoices_means hchoices
  obtain ⟨metadata, hmeta, hdecode⟩ := readMetadata_means hmetadata
  refine ⟨_, by rw [readAttributes]; dsimp only; rw [hinitial, hchoice, hmeta], ?_⟩
  exact ⟨hscalar, hscalars, rfl, rfl, rfl, rfl, hdecode⟩

theorem readFormat_means {path : List String} {members : Keyed Json}
    (h : (readFormat path members).faults = []) :
    MeansFormat members (readFormat path members).value := by
  rw [MeansFormat]
  rw [readFormat] at h ⊢
  cases hname : stringMember? members "format" with
  | none => rfl
  | some name =>
      cases hformat : TextFormat.ofName? name with
      | none => simp [hname, hformat] at h
      | some format => simp [hformat]

theorem referenceFaults_eq_nil_iff {path : List String} {target : String} :
    referenceFaults path target = [] ↔
      Text.startsWith "#/" target = true ∧
        shortestReference ≤ (Text.split '/' target).length := by
  rw [referenceFaults, List.append_eq_nil_iff]
  constructor
  · rintro ⟨hstart, hlength⟩
    refine ⟨?_, ?_⟩
    · by_contra hnot
      simp [hnot] at hstart
    · by_contra hnot
      simp [Nat.lt_of_not_le hnot] at hlength
  · rintro ⟨hstart, hlength⟩
    exact ⟨by rw [if_pos hstart], by rw [if_neg (Nat.not_lt.mpr hlength)]⟩

/-- A container that is read without faults is stored whole, or was read by `inside`. -/
theorem readContainer_means {path : List String} {members : Keyed Json} {shape : Container}
    {inside : Report (Option Property)}
    (h : (readContainer path members shape inside).faults = []) :
    ∃ attributes, MeansAttributes members attributes ∧
      match attributes.metadata.storage with
      | some storage =>
        (readContainer path members shape inside).value =
          some (.document shape storage attributes)
      | none => inside.faults = [] ∧
        (readContainer path members shape inside).value = inside.value := by
  rw [readContainer, Report.andThen] at h
  have hfaults : (readAttributes path members).faults = [] := by
    cases hvalue : (readAttributes path members).value with
    | none => simpa [hvalue] using h
    | some attributes =>
        rw [hvalue] at h
        exact (List.append_eq_nil_iff.mp h).1
  obtain ⟨attributes, hvalue, hattributes⟩ := readAttributes_means hfaults
  refine ⟨attributes, hattributes, ?_⟩
  rw [readContainer, Report.andThen]
  rw [hvalue] at h ⊢
  dsimp only at h ⊢
  cases hstorage : attributes.metadata.storage with
  | some storage => rfl
  | none =>
      rw [hstorage] at h
      exact ⟨(List.append_eq_nil_iff.mp h).2, rfl⟩

mutual

/-- A part of a document that is read without faults means the property that was read. -/
theorem readProperty_means (path : List String) :
    ∀ value : Json, (readProperty path value).faults = [] →
      ∃ property, (readProperty path value).value = some property ∧ Means value property
  | .object members, h => by
      rw [readProperty] at h ⊢
      cases href : stringMember? members "$ref" with
      | some target =>
          rw [href] at h
          obtain ⟨hstart, hlength⟩ := referenceFaults_eq_nil_iff.mp h
          exact ⟨.reference target, rfl, .reference href hstart hlength⟩
      | none =>
          rw [href] at h
          dsimp only at h ⊢
          cases htype : typeName? members with
          | none => simp [htype, Report.refuse] at h
          | some name =>
              rw [htype] at h
              cases name with
              | primitive kind =>
                  obtain ⟨attributes, hvalue, hattributes⟩ := readAttributes_means h
                  refine ⟨.primitive kind attributes, ?_, .primitive href htype hattributes⟩
                  simp [Report.map, hvalue]
              | string =>
                  dsimp only at h ⊢
                  rw [readText] at h ⊢
                  obtain ⟨hformat, hfaults⟩ := List.append_eq_nil_iff.mp h
                  obtain ⟨attributes, hvalue, hattributes⟩ := readAttributes_means hfaults
                  refine ⟨.text (readFormat path members).value attributes, ?_,
                    .text href htype (readFormat_means hformat) hattributes⟩
                  simp [hvalue]
              | container shape =>
                  cases shape with
                  | object =>
                      obtain ⟨attributes, hattributes, hcases⟩ := readContainer_means h
                      cases hstorage : attributes.metadata.storage with
                      | some storage =>
                          rw [hstorage] at hcases
                          exact ⟨_, hcases, .document href htype hattributes hstorage⟩
                      | none =>
                          rw [hstorage] at hcases
                          obtain ⟨raw, table, hproperties, hvalue, htable⟩ :=
                            readNested_means path members members hcases.1
                          exact ⟨_, hcases.2.trans hvalue,
                            .nested href htype hattributes hstorage hproperties htable⟩
                  | array =>
                      obtain ⟨attributes, hattributes, hcases⟩ := readContainer_means h
                      cases hstorage : attributes.metadata.storage with
                      | some storage =>
                          rw [hstorage] at hcases
                          exact ⟨_, hcases, .document href htype hattributes hstorage⟩
                      | none =>
                          rw [hstorage] at hcases
                          obtain ⟨inner, items, hitems, hinner, hvalue, hmeans⟩ :=
                            readList_means path members hcases.1
                          exact ⟨_, hcases.2.trans hvalue,
                            .list href htype hattributes hstorage hitems hinner hmeans⟩
  | .null, h | .bool _, h | .number _, h | .string _, h | .array _, h => by
      simp [readProperty, Report.refuse] at h

theorem readNested_means (path : List String) (members : Keyed Json) :
    ∀ rest : List (String × Json), (readNested path members rest).faults = [] →
      ∃ raw table, Keyed.get? rest "properties" = some (.object raw) ∧
        (readNested path members rest).value = some (.nested table) ∧
          MeansTable members raw table
  | [], h => by simp [readNested, Report.refuse] at h
  | (key, value) :: rest, h => by
      rw [readNested.eq_def] at h ⊢
      dsimp only at h ⊢
      by_cases hkey : key = "properties"
      · rw [if_pos hkey] at h ⊢
        cases value with
        | object raw =>
            obtain ⟨hproperties, hrules⟩ := List.append_eq_nil_iff.mp h
            refine ⟨raw, _, by rw [Keyed.get?, if_pos hkey], rfl, ?_⟩
            exact .mk (readProperties_means path raw hproperties) (List.map_eq_nil_iff.mp hrules)
        | _ => simp [Report.refuse] at h
      · rw [if_neg hkey] at h ⊢
        rw [Keyed.get?, if_neg hkey]
        exact readNested_means path members rest h

theorem readList_means (path : List String) :
    ∀ rest : List (String × Json), (readList path rest).faults = [] →
      ∃ inner items, Keyed.get? rest "items" = some (.object inner) ∧
        typeName? inner ≠ some (.container .array) ∧
          (readList path rest).value = some (.list items) ∧ Means (.object inner) items
  | [], h => by simp [readList, Report.refuse] at h
  | (key, value) :: rest, h => by
      rw [readList.eq_def] at h ⊢
      dsimp only at h ⊢
      by_cases hkey : key = "items"
      · rw [if_pos hkey] at h ⊢
        cases value with
        | object inner =>
            by_cases hinner : typeName? inner = some (.container .array)
            · simp [hinner, Report.refuse] at h
            · dsimp only at h ⊢
              rw [if_neg hinner] at h ⊢
              obtain ⟨items, hvalue, hmeans⟩ :=
                readProperty_means (path ++ ["items"]) (.object inner) h
              refine ⟨inner, items, by rw [Keyed.get?, if_pos hkey], hinner, ?_, hmeans⟩
              simp [Report.map, hvalue]
        | _ => simp [Report.refuse] at h
      · rw [if_neg hkey] at h ⊢
        rw [Keyed.get?, if_neg hkey]
        exact readList_means path rest h

theorem readProperties_means (path : List String) :
    ∀ raw : List (String × Json), (readProperties path raw).faults = [] →
      MeansAll raw (readProperties path raw).value
  | [], _ => .nil
  | (key, value) :: rest, h => by
      rw [readProperties] at h ⊢
      obtain ⟨hproperty, hrest⟩ := List.append_eq_nil_iff.mp h
      obtain ⟨property, hvalue, hmeans⟩ :=
        readProperty_means (path ++ ["properties", key]) value hproperty
      dsimp only
      rw [hvalue]
      exact .cons hmeans (readProperties_means path rest hrest)

end

end SchemaTables
