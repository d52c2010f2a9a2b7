import SchemaTables.Proofs.Schema.Completeness
import SchemaTables.Proofs.Schema.Keys

/-!
# What a property says it is, and what it is read as

The rules on keys do not look at a property as it is read, but at what it says it is (`Declared`),
so that they also apply where it cannot be read.  Where it can, the two views agree, with one
exception: a container that is stored whole, but does not name its storage by a text, says that it
is nested (`declared_agrees_iff`).
-/

namespace SchemaTables

/-- What a property of this kind says it is, where the two views agree. -/
def Property.declared : Property → Declared
  | .primitive .number _ => .number
  | .primitive _ _ => .other
  | .text format _ => .text format
  | .document shape _ _ => .document shape
  | .reference _ => .reference
  | .nested _ => .nested .object
  | .list _ => .nested .array

/-- What is said to be a property of some kind is one of this kind, and the other way round. -/
structure Declared.Agrees (declared : Declared) (property : Property) : Prop where
  reference : declared = .reference ↔ ∃ target, property = .reference target
  nested : (∃ shape, declared = .nested shape) ↔ property.isNested = true
  document : (∃ shape, declared = .document shape) ↔
    ∃ shape storage attributes, property = .document shape storage attributes
  number : declared = .number ↔ ∃ attributes, property = .primitive .number attributes
  text : ∀ format, declared = .text format ↔ ∃ attributes, property = .text format attributes

theorem Property.agrees_declared (property : Property) : property.declared.Agrees property := by
  cases property with
  | primitive kind attributes =>
      cases kind <;> constructor <;> simp [declared, isNested]
  | _ => constructor <;> simp [declared, isNested]

namespace Json

variable {value : Json} {property : Property}

/-! ## Containers -/

theorem namesStorage_eq_false_iff {members : Keyed Json} :
    Declared.namesStorage members = false ↔ ¬ NamesStorage members := by
  rw [← namesStorage_iff, Bool.not_eq_true]

/-- A container says that it is stored whole if it names a storage, and else that it is nested. -/
theorem ofJson_container {members : Keyed Json} {shape : Container}
    (href : stringMember? members "$ref" = none)
    (htype : typeName? members = some (.container shape)) :
    Declared.ofJson (.object members) =
      if Declared.namesStorage members then .document shape else .nested shape := by
  simp [Declared.ofJson, Declared.ofMembers, href, htype]

/-- A container whose metadata are decoded without a storage says that it is nested. -/
theorem ofJson_of_storage_eq_none {members : Keyed Json} {shape : Container}
    {attributes : Attributes} (hdistinct : (Json.object members).Distinct)
    (href : stringMember? members "$ref" = none)
    (htype : typeName? members = some (.container shape))
    (hattributes : MeansAttributes members attributes)
    (hstorage : attributes.metadata.storage = none) :
    Declared.ofJson (.object members) = .nested shape := by
  have hunnamed : ¬ NamesStorage members := fun hnames =>
    storage_of_namesStorage hdistinct hattributes.metadata hnames hstorage
  rw [ofJson_container href htype, namesStorage_eq_false_iff.mpr hunnamed]
  rfl

theorem MeansFormat.bind_eq {members : Keyed Json} {format : Option TextFormat}
    (h : MeansFormat members format) :
    (stringMember? members "format").bind TextFormat.ofName? = format := by
  rw [MeansFormat] at h
  cases hname : stringMember? members "format" with
  | none =>
      rw [hname] at h
      exact (Option.map_eq_none_iff.mp h.symm).symm
  | some name =>
      rw [hname, Option.map_some] at h
      obtain ⟨found, hfound, hread⟩ := Option.map_eq_some_iff.mp h.symm
      rw [Option.bind_some, hfound, ← hread]

/-! ## The two views -/

/-- A property that hides no storage says what it is. -/
theorem Means.declared_eq (h : Means value property) (hdistinct : value.Distinct)
    (hshown : ¬ value.HidesStorage) : Declared.ofJson value = property.declared := by
  cases h with
  | reference href =>
      simp [Declared.ofJson, Declared.ofMembers, href, Property.declared]
  | @primitive members kind attributes href htype =>
      cases kind <;>
        simp [Declared.ofJson, Declared.ofMembers, href, htype, Property.declared]
  | text href htype hformat =>
      simp [Declared.ofJson, Declared.ofMembers, href, htype, hformat.bind_eq, Property.declared]
  | @document members shape storage attributes href htype hattributes hstorage =>
      -- the storage that the metadata are decoded to is not hidden, so a text names it
      have hstored : IsStored members :=
        (isStored_iff hattributes).mpr (by rw [hstorage]; simp)
      have hnames : NamesStorage members := by
        by_contra hnot
        exact hshown ⟨members, rfl, ⟨href, shape, htype⟩, hstored, hnot⟩
      rw [ofJson_container href htype, namesStorage_iff.mpr hnames]
      rfl
  | nested href htype hattributes hstorage =>
      exact ofJson_of_storage_eq_none hdistinct href htype hattributes hstorage
  | list href htype hattributes hstorage =>
      exact ofJson_of_storage_eq_none hdistinct href htype hattributes hstorage

/-- A container that hides its storage is stored whole, and says that it is nested. -/
theorem Means.declared_of_hidesStorage (h : Means value property) (hhides : value.HidesStorage) :
    ∃ shape storage attributes, property = .document shape storage attributes ∧
      Declared.ofJson value = .nested shape := by
  obtain ⟨members, rfl, ⟨href, shape, htype⟩, hstored, hunnamed⟩ := hhides
  have hdeclared : Declared.ofJson (.object members) = .nested shape := by
    rw [ofJson_container href htype, namesStorage_eq_false_iff.mpr hunnamed]
    rfl
  cases h with
  | reference hsome => simp [href] at hsome
  | primitive _ hother => simp [htype] at hother
  | text _ hother => simp [htype] at hother
  | @document _ found storage attributes _ hother =>
      have hshape : shape = found := by simpa [htype] using hother
      exact ⟨found, storage, attributes, rfl, hshape ▸ hdeclared⟩
  | nested _ _ hattributes hnone => exact absurd hnone ((isStored_iff hattributes).mp hstored)
  | list _ _ hattributes hnone => exact absurd hnone ((isStored_iff hattributes).mp hstored)

end Json

/-- What a property that is read without faults says it is agrees with what it is, unless it is a
container that hides its storage.  Such a container is stored whole and says that it is nested. -/
theorem declared_agrees_iff {path : List String} {value : Json} {property : Property}
    (hread : readProperty path value = ⟨some property, []⟩) (hdistinct : value.Distinct) :
    ((Declared.ofJson value).Agrees property ↔ ¬ value.HidesStorage) ∧
      (value.HidesStorage → ∃ shape storage attributes,
        property = .document shape storage attributes ∧ Declared.ofJson value = .nested shape) := by
  have hmeans : Json.Means value property := by
    obtain ⟨found, hfound, hmeans⟩ := readProperty_means path value (by rw [hread])
    rw [hread] at hfound
    cases hfound
    exact hmeans
  refine ⟨⟨?_, ?_⟩, hmeans.declared_of_hidesStorage⟩
  · intro hagrees hhides
    obtain ⟨shape, storage, attributes, rfl, hdeclared⟩ := hmeans.declared_of_hidesStorage hhides
    have hnested := hagrees.nested.mp ⟨shape, hdeclared⟩
    simp [Property.isNested] at hnested
  · intro hshown
    rw [hmeans.declared_eq hdistinct hshown]
    exact property.agrees_declared

/-- Preferences that are stored whole, in a storage that a text names. -/
def preferences : Json :=
  .object [("type", .string "object"), ("metadata", .object [("type", .string "jsonb")])]

theorem declared_agrees_preferences :
    preferences.Distinct ∧ ¬ preferences.HidesStorage ∧ (Declared.ofJson preferences).Agrees
      (.document .object .jsonb { metadata := { storage := some .jsonb } }) := by
  have hdistinct : preferences.Distinct := by
    simp [preferences, Json.Distinct, Json.DistinctMembers, Keyed.Distinct, Keyed.keys]
  have hread : readProperty [] preferences =
      ⟨some (.document .object .jsonb { metadata := { storage := some .jsonb } }), []⟩ := rfl
  have hshown : ¬ preferences.HidesStorage := by
    rintro ⟨members, hmembers, -, -, hunnamed⟩
    cases hmembers
    exact hunnamed ⟨_, "jsonb", rfl, rfl, Or.inr rfl⟩
  exact ⟨hdistinct, hshown, (declared_agrees_iff hread hdistinct).1.mpr hshown⟩

/-- Tags that are stored whole: their metadata are an array of fields, the storage the last one. -/
def listedTags : Json :=
  .object
    [("type", .string "array"),
      ("metadata", .array
        [.bool false, .bool false, .null, .bool false, .null, .string "json"])]

/-- The tags are read as stored whole, and say that they are nested. -/
theorem declared_disagrees_listedTags :
    listedTags.Distinct ∧
      readProperty [] listedTags =
        ⟨some (.document .array .json { metadata := { storage := some .json } }), []⟩ ∧
      Declared.ofJson listedTags = .nested .array ∧
      ¬ (Declared.ofJson listedTags).Agrees
        (.document .array .json { metadata := { storage := some .json } }) := by
  refine ⟨?_, rfl, rfl, ?_⟩
  · simp [listedTags, Json.Distinct, Json.DistinctItems, Json.DistinctMembers, Keyed.Distinct,
      Keyed.keys]
  · intro hagrees
    have hnested := hagrees.nested.mp ⟨.array, rfl⟩
    simp [Property.isNested] at hnested

end SchemaTables
