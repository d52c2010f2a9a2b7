import SchemaTables.Proofs.Json.Distinct
import SchemaTables.Proofs.Schema.Grammar

/-!
# Keys of declared tables

The rules on keys are checked on what a property says it is, before it is read.  This file carries
them over to the properties themselves: a key of a table that is read without faults is one of its
stored properties, of a type that references may point to, and a table in which others are nested
has one (`MeansTable.wellKeyed`).

What a property says about its storage and what its metadata are decoded to have to agree for this
(`storage_of_namesStorage`); this takes objects that name each member once, as those that are read
from texts do.
-/

namespace SchemaTables

/-- A property that a key may name: its values are neither containers, nor numbers with a fraction,
nor points in time. -/
def Property.IsKey : Property → Prop
  | .primitive .boolean _ | .primitive .integer _ | .text none _ => True
  | .text (some format) _ => format.isTemporal = false
  | _ => False

/-- Does the property become a table of its own? -/
def Property.isNested : Property → Bool
  | .nested _ | .list _ => true
  | _ => false

/-- The properties of a table have different names, its key is a property fit for one, and it has a
key if other tables are nested in it. -/
structure TableOf.WellKeyed (table : TableSchema) : Prop where
  distinct : Keyed.Distinct table.properties
  key_mem : ∀ key, table.primaryKey = some key → key ∈ Keyed.keys table.properties
  isKey : ∀ property, (table.keyOrId, property) ∈ table.properties → property.IsKey
  keyOrId_mem : ∀ name property, (name, property) ∈ table.properties →
    property.isNested = true → table.keyOrId ∈ Keyed.keys table.properties

namespace Json

/-! ## The storage that metadata name -/

/-- Only the field `type` changes the storage. -/
theorem storage_of_update {field : Field Metadata} (hfield : field ∈ Metadata.fields)
    (hname : field.name ≠ "type") {record result : Metadata} {value : Json}
    (h : field.update record value = .ok result) : result.storage = record.storage := by
  simp only [Metadata.fields, List.mem_cons, List.not_mem_nil, or_false] at hfield
  rcases hfield with rfl | rfl | rfl | rfl | rfl | rfl
  · cases hvalue : boolean value <;> simp [hvalue, Except.map] at h
    rw [← h]
  · cases hvalue : boolean value <;> simp [hvalue, Except.map] at h
    rw [← h]
  · cases hvalue : optional Json.text value <;> simp [hvalue, Except.map] at h
    rw [← h]
  · cases hvalue : boolean value <;> simp [hvalue, Except.map] at h
    rw [← h]
  · cases hvalue : optional Json.text value <;> simp [hvalue, Except.map] at h
    rw [← h]
  · exact absurd rfl hname

theorem under_eq_ok {decoder : Decoder α} {segment : String} {value : Json} {result : α}
    (h : decoder.under segment value = .ok result) : decoder value = .ok result := by
  rw [Decoder.under] at h
  cases hvalue : decoder value with
  | error e => simp [hvalue] at h
  | ok decoded => simpa [hvalue] using h

/-- The storage of decoded metadata is the one decoded from the member `type`. -/
theorem storage_of_decodeMembers {members : Keyed Json} (hdistinct : members.Distinct)
    {record result : Metadata} (h : decodeMembers Metadata.fields record members = .ok result) :
    match members.get? "type" with
    | none => result.storage = record.storage
    | some value => optional JsonStorage.decode value = .ok result.storage := by
  induction members generalizing record with
  | nil =>
      cases h
      rfl
  | cons entry rest ih =>
      obtain ⟨key, value⟩ := entry
      obtain ⟨hfresh, hrest⟩ := List.nodup_cons.mp hdistinct
      rw [decodeMembers] at h
      by_cases hkey : key = "type"
      · subst hkey
        have hnone : Keyed.get? rest "type" = none := Keyed.get?_eq_none_iff.mpr hfresh
        have hfind : Metadata.fields.find? (fun field => field.name == "type") =
            some ⟨"type", fun record value =>
              (optional JsonStorage.decode value).map fun storage =>
                { record with storage := storage }⟩ := rfl
        rw [hfind] at h
        dsimp only at h
        rw [Keyed.get?, if_pos rfl]
        dsimp only
        split at h
        · next updated hupdated =>
            have hdecoded := under_eq_ok hupdated
            have hstorage := ih hrest h
            rw [hnone] at hstorage
            cases hvalue : optional JsonStorage.decode value with
            | error e => simp [hvalue, Except.map] at hdecoded
            | ok storage =>
                have hrecord : { record with storage := storage } = updated := by
                  simpa [hvalue, Except.map] using hdecoded
                rw [hstorage, ← hrecord]
        · cases h
      · rw [Keyed.get?, if_neg hkey]
        cases hfind : Metadata.fields.find? (fun field => field.name == key) with
        | none =>
            rw [hfind] at h
            exact ih hrest h
        | some field =>
            rw [hfind] at h
            dsimp only at h
            have hname : field.name = key := by simpa using List.find?_some hfind
            split at h
            · next updated hupdated =>
                have hsame := storage_of_update (List.mem_of_find?_eq_some hfind)
                  (hname ▸ hkey) (under_eq_ok hupdated)
                have hstorage := ih hrest h
                rw [hsame] at hstorage
                exact hstorage
            · cases h

/-- A property whose metadata name a storage is stored whole once its metadata are decoded. -/
theorem storage_of_namesStorage {members : Keyed Json} (hdistinct : (Json.object members).Distinct)
    {metadata : Metadata} (hmetadata : MeansMetadata (members.get? "metadata") metadata)
    (hnames : NamesStorage members) : metadata.storage ≠ none := by
  obtain ⟨inner, name, hvalue, htype, hname⟩ := hnames
  rw [hvalue] at hmetadata
  have hstorage := storage_of_decodeMembers (hdistinct.get? hvalue).keyed hmetadata
  rw [htype] at hstorage
  dsimp only at hstorage
  intro hnone
  rw [hnone] at hstorage
  rcases hname with rfl | rfl
  · simp [optional, JsonStorage.decode, choice, choiceNamed, Except.map] at hstorage
  · simp [optional, JsonStorage.decode, choice, choiceNamed, Except.map] at hstorage

/-! ## What a property says it is, and what it is -/

theorem Means.isDeclaredNested {value : Json} {property : Property} (h : Means value property)
    (hdistinct : value.Distinct) (hnested : property.isNested = true) : IsDeclaredNested value := by
  cases h with
  | nested href htype hattributes hstorage hproperties htable =>
      refine isDeclaredNested_iff.mpr ⟨_, rfl, ⟨href, _, htype⟩, ?_⟩
      intro hnames
      exact storage_of_namesStorage hdistinct hattributes.metadata hnames hstorage
  | list href htype hattributes hstorage hitems hinner hmeans =>
      refine isDeclaredNested_iff.mpr ⟨_, rfl, ⟨href, _, htype⟩, ?_⟩
      intro hnames
      exact storage_of_namesStorage hdistinct hattributes.metadata hnames hstorage
  | _ => simp [Property.isNested] at hnested

theorem Means.isKey {value : Json} {property : Property} (h : Means value property)
    (hfits : value.FitsKey) : property.IsKey := by
  cases h with
  | reference href hstart hlength =>
      have hnone := hfits.1
      rw [href] at hnone
      cases hnone
  | @primitive members kind attributes href htype hattributes =>
      cases kind with
      | number => exact absurd htype hfits.2.2.1
      | _ => trivial
  | @text members format attributes href htype hformat hattributes =>
      cases format with
      | none => trivial
      | some format =>
          rw [MeansFormat] at hformat
          obtain ⟨name, hname, hofName⟩ := Option.map_eq_some_iff.mp hformat
          exact isTemporal_eq_false_iff.mpr (hfits.2.2.2 htype name hname) format hofName
  | document href htype hattributes hstorage => exact absurd htype (hfits.2.1 _)
  | nested href htype hattributes hstorage hproperties htable => exact absurd htype (hfits.2.1 _)
  | list href htype hattributes hstorage hitems hinner hmeans => exact absurd htype (hfits.2.1 _)

/-! ## Tables -/

theorem MeansAll.keys_eq : ∀ {raw : Keyed Json} {properties : Keyed Property},
    MeansAll raw properties → properties.keys = raw.keys
  | _, _, .nil => rfl
  | _, _, .cons _ hrest => by
      rw [Keyed.keys_cons, Keyed.keys_cons, hrest.keys_eq]

theorem MeansAll.exists_of_mem : ∀ {raw : Keyed Json} {properties : Keyed Property},
    MeansAll raw properties → ∀ {name : String} {property : Property},
      (name, property) ∈ properties → ∃ value, (name, value) ∈ raw ∧ Means value property
  | _, _, .nil, _, _, hmem => by simp at hmem
  | _, _, .cons hmeans hrest, _, _, hmem => by
      rcases List.mem_cons.mp hmem with heq | hmem
      · cases heq
        exact ⟨_, List.mem_cons_self, hmeans⟩
      · obtain ⟨value, hvalue, hmeans⟩ := hrest.exists_of_mem hmem
        exact ⟨value, List.mem_cons_of_mem _ hvalue, hmeans⟩

/-- A table that is declared without faults is well-keyed. -/
theorem MeansTable.wellKeyed {members raw : Keyed Json} {table : TableSchema}
    (h : MeansTable members raw table) (hraw : (Json.object raw).Distinct) : table.WellKeyed := by
  cases h with
  | @mk _ _ properties hproperties hfaults =>
      have hrules := tableFaults_eq_nil_iff.mp hfaults
      rw [Distinct] at hraw
      have hkeys := hproperties.keys_eq
      constructor
      · rw [Keyed.Distinct, hkeys]
        exact hraw.1
      · intro key hkey
        rw [hkeys]
        exact hrules.key_mem key hkey
      · intro property hmem
        obtain ⟨value, hvalue, hmeans⟩ := hproperties.exists_of_mem hmem
        exact hmeans.isKey (hrules.key_fits value (hraw.1.get?_of_mem hvalue))
      · intro name property hmem hnested
        obtain ⟨value, hvalue, hmeans⟩ := hproperties.exists_of_mem hmem
        rw [hkeys]
        exact hrules.nests name value hvalue
          (hmeans.isDeclaredNested (hraw.2.of_mem hvalue) hnested)

end Json

end SchemaTables
