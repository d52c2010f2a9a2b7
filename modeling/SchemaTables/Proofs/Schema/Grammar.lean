import SchemaTables.Proofs.Schema.Meaning

/-!
# The grammar of documents

Which documents declare a database, in terms of their keywords alone: the forms that a column may
have, and the rules on the keys of a table.  Nothing here follows the order of a reader.

One rule says that a table in which others are nested has a key.  What counts as nested is a
parameter of the grammar, so that it can be compared for different readings of the rule.
-/

namespace SchemaTables.Json

/-! ## Keywords -/

/-- The value is a text, a number or a truth value. -/
def IsScalar (value : Json) : Prop := (Scalar.ofJson? value).isSome = true

/-- The keywords for the attributes of a column have values of the right kinds. -/
structure HasAttributes (members : Keyed Json) : Prop where
  default : ∀ value, members.get? "default" = some value → value.IsScalar
  choices : ∀ items, members.get? "enum" = some (.array items) → ∀ item ∈ items, item.IsScalar
  metadata : ∀ value, members.get? "metadata" = some value →
    ∃ metadata, Metadata.decode value = .ok metadata

/-- The metadata say that the values are stored whole. -/
def IsStored (members : Keyed Json) : Prop :=
  ∃ value metadata, members.get? "metadata" = some value ∧
    Metadata.decode value = .ok metadata ∧ metadata.storage ≠ none

/-- A column of objects or arrays that is no reference. -/
def IsContainer (members : Keyed Json) : Prop :=
  stringMember? members "$ref" = none ∧ ∃ shape, typeName? members = some (.container shape)

/-- A column that the reader takes for a nested table. -/
def IsDeclaredNested (value : Json) : Prop := (Declared.ofJson value).nested? ≠ none

/-- A column of objects or arrays that are not stored whole. -/
def BecomesTable (value : Json) : Prop :=
  ∃ members, value = .object members ∧ IsContainer members ∧ ¬ IsStored members

/-- The metadata are an object that names a storage by a text. -/
def NamesStorage (members : Keyed Json) : Prop :=
  ∃ inner name, members.get? "metadata" = some (.object inner) ∧
    Keyed.get? inner "type" = some (.string name) ∧ (name = "json" ∨ name = "jsonb")

/-- A column of objects or arrays that are stored whole, which the metadata do not say by a text. -/
def HidesStorage (value : Json) : Prop :=
  ∃ members, value = .object members ∧ IsContainer members ∧ IsStored members ∧
    ¬ NamesStorage members

/-- A column that is fit for a key: no reference, no container, no number with a fraction and no
point in time. -/
def FitsKey : Json → Prop
  | .object members =>
    stringMember? members "$ref" = none ∧
      (∀ shape, typeName? members ≠ some (.container shape)) ∧
      typeName? members ≠ some (.primitive .number) ∧
      (typeName? members = some .string → ∀ name, stringMember? members "format" = some name →
        name ∉ ["date", "datetime", "date-time"])
  | _ => True

/-- The name of the key that a table has, or would have. -/
def keyOrId (members : Keyed Json) : String :=
  (stringMember? members "x-primary-key").getD "id"

/-- The rules on a table with these properties. -/
structure TableRules (Nests : Json → Prop) (members raw : Keyed Json) : Prop where
  required : ∀ name ∈ requiredNames members, name ∈ raw.keys
  key_mem : ∀ key, stringMember? members "x-primary-key" = some key → key ∈ raw.keys
  key_fits : ∀ value, raw.get? (keyOrId members) = some value → value.FitsKey
  nests : ∀ name value, (name, value) ∈ raw → Nests value → keyOrId members ∈ raw.keys

/-! ## Columns, tables and databases -/

/-- The value declares a column. -/
inductive IsColumn (Nests : Json → Prop) : Json → Prop
  | reference {members : Keyed Json} {target : String}
      (href : stringMember? members "$ref" = some target)
      (hstart : Text.startsWith "#/" target = true) (hparts : 3 ≤ (Text.split '/' target).length) :
      IsColumn Nests (.object members)
  | primitive {members : Keyed Json} {kind : Primitive}
      (href : stringMember? members "$ref" = none)
      (htype : typeName? members = some (.primitive kind)) (hattributes : HasAttributes members) :
      IsColumn Nests (.object members)
  | text {members : Keyed Json} (href : stringMember? members "$ref" = none)
      (htype : typeName? members = some .string)
      (hformat : ∀ name, stringMember? members "format" = some name →
        name ∈ ["uuid", "date", "datetime", "date-time", "email"])
      (hattributes : HasAttributes members) : IsColumn Nests (.object members)
  | stored {members : Keyed Json} (hcontainer : IsContainer members)
      (hattributes : HasAttributes members) (hstored : IsStored members) :
      IsColumn Nests (.object members)
  | table {members raw : Keyed Json} (href : stringMember? members "$ref" = none)
      (htype : typeName? members = some (.container .object)) (hattributes : HasAttributes members)
      (hstored : ¬ IsStored members)
      (hproperties : Keyed.get? members "properties" = some (.object raw))
      (hcolumns : ∀ name value, (name, value) ∈ raw → IsColumn Nests value)
      (hrules : TableRules Nests members raw) : IsColumn Nests (.object members)
  | list {members inner : Keyed Json} (href : stringMember? members "$ref" = none)
      (htype : typeName? members = some (.container .array)) (hattributes : HasAttributes members)
      (hstored : ¬ IsStored members) (hitems : members.get? "items" = some (.object inner))
      (hinner : typeName? inner ≠ some (.container .array))
      (hcolumn : IsColumn Nests (.object inner)) :
      IsColumn Nests (.object members)

/-- The value declares a table of a database. -/
def IsTable (Nests : Json → Prop) (value : Json) : Prop :=
  ∃ members raw, value = .object members ∧ stringMember? members "type" = some "object" ∧
    Keyed.get? members "properties" = some (.object raw) ∧
      (∀ name value, (name, value) ∈ raw → IsColumn Nests value) ∧ TableRules Nests members raw

/-- The document declares a database. -/
def IsDatabase (Nests : Json → Prop) (document : Json) : Prop :=
  Schema.isDocument document = true ∧
    ∃ members properties, document = .object members ∧
      Keyed.get? members "properties" = some (.object properties) ∧
        ∀ name value, (name, value) ∈ properties → IsTable Nests value

/-! ## Attributes -/

variable {members raw : Keyed Json} {value : Json}

theorem exists_mapM_scalars {items : List Json} (h : ∀ item ∈ items, item.IsScalar) :
    ∃ scalars, items.mapM Scalar.ofJson? = some scalars := by
  induction items with
  | nil => exact ⟨[], rfl⟩
  | cons item rest ih =>
      obtain ⟨hitem, hrest⟩ := List.forall_mem_cons.mp h
      obtain ⟨scalar, hscalar⟩ := Option.isSome_iff_exists.mp hitem
      obtain ⟨scalars, hscalars⟩ := ih hrest
      exact ⟨scalar :: scalars, by simp [List.mapM_cons, hscalar, hscalars]⟩

theorem isScalar_of_mapM {items : List Json} {scalars : List Scalar}
    (h : items.mapM Scalar.ofJson? = some scalars) : ∀ item ∈ items, item.IsScalar := by
  induction items generalizing scalars with
  | nil => simp
  | cons item rest ih =>
      rw [List.mapM_cons] at h
      obtain ⟨scalar, hscalar, h⟩ := Option.bind_eq_some_iff.mp h
      obtain ⟨others, hothers, -⟩ := Option.bind_eq_some_iff.mp h
      refine List.forall_mem_cons.mpr ⟨?_, ih hothers⟩
      rw [IsScalar, hscalar]
      rfl

theorem hasAttributes_iff :
    HasAttributes members ↔ ∃ attributes, MeansAttributes members attributes := by
  constructor
  · intro h
    have hdefault : ∃ initial : Option Scalar,
        (members.get? "default").map Scalar.ofJson? = initial.map some := by
      cases hvalue : members.get? "default" with
      | none => exact ⟨none, rfl⟩
      | some value =>
          obtain ⟨scalar, hscalar⟩ := Option.isSome_iff_exists.mp (h.default value hvalue)
          exact ⟨some scalar, congrArg some hscalar⟩
    have hchoices : ∃ choices : Option (List Scalar),
        ((members.get? "enum").bind items?).map (List.mapM Scalar.ofJson?) = choices.map some := by
      cases hitems : (members.get? "enum").bind items? with
      | none => exact ⟨none, rfl⟩
      | some items =>
          obtain ⟨value, hvalue, harray⟩ := Option.bind_eq_some_iff.mp hitems
          cases value with
          | array found =>
              cases harray
              obtain ⟨scalars, hscalars⟩ := exists_mapM_scalars (h.choices items hvalue)
              exact ⟨some scalars, congrArg some hscalars⟩
          | _ => cases harray
    have hmetadata : ∃ metadata, MeansMetadata (members.get? "metadata") metadata := by
      cases hvalue : members.get? "metadata" with
      | none => exact ⟨{}, rfl⟩
      | some value => exact h.metadata value hvalue
    obtain ⟨initial, hinitial⟩ := hdefault
    obtain ⟨choices, hchoices⟩ := hchoices
    obtain ⟨metadata, hmetadata⟩ := hmetadata
    exact ⟨⟨initial, choices, _, _, _, _, metadata⟩, hinitial, hchoices, rfl, rfl, rfl, rfl,
      hmetadata⟩
  · rintro ⟨attributes, h⟩
    constructor
    · intro value hvalue
      have hdefault := h.default
      rw [hvalue] at hdefault
      obtain ⟨scalar, -, hscalar⟩ := Option.map_eq_some_iff.mp hdefault.symm
      exact Option.isSome_iff_exists.mpr ⟨scalar, hscalar.symm⟩
    · intro items hvalue
      have hchoices := h.choices
      rw [hvalue] at hchoices
      obtain ⟨scalars, -, hscalars⟩ := Option.map_eq_some_iff.mp hchoices.symm
      exact isScalar_of_mapM hscalars.symm
    · intro value hvalue
      have hmetadata := h.metadata
      rw [hvalue] at hmetadata
      exact ⟨attributes.metadata, hmetadata⟩

theorem isStored_iff {attributes : Attributes} (h : MeansAttributes members attributes) :
    IsStored members ↔ attributes.metadata.storage ≠ none := by
  have hmetadata := h.metadata
  constructor
  · rintro ⟨value, metadata, hvalue, hdecode, hstorage⟩
    rw [hvalue] at hmetadata
    cases hdecode.symm.trans hmetadata
    exact hstorage
  · intro hstorage
    cases hvalue : members.get? "metadata" with
    | none =>
        rw [hvalue] at hmetadata
        have hempty : attributes.metadata = {} := hmetadata
        rw [hempty] at hstorage
        exact absurd rfl hstorage
    | some value =>
        rw [hvalue] at hmetadata
        exact ⟨value, attributes.metadata, hvalue, hmetadata, hstorage⟩

theorem ofName?_eq_some_iff {name : String} {format : TextFormat} :
    TextFormat.ofName? name = some format ↔ format.name = name := by
  constructor
  · intro h
    simpa using List.find?_some h
  · rintro rfl
    cases format <;> rfl

theorem exists_ofName?_iff {name : String} :
    (∃ format, TextFormat.ofName? name = some format) ↔
      name ∈ ["uuid", "date", "datetime", "date-time", "email"] := by
  constructor
  · rintro ⟨format, hformat⟩
    rw [← ofName?_eq_some_iff.mp hformat]
    cases format <;> decide
  · intro h
    have hall : ∀ name ∈ ["uuid", "date", "datetime", "date-time", "email"],
        (TextFormat.ofName? name).isSome = true := by decide
    exact Option.isSome_iff_exists.mp (hall name h)

theorem exists_meansFormat_iff :
    (∃ format, MeansFormat members format) ↔
      ∀ name, stringMember? members "format" = some name →
        name ∈ ["uuid", "date", "datetime", "date-time", "email"] := by
  constructor
  · rintro ⟨format, hformat⟩ name hname
    rw [MeansFormat, hname] at hformat
    obtain ⟨found, -, hfound⟩ := Option.map_eq_some_iff.mp hformat.symm
    exact exists_ofName?_iff.mp ⟨found, hfound.symm⟩
  · intro h
    cases hname : stringMember? members "format" with
    | none => exact ⟨none, by rw [MeansFormat, hname]; rfl⟩
    | some name =>
        obtain ⟨format, hformat⟩ := exists_ofName?_iff.mpr (h name hname)
        exact ⟨some format, by rw [MeansFormat, hname, Option.map_some, hformat]; rfl⟩

/-! ## Rules -/

theorem isTemporal_eq_false_iff {name : String} :
    (∀ format, TextFormat.ofName? name = some format → format.isTemporal = false) ↔
      name ∉ ["date", "datetime", "date-time"] := by
  constructor
  · intro h hmem
    have htemporal : ∀ name ∈ ["date", "datetime", "date-time"],
        ∃ format, TextFormat.ofName? name = some format ∧ format.isTemporal = true := by
      simp [TextFormat.ofName?, TextFormat.all, TextFormat.name, TextFormat.isTemporal]
    obtain ⟨format, hformat, htrue⟩ := htemporal name hmem
    rw [h format hformat] at htrue
    cases htrue
  · intro h format hformat
    rw [← ofName?_eq_some_iff.mp hformat] at h
    revert h
    cases format <;> decide

theorem fitsKey_iff : value.FitsKey ↔ (Declared.ofJson value).keyProblem? = none := by
  cases value with
  | object members =>
      rw [FitsKey, Declared.ofJson, Declared.ofMembers]
      cases href : stringMember? members "$ref" with
      | some target => simp [Declared.keyProblem?]
      | none =>
          cases htype : typeName? members with
          | none => simp [Declared.keyProblem?]
          | some type =>
              cases type with
              | primitive kind => cases kind <;> simp [Declared.keyProblem?]
              | string =>
                  cases hname : stringMember? members "format" with
                  | none => simp [Declared.keyProblem?]
                  | some name =>
                      have htemporal := @isTemporal_eq_false_iff name
                      cases hformat : TextFormat.ofName? name with
                      | none => simpa [Declared.keyProblem?, hformat] using htemporal
                      | some format => simpa [Declared.keyProblem?, hformat] using htemporal.symm
              | container shape =>
                  cases hnames : Declared.namesStorage members <;> simp [Declared.keyProblem?]
  | _ => simp [FitsKey, Declared.ofJson, Declared.keyProblem?]

theorem namesStorage_iff : Declared.namesStorage members = true ↔ NamesStorage members := by
  rw [Declared.namesStorage]
  constructor
  · intro h
    cases hvalue : members.get? "metadata" with
    | none => simp [hvalue] at h
    | some value =>
        cases value with
        | object inner =>
            rw [hvalue, Option.bind_some, Json.get?] at h
            cases htype : Keyed.get? inner "type" with
            | none => simp [htype] at h
            | some type =>
                cases type with
                | string name =>
                    rw [htype] at h
                    exact ⟨inner, name, hvalue, htype, by simpa [JsonStorage.name] using h⟩
                | _ => simp [htype] at h
        | _ => simp [hvalue, Json.get?] at h
  · rintro ⟨inner, name, hvalue, htype, hname⟩
    simpa [hvalue, Json.get?, htype, JsonStorage.name] using hname

theorem isDeclaredNested_iff :
    IsDeclaredNested value ↔
      ∃ members, value = .object members ∧ IsContainer members ∧ ¬ NamesStorage members := by
  constructor
  · intro h
    cases value with
    | object members =>
        refine ⟨members, rfl, ?_⟩
        rw [IsDeclaredNested, Declared.ofJson, Declared.ofMembers] at h
        cases href : stringMember? members "$ref" with
        | some target => simp [href, Declared.nested?] at h
        | none =>
            cases htype : typeName? members with
            | none => simp [href, htype, Declared.nested?] at h
            | some type =>
                cases type with
                | primitive kind =>
                    cases kind <;> simp [href, htype, Declared.nested?] at h
                | string => simp [href, htype, Declared.nested?] at h
                | container shape =>
                    refine ⟨⟨href, shape, htype⟩, ?_⟩
                    intro hnames
                    simp [href, htype, namesStorage_iff.mpr hnames, Declared.nested?] at h
    | _ => exact absurd rfl h
  · rintro ⟨members, rfl, ⟨href, shape, htype⟩, hnames⟩
    rw [← namesStorage_iff, Bool.not_eq_true] at hnames
    simp [IsDeclaredNested, Declared.ofJson, Declared.ofMembers, href, htype, hnames,
      Declared.nested?]

theorem firstNested?_eq_none_iff :
    firstNested? raw = none ↔
      ∀ name value, (name, value) ∈ raw → (Declared.ofJson value).nested? = none := by
  induction raw with
  | nil => simp [firstNested?]
  | cons entry rest ih =>
      obtain ⟨name, value⟩ := entry
      rw [firstNested?]
      cases hnested : (Declared.ofJson value).nested? with
      | some shape =>
          simp only [reduceCtorEq, false_iff]
          intro h
          rw [h name value List.mem_cons_self] at hnested
          cases hnested
      | none =>
          dsimp only
          rw [ih]
          constructor
          · intro h other stored hmem
            rcases List.mem_cons.mp hmem with heq | hmem
            · cases heq
              exact hnested
            · exact h other stored hmem
          · intro h other stored hmem
            exact h other stored (List.mem_cons_of_mem _ hmem)

section Faults

variable {key? : Option String}

theorem missingFieldFaults_eq_nil_iff {required : List String} :
    missingFieldFaults required raw = [] ↔ ∀ name ∈ required, name ∈ raw.keys := by
  rw [missingFieldFaults, List.map_eq_nil_iff, List.filter_eq_nil_iff]
  constructor
  · intro h name hname
    have hcontains := h name hname
    rw [Bool.not_eq_true, Bool.not_eq_false'] at hcontains
    exact Keyed.contains_eq_true_iff.mp hcontains
  · intro h name hname
    simp [Keyed.contains_eq_true_iff.mpr (h name hname)]

theorem implicitKeyFaults_eq_nil_iff :
    implicitKeyFaults key? raw = [] ↔
      (key? = none → ∀ value, raw.get? "id" = some value → value.FitsKey) := by
  cases key? with
  | some key => simp [implicitKeyFaults]
  | none =>
      cases hvalue : raw.get? "id" with
      | none => simp [implicitKeyFaults, hvalue]
      | some value =>
          have hfits := @fitsKey_iff value
          cases hproblem : (Declared.ofJson value).keyProblem? with
          | none => simpa [implicitKeyFaults, hvalue, hproblem] using hfits
          | some problem => simpa [implicitKeyFaults, hvalue, hproblem] using hfits

theorem explicitKeyFaults_eq_nil_iff :
    explicitKeyFaults key? raw = [] ↔ ∀ key, key? = some key →
      key ∈ raw.keys ∧ ∀ value, raw.get? key = some value → value.FitsKey := by
  cases key? with
  | none => simp [explicitKeyFaults]
  | some key =>
      cases hvalue : raw.get? key with
      | none => simp [explicitKeyFaults, hvalue, Keyed.get?_eq_none_iff.mp hvalue]
      | some value =>
          have hmem : key ∈ raw.keys := Keyed.mem_keys_of_mem (Keyed.mem_of_get? hvalue)
          have hfits := @fitsKey_iff value
          cases hproblem : (Declared.ofJson value).keyProblem? with
          | none => simpa [explicitKeyFaults, hvalue, hproblem, hmem] using hfits
          | some problem => simpa [explicitKeyFaults, hvalue, hproblem, hmem] using hfits

theorem keylessFaults_eq_nil_iff :
    keylessFaults key? raw = [] ↔ (key? = none → "id" ∉ raw.keys → firstNested? raw = none) := by
  cases key? with
  | some key => simp [keylessFaults]
  | none =>
      by_cases hid : "id" ∈ raw.keys
      · simp [keylessFaults, Keyed.contains_eq_true_iff.mpr hid, hid]
      · have hcontains : raw.contains "id" = false := Keyed.contains_eq_false_iff.mpr hid
        cases hfirst : firstNested? raw with
        | none => simp [keylessFaults, hcontains, hfirst]
        | some entry => simp [keylessFaults, hcontains, hfirst, hid]

end Faults

/-- The rules as the reader checks them. -/
theorem tableFaults_eq_nil_iff :
    tableFaults (stringMember? members "x-primary-key") (requiredNames members) raw = [] ↔
      TableRules IsDeclaredNested members raw := by
  rw [tableFaults, List.append_eq_nil_iff, List.append_eq_nil_iff, List.append_eq_nil_iff,
    implicitKeyFaults_eq_nil_iff, keylessFaults_eq_nil_iff, missingFieldFaults_eq_nil_iff,
    explicitKeyFaults_eq_nil_iff, firstNested?_eq_none_iff]
  constructor
  · rintro ⟨⟨⟨himplicit, hkeyless⟩, hrequired⟩, hexplicit⟩
    refine ⟨hrequired, fun key hkey => (hexplicit key hkey).1, ?_, ?_⟩
    · intro value hvalue
      cases hkey : stringMember? members "x-primary-key" with
      | none =>
          rw [keyOrId, hkey] at hvalue
          exact himplicit hkey value hvalue
      | some key =>
          rw [keyOrId, hkey] at hvalue
          exact (hexplicit key hkey).2 value hvalue
    · intro name value hmem hnested
      cases hkey : stringMember? members "x-primary-key" with
      | none =>
          rw [keyOrId, hkey]
          by_contra hid
          exact hnested (hkeyless hkey hid name value hmem)
      | some key =>
          rw [keyOrId, hkey]
          exact (hexplicit key hkey).1
  · intro h
    refine ⟨⟨⟨?_, ?_⟩, h.required⟩, ?_⟩
    · intro hkey value hvalue
      apply h.key_fits
      rwa [keyOrId, hkey]
    · intro hkey hid name value hmem
      by_contra hnested
      have hmem := h.nests name value hmem hnested
      rw [keyOrId, hkey] at hmem
      exact hid hmem
    · intro key hkey
      refine ⟨h.key_mem key hkey, ?_⟩
      intro value hvalue
      apply h.key_fits
      rwa [keyOrId, hkey]

end SchemaTables.Json
