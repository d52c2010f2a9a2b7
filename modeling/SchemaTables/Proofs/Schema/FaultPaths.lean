import SchemaTables.Proofs.Json.Misfits
import SchemaTables.Proofs.Schema.NestedFaults

/-!
# Paths to faults

Every fault of a document is reported with a path, and the path leads to the part of the document
that has the fault (`exists_part_of_mem_faults`).  Inside of metadata it goes on through members and
items to the value that does not fit.
-/

namespace SchemaTables

namespace Json

/-! ## Parts with faults -/

/-- The part is an object with these members, whose properties are these. -/
def HasColumns (part : Json) (members raw : Keyed Json) : Prop :=
  part = .object members ∧ Keyed.get? members "properties" = some (.object raw)

/-- The part itself has the fault.  A fault of a document as a whole, or of its references, is one
of no part. -/
def HasFault (part : Json) : Fault → Prop
  | .malformed => False
  | .notATable =>
    ∀ members raw, part = .object members → Schema.objectProperties? members ≠ some raw
  | .unsupportedColumn =>
    ∀ members, part = .object members →
      stringMember? members "$ref" = none ∧ typeName? members = none
  | .unsupportedFormat name => part = .string name ∧ TextFormat.ofName? name = none
  | .referenceStart => ∃ target, part = .string target ∧ Text.startsWith "#/" target = false
  | .referenceTooShort => ∃ target, part = .string target ∧ (Text.split '/' target).length < 3
  | .defaultNotScalar => ¬ part.IsScalar
  | .choiceNotScalar => ∃ items, part = .array items ∧ ∃ item ∈ items, ¬ item.IsScalar
  | .metadata cause => part.Misfits cause
  | .objectWithoutProperties =>
    ∃ members, part = .object members ∧ typeName? members = some (.container .object) ∧
      ∀ raw, Keyed.get? members "properties" ≠ some (.object raw)
  | .arrayWithoutItems =>
    ∃ members, part = .object members ∧ typeName? members = some (.container .array) ∧
      ∀ inner, Keyed.get? members "items" ≠ some (.object inner)
  | .arrayOfArrays =>
    ∃ members inner, part = .object members ∧ typeName? members = some (.container .array) ∧
      Keyed.get? members "items" = some (.object inner) ∧
        typeName? inner = some (.container .array)
  | .implicitKey problem =>
    ∃ members raw, part.HasColumns members raw ∧ stringMember? members "x-primary-key" = none ∧
      ∃ value, raw.get? "id" = some value ∧ (Declared.ofJson value).keyProblem? = some problem
  | .explicitKey problem =>
    ∃ members raw, part.HasColumns members raw ∧
      ∃ key value, stringMember? members "x-primary-key" = some key ∧ raw.get? key = some value ∧
        (Declared.ofJson value).keyProblem? = some problem
  | .keyless name shape =>
    ∃ members raw, part.HasColumns members raw ∧ stringMember? members "x-primary-key" = none ∧
      "id" ∉ raw.keys ∧ ∃ value, (name, value) ∈ raw ∧ (Declared.ofJson value).nested? = some shape
  | .missingField name =>
    ∃ members raw, part.HasColumns members raw ∧ name ∈ requiredNames members ∧ name ∉ raw.keys
  | .unknownKey name =>
    ∃ members raw, part.HasColumns members raw ∧
      stringMember? members "x-primary-key" = some name ∧ name ∉ raw.keys
  | .unknownTable _ _ | .unknownColumn _ _ _ | .unreferenceable _ _ _ _ => False

end Json

/-- A value that is no object is no table and no column. -/
theorem Json.hasFault_of_members? {part : Json} (h : part.members? = none) :
    part.HasFault .notATable ∧ part.HasFault .unsupportedColumn := by
  constructor
  · intro members raw hobject
    rw [hobject] at h
    cases h
  · intro members hobject
    rw [hobject] at h
    cases h

/-- The path of the diagnostic leads to a part of the document that has its fault. -/
def Diagnostic.IsIn (diagnostic : Diagnostic) (document : Json) : Prop :=
  ∃ part, document.at? diagnostic.path = some part ∧ part.HasFault diagnostic.fault

open Json

/-! ## Faults of tables -/

section

variable {members raw : Keyed Json} {key? : Option String} {fault : Fault} {name : String}

theorem mem_of_firstNested? {shape : Container} (h : firstNested? raw = some (name, shape)) :
    ∃ value, (name, value) ∈ raw ∧ (Declared.ofJson value).nested? = some shape := by
  induction raw with
  | nil => cases h
  | cons entry rest ih =>
      obtain ⟨key, value⟩ := entry
      rw [firstNested?] at h
      split at h
      · next found hnested =>
        cases h
        exact ⟨value, List.mem_cons_self, hnested⟩
      · obtain ⟨inner, hmem, hinner⟩ := ih h
        exact ⟨inner, List.mem_cons_of_mem _ hmem, hinner⟩

theorem hasFault_of_mem_tableFaults {part : Json} (h : part.HasColumns members raw)
    (hfault : fault ∈
      tableFaults (stringMember? members "x-primary-key") (requiredNames members) raw) :
    part.HasFault fault := by
  simp only [tableFaults, List.mem_append] at hfault
  rcases hfault with ((himplicit | hkeyless) | hmissing) | hexplicit
  · rw [implicitKeyFaults.eq_def] at himplicit
    dsimp only at himplicit
    split at himplicit
    · next problem hkey hproblem =>
      obtain ⟨value, hvalue, hdeclared⟩ := Option.bind_eq_some_iff.mp hproblem
      rw [List.mem_singleton.mp himplicit]
      exact ⟨members, raw, h, hkey, value, hvalue, hdeclared⟩
    · cases himplicit
  · rw [keylessFaults] at hkeyless
    split at hkeyless
    · next hnone =>
      obtain ⟨hkey, hid⟩ := Bool.and_eq_true_iff.mp hnone
      split at hkeyless
      · next found shape hfirst =>
        obtain ⟨value, hmem, hnested⟩ := mem_of_firstNested? hfirst
        rw [List.mem_singleton.mp hkeyless]
        exact ⟨members, raw, h, Option.isNone_iff_eq_none.mp hkey,
          Keyed.contains_eq_false_iff.mp (by simpa using hid), value, hmem, hnested⟩
      · cases hkeyless
    · cases hkeyless
  · obtain ⟨required, hrequired, rfl⟩ := List.mem_map.mp hmissing
    obtain ⟨hmem, hcontains⟩ := List.mem_filter.mp hrequired
    exact ⟨members, raw, h, hmem, Keyed.contains_eq_false_iff.mp (by simpa using hcontains)⟩
  · rw [explicitKeyFaults.eq_def] at hexplicit
    split at hexplicit
    · cases hexplicit
    · next key hkey =>
      split at hexplicit
      · next hunknown =>
        rw [List.mem_singleton.mp hexplicit]
        exact ⟨members, raw, h, hkey, Keyed.get?_eq_none_iff.mp hunknown⟩
      · next value hvalue =>
        split at hexplicit
        · next problem hproblem =>
          rw [List.mem_singleton.mp hexplicit]
          exact ⟨members, raw, h, key, value, hkey, hvalue, hproblem⟩
        · cases hexplicit

end

/-! ## Faults of attributes -/

section

variable {document : Json} {path : List String} {members : Keyed Json} {keyword : String}
  {value : Json} {fault : Fault}

theorem isIn_of_mem_singleton {part : Json} (h : document.at? path = some part)
    (hpart : part.HasFault fault) :
    ∀ diagnostic ∈ [(⟨path, fault⟩ : Diagnostic)], diagnostic.IsIn document := by
  rw [List.forall_mem_singleton]
  exact ⟨part, h, hpart⟩

theorem isIn_readDefault (h : document.at? path = some (.object members)) :
    ∀ diagnostic ∈ (readDefault path (members.get? "default")).faults,
      diagnostic.IsIn document := by
  rw [readDefault.eq_def]
  split
  · simp
  · next value hvalue =>
    split
    · simp
    · next hscalar =>
      refine isIn_of_mem_singleton (at?_append_member h hvalue) ?_
      rw [HasFault, IsScalar, hscalar]
      exact Bool.false_ne_true

theorem isIn_readChoices (h : document.at? path = some (.object members)) :
    ∀ diagnostic ∈ (readChoices path (members.get? "enum")).faults,
      diagnostic.IsIn document := by
  rw [readChoices.eq_def]
  split
  · next items hitems =>
    split
    · simp
    · next hscalars =>
      refine isIn_of_mem_singleton (at?_append_member h hitems) ⟨items, rfl, ?_⟩
      by_contra hnone
      push Not at hnone
      obtain ⟨scalars, hall⟩ := exists_mapM_scalars hnone
      rw [hall] at hscalars
      cases hscalars
  · simp

/-- What a field of metadata refuses, it locates. -/
theorem Metadata.locates_fields :
    ∀ field ∈ Metadata.fields, ∀ record, (field.update record).Locates := by
  simp only [Metadata.fields, List.forall_mem_cons]
  refine ⟨?_, ?_, ?_, ?_, ?_, ?_, ?_⟩
  · exact fun _ => locates_boolean.map _
  · exact fun _ => locates_boolean.map _
  · exact fun _ => locates_text.optional.map _
  · exact fun _ => locates_boolean.map _
  · exact fun _ => locates_text.optional.map _
  · exact fun _ => (locates_choice _ _).optional.map _
  · simp

/-- Where metadata are refused, the error is in them. -/
theorem Metadata.isIn_of_decode {e : DecodeError} (hdistinct : value.Distinct)
    (h : Metadata.decode value = .error e) : e.IsIn value := by
  refine isIn_of_record Metadata.locates_fields (by decide) ?_ h
  rintro members rfl
  exact hdistinct.keyed

theorem isIn_readMetadata (h : document.at? path = some (.object members))
    (hdistinct : (Json.object members).Distinct) :
    ∀ diagnostic ∈ (readMetadata path (members.get? "metadata")).faults,
      diagnostic.IsIn document := by
  rw [readMetadata.eq_def]
  split
  · simp
  · next value hvalue =>
    split
    · simp
    · next e he =>
      obtain ⟨part, hpart, hmisfits⟩ := Metadata.isIn_of_decode (hdistinct.get? hvalue) he
      have hplace : document.at? (path ++ "metadata" :: e.path) = some part := by
        rw [at?_append_of_at? h, at?_member hvalue]
        exact hpart
      exact isIn_of_mem_singleton hplace hmisfits

theorem isIn_readAttributes (h : document.at? path = some (.object members))
    (hdistinct : (Json.object members).Distinct) :
    ∀ diagnostic ∈ (readAttributes path members).faults, diagnostic.IsIn document :=
  List.forall_mem_append.mpr ⟨List.forall_mem_append.mpr ⟨isIn_readDefault h, isIn_readChoices h⟩,
    isIn_readMetadata h hdistinct⟩

/-! ## Faults of properties -/

theorem get?_of_stringMember? {text : String} (h : stringMember? members keyword = some text) :
    members.get? keyword = some (.string text) := by
  obtain ⟨value, hvalue, htext⟩ := Option.bind_eq_some_iff.mp h
  cases value with
  | string found =>
      cases htext
      exact hvalue
  | _ => cases htext

theorem isIn_referenceFaults {target : String} (h : document.at? path = some (.object members))
    (href : stringMember? members "$ref" = some target) :
    ∀ diagnostic ∈ referenceFaults path target, diagnostic.IsIn document := by
  have htarget := at?_append_member h (get?_of_stringMember? href)
  refine List.forall_mem_append.mpr ⟨?_, ?_⟩
  · split
    · simp
    · next hstart => exact isIn_of_mem_singleton htarget ⟨target, rfl, by simpa using hstart⟩
  · split
    · next hlength => exact isIn_of_mem_singleton htarget ⟨target, rfl, hlength⟩
    · simp

theorem isIn_readText (h : document.at? path = some (.object members))
    (hdistinct : (Json.object members).Distinct) :
    ∀ diagnostic ∈ (readText path members).faults, diagnostic.IsIn document := by
  refine List.forall_mem_append.mpr ⟨?_, isIn_readAttributes h hdistinct⟩
  rw [readFormat]
  split
  · simp
  · next name hname =>
    split
    · simp
    · next hformat =>
      exact isIn_of_mem_singleton (at?_append_member h (get?_of_stringMember? hname)) ⟨rfl, hformat⟩

theorem isIn_readContainer {shape : Container} {inside : Report (Option Property)}
    (h : document.at? path = some (.object members)) (hdistinct : (Json.object members).Distinct)
    (hinside : ∀ diagnostic ∈ inside.faults, diagnostic.IsIn document) :
    ∀ diagnostic ∈ (readContainer path members shape inside).faults,
      diagnostic.IsIn document := by
  have hattributes := isIn_readAttributes h hdistinct
  rw [readContainer, Report.andThen]
  split
  · refine List.forall_mem_append.mpr ⟨hattributes, ?_⟩
    split
    · simp
    · exact hinside
  · exact hattributes

theorem isIn_toTable {raw : Keyed Json} {properties : Report (Keyed Property)}
    (h : document.at? path = some (.object members))
    (hraw : Keyed.get? members "properties" = some (.object raw))
    (hproperties : ∀ diagnostic ∈ properties.faults, diagnostic.IsIn document) :
    ∀ diagnostic ∈ (properties.toTable path members raw).faults, diagnostic.IsIn document := by
  refine List.forall_mem_append.mpr ⟨hproperties, ?_⟩
  intro diagnostic hmem
  obtain ⟨fault, hfault, rfl⟩ := List.mem_map.mp hmem
  exact ⟨_, h, hasFault_of_mem_tableFaults ⟨rfl, hraw⟩ hfault⟩

mutual

/-- The faults of a part are in the document, if the part lies at the path. -/
theorem isIn_readProperty : ∀ (path : List String) (value : Json),
    document.at? path = some value → value.Distinct →
      ∀ diagnostic ∈ (readProperty path value).faults, diagnostic.IsIn document
  | path, .object members, h, hdistinct => by
      rw [readProperty]
      split
      · next target href => exact isIn_referenceFaults h href
      · next href =>
        split
        · exact isIn_readAttributes h hdistinct
        · exact isIn_readText h hdistinct
        · next htype =>
          exact isIn_readContainer h hdistinct
            (isIn_readNested path members members h htype rfl hdistinct)
        · next htype =>
          exact isIn_readContainer h hdistinct
            (isIn_readList path members members h htype rfl hdistinct)
        · next htype =>
          refine isIn_of_mem_singleton h ?_
          rintro found ⟨⟩
          exact ⟨href, htype⟩
  | _, .null, h, _ | _, .bool _, h, _ | _, .number _, h, _ | _, .string _, h, _
  | _, .array _, h, _ => by
      rw [readProperty.eq_def]
      exact isIn_of_mem_singleton h (hasFault_of_members? rfl).2

/-- The rest of the members still holds the `properties` of the table. -/
theorem isIn_readNested : ∀ (path : List String) (members rest : Keyed Json),
    document.at? path = some (.object members) →
      typeName? members = some (.container .object) →
        Keyed.get? members "properties" = rest.get? "properties" → (Json.object members).Distinct →
          ∀ diagnostic ∈ (readNested path members rest).faults, diagnostic.IsIn document
  | path, members, [], h, htype, hrest, _ => by
      rw [readNested]
      refine isIn_of_mem_singleton h ⟨members, rfl, htype, ?_⟩
      intro raw hraw
      cases hrest.symm.trans hraw
  | path, members, (key, value) :: rest, h, htype, hrest, hdistinct => by
      rw [Keyed.get?] at hrest
      rw [readNested.eq_def]
      dsimp only
      by_cases hkey : key = "properties"
      · rw [if_pos hkey] at hrest ⊢
        cases value with
        | object raw =>
            refine isIn_toTable h hrest ?_
            have hraw := hdistinct.get? hrest
            exact isIn_readProperties path raw raw (at?_append_member h hrest)
              (fun name inner hmem => ⟨hraw.keyed.get?_of_mem hmem, hraw.of_mem hmem⟩)
        | _ =>
            refine isIn_of_mem_singleton h ⟨members, rfl, htype, ?_⟩
            intro raw hraw
            cases hrest.symm.trans hraw
      · rw [if_neg hkey] at hrest ⊢
        exact isIn_readNested path members rest h htype hrest hdistinct

/-- The rest of the members still holds the `items` of the array. -/
theorem isIn_readList : ∀ (path : List String) (members rest : Keyed Json),
    document.at? path = some (.object members) →
      typeName? members = some (.container .array) →
        Keyed.get? members "items" = rest.get? "items" → (Json.object members).Distinct →
          ∀ diagnostic ∈ (readList path rest).faults, diagnostic.IsIn document
  | path, members, [], h, htype, hrest, _ => by
      rw [readList]
      refine isIn_of_mem_singleton h ⟨members, rfl, htype, ?_⟩
      intro inner hinner
      cases hrest.symm.trans hinner
  | path, members, (key, value) :: rest, h, htype, hrest, hdistinct => by
      rw [Keyed.get?] at hrest
      rw [readList.eq_def]
      dsimp only
      by_cases hkey : key = "items"
      · rw [if_pos hkey] at hrest ⊢
        cases value with
        | object inner =>
            dsimp only
            by_cases hinner : typeName? inner = some (.container .array)
            · rw [if_pos hinner]
              exact isIn_of_mem_singleton h ⟨members, inner, rfl, htype, hrest, hinner⟩
            · rw [if_neg hinner]
              exact isIn_readProperty (path ++ ["items"]) (.object inner)
                (at?_append_member h hrest) (hdistinct.get? hrest)
        | _ =>
            refine isIn_of_mem_singleton h ⟨members, rfl, htype, ?_⟩
            intro inner hinner
            cases hrest.symm.trans hinner
      · rw [if_neg hkey] at hrest ⊢
        exact isIn_readList path members rest h htype hrest hdistinct

/-- The rest of the properties is among those that lie behind the path. -/
theorem isIn_readProperties : ∀ (path : List String) (raw rest : Keyed Json),
    document.at? (path ++ ["properties"]) = some (.object raw) →
      (∀ name value, (name, value) ∈ rest → raw.get? name = some value ∧ value.Distinct) →
        ∀ diagnostic ∈ (readProperties path rest).faults, diagnostic.IsIn document
  | path, raw, [], _, _ => by
      rw [readProperties]
      simp
  | path, raw, (key, value) :: rest, h, hrest => by
      obtain ⟨hget, hdistinct⟩ := hrest key value List.mem_cons_self
      have hvalue : document.at? (path ++ ["properties", key]) = some value := by
        have hkey := at?_append_member h hget
        rwa [List.append_assoc] at hkey
      rw [readProperties]
      refine List.forall_mem_append.mpr
        ⟨isIn_readProperty (path ++ ["properties", key]) value hvalue hdistinct,
          isIn_readProperties path raw rest h ?_⟩
      exact fun name inner hmem => hrest name inner (List.mem_cons_of_mem _ hmem)

end

theorem isIn_readTable (h : document.at? path = some value) (hdistinct : value.Distinct) :
    ∀ diagnostic ∈ (readTable path value).faults, diagnostic.IsIn document := by
  cases value with
  | object members =>
      rw [readTable]
      split
      · next raw hraw =>
        have hproperties := (objectProperties?_eq_some_iff.mp hraw).2
        have hcolumns := hdistinct.get? hproperties
        refine isIn_toTable h hproperties
          (isIn_readProperties path raw raw (at?_append_member h hproperties) ?_)
        exact fun name inner hmem => ⟨hcolumns.keyed.get?_of_mem hmem, hcolumns.of_mem hmem⟩
      · next hnone =>
        refine isIn_of_mem_singleton h ?_
        rintro found raw ⟨⟩ hraw
        cases hnone.symm.trans hraw
  | _ => exact isIn_of_mem_singleton h (hasFault_of_members? rfl).1

end

/-- The path of each fault of a well-formed document leads to a part of the document, and that part
has the fault. -/
theorem exists_part_of_mem_faults {document : Json} (hdistinct : document.Distinct)
    (hdocument : Schema.isDocument document = true) {diagnostic : Diagnostic}
    (h : diagnostic ∈ Database.faults document) :
    ∃ part, document.at? diagnostic.path = some part ∧ part.HasFault diagnostic.fault := by
  obtain ⟨properties, hproperties⟩ := Option.isSome_iff_exists.mp hdocument
  obtain ⟨members, rfl, hget⟩ := documentProperties?_eq_some hproperties
  have hentries := hdistinct.get? hget
  rw [Database.faults_eq_readTables hproperties, readTables_eq] at h
  obtain ⟨⟨name, table⟩, hmem, hfault⟩ := List.mem_flatMap.mp h
  have htable : (Json.object members).at? ["properties", name] = some table := by
    rw [at?_member hget, at?_member (hentries.keyed.get?_of_mem hmem), at?_nil]
  exact isIn_readTable htable (hentries.of_mem hmem) diagnostic hfault

/-! ## Settings with a storage of the wrong form -/

/-- The metadata of the settings are an array, whose last item names a storage with a truth value
under it where nothing may be. -/
def flaggedStorage : Keyed Json :=
  [("metadata", .array
    [.bool false, .bool false, .null, .bool false, .null, .object [("json", .bool true)]])]

/-- The path leads through the metadata to that truth value. -/
theorem exists_part_of_mem_faults_flagged :
    (themedDocument flaggedStorage).Distinct ∧
      Schema.isDocument (themedDocument flaggedStorage) = true ∧
      ∃ part, (themedDocument flaggedStorage).at?
          ["properties", "users", "properties", "settings", "metadata", "5", "json"] = some part ∧
        part.Misfits (.kind (.bool true) .unit) := by
  have hdistinct : (themedDocument flaggedStorage).Distinct := by
    simp [themedDocument, themedSettings, flaggedStorage, Json.Distinct, Json.DistinctMembers,
      Json.DistinctItems, Keyed.Distinct, Keyed.keys]
  have hfault : (⟨["properties", "users", "properties", "settings", "metadata", "5", "json"],
      .metadata (.kind (.bool true) .unit)⟩ : Diagnostic) ∈
        Database.faults (themedDocument flaggedStorage) :=
    List.mem_cons_self
  exact ⟨hdistinct, rfl, exists_part_of_mem_faults hdistinct rfl hfault⟩

end SchemaTables
