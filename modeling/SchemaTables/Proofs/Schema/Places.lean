import SchemaTables.Proofs.Schema.TableLists

/-!
# Places of faults

What is read from a part of a document does not depend on where the part stands, and neither do its
faults, their places apart: these are the place of the part, continued by a place within it
(`readProperty_eq_under`, `readTable_eq_under`).
-/

namespace SchemaTables

/-- The diagnostic of a part, told from the whole in which the part stands at a place. -/
def Diagnostic.under (outer : List String) (diagnostic : Diagnostic) : Diagnostic :=
  ⟨outer ++ diagnostic.path, diagnostic.fault⟩

namespace Report

/-- The report of a part, told from the whole in which the part stands at a place. -/
def under (outer : List String) (report : Report α) : Report α :=
  ⟨report.value, report.faults.map (Diagnostic.under outer)⟩

variable {outer path : List String}

theorem under_refuse (fault : Fault) :
    (refuse path fault : Report (Option α)).under outer = refuse (outer ++ path) fault := rfl

theorem under_map (report : Report α) (f : α → β) :
    (report.map f).under outer = (report.under outer).map f := rfl

theorem under_andThen (report : Report (Option α)) (f : α → Report (Option β)) :
    (report.andThen f).under outer =
      (report.under outer).andThen fun value => (f value).under outer := by
  obtain ⟨value?, faults⟩ := report
  cases value? with
  | none => rfl
  | some value => simp [andThen, under]

theorem under_toTable (members raw : Keyed Json) (properties : Report (Keyed Property)) :
    (properties.toTable path members raw).under outer =
      (properties.under outer).toTable (outer ++ path) members raw := by
  simp [toTable, under, Diagnostic.under, Function.comp_def]

end Report

open Report

variable {outer path : List String}

/-! ## Attributes -/

theorem readDefault_under (outer path : List String) (value? : Option Json) :
    readDefault (outer ++ path) value? = (readDefault path value?).under outer := by
  cases value? with
  | none => rfl
  | some value =>
      rw [readDefault, readDefault]
      cases Scalar.ofJson? value with
      | none => simp [under_refuse]
      | some scalar => rfl

theorem readChoices_under (outer path : List String) (value? : Option Json) :
    readChoices (outer ++ path) value? = (readChoices path value?).under outer := by
  cases value? with
  | none => rfl
  | some value =>
      cases value with
      | array items =>
          rw [readChoices, readChoices]
          cases items.mapM Scalar.ofJson? with
          | none => simp [under_refuse]
          | some scalars => rfl
      | _ => rfl

theorem readMetadata_under (outer path : List String) (value? : Option Json) :
    readMetadata (outer ++ path) value? = (readMetadata path value?).under outer := by
  cases value? with
  | none => rfl
  | some value =>
      rw [readMetadata, readMetadata]
      cases Metadata.decode value with
      | error e => simp [under_refuse]
      | ok metadata => rfl

theorem readAttributes_under (outer path : List String) (members : Keyed Json) :
    readAttributes (outer ++ path) members = (readAttributes path members).under outer := by
  simp [readAttributes, readDefault_under, readChoices_under, readMetadata_under, under]

/-! ## Properties -/

theorem referenceFaults_under (outer path : List String) (target : String) :
    referenceFaults (outer ++ path) target =
      (referenceFaults path target).map (Diagnostic.under outer) := by
  rw [referenceFaults, referenceFaults, List.map_append]
  congr 1
  · split
    · rfl
    · simp [Diagnostic.under]
  · split
    · simp [Diagnostic.under]
    · rfl

theorem readFormat_under (outer path : List String) (members : Keyed Json) :
    readFormat (outer ++ path) members = (readFormat path members).under outer := by
  rw [readFormat, readFormat]
  cases Json.stringMember? members "format" with
  | none => rfl
  | some name =>
      dsimp only
      cases TextFormat.ofName? name with
      | none => simp [under, Diagnostic.under]
      | some format => rfl

theorem readText_under (outer path : List String) (members : Keyed Json) :
    readText (outer ++ path) members = (readText path members).under outer := by
  simp [readText, readFormat_under, readAttributes_under, under]

theorem readContainer_under (outer path : List String) (members : Keyed Json) (shape : Container)
    (inside : Report (Option Property)) :
    readContainer (outer ++ path) members shape (inside.under outer) =
      (readContainer path members shape inside).under outer := by
  rw [readContainer, readContainer, under_andThen, readAttributes_under]
  congr 1
  funext attributes
  cases attributes.metadata.storage <;> rfl

mutual

/-- A property is read alike wherever it stands. -/
theorem readProperty_under (outer : List String) :
    ∀ (path : List String) (value : Json),
      readProperty (outer ++ path) value = (readProperty path value).under outer
  | path, .object members => by
      rw [readProperty, readProperty]
      cases Json.stringMember? members "$ref" with
      | some target => simp [referenceFaults_under, under]
      | none =>
          cases typeName? members with
          | none => rfl
          | some type =>
              cases type with
              | primitive kind => simp only [readAttributes_under, under_map]
              | string => exact readText_under outer path members
              | container shape =>
                  cases shape with
                  | object =>
                      simp only
                      rw [readNested_under outer path members members, readContainer_under]
                  | array =>
                      simp only
                      rw [readList_under outer path members, readContainer_under]
  | _, .null | _, .bool _ | _, .number _ | _, .string _ | _, .array _ => by
      simp [readProperty, under_refuse]

theorem readNested_under (outer : List String) :
    ∀ (path : List String) (members : Keyed Json) (rest : List (String × Json)),
      readNested (outer ++ path) members rest = (readNested path members rest).under outer
  | path, members, [] => by simp [readNested, under_refuse]
  | path, members, (key, value) :: rest => by
      rw [readNested.eq_def, readNested.eq_def path]
      dsimp only
      by_cases hkey : key = "properties"
      · rw [if_pos hkey, if_pos hkey]
        cases value with
        | object raw =>
            simp only
            rw [readProperties_under outer path raw, under_map, under_toTable]
        | _ => rfl
      · rw [if_neg hkey, if_neg hkey]
        exact readNested_under outer path members rest

theorem readList_under (outer : List String) :
    ∀ (path : List String) (rest : List (String × Json)),
      readList (outer ++ path) rest = (readList path rest).under outer
  | path, [] => by simp [readList, under_refuse]
  | path, (key, value) :: rest => by
      rw [readList.eq_def, readList.eq_def path]
      dsimp only
      by_cases hkey : key = "items"
      · rw [if_pos hkey, if_pos hkey]
        cases value with
        | object inner =>
            simp only
            by_cases hinner : typeName? inner = some (.container .array)
            · rw [if_pos hinner, if_pos hinner, under_refuse]
            · rw [if_neg hinner, if_neg hinner, List.append_assoc,
                readProperty_under outer (path ++ ["items"]) (.object inner), under_map]
        | _ => rfl
      · rw [if_neg hkey, if_neg hkey]
        exact readList_under outer path rest

theorem readProperties_under (outer : List String) :
    ∀ (path : List String) (raw : List (String × Json)),
      readProperties (outer ++ path) raw = (readProperties path raw).under outer
  | _, [] => by simp [readProperties, under]
  | path, (key, value) :: rest => by
      rw [readProperties, readProperties, List.append_assoc,
        readProperty_under outer (path ++ ["properties", key]) value,
        readProperties_under outer path rest]
      simp [under]

end

theorem readProperty_eq_under (path : List String) (value : Json) :
    readProperty path value = (readProperty [] value).under path := by
  have hunder := readProperty_under path [] value
  rwa [List.append_nil] at hunder

/-! ## Tables -/

/-- A table is read alike wherever it stands. -/
theorem readTable_under (outer path : List String) (value : Json) :
    readTable (outer ++ path) value = (readTable path value).under outer := by
  cases value with
  | object members =>
      rw [readTable, readTable]
      cases Schema.objectProperties? members with
      | none => rfl
      | some raw => simp only [readProperties_under, under_map, under_toTable]
  | _ => rfl

theorem readTable_eq_under (path : List String) (value : Json) :
    readTable path value = (readTable [] value).under path := by
  have hunder := readTable_under path [] value
  rwa [List.append_nil] at hunder

end SchemaTables
