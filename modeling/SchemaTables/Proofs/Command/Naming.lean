import Mathlib.Data.List.Nodup
import SchemaTables.Command.Inputs
import SchemaTables.Proofs.Ddl.Names
import SchemaTables.Proofs.Decimal.Numerals
import SchemaTables.Proofs.Files.Path

/-!
# The names of documents

The documents that come from one file always have different names.  Those of two files have a name
in common exactly if the files clash (`Batch.clashes_iff`): by their stems, or by the stem of one
file and a position in the other one.
-/

namespace SchemaTables

theorem avoids_toString {c : Char} (hc : c ∈ ['_', '/']) (n : Nat) :
    Text.Avoids c (toString n) := by
  intro hmem
  have hnumeral : Decimal.IsNumeral c := areNumerals_toString n c hmem
  rcases List.mem_pair.mp hc with rfl | rfl
  · exact absurd hnumeral (by decide)
  · exact absurd hnumeral (by decide)

theorem toList_append_position (stem : String) (i : Nat) :
    (stem ++ "_" ++ toString i).toList = stem.toList ++ '_' :: (toString i).toList := by
  simp [String.toList_append]

/-- A stem and a position behind it are known by the name. -/
theorem append_position_injective {first second : String} {i j : Nat}
    (h : first ++ "_" ++ toString i = second ++ "_" ++ toString j) : first = second ∧ i = j := by
  have hchars := congrArg String.toList h
  rw [toList_append_position, toList_append_position] at hchars
  obtain ⟨hstem, hposition⟩ := append_separator_injective (avoids_toString (by decide) i)
    (avoids_toString (by decide) j) hchars
  exact ⟨String.toList_injective hstem, toString_injective hposition⟩

namespace Command

/-- A file, and the documents that come from it. -/
structure Batch where
  path : String
  documents : List Json
  deriving Inhabited

namespace Batch

variable {first second single several batch : Batch} {name : String} {i j : Nat}

/-- The documents under their names. -/
def inputs (batch : Batch) : List Input := named batch.path batch.documents

/-- The name of the file without its extension. -/
def stem (batch : Batch) : String := (Path.stem? batch.path).getD unnamed

/-- What the document at a position is called. -/
def nameAt (batch : Batch) (i : Nat) : String :=
  if batch.documents.length = 1 then batch.stem else batch.stem ++ "_" ++ toString i

def names (batch : Batch) : List String := (List.range batch.documents.length).map batch.nameAt

theorem map_name_inputs (batch : Batch) : batch.inputs.map Input.name = batch.names := by
  obtain ⟨path, documents⟩ := batch
  by_cases hone : documents.length = 1
  · obtain ⟨document, rfl⟩ := List.length_eq_one_iff.mp hone
    rfl
  · unfold inputs named
    dsimp only
    split
    · exact absurd rfl hone
    · apply List.ext_getElem
      · simp [names]
      · intro i hi hj
        simp [names, nameAt, stem, hone]

/-! ## Names of one file -/

theorem nameAt_of_single (h : batch.documents.length = 1) : batch.nameAt i = batch.stem := if_pos h

theorem nameAt_of_several (h : 1 < batch.documents.length) :
    batch.nameAt i = batch.stem ++ "_" ++ toString i := if_neg (by omega)

theorem mem_names_iff :
    name ∈ batch.names ↔ ∃ i < batch.documents.length, batch.nameAt i = name := by
  simp [names]

theorem nodup_names (batch : Batch) : batch.names.Nodup := by
  refine List.Nodup.map_on ?_ List.nodup_range
  intro i hi j hj hname
  rw [List.mem_range] at hi hj
  by_cases hone : batch.documents.length = 1
  · omega
  · have hseveral : 1 < batch.documents.length := by omega
    rw [nameAt_of_several hseveral, nameAt_of_several hseveral] at hname
    exact (append_position_injective hname).2

theorem avoids_stem (batch : Batch) : Text.Avoids '/' batch.stem := by
  rw [stem]
  cases hstem : Path.stem? batch.path with
  | none => decide
  | some stem => exact Path.avoids_of_stem? hstem

/-- Names lead nowhere but into the directory that they are put in. -/
theorem avoids_of_mem_names (h : name ∈ batch.names) : Text.Avoids '/' name := by
  obtain ⟨i, -, rfl⟩ := mem_names_iff.mp h
  rw [nameAt]
  split
  · exact batch.avoids_stem
  · rw [Text.Avoids, toList_append_position]
    intro hmem
    rcases List.mem_append.mp hmem with hstem | hposition
    · exact batch.avoids_stem hstem
    · rcases List.mem_cons.mp hposition with hseparator | hdigit
      · exact absurd hseparator (by decide)
      · exact avoids_toString (by decide) i hdigit

/-! ## Names of two files -/

/-- The only document of a file is called like one of the several documents of another one. -/
def TakesName (single several : Batch) : Prop :=
  single.documents.length = 1 ∧ 1 < several.documents.length ∧
    ∃ i < several.documents.length, single.stem = several.stem ++ "_" ++ toString i

/-- Two files have one stem, and a document each or several documents each; or the stem of a file
with one document is that of a file with several ones and the position of one of these. -/
def Clashes (first second : Batch) : Prop :=
  (first.stem = second.stem ∧
    (first.documents.length = 1 ∧ second.documents.length = 1 ∨
      1 < first.documents.length ∧ 1 < second.documents.length)) ∨
    first.TakesName second ∨ second.TakesName first

theorem TakesName.exists_mem (h : single.TakesName several) :
    ∃ name, name ∈ single.names ∧ name ∈ several.names := by
  obtain ⟨hone, hmany, i, hi, hstem⟩ := h
  refine ⟨single.stem, mem_names_iff.mpr ⟨0, by omega, nameAt_of_single hone⟩, ?_⟩
  exact mem_names_iff.mpr ⟨i, hi, (nameAt_of_several hmany).trans hstem.symm⟩

theorem takesName_of_nameAt_eq (hone : single.documents.length = 1)
    (hmany : 1 < several.documents.length) (hi : i < several.documents.length)
    (h : single.nameAt j = several.nameAt i) : single.TakesName several := by
  rw [nameAt_of_single hone, nameAt_of_several hmany] at h
  exact ⟨hone, hmany, i, hi, h⟩

/-- Files clash exactly if documents that come from them have a name in common. -/
theorem clashes_iff :
    first.Clashes second ↔ ∃ name, name ∈ first.names ∧ name ∈ second.names := by
  constructor
  · rintro (⟨hstem, ⟨hfirst, hsecond⟩ | ⟨hfirst, hsecond⟩⟩ | htakes | htakes)
    · refine ⟨first.stem, mem_names_iff.mpr ⟨0, by omega, nameAt_of_single hfirst⟩, ?_⟩
      exact mem_names_iff.mpr ⟨0, by omega, (nameAt_of_single hsecond).trans hstem.symm⟩
    · refine ⟨first.stem ++ "_" ++ toString 0,
        mem_names_iff.mpr ⟨0, by omega, nameAt_of_several hfirst⟩, ?_⟩
      rw [hstem]
      exact mem_names_iff.mpr ⟨0, by omega, nameAt_of_several hsecond⟩
    · exact htakes.exists_mem
    · obtain ⟨name, hsecond, hfirst⟩ := htakes.exists_mem
      exact ⟨name, hfirst, hsecond⟩
  · rintro ⟨name, hfirst, hsecond⟩
    obtain ⟨i, hi, hnameAt⟩ := mem_names_iff.mp hfirst
    obtain ⟨j, hj, hother⟩ := mem_names_iff.mp hsecond
    have hsame : first.nameAt i = second.nameAt j := hnameAt.trans hother.symm
    by_cases hone : first.documents.length = 1
    · by_cases hother : second.documents.length = 1
      · rw [nameAt_of_single hone, nameAt_of_single hother] at hsame
        exact Or.inl ⟨hsame, Or.inl ⟨hone, hother⟩⟩
      · exact Or.inr (Or.inl (takesName_of_nameAt_eq hone (by omega) hj hsame))
    · by_cases hother : second.documents.length = 1
      · exact Or.inr (Or.inr (takesName_of_nameAt_eq hother (by omega) hi hsame.symm))
      · have hfirst : 1 < first.documents.length := by omega
        have hsecond : 1 < second.documents.length := by omega
        rw [nameAt_of_several hfirst, nameAt_of_several hsecond] at hsame
        exact Or.inl ⟨(append_position_injective hsame).1, Or.inr ⟨hfirst, hsecond⟩⟩

/-- Documents have different names exactly if no two of their files clash. -/
theorem nodup_flatMap_names_iff {batches : List Batch} :
    (batches.flatMap names).Nodup ↔
      batches.Pairwise fun first second => ¬ first.Clashes second := by
  have hdisjoint : ∀ first second : Batch,
      ¬ first.Clashes second ↔ List.Disjoint first.names second.names := by
    intro first second
    rw [clashes_iff]
    constructor
    · intro hnone name hfirst hsecond
      exact hnone ⟨name, hfirst, hsecond⟩
    · rintro hdisjoint ⟨name, hfirst, hsecond⟩
      exact hdisjoint hfirst hsecond
  rw [List.nodup_flatMap]
  constructor
  · rintro ⟨-, hpairs⟩
    exact hpairs.imp fun h => (hdisjoint _ _).mpr h
  · intro hpairs
    exact ⟨fun batch _ => batch.nodup_names, hpairs.imp fun h => (hdisjoint _ _).mp h⟩

end Batch

/-! ## Documents of several files -/

/-- A document with the path of its file. -/
def Input.sourced (input : Input) : String × Json := (input.source, input.document)

/-- The documents of batches, each with the path of its file. -/
def documentsOf (batches : List Batch) : List (String × Json) :=
  batches.flatMap fun batch => batch.documents.map (batch.path, ·)

theorem Batch.map_sourced_inputs (batch : Batch) :
    batch.inputs.map Input.sourced = batch.documents.map (batch.path, ·) := by
  obtain ⟨path, documents⟩ := batch
  unfold inputs named
  dsimp only
  split
  · rfl
  · apply List.ext_getElem
    · simp
    · intro i hi hj
      simp [Input.sourced]

theorem map_name_flatMap_inputs (batches : List Batch) :
    (batches.flatMap Batch.inputs).map Input.name = batches.flatMap Batch.names := by
  rw [List.map_flatMap]
  exact congrArg batches.flatMap (funext Batch.map_name_inputs)

theorem map_sourced_flatMap_inputs (batches : List Batch) :
    (batches.flatMap Batch.inputs).map Input.sourced = documentsOf batches := by
  rw [List.map_flatMap, documentsOf]
  exact congrArg batches.flatMap (funext Batch.map_sourced_inputs)

end Command

end SchemaTables
