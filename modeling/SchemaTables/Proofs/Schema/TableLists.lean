import Mathlib.Data.List.Perm.Basic
import SchemaTables.Proofs.Schema.Completeness

/-!
# Reading tables one by one

The tables of a database are read independently of each other: what is read from a list of tables,
and the faults that are met, follow the list entry by entry (`readTables_eq`).
-/

namespace SchemaTables

/-- What was read if no fault was met, else all faults. -/
def Report.toExcept (report : Report α) : Except (List Diagnostic) α :=
  match report.faults with
  | [] => .ok report.value
  | faults => .error faults

/-- The table that is read from an entry, with its name. -/
def readEntry? (entry : String × Json) : Option (String × TableSchema) :=
  (readTable ["properties", entry.1] entry.2).value.map fun table => (entry.1, table)

/-- The faults that are met in an entry. -/
def entryFaults (entry : String × Json) : List Diagnostic :=
  (readTable ["properties", entry.1] entry.2).faults

theorem readTables_eq (properties : Keyed Json) :
    readTables properties =
      ⟨properties.filterMap readEntry?, properties.flatMap entryFaults⟩ := by
  induction properties with
  | nil => rfl
  | cons entry rest ih =>
      obtain ⟨name, value⟩ := entry
      rw [readTables, ih, List.filterMap_cons, List.flatMap_cons, readEntry?]
      cases (readTable ["properties", name] value).value <;> rfl

theorem readTables_append (first second : Keyed Json) :
    readTables (first ++ second) =
      ⟨(readTables first).value ++ (readTables second).value,
        (readTables first).faults ++ (readTables second).faults⟩ := by
  simp only [readTables_eq, List.filterMap_append, List.flatMap_append]

theorem readTables_perm {properties others : Keyed Json} (h : properties.Perm others) :
    (readTables properties).value.Perm (readTables others).value ∧
      (readTables properties).faults.Perm (readTables others).faults := by
  simp only [readTables_eq]
  exact ⟨h.filterMap readEntry?, h.flatMap_right entryFaults⟩

theorem Database.read_eq_toExcept {document : Json} {properties : Keyed Json}
    (h : Schema.documentProperties? document = some properties) :
    Database.read document = (readTables properties).toExcept := by
  rw [Database.read, h, Report.toExcept]
  dsimp only
  rcases readTables properties with ⟨database, faults⟩
  cases faults <;> rfl

end SchemaTables
