import SchemaTables.Compilation
import SchemaTables.Proofs.Table.Resolution

/-!
# The steps of a compilation

A compilation that succeeds has gone through all of its steps: the document was read as a database,
the references of its flat tables were resolved, and the statements were written from them.
-/

namespace SchemaTables

variable {document : Json} {dialect : Dialect} {tables : List Table}

theorem compileTables_eq_ok (h : compileTables document = .ok tables) :
    ∃ database, Database.read document = .ok database ∧
      resolveAll database.tables = .ok tables := by
  rw [compileTables] at h
  cases hread : Database.read document with
  | error diagnostics => simp [hread] at h
  | ok database =>
      rw [hread] at h
      exact ⟨database, rfl, h⟩

theorem migrate_of_compileTables (h : compileTables document = .ok tables) :
    migrate dialect document = .ok (Migration.ofTables dialect tables) := by
  rw [migrate, h]
  rfl

theorem compile_of_compileTables (h : compileTables document = .ok tables) :
    compile dialect document = .ok ((Migration.ofTables dialect tables).script dialect) := by
  rw [compile, migrate_of_compileTables h]
  rfl

theorem compile_eq_ok {script : Script} (h : compile dialect document = .ok script) :
    ∃ tables, compileTables document = .ok tables ∧
      script = (Migration.ofTables dialect tables).script dialect := by
  rw [compile, migrate] at h
  cases htables : compileTables document with
  | error diagnostics => simp [htables, Except.map] at h
  | ok tables =>
      rw [htables] at h
      cases h
      exact ⟨tables, rfl, rfl⟩

/-- A compilation does not fail without telling why. -/
theorem not_compileTables_error_nil : compileTables document ≠ .error [] := by
  rw [compileTables]
  cases hread : Database.read document with
  | error diagnostics =>
      intro h
      cases h
      rw [Database.read] at hread
      split at hread
      · simp at hread
      · split at hread
        · contradiction
        · next hfaults _ =>
          exact hfaults (by simpa using hread)
  | ok database =>
      intro h
      dsimp only at h
      rw [resolveAll] at h
      split at h
      · contradiction
      · next hdiagnostics => exact hdiagnostics (Except.error.inj h)

/-- Nothing is wrong with a document exactly if it compiles. -/
theorem check_eq_nil_iff :
    check document = [] ↔ ∃ script, compile dialect document = .ok script := by
  constructor
  · intro h
    rw [check] at h
    cases htables : compileTables document with
    | ok tables => exact ⟨_, compile_of_compileTables htables⟩
    | error diagnostics =>
        have hnone : diagnostics = [] := by
          rw [htables] at h
          exact h
        rw [hnone] at htables
        exact absurd htables not_compileTables_error_nil
  · rintro ⟨script, hscript⟩
    obtain ⟨tables, htables, -⟩ := compile_eq_ok hscript
    rw [check, htables]

end SchemaTables
