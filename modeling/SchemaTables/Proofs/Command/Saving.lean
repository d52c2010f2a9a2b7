import SchemaTables.Proofs.Command.Runs

/-!
# Saved scripts

Saving a script makes the directory that it is put into, and what else has to be made for that, and
writes two files.  The directory then holds the script (`holds_of_saveScript`), and directories next
to it still hold what they did (`Session.Holds.saveScript`).  All other actions let a session grow.
-/

namespace SchemaTables

/-- The files in a directory hold a script. -/
structure Session.Holds (session : Session) (directory : String) (script : Script) : Prop where
  up : session.disk.read session.working (Path.join directory "up.sql") =
    .ok (Command.fileText script.up)
  down : session.disk.read session.working (Path.join directory "down.sql") =
    .ok (Command.fileText script.down)

theorem Session.Grows.holds {before after : Session} {directory : String} {script : Script}
    (hgrows : before.Grows after) (h : before.Holds directory script) :
    after.Holds directory script := by
  constructor
  · rw [hgrows.working]
    exact hgrows.disk.read h.up
  · rw [hgrows.working]
    exact hgrows.disk.read h.down

namespace Command

open Session

variable {before after : Session} {path text base name other directory : String}
  {script kept : Script}

/-! ## Directories -/

theorem leaves_settle (path : String) (outcome : Except AccessError Unit) :
    Leaves Grows (makeDirectories.settle Session.system path outcome) := by
  cases outcome with
  | ok _ => exact leaves_pure _
  | error cause =>
      refine (leaves_isDirectory path).bind fun isThere => ?_
      split
      · exact leaves_pure _
      · exact leaves_pure _

theorem leaves_makeDirectories (absolute : Bool) (names : List String) :
    Leaves Grows (makeDirectories Session.system absolute names) := by
  induction names with
  | nil => exact leaves_pure _
  | cons name above ih =>
      rw [makeDirectories]
      refine (leaves_makeDirectory _).bind fun outcome => ?_
      split
      · exact leaves_pure _
      · refine ih.bind fun madeAbove => ?_
        split
        · exact leaves_pure _
        · exact (leaves_makeDirectory _).bind fun again => leaves_settle _ again
      · exact leaves_settle _ _

/-! ## Files -/

theorem isName_up : Path.IsName "up.sql" := ⟨by decide, by decide, by decide, by decide⟩

theorem isName_down : Path.IsName "down.sql" := ⟨by decide, by decide, by decide, by decide⟩

theorem yields_writeFile (h : Yields (writeFile Session.system path text) before ⟨⟩ after) :
    ∃ written, before.disk.write before.working path text = .ok written ∧
      after = { before with disk := written } := by
  rw [writeFile, yields_bind_iff] at h
  obtain ⟨outcome, middle, hwrite, hends⟩ := h
  have hrun := yields_lift_iff.mp hwrite
  rw [Session.system] at hrun
  dsimp only at hrun
  cases hwritten : before.disk.write before.working path text with
  | error cause =>
      rw [run_changing_of_error hwritten] at hrun
      obtain ⟨rfl, rfl⟩ := Prod.mk.inj hrun
      exact absurd hends not_yields_throw
  | ok written =>
      rw [run_changing_of_ok hwritten] at hrun
      obtain ⟨rfl, rfl⟩ := Prod.mk.inj hrun
      obtain ⟨-, rfl⟩ := yields_pure_iff.mp hends
      exact ⟨written, rfl, rfl⟩

/-- A script has been saved when its directory is there and its two files are written. -/
theorem yields_saveScript
    (h : Yields (saveScript Session.system directory script) before ⟨⟩ after) :
    ∃ made first second, before.Grows made ∧
      made.disk.write made.working (Path.join directory "up.sql") (fileText script.up) = .ok first ∧
      first.write made.working (Path.join directory "down.sql") (fileText script.down) =
        .ok second ∧
      after = { made with disk := second } := by
  rw [saveScript, yields_bind_iff] at h
  obtain ⟨outcome, made, hmakes, hwrites⟩ := h
  have hgrows : before.Grows made :=
    hmakes.related (leaves_lift (leaves_makeDirectories _ (Path.names directory).reverse))
  cases outcome with
  | error cause => exact absurd hwrites not_yields_throw
  | ok _ =>
      obtain ⟨_, middle, hup, hdown⟩ := yields_bind_iff.mp hwrites
      obtain ⟨first, hfirst, rfl⟩ := yields_writeFile hup
      obtain ⟨second, hsecond, rfl⟩ := yields_writeFile hdown
      exact ⟨made, first, second, hgrows, hfirst, hsecond, rfl⟩

/-- A directory holds the script that has been saved into it. -/
theorem holds_of_saveScript (hname : Path.IsName name)
    (h : Yields (saveScript Session.system (Path.join base name) script) before ⟨⟩ after) :
    after.Holds (Path.join base name) script := by
  obtain ⟨made, first, second, -, hup, hdown, rfl⟩ := yields_saveScript h
  have hfiles : ¬ (name = name ∧ "up.sql" = "down.sql") := by
    rintro ⟨-, hfile⟩
    exact absurd hfile (by decide)
  exact ⟨Disk.read_of_write_beside hname isName_down hname isName_up hfiles hdown
    (Disk.read_of_write hup), Disk.read_of_write hdown⟩

theorem holds_of_saveScript_of_ne (hname : Path.IsName name) (hother : Path.IsName other)
    (hne : other ≠ name) (hkept : before.Holds (Path.join base other) kept)
    (h : Yields (saveScript Session.system (Path.join base name) script) before ⟨⟩ after) :
    after.Holds (Path.join base other) kept := by
  obtain ⟨made, first, second, hgrows, hup, hdown, rfl⟩ := yields_saveScript h
  have hmade : made.Holds (Path.join base other) kept := hgrows.holds hkept
  have hread : ∀ file contents, Path.IsName file →
      made.disk.read made.working (Path.join (Path.join base other) file) = .ok contents →
      second.read made.working (Path.join (Path.join base other) file) = .ok contents := by
    intro file contents hfile hcontents
    have hfirst := Disk.read_of_write_beside hname isName_up hother hfile
      (fun hsame => hne hsame.1) hup hcontents
    exact Disk.read_of_write_beside hname isName_down hother hfile
      (fun hsame => hne hsame.1) hdown hfirst
  exact ⟨hread _ _ isName_up hmade.up, hread _ _ isName_down hmade.down⟩

end Command

end SchemaTables
