import SchemaTables.Files.Disk
import SchemaTables.Proofs.Files.Path

/-!
# What operations leave on a disk

Making a directory only adds to a disk (`Grows`), and writing a file changes what is at one place,
where no directory is.  Both keep the directories that are there (`KeepsDirectories`), and with them
the places that paths lead to.  What has been written is therefore read back until something else is
written at its place.
-/

namespace SchemaTables.Disk

variable {disk before after written made : Disk} {working place next found : DiskPlace}
  {name path other text kept : String}

/-- Directories that are there stay. -/
def KeepsDirectories (before after : Disk) : Prop :=
  ∀ place, before.get? place = some .directory → after.get? place = some .directory

/-- Whatever is there stays as it is. -/
def Grows (before after : Disk) : Prop :=
  ∀ place entry, before.get? place = some entry → after.get? place = some entry

theorem Grows.refl (disk : Disk) : disk.Grows disk := fun _ _ h => h

theorem Grows.trans {middle : Disk} (hfirst : before.Grows middle) (hsecond : middle.Grows after) :
    before.Grows after := fun place entry h => hsecond place entry (hfirst place entry h)

theorem Grows.keepsDirectories (h : before.Grows after) : before.KeepsDirectories after :=
  fun place hplace => h place .directory hplace

/-! ## Places -/

theorem directory_of_step (h : disk.step place name = .ok next) :
    disk.get? place = some .directory := by
  rw [step] at h
  split at h
  · contradiction
  · contradiction
  · next hplace => exact hplace

/-- A name leads from a directory to the entry of that name in it. -/
theorem step_of_isName (hname : Path.IsName name) (h : disk.step place name = .ok next) :
    next = name :: place := by
  have hplace : disk.get? place = some .directory := directory_of_step h
  have hstays : (name = "" || name = ".") = false := by simp [hname.ne_empty, hname.ne_dot]
  rw [step, hplace] at h
  dsimp only at h
  rw [hstays, if_neg (by decide), if_neg hname.ne_dots] at h
  split at h
  · contradiction
  · cases h
    rfl

theorem follow_append_eq_ok {first second : List String} :
    disk.follow place (first ++ second) = .ok found ↔
      ∃ middle, disk.follow place first = .ok middle ∧ disk.follow middle second = .ok found := by
  induction first generalizing place with
  | nil => simp [follow]
  | cons name rest ih =>
      rw [List.cons_append, follow, follow]
      cases hstep : disk.step place name with
      | error cause => simp
      | ok next => exact ih

theorem follow_cons_eq_ok {rest : List String} :
    disk.follow place (name :: rest) = .ok found ↔
      ∃ next, disk.step place name = .ok next ∧ disk.follow next rest = .ok found := by
  rw [follow]
  cases hstep : disk.step place name with
  | error cause => simp
  | ok next => simp

theorem follow_of_isName {first second : String} (hfirst : Path.IsName first)
    (hsecond : Path.IsName second) (h : disk.follow place [first, second] = .ok found) :
    found = [second, first] ++ place := by
  obtain ⟨middle, hmiddle, hrest⟩ := follow_cons_eq_ok.mp h
  obtain ⟨last, hlast, hfound⟩ := follow_cons_eq_ok.mp hrest
  have hends : last = found := Except.ok.inj hfound
  rw [← hends, step_of_isName hsecond hlast, step_of_isName hfirst hmiddle]
  rfl

namespace KeepsDirectories

variable (hkeeps : before.KeepsDirectories after)

include hkeeps

theorem step (h : before.step place name = .ok next) : after.step place name = .ok next := by
  have hplace : before.get? place = some .directory := directory_of_step h
  rw [Disk.step, hplace] at h
  rw [Disk.step, hkeeps place hplace]
  exact h

theorem follow {names : List String} (h : before.follow place names = .ok found) :
    after.follow place names = .ok found := by
  induction names generalizing place with
  | nil => exact h
  | cons name rest ih =>
      obtain ⟨next, hstep, hrest⟩ := follow_cons_eq_ok.mp h
      exact follow_cons_eq_ok.mpr ⟨next, hkeeps.step hstep, ih hrest⟩

/-- Paths lead to the same places as long as directories are kept. -/
theorem locate (h : before.locate working path = .ok place) :
    after.locate working path = .ok place := by
  rw [Disk.locate] at h ⊢
  split at h
  · contradiction
  · next hempty =>
    rw [if_neg hempty]
    exact hkeeps.follow h

end KeepsDirectories

/-! ## Continued paths -/

variable {base directory file : String}

/-- The names of a path that is continued by a name are gone along as well. -/
theorem locate_join (hname : Path.IsName name) :
    disk.locate working (Path.join base name) =
      disk.follow (if Path.isAbsolute base then [] else working)
        (Path.segments base ++ [name]) := by
  have hempty : ¬ (Path.join base name).isEmpty := by
    rw [String.isEmpty_iff]
    intro hempty
    have hsegments := @Path.segments_join base name hname
    rw [hempty] at hsegments
    simp [Path.segments] at hsegments
  rw [locate, if_neg hempty, Path.isAbsolute_join hname.avoids, Path.split_join hname.avoids]

/-- Where a file in a directory is, the directory is around it. -/
theorem exists_parent_of_locate (hdirectory : Path.IsName directory) (hfile : Path.IsName file)
    (h : disk.locate working (Path.join (Path.join base directory) file) = .ok place) :
    ∃ parent,
      disk.follow (if Path.isAbsolute base then [] else working) (Path.segments base) = .ok parent ∧
        disk.locate working (Path.join base directory) = .ok (directory :: parent) ∧
        place = [file, directory] ++ parent := by
  rw [locate_join hfile, Path.isAbsolute_join hdirectory.avoids, Path.segments_join hdirectory,
    follow_append_eq_ok] at h
  obtain ⟨middle, houter, hinner⟩ := h
  obtain ⟨parent, hparent, hlast⟩ := follow_append_eq_ok.mp houter
  have hboth : disk.follow parent [directory, file] = .ok place :=
    follow_append_eq_ok.mpr ⟨middle, hlast, hinner⟩
  obtain ⟨next, hstep, hends⟩ := follow_cons_eq_ok.mp hlast
  have hmiddle : middle = directory :: parent := by
    rw [← step_of_isName hdirectory hstep]
    exact (Except.ok.inj hends).symm
  refine ⟨parent, hparent, ?_, follow_of_isName hdirectory hfile hboth⟩
  rw [locate_join hdirectory, houter, hmiddle]

/-- Files of different names, or in directories of different names, are at different places. -/
theorem locate_injective {other otherFile : String} (hdirectory : Path.IsName directory)
    (hfile : Path.IsName file) (hother : Path.IsName other) (hotherFile : Path.IsName otherFile)
    (hfirst : disk.locate working (Path.join (Path.join base directory) file) = .ok place)
    (hsecond : disk.locate working (Path.join (Path.join base other) otherFile) = .ok place) :
    directory = other ∧ file = otherFile := by
  obtain ⟨parent, -, -, hplace⟩ := exists_parent_of_locate hdirectory hfile hfirst
  obtain ⟨another, -, -, hsame⟩ := exists_parent_of_locate hother hotherFile hsecond
  rw [hplace] at hsame
  obtain ⟨hfiles, hrest⟩ := List.cons.inj hsame
  exact ⟨(List.cons.inj hrest).1, hfiles⟩

/-! ## Files -/

theorem read_eq_ok : disk.read working path = .ok text ↔
    ∃ place content, disk.locate working path = .ok place ∧
      disk.get? place = some (.file content) ∧ String.fromUTF8? content = some text := by
  rw [read, find]
  cases hplace : disk.locate working path with
  | error cause => simp
  | ok place =>
      cases hentry : disk.get? place with
      | none => simp [hentry]
      | some entry =>
          cases entry with
          | directory => simp [hentry]
          | file content =>
              cases htext : String.fromUTF8? content with
              | none => simp [hentry, htext]
              | some found => simp [hentry, htext]

theorem Grows.read (hgrows : before.Grows after) (h : before.read working path = .ok text) :
    after.read working path = .ok text := by
  obtain ⟨place, content, hplace, hentry, htext⟩ := read_eq_ok.mp h
  exact read_eq_ok.mpr
    ⟨place, content, hgrows.keepsDirectories.locate hplace, hgrows place _ hentry, htext⟩

theorem grows_of_makeDirectory (h : disk.makeDirectory working path = .ok made) :
    disk.Grows made := by
  rw [makeDirectory] at h
  split at h
  · contradiction
  · next place hplace =>
    split at h
    · contradiction
    · next hfree =>
      cases h
      intro other entry hother
      have hroot : place ≠ [] := by
        intro hnil
        rw [hnil] at hfree
        simp [get?] at hfree
      have hne : other ≠ place := by
        intro heq
        rw [heq, hfree] at hother
        contradiction
      rw [get?_put disk hroot, if_neg hne, hother]

theorem not_directory_of_write (h : disk.write working path text = .ok written)
    (hplace : disk.locate working path = .ok place) : disk.get? place ≠ some .directory := by
  intro hdirectory
  simp [write, hplace, hdirectory] at h

theorem keepsDirectories_of_write (h : disk.write working path text = .ok written) :
    disk.KeepsDirectories written := by
  obtain ⟨target, htarget, hget⟩ := get?_write h
  intro place hplace
  have hne : place ≠ target := by
    intro heq
    exact not_directory_of_write h htarget (heq ▸ hplace)
  rw [hget, if_neg hne, hplace]

theorem read_of_write (h : disk.write working path text = .ok written) :
    written.read working path = .ok text := by
  obtain ⟨place, hplace, hget⟩ := get?_write h
  have hentry : written.get? place = some (.file text.toUTF8) := by rw [hget, if_pos rfl]
  exact read_eq_ok.mpr ⟨place, text.toUTF8, (keepsDirectories_of_write h).locate hplace, hentry,
    fromUTF8?_toUTF8 text⟩

theorem read_of_write_of_ne (h : disk.write working path text = .ok written)
    (hother : disk.read working other = .ok kept)
    (hne : disk.locate working other ≠ disk.locate working path) :
    written.read working other = .ok kept := by
  obtain ⟨target, htarget, hget⟩ := get?_write h
  obtain ⟨place, content, hplace, hentry, htext⟩ := read_eq_ok.mp hother
  have hapart : place ≠ target := by
    intro heq
    exact hne (by rw [hplace, htarget, heq])
  exact read_eq_ok.mpr ⟨place, content, (keepsDirectories_of_write h).locate hplace,
    by rw [hget, if_neg hapart, hentry], htext⟩

/-- What is in a directory of another name, or under another name in it, is read as before. -/
theorem read_of_write_beside {otherDirectory otherFile : String}
    (hdirectory : Path.IsName directory) (hfile : Path.IsName file)
    (hotherDirectory : Path.IsName otherDirectory) (hotherFile : Path.IsName otherFile)
    (hne : ¬ (otherDirectory = directory ∧ otherFile = file))
    (h : disk.write working (Path.join (Path.join base directory) file) text = .ok written)
    (hread : disk.read working (Path.join (Path.join base otherDirectory) otherFile) = .ok kept) :
    written.read working (Path.join (Path.join base otherDirectory) otherFile) = .ok kept := by
  refine read_of_write_of_ne h hread ?_
  intro hsame
  obtain ⟨place, content, hplace, -, -⟩ := read_eq_ok.mp hread
  exact hne (locate_injective hotherDirectory hotherFile hdirectory hfile hplace
    (hsame.symm.trans hplace))

end SchemaTables.Disk
