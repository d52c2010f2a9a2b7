import SchemaTables.Files.Path
import SchemaTables.Files.System

/-!
# Files in memory

A disk holds files and directories under their places.  A place is the list of names that leads to
it from the root, the last name first, so that the parent of a place is its tail; the empty place
is the root, which is always there.

What a disk holds at a place is given by `get?`, and `put` changes it at one place only.
-/

namespace SchemaTables

/-- What can be at a place. -/
inductive Entry
  | directory
  | file (content : ByteArray)
  deriving Inhabited

def Entry.kind : Entry → EntryKind
  | .directory => .directory
  | .file _ => .file

/-- The place of an entry: the names on the way to it, the last one first. -/
abbrev DiskPlace := List String

/-- Files and directories under their places. -/
structure Disk where
  entries : List (DiskPlace × Entry) := []
  deriving Inhabited

namespace Disk

def get? (disk : Disk) (place : DiskPlace) : Option Entry :=
  if place = [] then some .directory else disk.entries.lookup place

/-- Puts an entry at a place, instead of any that is there. -/
def put (disk : Disk) (place : DiskPlace) (entry : Entry) : Disk :=
  ⟨(place, entry) :: disk.entries.filter fun old => old.1 != place⟩

/-- Makes the directories on the way to a place that are not there. -/
def putAncestors (disk : Disk) : DiskPlace → Disk
  | [] => disk
  | _ :: place =>
    let disk := putAncestors disk place
    if (disk.get? place).isSome then disk else disk.put place .directory

theorem lookup_filter_ne (entries : List (DiskPlace × Entry)) {place other : DiskPlace}
    (h : other ≠ place) :
    (entries.filter fun old => old.1 != place).lookup other = entries.lookup other := by
  induction entries with
  | nil => rfl
  | cons head rest ih =>
    obtain ⟨key, entry⟩ := head
    by_cases hkey : key = place
    · subst hkey
      have hne : (other == key) = false := by simpa using h
      simp [List.lookup_cons, ih, hne]
    · have hkeep : (key != place) = true := by simpa using hkey
      simp [List.lookup_cons, hkeep, ih]

theorem get?_put (disk : Disk) {place : DiskPlace} (hplace : place ≠ []) (entry : Entry)
    (other : DiskPlace) :
    (disk.put place entry).get? other = if other = place then some entry else disk.get? other := by
  by_cases h : other = place
  · subst h
    simp [get?, put, hplace]
  · have hne : (other == place) = false := by simpa using h
    simp [get?, put, List.lookup_cons, hne, lookup_filter_ne _ h, h]

/-! ## Finding places -/

/-- The longest name of an entry, in bytes. -/
def maxNameLength : Nat := 255

/-- Goes from a place, where a directory has to be, to another one. -/
def step (disk : Disk) (place : DiskPlace) (name : String) : Except AccessError DiskPlace :=
  match disk.get? place with
  | none => .error .notFound
  | some (.file _) => .error .notDirectory
  | some .directory =>
    if name = "" || name = "." then .ok place
    else if name = ".." then .ok place.tail
    else if name.utf8ByteSize > maxNameLength then .error .nameTooLong
    else .ok (name :: place)

/-- Goes from a place along names. -/
def follow (disk : Disk) : DiskPlace → List String → Except AccessError DiskPlace
  | place, [] => .ok place
  | place, name :: rest =>
    match disk.step place name with
    | .ok next => disk.follow next rest
    | .error cause => .error cause

/-- The place that a path leads to from a working directory, whether or not something is there. -/
def locate (disk : Disk) (working : DiskPlace) (path : String) : Except AccessError DiskPlace :=
  if path.isEmpty then .error .notFound
  else disk.follow (if Path.isAbsolute path then [] else working) (Text.split '/' path)

def find (disk : Disk) (working : DiskPlace) (path : String) : Except AccessError Entry :=
  match disk.locate working path with
  | .error cause => .error cause
  | .ok place =>
    match disk.get? place with
    | some entry => .ok entry
    | none => .error .notFound

/-! ## Operations -/

def namesAt (disk : Disk) (place : DiskPlace) : List String :=
  disk.entries.filterMap fun
    | (name :: parent, _) => if parent = place then some name else none
    | ([], _) => none

def names (disk : Disk) (working : DiskPlace) (path : String) :
    Except AccessError (List String) :=
  match disk.locate working path with
  | .error cause => .error cause
  | .ok place =>
    match disk.get? place with
    | some .directory => .ok (disk.namesAt place)
    | some (.file _) => .error .notDirectory
    | none => .error .notFound

def read (disk : Disk) (working : DiskPlace) (path : String) : Except AccessError String :=
  match disk.find working path with
  | .error cause => .error cause
  | .ok .directory => .error .isDirectory
  | .ok (.file content) =>
    match String.fromUTF8? content with
    | some text => .ok text
    | none => .error .notText

def write (disk : Disk) (working : DiskPlace) (path text : String) : Except AccessError Disk :=
  match disk.locate working path with
  | .error cause => .error cause
  | .ok place =>
    match disk.get? place with
    | some .directory => .error .isDirectory
    | _ => .ok (disk.put place (.file text.toUTF8))

/-- A file that has been written is all that a disk holds anew. -/
theorem get?_write {disk written : Disk} {working : DiskPlace} {path text : String}
    (h : disk.write working path text = .ok written) :
    ∃ place, disk.locate working path = .ok place ∧ ∀ other,
      written.get? other = if other = place then some (.file text.toUTF8) else disk.get? other := by
  unfold write at h
  split at h
  · contradiction
  · next place hplace =>
    split at h
    · contradiction
    · next hentry =>
      have hroot : place ≠ [] := by
        intro hnil
        subst hnil
        exact hentry (by simp [get?])
      cases h
      exact ⟨place, hplace, fun other => get?_put disk hroot _ other⟩

theorem fromUTF8?_toUTF8 (text : String) : String.fromUTF8? text.toUTF8 = some text := by
  have hvalid : text.toUTF8.IsValidUTF8 := text.isValidUTF8
  unfold String.fromUTF8?
  rw [dif_pos hvalid]
  rfl

/-- Makes a directory in one that is there. -/
def makeDirectory (disk : Disk) (working : DiskPlace) (path : String) : Except AccessError Disk :=
  match disk.locate working path with
  | .error cause => .error cause
  | .ok place =>
    match disk.get? place with
    | some _ => .error .alreadyThere
    | none => .ok (disk.put place .directory)

end Disk

/-! ## Running on a disk -/

/-- A disk with a working directory, and what has been printed. -/
structure Session where
  disk : Disk
  working : DiskPlace := []
  output : String := ""
  errors : String := ""
  clock : Moment := ⟨0, 0⟩
  deriving Inhabited

namespace Session

/-- An operation that changes the disk, unless it fails. -/
def changing (operation : Session → Except AccessError Disk) :
    StateM Session (Except AccessError Unit) := fun session =>
  match operation session with
  | .ok disk => (.ok (), { session with disk := disk })
  | .error cause => (.error cause, session)

/-- A session as the system that a command runs on.  Its clock stands still. -/
def system : System (StateM Session) where
  kind? path := do
    let session ← get
    return (session.disk.find session.working path).toOption.map Entry.kind
  names path := do
    let session ← get
    return session.disk.names session.working path
  read path := do
    let session ← get
    return session.disk.read session.working path
  write path text := changing fun session => session.disk.write session.working path text
  makeDirectory path := changing fun session => session.disk.makeDirectory session.working path
  print text := modify fun session => { session with output := session.output ++ text }
  printError text := modify fun session => { session with errors := session.errors ++ text }
  now := do return (← get).clock

end Session

end SchemaTables
