import Mathlib.Order.Defs.Unbundled
import SchemaTables.Files.Search
import SchemaTables.Proofs.Files.Disk

/-!
# What actions do to a session

An action on a session is known by how the session that it finds is related to the one that it
leaves, whatever its outcome is.  Looking at files leaves the session as it is, and so does a search
with a pattern (`leaves_search`); printing and making directories let it grow.
-/

namespace SchemaTables

namespace Session

/-- The disk of a session grows; it is still in the same place at the same time. -/
structure Grows (before after : Session) : Prop where
  working : after.working = before.working
  clock : after.clock = before.clock
  disk : before.disk.Grows after.disk

instance : IsPreorder Session Grows where
  refl session := ⟨rfl, rfl, Disk.Grows.refl session.disk⟩
  trans _ _ _ hfirst hsecond :=
    ⟨hsecond.working.trans hfirst.working, hsecond.clock.trans hfirst.clock,
      hfirst.disk.trans hsecond.disk⟩

/-- An action relates every session that it finds to the one that it leaves. -/
def Leaves {α : Type} (related : Session → Session → Prop) (action : StateM Session α) : Prop :=
  ∀ before, related before (Id.run (action.run before)).2

variable {α β ε : Type} {related : Session → Session → Prop} [IsPreorder Session related]

/-! ## Actions made of actions -/

theorem leaves_pure (value : α) : Leaves related (pure value) :=
  fun before => Std.Refl.refl before

theorem Leaves.bind {action : StateM Session α} {next : α → StateM Session β}
    (haction : Leaves related action) (hnext : ∀ value, Leaves related (next value)) :
    Leaves related (action >>= next) := by
  intro before
  have hrun : Id.run ((action >>= next).run before) =
      Id.run ((next (Id.run (action.run before)).1).run (Id.run (action.run before)).2) := rfl
  rw [hrun]
  exact IsTrans.trans _ _ _ (haction before) (hnext _ _)

theorem Leaves.map {action : StateM Session α} (haction : Leaves related action) (change : α → β) :
    Leaves related (change <$> action) := by
  rw [← bind_pure_comp]
  exact haction.bind fun value => leaves_pure (change value)

/-! ## Actions that may fail -/

theorem leaves_exceptPure (value : α) :
    Leaves related (pure value : ExceptT ε (StateM Session) α).run := leaves_pure _

theorem leaves_throw (error : ε) :
    Leaves related (throw error : ExceptT ε (StateM Session) α).run := leaves_pure _

theorem leaves_lift {action : StateM Session α} (haction : Leaves related action) :
    Leaves related (liftM action : ExceptT ε (StateM Session) α).run := haction.map Except.ok

theorem leaves_exceptBind {work : ExceptT ε (StateM Session) α}
    {next : α → ExceptT ε (StateM Session) β} (hwork : Leaves related work.run)
    (hnext : ∀ value, Leaves related (next value).run) : Leaves related (work >>= next).run := by
  rw [ExceptT.run_bind]
  refine hwork.bind ?_
  rintro (error | value)
  · exact leaves_pure _
  · exact hnext value

theorem leaves_exceptMap {work : ExceptT ε (StateM Session) α} (hwork : Leaves related work.run)
    (change : α → β) : Leaves related (change <$> work).run := by
  rw [← bind_pure_comp]
  exact leaves_exceptBind hwork fun value => leaves_exceptPure (change value)

theorem leaves_mapM {work : α → ExceptT ε (StateM Session) β} {items : List α}
    (hwork : ∀ item, Leaves related (work item).run) : Leaves related (items.mapM work).run := by
  induction items with
  | nil => exact leaves_exceptPure []
  | cons item rest ih =>
      rw [List.mapM_cons]
      refine leaves_exceptBind (hwork item) fun value => leaves_exceptBind ih fun values => ?_
      exact leaves_exceptPure (value :: values)

/-! ## The operations of a system -/

theorem leaves_kind? (path : String) : Leaves related (system.kind? path) :=
  fun before => Std.Refl.refl before

theorem leaves_names (path : String) : Leaves related (system.names path) :=
  fun before => Std.Refl.refl before

theorem leaves_now : Leaves related system.now := fun before => Std.Refl.refl before

theorem leaves_isDirectory (path : String) : Leaves related (system.isDirectory path) :=
  (leaves_kind? path).map _

theorem leaves_exists? (path : String) : Leaves related (system.exists? path) :=
  (leaves_kind? path).map _

theorem leaves_print (text : String) : Leaves Grows (system.print text) :=
  fun before => ⟨rfl, rfl, Disk.Grows.refl before.disk⟩

theorem leaves_printError (text : String) : Leaves Grows (system.printError text) :=
  fun before => ⟨rfl, rfl, Disk.Grows.refl before.disk⟩

theorem run_changing_of_ok {operation : Session → Except AccessError Disk} {before : Session}
    {disk : Disk} (h : operation before = .ok disk) :
    Id.run ((changing operation).run before) = (.ok (), { before with disk := disk }) := by
  simp only [changing, StateT.run, h]
  rfl

theorem run_changing_of_error {operation : Session → Except AccessError Disk} {before : Session}
    {cause : AccessError} (h : operation before = .error cause) :
    Id.run ((changing operation).run before) = (.error cause, before) := by
  simp only [changing, StateT.run, h]
  rfl

theorem leaves_makeDirectory (path : String) : Leaves Grows (system.makeDirectory path) := by
  intro before
  rw [system]
  dsimp only
  cases hmade : before.disk.makeDirectory before.working path with
  | error cause =>
      rw [run_changing_of_error hmade]
      exact Std.Refl.refl before
  | ok made =>
      rw [run_changing_of_ok hmade]
      exact ⟨rfl, rfl, Disk.grows_of_makeDirectory hmade⟩

/-! ## Searches -/

section

open Search Wildcard

theorem leaves_all {search : String → ExceptT SearchError (StateM Session) (List String)}
    (hsearch : ∀ name, Leaves related (search name).run) (names : List String) :
    Leaves related (all search names).run := leaves_exceptMap (leaves_mapM hsearch) List.flatten

theorem leaves_sortedNames (directory : String) :
    Leaves related (sortedNames system directory).run := by
  refine (leaves_names directory).bind ?_
  rintro (cause | names)
  · exact leaves_pure _
  · exact leaves_pure _

theorem leaves_found (pattern : PathPattern) (path : String) :
    Leaves related (found system pattern path).run := by
  rw [found]
  refine leaves_exceptBind (leaves_lift (leaves_isDirectory path)) fun isDirectory => ?_
  split
  · exact leaves_exceptPure [path]
  · exact leaves_exceptPure []

mutual

theorem leaves_below (pattern : PathPattern) (depth : Nat) (names : List NamePattern)
    (path : String) : Leaves related (below system pattern depth names path).run := by
  match depth, names with
  | 0, _ => exact leaves_exceptPure []
  | _ + 1, [] => exact leaves_found pattern path
  | depth + 1, first :: rest =>
    rw [below]
    split
    · have hbehind : ∀ (target : String) (isThere : Bool), Leaves related
          (if isThere then below system pattern depth rest target else pure []).run := by
        intro target isThere
        split
        · exact leaves_below pattern depth rest target
        · exact leaves_exceptPure []
      dsimp only
      split
      · exact leaves_exceptBind (leaves_lift (leaves_isDirectory path)) (hbehind _)
      · exact leaves_exceptBind (leaves_lift (leaves_exists? _)) (hbehind _)
    · refine leaves_exceptBind (leaves_lift (leaves_isDirectory path)) fun isDirectory => ?_
      split
      · refine leaves_exceptBind (leaves_all ?_ _) fun around => ?_
        · exact fun name => leaves_below pattern depth rest _
        · refine leaves_exceptBind (leaves_sortedNames path) fun names => ?_
          refine leaves_exceptBind (leaves_all ?_ _) fun within => leaves_exceptPure _
          exact fun name => leaves_entry pattern depth (first :: rest) name _
      · exact leaves_exceptPure []

theorem leaves_entry (pattern : PathPattern) (depth : Nat) (names : List NamePattern)
    (name path : String) : Leaves related (entry system pattern depth names name path).run := by
  match depth, names with
  | 0, _ => exact leaves_exceptPure []
  | _ + 1, [] => exact leaves_exceptPure []
  | depth + 1, first :: rest =>
    rw [entry]
    split
    · refine leaves_exceptBind (leaves_lift (leaves_isDirectory path)) fun isDirectory => ?_
      have hbehind : ∀ here : List String, Leaves related
          (if isDirectory then do
            let within ← below system pattern depth
              (first :: rest.dropWhile NamePattern.isAnyDepth) path
            pure (here ++ within)
          else pure here).run := by
        intro here
        split
        · exact leaves_exceptBind (leaves_below pattern depth _ path) fun within =>
            leaves_exceptPure (here ++ within)
        · exact leaves_exceptPure here
      dsimp only
      split
      · exact leaves_exceptBind (leaves_exceptPure _) hbehind
      · next next others _ =>
        split
        · exact leaves_exceptBind (leaves_below pattern depth others path) hbehind
        · exact leaves_exceptBind (leaves_exceptPure _) hbehind
    · split
      · exact leaves_below pattern depth rest path
      · exact leaves_exceptPure []

end

/-- A search leaves what any looking at files leaves. -/
theorem leaves_search (pattern : PathPattern) : Leaves related (Search.run system pattern) :=
  leaves_below pattern _ pattern.names _

theorem leaves_searchText (text : String) : Leaves related (Search.ofText system text) := by
  rw [Search.ofText]
  split
  · exact leaves_pure _
  · refine (leaves_search _).bind ?_
    rintro (cause | paths)
    · exact leaves_pure _
    · exact leaves_pure _

end

end Session

end SchemaTables
