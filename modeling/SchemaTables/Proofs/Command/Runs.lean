import Mathlib.Data.List.Forall2
import SchemaTables.Command.Run
import SchemaTables.Proofs.Files.Sessions

/-!
# Work that succeeds

Work on a session fails or yields a result, and leaves a session behind either way.  Work that is
put together from parts succeeds exactly if every part does so in the session that the part before
it has left behind.
-/

namespace SchemaTables.Command

variable {α β : Type} {before after : Session} {result : α}

/-- Work succeeds with a result, and leaves a session behind. -/
def Yields (work : ExceptT RunError (StateM Session) α) (before : Session) (result : α)
    (after : Session) : Prop :=
  Id.run (work.run.run before) = (.ok result, after)

theorem yields_pure_iff {value : α} :
    Yields (pure value) before result after ↔ value = result ∧ before = after := by
  have hrun : Id.run ((pure value : ExceptT RunError (StateM Session) α).run.run before) =
      (.ok value, before) := rfl
  rw [Yields, hrun]
  constructor
  · intro h
    cases h
    exact ⟨rfl, rfl⟩
  · rintro ⟨rfl, rfl⟩
    rfl

theorem not_yields_throw {error : RunError} :
    ¬ Yields (throw error : ExceptT RunError (StateM Session) α) before result after := by
  intro h
  have hrun : (.error error, before) = ((.ok result, after) : Except RunError α × Session) := h
  have hfailed : (.error error : Except RunError α) = .ok result := congrArg Prod.fst hrun
  contradiction

theorem yields_bind_iff {work : ExceptT RunError (StateM Session) α}
    {next : α → ExceptT RunError (StateM Session) β} {result : β} :
    Yields (work >>= next) before result after ↔
      ∃ value middle, Yields work before value middle ∧
        Yields (next value) middle result after := by
  have hrun : Id.run ((work >>= next).run.run before) =
      match Id.run (work.run.run before) with
      | (.ok value, middle) => Id.run ((next value).run.run middle)
      | (.error error, middle) => (.error error, middle) := by
    rw [ExceptT.run_bind, StateT.run_bind, Id.run_bind]
    rcases Id.run (work.run.run before) with ⟨error | value, middle⟩
    · rfl
    · rfl
  rw [Yields, hrun]
  simp only [Yields]
  rcases Id.run (work.run.run before) with ⟨error | value, middle⟩
  · simp
  · simp

theorem yields_lift_iff {action : StateM Session α} :
    Yields (liftM action) before result after ↔ Id.run (action.run before) = (result, after) := by
  have hrun : Id.run ((liftM action : ExceptT RunError (StateM Session) α).run.run before) =
      (.ok (Id.run (action.run before)).1, (Id.run (action.run before)).2) := rfl
  rw [Yields, hrun, Prod.mk.injEq, Except.ok.injEq, Prod.ext_iff]

theorem yields_outcome_iff {outcome : Except RunError α} :
    Yields (ExceptT.mk (pure outcome)) before result after ↔
      outcome = .ok result ∧ before = after := by
  have hrun : Id.run ((ExceptT.mk (pure outcome) : ExceptT RunError (StateM Session) α).run.run
      before) = (outcome, before) := rfl
  rw [Yields, hrun, Prod.mk.injEq]

/-- The session that work finds is related to the one that it leaves. -/
theorem Yields.related {related : Session → Session → Prop}
    {work : ExceptT RunError (StateM Session) α} (h : Yields work before result after)
    (hleaves : Session.Leaves related work.run) : related before after := by
  have hsession := hleaves before
  rwa [h] at hsession

/-- Work on one item after the other. -/
theorem yields_forM_cons_iff {work : α → ExceptT RunError (StateM Session) PUnit} {first : α}
    {rest : List α} :
    Yields ((first :: rest).forM work) before ⟨⟩ after ↔
      ∃ middle, Yields (work first) before ⟨⟩ middle ∧ Yields (rest.forM work) middle ⟨⟩ after := by
  rw [List.forM_eq_forM, List.forM_cons, yields_bind_iff]
  constructor
  · rintro ⟨⟨⟩, middle, hfirst, hrest⟩
    exact ⟨middle, hfirst, hrest⟩
  · rintro ⟨middle, hfirst, hrest⟩
    exact ⟨⟨⟩, middle, hfirst, hrest⟩

theorem yields_forM_append_iff {work : α → ExceptT RunError (StateM Session) PUnit}
    {first second : List α} :
    Yields ((first ++ second).forM work) before ⟨⟩ after ↔
      ∃ middle, Yields (first.forM work) before ⟨⟩ middle ∧
        Yields (second.forM work) middle ⟨⟩ after := by
  induction first generalizing before with
  | nil => simp [yields_pure_iff]
  | cons item rest ih =>
      rw [List.cons_append, yields_forM_cons_iff]
      simp only [yields_forM_cons_iff, ih]
      constructor
      · rintro ⟨start, hitem, middle, hrest, hsecond⟩
        exact ⟨middle, ⟨start, hitem, hrest⟩, hsecond⟩
      · rintro ⟨middle, ⟨start, hitem, hrest⟩, hsecond⟩
        exact ⟨start, hitem, middle, hrest, hsecond⟩

/-- Work on a list that leaves the session as it is yields a result for every item. -/
theorem yields_mapM_iff {work : α → ExceptT RunError (StateM Session) β} {related : α → β → Prop}
    (hwork : ∀ item value after,
      Yields (work item) before value after ↔ before = after ∧ related item value)
    {items : List α} {results : List β} :
    Yields (items.mapM work) before results after ↔
      before = after ∧ List.Forall₂ related items results := by
  induction items generalizing results after with
  | nil => simp [yields_pure_iff, and_comm, eq_comm]
  | cons item rest ih =>
      rw [List.mapM_cons, yields_bind_iff]
      simp only [hwork, yields_bind_iff]
      constructor
      · rintro ⟨value, middle, ⟨rfl, hvalue⟩, values, last, hvalues, hends⟩
        obtain ⟨rfl, hrest⟩ := ih.mp hvalues
        obtain ⟨rfl, rfl⟩ := yields_pure_iff.mp hends
        exact ⟨rfl, .cons hvalue hrest⟩
      · rintro ⟨rfl, hresults⟩
        cases hresults with
        | cons hvalue hrest =>
            exact ⟨_, before, ⟨rfl, hvalue⟩, _, before, ih.mpr ⟨rfl, hrest⟩,
              yields_pure_iff.mpr ⟨rfl, rfl⟩⟩

end SchemaTables.Command
