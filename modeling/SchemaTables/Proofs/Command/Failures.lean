import SchemaTables.Proofs.Command.Loading

/-!
# What cannot be loaded

The ways in which a pattern, a file or the filter can fail are listed here one by one.  Settings
choose files exactly if none of their inputs fails (`exists_chosen_iff`), so this is what decides
whether the inputs are loaded (`succeeds_load_iff`).
-/

namespace SchemaTables.Command

open Session

variable {α β : Type} {tools : Tools (StateM Session)} {settings : InputSettings}
  {before after session : Session} {result : α} {pattern path : String}

/-! ## Work that fails -/

/-- Work fails with an error, and leaves a session behind. -/
def Fails (work : ExceptT RunError (StateM Session) α) (before : Session) (error : RunError)
    (after : Session) : Prop :=
  Id.run (work.run.run before) = (.error error, after)

theorem yields_or_fails (work : ExceptT RunError (StateM Session) α) (before : Session) :
    (∃ result after, Yields work before result after) ∨
      ∃ error after, Fails work before error after := by
  rcases hrun : Id.run (work.run.run before) with ⟨error | result, after⟩
  · exact Or.inr ⟨error, after, hrun⟩
  · exact Or.inl ⟨result, after, hrun⟩

theorem Fails.related {related : Session → Session → Prop}
    {work : ExceptT RunError (StateM Session) α} {error : RunError}
    (h : Fails work before error after) (hleaves : Leaves related work.run) :
    related before after := by
  have hsession := hleaves before
  rwa [h] at hsession

theorem Fails.bind {work : ExceptT RunError (StateM Session) α} {error : RunError}
    (h : Fails work before error after) (next : α → ExceptT RunError (StateM Session) β) :
    Fails (work >>= next) before error after := by
  rw [Fails, ExceptT.run_bind, StateT.run_bind, Id.run_bind]
  rw [Fails] at h
  rw [h]
  rfl

/-! ## Patterns -/

/-- A text stands for no file: it is a pattern, and this is ill-formed, a directory on its way
cannot be looked into, or it matches nothing. -/
inductive PatternFails (tools : Tools (StateM Session)) (session : Session) (pattern : String) :
    Prop
  | illFormed {cause : String} (hpattern : isPattern pattern = true)
      (hcause : tools.found session pattern = .error cause)
  | searchFailed {entries : List (Except String String)} {cause : String}
      (hpattern : isPattern pattern = true) (hentries : tools.found session pattern = .ok entries)
      (hcause : .error cause ∈ entries)
  | unmatched (hpattern : isPattern pattern = true) (hnone : tools.found session pattern = .ok [])

theorem PatternFails.isPattern (h : PatternFails tools session pattern) :
    isPattern pattern = true := by
  cases h with
  | illFormed hpattern => exact hpattern
  | searchFailed hpattern => exact hpattern
  | unmatched hpattern => exact hpattern

theorem StandsFor.unique {paths others : List String} (h : StandsFor tools session pattern paths)
    (hother : StandsFor tools session pattern others) : paths = others := by
  by_cases hpattern : isPattern pattern = true
  · rw [standsFor_iff_of_isPattern hpattern] at h hother
    have hsame : paths.map Except.ok = others.map Except.ok :=
      Except.ok.inj (h.1.symm.trans hother.1)
    exact List.map_injective_iff.mpr (fun _ _ => Except.ok.inj) hsame
  · rw [standsFor_iff_of_isPath (by simpa using hpattern)] at h hother
    exact h.trans hother.symm

theorem exists_standsFor_iff :
    (∃ paths, StandsFor tools session pattern paths) ↔ ¬ PatternFails tools session pattern := by
  constructor
  · rintro ⟨paths, hstands⟩ hfails
    obtain ⟨hfound, hsome⟩ := (standsFor_iff_of_isPattern hfails.isPattern).mp hstands
    cases hfails with
    | illFormed _ hcause => cases hfound.symm.trans hcause
    | searchFailed _ hentries hcause =>
        cases hfound.symm.trans hentries
        exact exists_eq_map_ok_iff.mp ⟨paths, rfl⟩ _ hcause
    | unmatched _ hnone =>
        exact hsome (List.map_eq_nil_iff.mp (Except.ok.inj (hfound.symm.trans hnone)))
  · intro hsound
    by_cases hpattern : isPattern pattern = true
    · cases hfound : tools.found session pattern with
      | error cause => exact absurd (.illFormed hpattern hfound) hsound
      | ok entries =>
          obtain ⟨paths, rfl⟩ := exists_eq_map_ok_iff.mpr fun cause hcause =>
            hsound (.searchFailed hpattern hfound hcause)
          refine ⟨paths, .found hpattern hfound ?_⟩
          rintro rfl
          exact hsound (.unmatched hpattern hfound)
    · exact ⟨[pattern], .path (by simpa using hpattern)⟩

/-! ## Files -/

/-- A file gives no documents: it cannot be read, it holds no JSON, the pointer selects nothing in
it, or the filter fails on what is selected. -/
inductive FileFails (tools : Tools (StateM Session)) (session : Session)
    (settings : InputSettings) (path : String) : Prop
  | unreadable {cause : AccessError}
      (hcause : session.disk.read session.working path = .error cause)
  | malformed {text : String} {cause : Json.ReadError}
      (htext : session.disk.read session.working path = .ok text)
      (hcause : Json.read text = .error cause)
  | unselected {text pointer : String} {document : Json}
      (htext : session.disk.read session.working path = .ok text)
      (hdocument : Json.read text = .ok document) (hpointer : settings.pointer = some pointer)
      (hnone : document.pointer? pointer = none)
  | unfiltered {text filter cause : String} {document part : Json} {program : tools.Program}
      (htext : session.disk.read session.working path = .ok text)
      (hdocument : Json.read text = .ok document)
      (hpart : IsSelected settings.pointer document part) (hfilter : settings.filter = some filter)
      (hprogram : tools.compile filter = .ok program)
      (hcause : tools.outputs program part = .error cause)

theorem IsSelected.unique {pointer? : Option String} {document part other : Json}
    (h : IsSelected pointer? document part) (hother : IsSelected pointer? document other) :
    part = other := by
  cases pointer? with
  | none => exact h.trans hother.symm
  | some pointer => exact Option.some.inj (h.symm.trans hother)

/-- What is loaded from a file has not failed. -/
theorem Batch.IsLoaded.not_fails {batch : Batch} (h : batch.IsLoaded tools session settings) :
    ¬ FileFails tools session settings batch.path := by
  obtain ⟨text, document, part, htext, hdocument, hpart, hdocuments⟩ := h
  intro hfails
  cases hfails with
  | unreadable hcause => cases htext.symm.trans hcause
  | malformed hother hcause =>
      cases htext.symm.trans hother
      cases hdocument.symm.trans hcause
  | unselected hother hread hpointer hnone =>
      cases htext.symm.trans hother
      cases hdocument.symm.trans hread
      rw [hpointer] at hpart
      cases hnone.symm.trans hpart
  | unfiltered hother hread hselected hfilter hprogram hcause =>
      cases htext.symm.trans hother
      cases hdocument.symm.trans hread
      cases hpart.unique hselected
      rw [hfilter] at hdocuments
      obtain ⟨program, hcompiled, houtputs⟩ := hdocuments
      cases hprogram.symm.trans hcompiled
      cases hcause.symm.trans houtputs

theorem exists_isLoaded (hsound : ¬ FileFails tools session settings path)
    (hfilter : ∀ filter ∈ settings.filter, ∃ program, tools.compile filter = .ok program) :
    ∃ batch : Batch, batch.path = path ∧ batch.IsLoaded tools session settings := by
  cases htext : session.disk.read session.working path with
  | error cause => exact absurd (.unreadable htext) hsound
  | ok text =>
  cases hdocument : Json.read text with
  | error cause => exact absurd (.malformed htext hdocument) hsound
  | ok document =>
  obtain ⟨part, hpart⟩ : ∃ part, IsSelected settings.pointer document part := by
    cases hpointer : settings.pointer with
    | none => exact ⟨document, rfl⟩
    | some pointer =>
        cases hselected : document.pointer? pointer with
        | none => exact absurd (.unselected htext hdocument hpointer hselected) hsound
        | some part => exact ⟨part, hselected⟩
  obtain ⟨documents, hdocuments⟩ : ∃ documents,
      IsFiltered tools settings.filter part documents := by
    cases hsome : settings.filter with
    | none => exact ⟨[part], rfl⟩
    | some filter =>
        obtain ⟨program, hprogram⟩ := hfilter filter hsome
        cases houtputs : tools.outputs program part with
        | error cause =>
            exact absurd (.unfiltered htext hdocument hpart hsome hprogram houtputs) hsound
        | ok documents => exact ⟨documents, program, hprogram, houtputs⟩
  exact ⟨⟨path, documents⟩, rfl, text, document, part, htext, hdocument, hpart, hdocuments⟩

/-! ## Inputs -/

/-- Some input cannot be loaded: a pattern stands for no file, the filter is ill-formed, or a file
gives no documents. -/
inductive InputFails (tools : Tools (StateM Session)) (session : Session)
    (settings : InputSettings) : Prop
  | pattern {pattern : String} (hmem : pattern ∈ settings.patterns)
      (hfails : PatternFails tools session pattern)
  | filter {text : String} {cause : Jq.FilterError} (htext : settings.filter = some text)
      (hcause : tools.compile text = .error cause)
  | file {pattern path : String} {paths : List String} (hmem : pattern ∈ settings.patterns)
      (hpaths : StandsFor tools session pattern paths) (hpath : path ∈ paths)
      (hfails : FileFails tools session settings path)

/-- Files are chosen if and only if no input fails. -/
theorem exists_chosen_iff :
    (∃ batches, Chosen tools session settings batches) ↔ ¬ InputFails tools session settings := by
  constructor
  · rintro ⟨batches, ⟨found, hfound, hpaths⟩, hfilter, hloaded⟩ hfails
    cases hfails with
    | pattern hmem hfails =>
        obtain ⟨paths, -, hstands⟩ := exists_right_of_forall₂ hfound hmem
        exact exists_standsFor_iff.mp ⟨paths, hstands⟩ hfails
    | filter htext hcause =>
        obtain ⟨program, hprogram⟩ := hfilter _ htext
        cases hcause.symm.trans hprogram
    | file hmem hstands hpath hfails =>
        obtain ⟨paths, hpaths', hother⟩ := exists_right_of_forall₂ hfound hmem
        obtain rfl := hstands.unique hother
        have hpathsOf := List.mem_flatten_of_mem hpaths' hpath
        rw [← hpaths] at hpathsOf
        obtain ⟨batch, hbatch, rfl⟩ := List.mem_map.mp hpathsOf
        exact (hloaded batch hbatch).not_fails hfails
  · intro hsound
    have hfilter : ∀ filter ∈ settings.filter, ∃ program, tools.compile filter = .ok program := by
      intro filter hsome
      cases hprogram : tools.compile filter with
      | error cause => exact absurd (.filter hsome hprogram) hsound
      | ok program => exact ⟨program, rfl⟩
    obtain ⟨found, hfound⟩ : ∃ found,
        List.Forall₂ (StandsFor tools session) settings.patterns found :=
      exists_forall₂ fun pattern hmem =>
        exists_standsFor_iff.mpr fun hfails => hsound (.pattern hmem hfails)
    -- a path that was found belongs to the pattern that it was found with
    obtain ⟨batches, hbatches⟩ : ∃ batches, List.Forall₂ (fun path (batch : Batch) =>
        batch.path = path ∧ batch.IsLoaded tools session settings) found.flatten batches := by
      refine exists_forall₂ fun path hpath => exists_isLoaded (fun hfails => ?_) hfilter
      obtain ⟨paths, hpaths, hmem⟩ := List.mem_flatten.mp hpath
      obtain ⟨pattern, hpattern, hstands⟩ := exists_left_of_forall₂ hfound hpaths
      exact hsound (.file hpattern hstands hmem hfails)
    refine ⟨batches, ⟨found, hfound, ?_⟩, hfilter, fun batch hbatch => ?_⟩
    · have hpaths : List.Forall₂ Eq (batches.map Batch.path) found.flatten :=
        List.forall₂_map_left_iff.mpr (hbatches.flip.imp fun _ _ h => h.1)
      rwa [List.forall₂_eq_eq_eq] at hpaths
    · obtain ⟨path, -, -, hloaded⟩ := exists_left_of_forall₂ hbatches hbatch
      exact hloaded

/-- The inputs are loaded if and only if none of them fails. -/
theorem succeeds_load_iff (hlooks : tools.OnlyLooks) :
    (∃ inputs, Yields (load tools Session.system settings) session inputs session) ↔
      ¬ InputFails tools session settings := by
  rw [← exists_chosen_iff]
  simp only [yields_load_iff hlooks, true_and]
  exact ⟨fun ⟨_, batches, hchosen, _⟩ => ⟨batches, hchosen⟩,
    fun ⟨batches, hchosen⟩ => ⟨_, batches, hchosen, rfl⟩⟩

/-- Where an input fails, loading fails, and nothing has been changed until then. -/
theorem InputFails.exists_fails (h : InputFails tools session settings)
    (hlooks : tools.OnlyLooks) :
    ∃ error, Fails (load tools Session.system settings) session error session := by
  rcases yields_or_fails (load tools Session.system settings) session with
    ⟨inputs, after, hload⟩ | ⟨error, after, hload⟩
  · obtain rfl := hload.related (leaves_load hlooks settings)
    exact absurd h ((succeeds_load_iff hlooks).mp ⟨inputs, hload⟩)
  · obtain rfl := hload.related (leaves_load hlooks settings)
    exact ⟨error, hload⟩

end SchemaTables.Command
