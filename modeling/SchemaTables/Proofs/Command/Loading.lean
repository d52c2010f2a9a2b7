import SchemaTables.Proofs.Command.Naming
import SchemaTables.Proofs.Command.Runs
import SchemaTables.Proofs.Lists

/-!
# What is loaded

What settings choose is said here file by file: the paths that a pattern stands for, the part that a
pointer selects, and the documents that a filter makes of it.  Nothing is known of the tools that
match paths and run filters except that a search leaves the session as it is.

Loading yields the documents of the chosen files in the order of their paths, and leaves the session
as it is (`yields_load_iff`).
-/

namespace SchemaTables.Command

open Session

variable {tools : Tools (StateM Session)} {settings : InputSettings}
  {filter? : Option (Filter tools)} {before after session : Session} {pattern path : String}

/-! ## Tools -/

/-- Searching for paths leaves the session as it is. -/
def Tools.OnlyLooks (tools : Tools (StateM Session)) : Prop :=
  ∀ pattern, Leaves (· = ·) (tools.search pattern)

theorem Tools.onlyLooks_standard : (Tools.standard Session.system).OnlyLooks :=
  fun pattern => leaves_searchText pattern

/-- What a search comes to in a session. -/
def Tools.found (tools : Tools (StateM Session)) (session : Session) (pattern : String) :
    Except String (List (Except String String)) :=
  (Id.run ((tools.search pattern).run session)).1

/-! ## Chosen files -/

/-- The paths that a text stands for: itself, or, if it is a pattern, those that are found with it,
of which there are some. -/
inductive StandsFor (tools : Tools (StateM Session)) (session : Session) (pattern : String) :
    List String → Prop
  | path (hplain : isPattern pattern = false) : StandsFor tools session pattern [pattern]
  | found {paths : List String} (hpattern : isPattern pattern = true)
      (hfound : tools.found session pattern = .ok (paths.map .ok)) (hsome : paths ≠ []) :
      StandsFor tools session pattern paths

/-- The part of a document that a pointer selects; all of it, if there is no pointer. -/
def IsSelected (pointer? : Option String) (document part : Json) : Prop :=
  match pointer? with
  | none => part = document
  | some pointer => document.pointer? pointer = some part

/-- The documents are what a filter, if there is one, makes of a part of a document. -/
def IsFiltered (tools : Tools (StateM Session)) (filter? : Option String) (part : Json)
    (documents : List Json) : Prop :=
  match filter? with
  | none => documents = [part]
  | some filter => ∃ program, tools.compile filter = .ok program ∧
      tools.outputs program part = .ok documents

/-- The documents of a batch are those that settings make of its file. -/
def Batch.IsLoaded (tools : Tools (StateM Session)) (session : Session) (settings : InputSettings)
    (batch : Batch) : Prop :=
  ∃ text document part,
    session.disk.read session.working batch.path = .ok text ∧ Json.read text = .ok document ∧
      IsSelected settings.pointer document part ∧
      IsFiltered tools settings.filter part batch.documents

/-- The batches are those of the files that settings choose, in the order of their paths. -/
structure Chosen (tools : Tools (StateM Session)) (session : Session) (settings : InputSettings)
    (batches : List Batch) : Prop where
  paths : ∃ found, List.Forall₂ (StandsFor tools session) settings.patterns found ∧
    batches.map Batch.path = found.flatten
  filter : ∀ filter ∈ settings.filter, ∃ program, tools.compile filter = .ok program
  contents : ∀ batch ∈ batches, batch.IsLoaded tools session settings

/-! ## Patterns -/

theorem yields_search_iff (hlooks : tools.OnlyLooks)
    {outcome : Except String (List (Except String String))} :
    Yields (liftM (tools.search pattern)) before outcome after ↔
      before = after ∧ tools.found before pattern = outcome := by
  rw [yields_lift_iff, Prod.ext_iff, ← hlooks pattern before, and_comm]
  rfl

theorem standsFor_iff_of_isPattern (hpattern : isPattern pattern = true) {paths : List String} :
    StandsFor tools session pattern paths ↔
      tools.found session pattern = .ok (paths.map .ok) ∧ paths ≠ [] := by
  constructor
  · intro hstands
    cases hstands with
    | path hplain => exact absurd hpattern (by simp [hplain])
    | found _ hfound hsome => exact ⟨hfound, hsome⟩
  · rintro ⟨hfound, hsome⟩
    exact .found hpattern hfound hsome

theorem standsFor_iff_of_isPath (hplain : isPattern pattern = false) {paths : List String} :
    StandsFor tools session pattern paths ↔ paths = [pattern] := by
  constructor
  · intro hstands
    cases hstands with
    | path => rfl
    | found hpattern => exact absurd hpattern (by simp [hplain])
  · rintro rfl
    exact .path hplain

theorem yields_expand_pattern_iff (hlooks : tools.OnlyLooks) (hpattern : isPattern pattern = true)
    {paths : List String} :
    Yields (expand tools pattern) before paths after ↔
      before = after ∧ tools.found before pattern = .ok (paths.map .ok) ∧ paths ≠ [] := by
  rw [expand, if_pos hpattern, yields_bind_iff]
  simp only [yields_search_iff hlooks]
  constructor
  · rintro ⟨outcome, middle, ⟨rfl, hfound⟩, hends⟩
    cases outcome with
    | error cause => exact absurd hends not_yields_throw
    | ok entries =>
        dsimp only at hends
        split at hends
        · exact absurd hends not_yields_throw
        · exact absurd hends not_yields_throw
        · next others hsome hothers =>
          obtain ⟨rfl, rfl⟩ := yields_pure_iff.mp hends
          rw [mapM_id_eq_ok_iff.mp hothers] at hfound
          exact ⟨rfl, hfound, hsome⟩
  · rintro ⟨rfl, hfound, hsome⟩
    refine ⟨_, before, ⟨rfl, hfound⟩, ?_⟩
    dsimp only
    rw [mapM_id_eq_ok_iff.mpr rfl]
    split
    · contradiction
    · next hnone => exact absurd (Except.ok.inj hnone) hsome
    · next others _ hothers =>
      exact yields_pure_iff.mpr ⟨(Except.ok.inj hothers).symm, rfl⟩

theorem yields_expand_iff (hlooks : tools.OnlyLooks) {paths : List String} :
    Yields (expand tools pattern) before paths after ↔
      before = after ∧ StandsFor tools before pattern paths := by
  by_cases hpattern : isPattern pattern = true
  · rw [yields_expand_pattern_iff hlooks hpattern, standsFor_iff_of_isPattern hpattern]
  · rw [expand, if_neg hpattern, yields_pure_iff, standsFor_iff_of_isPath (by simpa using hpattern),
      and_comm, eq_comm (a := paths)]

theorem leaves_expand (hlooks : tools.OnlyLooks) (pattern : String) :
    Leaves (· = ·) (expand tools pattern).run := by
  rw [expand]
  split
  · refine leaves_exceptBind (leaves_lift (hlooks pattern)) ?_
    rintro (cause | entries)
    · exact leaves_throw _
    · dsimp only
      split
      · exact leaves_throw _
      · exact leaves_throw _
      · exact leaves_exceptPure _
  · exact leaves_exceptPure _

/-! ## Files -/

theorem yields_readDocument_iff {document : Json} :
    Yields (readDocument Session.system path) before document after ↔
      before = after ∧ ∃ text, before.disk.read before.working path = .ok text ∧
        Json.read text = .ok document := by
  have hread : ∀ outcome middle,
      Yields (liftM (Session.system.read path)) before outcome middle ↔
        before.disk.read before.working path = outcome ∧ before = middle := by
    intro outcome middle
    rw [yields_lift_iff, ← Prod.mk.injEq]
    rfl
  rw [readDocument, yields_bind_iff]
  simp only [hread]
  constructor
  · rintro ⟨outcome, middle, ⟨houtcome, rfl⟩, hends⟩
    cases outcome with
    | error cause => exact absurd hends not_yields_throw
    | ok text =>
        dsimp only at hends
        split at hends
        · exact absurd hends not_yields_throw
        · next found hfound =>
          obtain ⟨rfl, rfl⟩ := yields_pure_iff.mp hends
          exact ⟨rfl, text, houtcome, hfound⟩
  · rintro ⟨rfl, text, htext, hdocument⟩
    refine ⟨_, before, ⟨htext, rfl⟩, ?_⟩
    dsimp only
    rw [hdocument]
    exact yields_pure_iff.mpr ⟨rfl, rfl⟩

theorem select_eq_ok_iff {pointer? : Option String} {document part : Json} :
    select pointer? path document = .ok part ↔ IsSelected pointer? document part := by
  cases pointer? with
  | none => simp [select, IsSelected, eq_comm]
  | some pointer => cases hpart : document.pointer? pointer <;> simp [select, IsSelected, hpart]

theorem exists_compileFilter_iff :
    (∃ filter?, settings.compileFilter tools = .ok filter?) ↔
      ∀ filter ∈ settings.filter, ∃ program, tools.compile filter = .ok program := by
  rw [InputSettings.compileFilter]
  cases settings.filter with
  | none => simp
  | some text => cases hprogram : tools.compile text <;> simp [hprogram]

theorem filtered_eq_ok_iff (hfilter : settings.compileFilter tools = .ok filter?) {part : Json}
    {inputs : List Input} :
    filtered filter? path part = .ok inputs ↔
      ∃ documents, IsFiltered tools settings.filter part documents ∧
        named path documents = inputs := by
  rw [InputSettings.compileFilter] at hfilter
  cases htext : settings.filter with
  | none =>
      rw [htext] at hfilter
      cases hfilter
      simp [filtered, IsFiltered]
  | some text =>
      rw [htext] at hfilter
      cases hprogram : tools.compile text with
      | error cause => simp [hprogram] at hfilter
      | ok program =>
          simp only [hprogram, Except.ok.injEq] at hfilter
          subst hfilter
          cases houtputs : tools.outputs program part <;>
            simp [filtered, IsFiltered, hprogram, houtputs]

/-- What is made of a file is a batch of its path. -/
theorem yields_loadFile_iff (hfilter : settings.compileFilter tools = .ok filter?)
    {inputs : List Input} :
    Yields (loadFile Session.system settings filter? path) before inputs after ↔
      before = after ∧ ∃ batch : Batch, batch.path = path ∧ batch.inputs = inputs ∧
        batch.IsLoaded tools before settings := by
  rw [loadFile, yields_bind_iff]
  simp only [yields_bind_iff, yields_readDocument_iff, yields_outcome_iff, select_eq_ok_iff,
    filtered_eq_ok_iff hfilter]
  constructor
  · rintro ⟨document, middle, ⟨rfl, text, htext, hdocument⟩, part, last, ⟨hpart, rfl⟩,
      ⟨documents, hdocuments, hinputs⟩, rfl⟩
    exact ⟨rfl, ⟨path, documents⟩, rfl, hinputs, text, document, part, htext, hdocument, hpart,
      hdocuments⟩
  · rintro ⟨rfl, batch, rfl, hinputs, text, document, part, htext, hdocument, hpart, hdocuments⟩
    exact ⟨document, before, ⟨rfl, text, htext, hdocument⟩, part, before, ⟨hpart, rfl⟩,
      ⟨batch.documents, hdocuments, hinputs⟩, rfl⟩

/-! ## Loading -/

theorem forall₂_batch_iff {paths : List String} {results : List (List Input)}
    {loaded : Batch → Prop} :
    List.Forall₂ (fun path inputs => ∃ batch : Batch, batch.path = path ∧
      batch.inputs = inputs ∧ loaded batch) paths results ↔
    ∃ batches : List Batch, batches.map Batch.path = paths ∧
      batches.map Batch.inputs = results ∧ ∀ batch ∈ batches, loaded batch := by
  constructor
  · intro h
    induction h with
    | nil => exact ⟨[], rfl, rfl, by simp⟩
    | cons hfirst _ ih =>
        obtain ⟨batch, rfl, rfl, hbatch⟩ := hfirst
        obtain ⟨batches, rfl, rfl, hbatches⟩ := ih
        exact ⟨batch :: batches, rfl, rfl, List.forall_mem_cons.mpr ⟨hbatch, hbatches⟩⟩
  · rintro ⟨batches, rfl, rfl, hloaded⟩
    rw [List.forall₂_map_left_iff, List.forall₂_map_right_iff, List.forall₂_same]
    exact fun batch hbatch => ⟨batch, rfl, rfl, hloaded batch hbatch⟩

/-- Loading yields the documents of the chosen files, and leaves the session as it is. -/
theorem yields_load_iff (hlooks : tools.OnlyLooks) {inputs : List Input} :
    Yields (load tools Session.system settings) before inputs after ↔
      before = after ∧ ∃ batches, Chosen tools before settings batches ∧
        batches.flatMap Batch.inputs = inputs := by
  have hexpands : ∀ pattern paths after, Yields (expand tools pattern) before paths after ↔
      before = after ∧ StandsFor tools before pattern paths :=
    fun _ _ _ => yields_expand_iff hlooks
  have hfiles : ∀ filter?, settings.compileFilter tools = .ok filter? →
      ∀ path inputs after, Yields (loadFile Session.system settings filter? path) before inputs
        after ↔ before = after ∧ ∃ batch : Batch, batch.path = path ∧ batch.inputs = inputs ∧
          batch.IsLoaded tools before settings :=
    fun _ hfilter _ _ _ => yields_loadFile_iff hfilter
  rw [load, yields_bind_iff]
  simp only [yields_mapM_iff hexpands, yields_bind_iff, yields_outcome_iff]
  constructor
  · rintro ⟨found, middle, ⟨rfl, hfound⟩, filter?, last, ⟨hfilter, rfl⟩, results, final, hresults,
      hends⟩
    rw [yields_mapM_iff (hfiles filter? hfilter), forall₂_batch_iff] at hresults
    obtain ⟨rfl, batches, hpaths, rfl, hloaded⟩ := hresults
    obtain ⟨rfl, rfl⟩ := yields_pure_iff.mp hends
    exact ⟨rfl, batches, ⟨⟨found, hfound, hpaths⟩, exists_compileFilter_iff.mp ⟨filter?, hfilter⟩,
      hloaded⟩, rfl⟩
  · rintro ⟨rfl, batches, ⟨⟨found, hfound, hpaths⟩, hprogram, hloaded⟩, rfl⟩
    obtain ⟨filter?, hfilter⟩ := exists_compileFilter_iff.mpr hprogram
    refine ⟨found, before, ⟨rfl, hfound⟩, filter?, before, ⟨hfilter, rfl⟩,
      batches.map Batch.inputs, before, ?_, yields_pure_iff.mpr ⟨rfl, rfl⟩⟩
    rw [yields_mapM_iff (hfiles filter? hfilter), forall₂_batch_iff]
    exact ⟨rfl, batches, hpaths, rfl, hloaded⟩

theorem leaves_outcome {α : Type} (outcome : Except RunError α) :
    Leaves (· = ·) (ExceptT.mk (pure outcome) : ExceptT RunError (StateM Session) α).run :=
  leaves_pure outcome

theorem leaves_loadFile (settings : InputSettings) (filter? : Option (Filter tools))
    (path : String) : Leaves (· = ·) (loadFile Session.system settings filter? path).run := by
  have hread : Leaves (· = ·) (readDocument Session.system path).run := by
    refine leaves_exceptBind (leaves_lift fun _ => rfl) ?_
    rintro (cause | text)
    · exact leaves_throw _
    · dsimp only
      split
      · exact leaves_throw _
      · exact leaves_exceptPure _
  exact leaves_exceptBind hread fun document =>
    leaves_exceptBind (leaves_outcome _) fun part => leaves_outcome _

theorem leaves_load (hlooks : tools.OnlyLooks) (settings : InputSettings) :
    Leaves (· = ·) (load tools Session.system settings).run := by
  refine leaves_exceptBind (leaves_mapM (leaves_expand hlooks)) fun found => ?_
  refine leaves_exceptBind (leaves_outcome _) fun filter? => ?_
  exact leaves_exceptBind (leaves_mapM (leaves_loadFile settings filter?)) fun inputs =>
    leaves_exceptPure _

end SchemaTables.Command
