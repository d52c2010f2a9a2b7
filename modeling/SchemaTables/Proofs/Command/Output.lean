import SchemaTables.Proofs.Command.Loading
import SchemaTables.Proofs.Command.Saving
import SchemaTables.Proofs.Compilation

/-!
# Where scripts are found

A compilation that ends well has saved the script of every document, one after the other.  A later
script under the same name replaces an earlier one, so a document keeps its script if no document
behind it has its name (`holds_of_results`).  All documents have their scripts in directories of
their own exactly if no two of the files that they come from clash (`scripts_kept_iff`).
-/

namespace SchemaTables

theorem avoids_padded (width n : Nat) : Text.Avoids '/' (padded width n) := by
  rw [Text.Avoids, padded, String.toList_ofList, List.mem_append, not_or]
  refine ⟨?_, avoids_toString (by decide) n⟩
  intro hzero
  exact absurd (List.eq_of_mem_replicate hzero) (by decide)

theorem Moment.avoids_stamp (moment : Moment) : Text.Avoids '/' moment.stamp := by
  rw [Text.Avoids, Moment.stamp]
  simp only [String.toList_append, List.mem_append, not_or]
  exact ⟨⟨⟨⟨⟨avoids_padded _ _, avoids_padded _ _⟩, avoids_padded _ _⟩, avoids_padded _ _⟩,
    avoids_padded _ _⟩, avoids_padded _ _⟩

namespace Command

open Session

variable {tools : Tools (StateM Session)} {before after : Session} {console : Console}
  {settings : CompileSettings} {presentation : Presentation} {several : Bool} {base stamp name : String}
  {input : Input} {inputs : List Input} {script : Script} {plan : List Action}

/-! ## Directories of documents -/

/-- The directory of a document is named after it, behind the stamp of the run. -/
def folder (stamp name : String) : String := stamp ++ "_" ++ name

theorem toList_folder (stamp name : String) :
    (folder stamp name).toList = stamp.toList ++ '_' :: name.toList := by
  simp [folder, String.toList_append]

theorem folder_injective {first second : String} (h : folder stamp first = folder stamp second) :
    first = second := by
  have hchars := congrArg String.toList h
  rw [toList_folder, toList_folder] at hchars
  exact String.toList_injective (List.cons.inj (List.append_cancel_left hchars)).2

theorem isName_folder (hstamp : Text.Avoids '/' stamp) (hname : Text.Avoids '/' name) :
    Path.IsName (folder stamp name) := by
  have hseparator : '_' ∈ (folder stamp name).toList := by
    rw [toList_folder]
    exact List.mem_append_right _ List.mem_cons_self
  have hspecial : ∀ text : String, '_' ∉ text.toList → folder stamp name ≠ text := by
    intro text htext heq
    exact htext (heq ▸ hseparator)
  refine ⟨?_, hspecial "" (by decide), hspecial "." (by decide), hspecial ".." (by decide)⟩
  rw [Text.Avoids, toList_folder, List.mem_append, List.mem_cons]
  rintro (hslash | hslash | hslash)
  · exact hstamp hslash
  · exact absurd hslash (by decide)
  · exact hname hslash

/-! ## Other actions -/

theorem leaves_perform {action : Action} (h : ∀ directory script, action ≠ .save directory script) :
    Leaves Grows (action.perform Session.system console).run := by
  cases action with
  | log event =>
      rw [Action.perform]
      split
      · exact leaves_exceptBind (leaves_lift leaves_now) fun time =>
          leaves_lift (leaves_printError _)
      · exact leaves_exceptPure _
  | print text => exact leaves_lift (leaves_print text)
  | printError text => exact leaves_lift (leaves_printError text)
  | save directory script => exact absurd rfl (h directory script)

/-- A plan that saves nothing lets the session grow. -/
theorem leaves_performAll (h : ∀ directory script, Action.save directory script ∉ plan) :
    Leaves Grows (performAll Session.system console plan).run := by
  induction plan with
  | nil => exact leaves_exceptPure _
  | cons action rest ih =>
      refine leaves_exceptBind (leaves_perform ?_) fun _ => ih ?_
      · intro directory script heq
        exact h directory script (heq ▸ List.mem_cons_self)
      · intro directory script hmem
        exact h directory script (List.mem_cons_of_mem _ hmem)

/-! ## Results -/

theorem resultActions_of_compile (hformat : settings.format = .sql)
    (hdirectory : settings.directory = some base)
    (hscript : compile settings.dialect input.document = .ok script) :
    ∃ message, resultActions settings presentation several input =
      [.save (Path.join base (folder presentation.stamp input.name)) script,
        .printError message] := by
  rw [resultActions, hformat, hdirectory, hscript]
  exact ⟨_, rfl⟩

/-- The script of a document is saved before anything else is done. -/
theorem exists_saved_of_results (hformat : settings.format = .sql)
    (hdirectory : settings.directory = some base)
    (hscript : compile settings.dialect input.document = .ok script)
    (h : Yields (performAll Session.system console
      (resultActions settings presentation several input ++ plan)) before ⟨⟩ after) :
    ∃ saved middle,
      Yields (saveScript Session.system (Path.join base (folder presentation.stamp input.name))
        script) before ⟨⟩ saved ∧
      saved.Grows middle ∧ Yields (performAll Session.system console plan) middle ⟨⟩ after := by
  obtain ⟨message, hactions⟩ :=
    @resultActions_of_compile settings presentation several base input script hformat hdirectory
      hscript
  rw [performAll, hactions, yields_forM_append_iff] at h
  obtain ⟨middle, hresult, hplan⟩ := h
  obtain ⟨saved, hsave, hmessage⟩ := yields_forM_cons_iff.mp hresult
  refine ⟨saved, middle, hsave, hmessage.related (leaves_performAll ?_), hplan⟩
  simp

/-- The run over all documents: what a directory of another name holds is kept, and the last
document of every name has its script in its directory. -/
theorem holds_of_results (presentation : Presentation) (hformat : settings.format = .sql)
    (hdirectory : settings.directory = some base)
    (hstamp : Text.Avoids '/' presentation.stamp)
    (hnames : ∀ input ∈ inputs, Text.Avoids '/' input.name)
    (hscripts : ∀ input ∈ inputs, ∃ script, compile settings.dialect input.document = .ok script)
    (h : Yields (performAll Session.system console
      (inputs.flatMap (resultActions settings presentation several))) before ⟨⟩ after) :
    (∀ name kept, Text.Avoids '/' name → name ∉ inputs.map Input.name →
      before.Holds (Path.join base (folder presentation.stamp name)) kept →
      after.Holds (Path.join base (folder presentation.stamp name)) kept) ∧
    ∀ first input rest, inputs = first ++ input :: rest → input.name ∉ rest.map Input.name →
      ∃ script, compile settings.dialect input.document = .ok script ∧
        after.Holds (Path.join base (folder presentation.stamp input.name)) script := by
  induction inputs generalizing before with
  | nil =>
      obtain ⟨-, rfl⟩ := yields_pure_iff.mp h
      exact ⟨fun _ _ _ _ hkept => hkept, by simp⟩
  | cons input inputs ih =>
      obtain ⟨hname, hothers⟩ := List.forall_mem_cons.mp hnames
      obtain ⟨⟨script, hscript⟩, hcompiled⟩ := List.forall_mem_cons.mp hscripts
      rw [List.flatMap_cons] at h
      obtain ⟨saved, middle, hsave, hgrows, hplan⟩ :=
        exists_saved_of_results hformat hdirectory hscript h
      obtain ⟨hkeeps, hlast⟩ := ih hothers hcompiled hplan
      have hfolder : Path.IsName (folder presentation.stamp input.name) :=
        isName_folder hstamp hname
      constructor
      · intro name kept hplain hnone hkept
        rw [List.map_cons, List.mem_cons, not_or] at hnone
        have hne : folder presentation.stamp name ≠ folder presentation.stamp input.name :=
          fun heq => hnone.1 (folder_injective heq)
        have hsaved := holds_of_saveScript_of_ne hfolder (isName_folder hstamp hplain) hne hkept
          hsave
        exact hkeeps name kept hplain hnone.2 (hgrows.holds hsaved)
      · intro first other rest heq hnone
        cases first with
        | nil =>
            obtain ⟨rfl, rfl⟩ := List.cons.inj heq
            have hsaved := holds_of_saveScript hfolder hsave
            exact ⟨script, hscript, hkeeps _ script hname hnone (hgrows.holds hsaved)⟩
        | cons head tail => exact hlast tail other rest (List.cons.inj heq).2 hnone

/-! ## Kept scripts -/

/-- Every document has a directory that holds its script, and no two have the same one. -/
structure Kept (session : Session) (dialect : Dialect) (base stamp : String)
    (inputs : List Input) : Prop where
  held : ∀ input ∈ inputs, ∃ script, compile dialect input.document = .ok script ∧
    session.Holds (Path.join base (folder stamp input.name)) script
  apart : inputs.Pairwise fun first second =>
    session.disk.locate session.working (Path.join base (folder stamp first.name)) ≠
      session.disk.locate session.working (Path.join base (folder stamp second.name))

theorem exists_parent_of_holds (hname : Path.IsName name)
    (h : after.Holds (Path.join base name) script) :
    ∃ parent, after.disk.locate after.working (Path.join base name) = .ok (name :: parent) := by
  obtain ⟨place, content, hplace, -, -⟩ := Disk.read_eq_ok.mp h.up
  obtain ⟨parent, -, hdirectory, -⟩ := Disk.exists_parent_of_locate hname isName_up hplace
  exact ⟨parent, hdirectory⟩

/-- Where the last document of every name has its script, all documents keep theirs exactly if they
have different names. -/
theorem kept_iff_nodup {dialect : Dialect} (hstamp : Text.Avoids '/' stamp)
    (hnames : ∀ input ∈ inputs, Text.Avoids '/' input.name)
    (hlast : ∀ first input rest, inputs = first ++ input :: rest →
      input.name ∉ rest.map Input.name → ∃ script, compile dialect input.document = .ok script ∧
        after.Holds (Path.join base (folder stamp input.name)) script) :
    Kept after dialect base stamp inputs ↔ (inputs.map Input.name).Nodup := by
  constructor
  · intro h
    rw [List.Nodup, List.pairwise_map]
    refine h.apart.imp ?_
    intro first second hplaces hname
    exact hplaces (by rw [hname])
  · intro hnodup
    have hheld : ∀ input ∈ inputs, ∃ script, compile dialect input.document = .ok script ∧
        after.Holds (Path.join base (folder stamp input.name)) script := by
      intro input hinput
      obtain ⟨first, rest, rfl⟩ := List.append_of_mem hinput
      refine hlast first input rest rfl ?_
      rw [List.map_append, List.map_cons, List.nodup_append, List.nodup_cons] at hnodup
      exact hnodup.2.1.1
    refine ⟨hheld, ?_⟩
    rw [List.Nodup, List.pairwise_map] at hnodup
    refine hnodup.imp_of_mem ?_
    intro first second hfirst hsecond hne hsame
    obtain ⟨script, -, hscript⟩ := hheld first hfirst
    obtain ⟨other, -, hother⟩ := hheld second hsecond
    obtain ⟨parent, hparent⟩ :=
      exists_parent_of_holds (isName_folder hstamp (hnames first hfirst)) hscript
    obtain ⟨another, hanother⟩ :=
      exists_parent_of_holds (isName_folder hstamp (hnames second hsecond)) hother
    rw [hparent, hanother] at hsame
    exact hne (folder_injective (List.cons.inj (Except.ok.inj hsame)).1)

/-! ## Commands -/

/-- A compilation has loaded its documents before it carries out its plan for them. -/
theorem exists_plan_of_run {sound : Bool}
    (h : Yields ((Task.compile settings).run tools Session.system console) before sound after) :
    ∃ inputs loaded logged,
      Yields (load tools Session.system settings.inputs) before inputs loaded ∧
      loaded.Grows logged ∧
      Yields (performAll Session.system console
        (compilePlan settings ⟨console.colours, logged.clock.stamp⟩ inputs)) logged ⟨⟩ after ∧
      allSound inputs = sound := by
  rw [Task.run, yields_bind_iff] at h
  obtain ⟨inputs, loaded, hload, hworks⟩ := h
  obtain ⟨_, logged, hlog, hplans⟩ := yields_bind_iff.mp hworks
  obtain ⟨time, middle, htime, hresults⟩ := yields_bind_iff.mp hplans
  have hmiddle : (logged.clock, logged) = (time, middle) := yields_lift_iff.mp htime
  obtain ⟨rfl, rfl⟩ := Prod.mk.inj hmiddle
  obtain ⟨_, finished, hplan, hends⟩ := yields_bind_iff.mp hresults
  obtain ⟨hsound, rfl⟩ := yields_pure_iff.mp hends
  exact ⟨inputs, loaded, logged, hload, hlog.related (leaves_perform (by simp)), hplan, hsound⟩

/-- A command ends well only if its task succeeds and all documents are sound. -/
theorem yields_of_exit {invocation : Invocation} (hdry : invocation.task.isDryRun = false)
    (h : Id.run ((invocation.run tools Session.system console).run before) = (0, after)) :
    Yields (invocation.task.run tools Session.system console) before true after := by
  rw [Invocation.run, if_neg (by simp [hdry]), StateT.run_bind, Id.run_bind] at h
  rw [Yields]
  rcases hwork : Id.run ((invocation.task.run tools Session.system console).run.run before) with
    ⟨error | sound, finished⟩
  · have hfailed : Id.run (StateT.run (invocation.task.run tools Session.system console) before) =
        (.error error, finished) := hwork
    rw [hfailed] at h
    exact absurd (Prod.mk.inj h).1 (by decide)
  · have hdone : Id.run (StateT.run (invocation.task.run tools Session.system console) before) =
        (.ok sound, finished) := hwork
    rw [hdone] at h
    obtain ⟨hcode, rfl⟩ := Prod.mk.inj h
    cases sound with
    | true => rfl
    | false => exact absurd hcode (by decide)

theorem forall_compiles_of_allSound (dialect : Dialect) (h : allSound inputs = true) :
    ∀ input ∈ inputs, ∃ script, compile dialect input.document = .ok script := by
  intro input hinput
  have hsound := List.all_eq_true.mp h input hinput
  exact check_eq_nil_iff.mp (List.isEmpty_iff.mp hsound)

theorem forall_avoids_name (batches : List Batch) :
    ∀ input ∈ batches.flatMap Batch.inputs, Text.Avoids '/' input.name := by
  intro input hinput
  obtain ⟨batch, -, hmem⟩ := List.mem_flatMap.mp hinput
  have hname : input.name ∈ batch.inputs.map Input.name := List.mem_map_of_mem hmem
  rw [batch.map_name_inputs] at hname
  exact Batch.avoids_of_mem_names hname

/-- A compilation into a directory that ends well, with whatever tools: of the documents with one
name the last one has its script in the directory of that name, and all documents keep theirs, in
different directories, exactly if no two of the chosen files clash. -/
theorem scripts_kept_iff (hlooks : tools.OnlyLooks) {invocation : Invocation} {session : Session}
    (htask : invocation.task = .compile settings) (hdry : settings.dryRun = false)
    (hformat : settings.format = .sql) (hdirectory : settings.directory = some base)
    (hrun : Id.run ((invocation.run tools Session.system console).run session) = (0, after)) :
    ∃ batches inputs, Chosen tools session settings.inputs batches ∧
      inputs.map Input.sourced = documentsOf batches ∧
      inputs.map Input.name = batches.flatMap Batch.names ∧
      Yields (load tools Session.system settings.inputs) session inputs session ∧
      (∀ first input rest, inputs = first ++ input :: rest → input.name ∉ rest.map Input.name →
        ∃ script, compile settings.dialect input.document = .ok script ∧
          after.Holds (Path.join base (folder session.clock.stamp input.name)) script) ∧
      (Kept after settings.dialect base session.clock.stamp inputs ↔
        batches.Pairwise fun first second => ¬ first.Clashes second) := by
  have hwork := yields_of_exit (by rw [htask]; exact hdry) hrun
  rw [htask] at hwork
  obtain ⟨inputs, loaded, logged, hload, hlogged, hplan, hsound⟩ := exists_plan_of_run hwork
  obtain ⟨rfl, batches, hchosen, rfl⟩ := (yields_load_iff hlooks).mp hload
  rw [hlogged.clock, compilePlan, performAll, yields_forM_append_iff] at hplan
  obtain ⟨told, htold, hresults⟩ := hplan
  have hstamp : Text.Avoids '/' session.clock.stamp := session.clock.avoids_stamp
  have hnames := forall_avoids_name batches
  have hlast := (holds_of_results ⟨console.colours, session.clock.stamp⟩ hformat hdirectory hstamp
    hnames (forall_compiles_of_allSound settings.dialect hsound) hresults).2
  refine ⟨batches, _, hchosen, map_sourced_flatMap_inputs batches, map_name_flatMap_inputs batches,
    hload, hlast, ?_⟩
  rw [kept_iff_nodup hstamp hnames hlast, map_name_flatMap_inputs, Batch.nodup_flatMap_names_iff]

/-! ## Two files -/

/-- A document with one table that has no columns. -/
def tableText (name : String) : String :=
  "\x7b\"type\":\"object\",\"properties\":\x7b\"" ++ name ++
    "\":\x7b\"type\":\"object\",\"properties\":\x7b\x7d\x7d\x7d\x7d"

/-- Files in two directories, of which the second one has the given name. -/
def twoFiles (second : String) : Session where
  disk := ⟨[(["a"], .directory), (["x.json", "a"], .file (tableText "users").toUTF8),
    (["b"], .directory), ([second, "b"], .file (tableText "posts").toUTF8)]⟩

def twoFilesSettings (second : String) : CompileSettings :=
  { inputs := { patterns := ["a/x.json", "b/" ++ second] }, directory := some "out" }

/-- The exit code of a compilation of both files, and the session that it leaves. -/
def compileTwoFiles (second : String) : UInt32 × Session :=
  let invocation : Invocation := { task := .compile (twoFilesSettings second) }
  Id.run ((invocation.run (.standard Session.system) Session.system { directives := [] }).run
    (twoFiles second))

/-- Files of different stems do not clash. -/
theorem scripts_kept_twoFiles :
    ∃ inputs, (compileTwoFiles "y.json").1 = 0 ∧ inputs.map Input.name = ["x", "y"] ∧
      Yields (load (.standard Session.system) Session.system (twoFilesSettings "y.json").inputs)
        (twoFiles "y.json") inputs (twoFiles "y.json") ∧
      Kept (compileTwoFiles "y.json").2 .pg "out" (twoFiles "y.json").clock.stamp inputs := by
  have hcode : (compileTwoFiles "y.json").1 = 0 := by decide +kernel
  have hrun : compileTwoFiles "y.json" = (0, (compileTwoFiles "y.json").2) :=
    calc compileTwoFiles "y.json"
      _ = ((compileTwoFiles "y.json").1, (compileTwoFiles "y.json").2) := (Prod.eta _).symm
      _ = (0, (compileTwoFiles "y.json").2) := by rw [hcode]
  have hloads : (Id.run ((load (.standard Session.system) Session.system
      (twoFilesSettings "y.json").inputs).run.run (twoFiles "y.json"))).1.toOption.map
        (List.map Input.name) = some ["x", "y"] := by
    decide +kernel
  obtain ⟨batches, inputs, -, -, hnames, hload, -, hkept⟩ :=
    @scripts_kept_iff (.standard Session.system) (compileTwoFiles "y.json").2 { directives := [] }
      (twoFilesSettings "y.json") "out" Tools.onlyLooks_standard
      { task := .compile (twoFilesSettings "y.json") } (twoFiles "y.json") rfl rfl rfl rfl hrun
  have hdifferent : inputs.map Input.name = ["x", "y"] := by
    rw [hload] at hloads
    exact Option.some.inj hloads
  refine ⟨inputs, hcode, hdifferent, hload, hkept.mpr (Batch.nodup_flatMap_names_iff.mp ?_)⟩
  rw [← hnames, hdifferent]
  decide

/-- Of two files with one stem in different directories only the second one has its script kept: it
is written over that of the first one, and nothing is said about it. -/
theorem script_lost_twoFiles :
    (compileTwoFiles "x.json").1 = 0 ∧
      ((Json.read (tableText "users")).toOption.bind fun document =>
        (compile .pg document).toOption.map Script.up) = some ["create table \"users\" ();"] ∧
      ((compileTwoFiles "x.json").2.disk.names [] "out").toOption = some ["19700101000000_x"] ∧
      ((compileTwoFiles "x.json").2.disk.read [] "out/19700101000000_x/up.sql").toOption =
        some "create table \"posts\" ();\n" ∧
      (compileTwoFiles "x.json").2.errors =
        "wrote out/19700101000000_x\nwrote out/19700101000000_x\n" := by
  decide +kernel

end Command

end SchemaTables
