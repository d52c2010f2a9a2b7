import SchemaTables.Proofs.Command.Failures
import SchemaTables.Proofs.Compilation

/-!
# What is printed

A compilation that writes no files prints one block for each of its documents, in their order.  The
block of a document is made from its own result alone, so no document has a say in what is printed
for another.  If an input cannot be loaded, nothing is printed at all.

The main statement is `documents_printed`.
-/

namespace SchemaTables

namespace Text

theorem concat_append (first second : List String) :
    concat (first ++ second) = concat first ++ concat second := by
  induction first with
  | nil => simp [concat]
  | cons text rest ih => rw [List.cons_append, concat, concat, ih, String.append_assoc]

theorem concat_flatten (texts : List (List String)) :
    concat texts.flatten = concat (texts.map concat) := by
  induction texts with
  | nil => rfl
  | cons first rest ih => rw [List.flatten_cons, concat_append, ih, List.map_cons, concat]

theorem concat_eq_empty {texts : List String} (h : ∀ text ∈ texts, text = "") :
    concat texts = "" := by
  induction texts with
  | nil => rfl
  | cons text rest ih =>
      obtain ⟨htext, hrest⟩ := List.forall_mem_cons.mp h
      rw [concat, htext, ih hrest, String.append_empty]

end Text

namespace Command

open Session

variable {tools : Tools (StateM Session)} {session before after : Session} {console : Console}
  {settings : CompileSettings} {presentation : Presentation} {several : Bool} {input : Input}
  {inputs : List Input} {plan : List Action}

/-! ## Work that prints -/

/-- Wherever it is started, the work succeeds, and puts the text behind what has been printed. -/
def Prints (work : ExceptT RunError (StateM Session) PUnit) (text : String) : Prop :=
  ∀ before, ∃ after, Yields work before ⟨⟩ after ∧ after.output = before.output ++ text

def Action.printed : Action → String
  | .print text => text
  | _ => ""

theorem prints_perform (console : Console) {action : Action}
    (h : ∀ directory script, action ≠ .save directory script) :
    Prints (action.perform Session.system console) action.printed := by
  intro before
  cases action with
  | log event =>
      rw [Action.perform]
      split
      · refine ⟨_, yields_bind_iff.mpr ⟨before.clock, before, yields_lift_iff.mpr rfl,
          yields_lift_iff.mpr rfl⟩, ?_⟩
        exact String.append_empty.symm
      · exact ⟨before, yields_pure_iff.mpr ⟨rfl, rfl⟩, String.append_empty.symm⟩
  | print text => exact ⟨_, yields_lift_iff.mpr rfl, rfl⟩
  | printError text => exact ⟨_, yields_lift_iff.mpr rfl, String.append_empty.symm⟩
  | save directory script => exact absurd rfl (h directory script)

theorem prints_log (console : Console) (event : Event) :
    Prints (Action.perform Session.system console (.log event)) "" :=
  prints_perform console (by simp)

/-- A plan that saves nothing prints what its actions do. -/
theorem prints_performAll (console : Console)
    (h : ∀ directory script, Action.save directory script ∉ plan) :
    Prints (performAll Session.system console plan) (Text.concat (plan.map Action.printed)) := by
  induction plan with
  | nil =>
      intro before
      exact ⟨before, yields_pure_iff.mpr ⟨rfl, rfl⟩, String.append_empty.symm⟩
  | cons action rest ih =>
      intro before
      have haction : ∀ directory script, action ≠ .save directory script := by
        intro directory script heq
        exact h directory script (heq ▸ List.mem_cons_self)
      have hrest : ∀ directory script, .save directory script ∉ rest := by
        intro directory script hmem
        exact h directory script (List.mem_cons_of_mem _ hmem)
      obtain ⟨middle, hfirst, hmiddle⟩ := prints_perform console haction before
      obtain ⟨after, hothers, hafter⟩ := ih hrest middle
      refine ⟨after, yields_forM_cons_iff.mpr ⟨middle, hfirst, hothers⟩, ?_⟩
      rw [hafter, hmiddle, List.map_cons, Text.concat, String.append_assoc]

/-! ## Blocks -/

/-- What is printed for a document, from its source and its result: the result as a document, or the
script, with its source in front if there are several documents. -/
def block (format : OutputFormat) (several : Bool) (source : String)
    (result : Except (List Diagnostic) Script) : String :=
  match format, result with
  | .json, result => (resultDocument result).pretty ++ "\n"
  | .sql, .ok script => (if several then "-- " ++ source ++ "\n" else "") ++ Script.printed script
  | .sql, .error _ => ""

/-- The blocks of documents that come with their sources, in their order. -/
def blocks (format : OutputFormat) (dialect : Dialect) (documents : List (String × Json)) :
    List String :=
  documents.map fun (source, document) =>
    block format (1 < documents.length) source (compile dialect document)

theorem printed_resultActions (hdirectory : settings.directory = none) :
    Text.concat ((resultActions settings presentation several input).map Action.printed) =
      block settings.format several input.source (compile settings.dialect input.document) := by
  rw [resultActions, hdirectory]
  cases settings.format with
  | json => simp [block, Action.printed, Text.concat]
  | sql =>
      cases compile settings.dialect input.document with
      | error diagnostics => simp [block, Action.printed, Text.concat]
      | ok script => simp [block, Action.printed, Text.concat, lines]

theorem not_mem_resultActions (hdirectory : settings.directory = none) (directory : String)
    (script : Script) :
    .save directory script ∉ resultActions settings presentation several input := by
  rw [resultActions, hdirectory]
  cases settings.format with
  | json => simp
  | sql => cases compile settings.dialect input.document <;> simp

/-- A plan of a compilation that writes no files prints the blocks of its documents. -/
theorem printed_compilePlan (hdirectory : settings.directory = none) :
    Text.concat ((compilePlan settings presentation inputs).map Action.printed) =
      Text.concat (blocks settings.format settings.dialect (inputs.map Input.sourced)) := by
  have hevents : Text.concat ((inputs.flatMap fun input =>
      (compileEvents settings.dialect input.document).map Action.log).map Action.printed) = "" := by
    apply Text.concat_eq_empty
    intro text htext
    obtain ⟨action, haction, rfl⟩ := List.mem_map.mp htext
    obtain ⟨input, -, hmem⟩ := List.mem_flatMap.mp haction
    obtain ⟨event, -, rfl⟩ := List.mem_map.mp hmem
    rfl
  rw [compilePlan, List.map_append, Text.concat_append, hevents, String.empty_append,
    List.map_flatMap, List.flatMap_def, Text.concat_flatten, List.map_map, blocks, List.map_map,
    List.length_map]
  simp only [Function.comp_def, printed_resultActions hdirectory, Input.sourced]

theorem not_mem_compilePlan (hdirectory : settings.directory = none) (directory : String)
    (script : Script) : .save directory script ∉ compilePlan settings presentation inputs := by
  intro hmem
  rcases List.mem_append.mp hmem with hevent | hresult
  · obtain ⟨input, -, hevent⟩ := List.mem_flatMap.mp hevent
    obtain ⟨event, -, heq⟩ := List.mem_map.mp hevent
    cases heq
  · obtain ⟨input, -, hresult⟩ := List.mem_flatMap.mp hresult
    exact not_mem_resultActions hdirectory directory script hresult

theorem not_mem_checkPlan (directory : String) (script : Script) :
    .save directory script ∉ checkPlan presentation inputs := by
  intro hmem
  rcases List.mem_append.mp hmem with hevent | hverdict
  · obtain ⟨input, -, hevent⟩ := List.mem_flatMap.mp hevent
    obtain ⟨event, -, heq⟩ := List.mem_map.mp hevent
    cases heq
  · obtain ⟨input, -, heq⟩ := List.mem_map.mp hverdict
    cases heq

/-! ## Runs -/

/-- A compilation whose inputs are loaded prints the blocks of its documents. -/
theorem exists_yields_compile (console : Console) (hdirectory : settings.directory = none)
    (hload : Yields (load tools Session.system settings.inputs) session inputs session) :
    ∃ after, Yields ((Task.compile settings).run tools Session.system console) session
        (allSound inputs) after ∧
      after.output = session.output ++
        Text.concat (blocks settings.format settings.dialect (inputs.map Input.sourced)) := by
  obtain ⟨logged, hlog, hlogged⟩ := prints_log console (.inputsLoaded inputs.length) session
  have hblocks : Prints (performAll Session.system console
      (compilePlan settings ⟨console.colours, logged.clock.stamp⟩ inputs))
      (Text.concat (blocks settings.format settings.dialect (inputs.map Input.sourced))) := by
    rw [← printed_compilePlan hdirectory]
    exact prints_performAll console (not_mem_compilePlan hdirectory)
  obtain ⟨after, hplan, hafter⟩ := hblocks logged
  refine ⟨after, ?_, ?_⟩
  · refine yields_bind_iff.mpr ⟨inputs, session, hload, ?_⟩
    refine yields_bind_iff.mpr ⟨⟨⟩, logged, hlog, ?_⟩
    refine yields_bind_iff.mpr ⟨logged.clock, logged, yields_lift_iff.mpr rfl, ?_⟩
    exact yields_bind_iff.mpr ⟨⟨⟩, after, hplan, yields_pure_iff.mpr ⟨rfl, rfl⟩⟩
  · rw [hafter, hlogged, String.append_empty]

/-- A check of the same inputs comes to the same judgement. -/
theorem exists_yields_check (console : Console) {inputSettings : InputSettings}
    (hload : Yields (load tools Session.system inputSettings) session inputs session) :
    ∃ after, Yields ((Task.check inputSettings).run tools Session.system console) session
      (allSound inputs) after := by
  obtain ⟨logged, hlog, -⟩ := prints_log console (.inputsLoaded inputs.length) session
  obtain ⟨after, hplan, -⟩ :=
    prints_performAll console (@not_mem_checkPlan ⟨console.colours, ""⟩ inputs) logged
  refine ⟨after, yields_bind_iff.mpr ⟨inputs, session, hload, ?_⟩⟩
  refine yields_bind_iff.mpr ⟨⟨⟩, logged, hlog, ?_⟩
  exact yields_bind_iff.mpr ⟨⟨⟩, after, hplan, yields_pure_iff.mpr ⟨rfl, rfl⟩⟩

/-- The exit code of an invocation, and the session that it leaves. -/
def outcome (tools : Tools (StateM Session)) (invocation : Invocation) (console : Console)
    (session : Session) : UInt32 × Session :=
  Id.run ((invocation.run tools Session.system console).run session)

theorem outcome_of_yields {invocation : Invocation} {sound : Bool}
    (hdry : invocation.task.isDryRun = false)
    (h : Yields (invocation.task.run tools Session.system console) before sound after) :
    outcome tools invocation console before = (if sound then 0 else 1, after) := by
  have hdone : Id.run (StateT.run (invocation.task.run tools Session.system console) before) =
      (.ok sound, after) := h
  rw [outcome, Invocation.run, if_neg (by simp [hdry]), StateT.run_bind, Id.run_bind, hdone]
  rfl

theorem outcome_of_fails {invocation : Invocation} {error : RunError}
    (hdry : invocation.task.isDryRun = false)
    (h : Fails (invocation.task.run tools Session.system console) before error after) :
    outcome tools invocation console before =
      (1, { after with errors := after.errors ++ ("error: " ++ error.message ++ "\n") }) := by
  have hfailed : Id.run (StateT.run (invocation.task.run tools Session.system console) before) =
      (.error error, after) := h
  rw [outcome, Invocation.run, if_neg (by simp [hdry]), StateT.run_bind, Id.run_bind, hfailed]
  rfl

theorem allSound_iff (dialect : Dialect) :
    allSound inputs = true ↔ ∀ entry ∈ inputs.map Input.sourced,
      ∃ script, compile dialect entry.2 = .ok script := by
  rw [allSound, List.all_eq_true, List.forall_mem_map]
  refine forall₂_congr fun input _ => ?_
  rw [List.isEmpty_iff, check_eq_nil_iff]
  rfl

/-- How a compilation ends that writes no files.  If an input cannot be loaded, nothing is printed.
Otherwise the blocks of the documents are printed, in the order of the files that they come from,
and the run succeeds exactly if all documents compile. -/
structure PrintsDocuments (tools : Tools (StateM Session)) (session : Session)
    (settings : CompileSettings) (code : UInt32) (after : Session) : Prop where
  exit : code = 0 ∨ code = 1
  failed : InputFails tools session settings.inputs → code = 1 ∧ after.output = session.output
  printed : ¬ InputFails tools session settings.inputs → ∃ batches,
    Chosen tools session settings.inputs batches ∧
      after.output = session.output ++
        Text.concat (blocks settings.format settings.dialect (documentsOf batches)) ∧
      (code = 0 ↔ ∀ entry ∈ documentsOf batches,
        ∃ script, compile settings.dialect entry.2 = .ok script)

/-- A compilation that writes no files treats its documents one by one, with whatever tools they
have been loaded, and a check of the same inputs ends with the same exit code. -/
theorem documents_printed (hlooks : tools.OnlyLooks) {compiling checking : Invocation}
    {console other : Console} (hcompile : compiling.task = .compile settings)
    (hdry : settings.dryRun = false) (hdirectory : settings.directory = none)
    (hcheck : checking.task = .check settings.inputs) (session : Session) :
    PrintsDocuments tools session settings (outcome tools compiling console session).1
        (outcome tools compiling console session).2 ∧
      (outcome tools checking other session).1 = (outcome tools compiling console session).1 := by
  have hcompiling : compiling.task.isDryRun = false := by
    rw [hcompile]
    exact hdry
  have hchecking : checking.task.isDryRun = false := by
    rw [hcheck]
    rfl
  by_cases hfails : InputFails tools session settings.inputs
  · obtain ⟨error, hload⟩ := hfails.exists_fails hlooks
    have hcompiled : Fails (compiling.task.run tools Session.system console) session error
        session := by
      rw [hcompile]
      exact hload.bind _
    have hchecked : Fails (checking.task.run tools Session.system other) session error session := by
      rw [hcheck]
      exact hload.bind _
    rw [outcome_of_fails hcompiling hcompiled, outcome_of_fails hchecking hchecked]
    exact ⟨⟨Or.inr rfl, fun _ => ⟨rfl, rfl⟩, fun hsound => absurd hfails hsound⟩, rfl⟩
  · obtain ⟨inputs, hload⟩ := (succeeds_load_iff hlooks).mpr hfails
    obtain ⟨-, batches, hchosen, rfl⟩ := (yields_load_iff hlooks).mp hload
    obtain ⟨after, hcompiled, hprinted⟩ := exists_yields_compile console hdirectory hload
    obtain ⟨checked, hchecked⟩ := exists_yields_check other hload
    have hsound := @allSound_iff (batches.flatMap Batch.inputs) settings.dialect
    rw [← hcompile] at hcompiled
    rw [← hcheck] at hchecked
    rw [map_sourced_flatMap_inputs] at hprinted hsound
    rw [outcome_of_yields hcompiling hcompiled, outcome_of_yields hchecking hchecked]
    refine ⟨⟨?_, fun h => absurd h hfails, fun _ => ⟨batches, hchosen, hprinted, ?_⟩⟩, rfl⟩
    · cases allSound (batches.flatMap Batch.inputs) <;> simp
    · rw [← hsound]
      cases allSound (batches.flatMap Batch.inputs) <;> simp

/-! ## Three files -/

def soundText : String :=
  "\x7b\"type\":\"object\",\"properties\":\x7b\"users\":\x7b\"type\":\"object\"," ++
    "\"properties\":\x7b\x7d\x7d\x7d\x7d"

def faultyText : String :=
  "\x7b\"type\":\"object\",\"properties\":\x7b\"users\":\x7b\"type\":\"string\"\x7d\x7d\x7d"

def arrayText (items : List String) : String := "[" ++ Text.join "," items ++ "]"

/-- A file of three documents, of which the second one is faulty, one of a faulty document, and one
of a sound document. -/
def threeFiles : Session where
  disk := ⟨[(["a.json"], .file (arrayText [soundText, faultyText, soundText]).toUTF8),
    (["b.json"], .file (arrayText [faultyText]).toUTF8),
    (["c.json"], .file (arrayText [soundText]).toUTF8)]⟩

/-- All items of the files are documents. -/
def threeFilesInputs : InputSettings :=
  { patterns := ["a.json", "b.json", "c.json"], filter := some ".[]" }

def threeFilesCompilation : Invocation := { task := .compile { inputs := threeFilesInputs } }

def threeFilesCheck : Invocation := { task := .check threeFilesInputs }

def soundBlock (source : String) : String :=
  lines ["-- " ++ source, "create table \"users\" ();", "-- down",
    "drop table if exists \"users\" cascade;"]

/-- The faulty documents leave gaps between the blocks of the others, and both runs fail. -/
theorem documents_printed_threeFiles :
    (outcome (.standard Session.system) threeFilesCompilation { directives := [] }
        threeFiles).1 = 1 ∧
      (outcome (.standard Session.system) threeFilesCompilation { directives := [] }
        threeFiles).2.output = soundBlock "a.json" ++ soundBlock "a.json" ++ soundBlock "c.json" ∧
      (outcome (.standard Session.system) threeFilesCheck { directives := [] } threeFiles).1 = 1 ∧
      PrintsDocuments (.standard Session.system) threeFiles { inputs := threeFilesInputs }
        (outcome (.standard Session.system) threeFilesCompilation { directives := [] } threeFiles).1
        (outcome (.standard Session.system) threeFilesCompilation { directives := [] }
          threeFiles).2 := by
  have hends : ((outcome (.standard Session.system) threeFilesCompilation { directives := [] }
        threeFiles).1,
      (outcome (.standard Session.system) threeFilesCompilation { directives := [] }
        threeFiles).2.output) =
          (1, soundBlock "a.json" ++ soundBlock "a.json" ++ soundBlock "c.json") := by
    decide +kernel
  obtain ⟨hcode, hprinted⟩ := Prod.mk.inj hends
  obtain ⟨hprints, hcheck⟩ := @documents_printed (.standard Session.system)
    { inputs := threeFilesInputs } Tools.onlyLooks_standard threeFilesCompilation threeFilesCheck
    { directives := [] } { directives := [] } rfl rfl rfl rfl threeFiles
  exact ⟨hcode, hprinted, hcheck.trans hcode, hprints⟩

end Command

end SchemaTables
