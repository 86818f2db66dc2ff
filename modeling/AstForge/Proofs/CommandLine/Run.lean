import AstForge.CommandLine.Run
import AstForge.Proofs.Document.Builtin
import AstForge.Proofs.Job.Settings

/-!
# Command line — the exit code and the files

The arguments ask for some documents (`Arguments.outputs`), and the jobs make them one after another
until one fails (`runJobsOn_cases`).  The documents that precede it are written.  Only a failure to
write can leave some written and some not: a document that cannot be made is the only one, since the
documents of the built-in tables can always be made.

* `files_match_exit_code`: what a run of the program leaves, for every way in which it can end.
-/

namespace AstForge

namespace CommandLine

open FileSystem

/-! ### The documents that the arguments ask for -/

/-- A document that is asked for: its path, and its text or why there is none. -/
structure Output where
  path : String
  text : Except GenerationError String

namespace Arguments

/-- The configuration that the arguments choose. -/
def config (arguments : Arguments) : Config :=
  { Config.ofTarget arguments.target with package := arguments.package }

/-- The path of the document for a base type. -/
def path (arguments : Arguments) (base : String) : String :=
  Path.join arguments.outputDirectory (arguments.target.fileName base)

/-- The documents that the arguments ask for, as the files give them. -/
def outputs (arguments : Arguments) (fs : FileSystem) : List Output :=
  match arguments.table with
  | some (base, file) =>
    [⟨arguments.path base,
      ((generateFromFile base file arguments.config : StateM FileSystem _) fs).1⟩]
  | none =>
    [⟨arguments.path "Expr", generateFromDeclarations "Expr" exprDeclarations arguments.config⟩,
     ⟨arguments.path "Stmt", generateFromDeclarations "Stmt" stmtDeclarations arguments.config⟩]

end Arguments

/-- The job for one of the tables. -/
def Arguments.job (arguments : Arguments) (base : String) (source : Source) : Job :=
  { Job.new base with
    source := source
    target := arguments.target
    package := arguments.package
    destination := some (.directory arguments.outputDirectory) }

theorem Arguments.jobs_eq (arguments : Arguments) :
    arguments.jobs =
      match arguments.table with
      | some (base, file) => [arguments.job base (.file file)]
      | none =>
        [arguments.job "Expr" (.declarations exprDeclarations),
         arguments.job "Stmt" (.declarations stmtDeclarations)] := by
  have hdeclared (base : String) (declarations : List String) :
      (Job.new base).apply (.declarations declarations) =
        { Job.new base with source := .declarations declarations } := by
    rw [Job.apply, Job.foldl_declare, Job.new, Source.foldl_declare_declarations, List.nil_append]
  obtain ⟨target, package, table, directory⟩ := arguments
  rw [jobs]
  cases table with
  | none =>
      rw [hdeclared, hdeclared]
      cases package with
      | none => rfl
      | some name => rfl
  | some table =>
      cases package with
      | none => rfl
      | some name => rfl

/-- A job has the path of an output and makes its text. -/
structure Makes (fs : FileSystem) (job : Job) (output : Output) : Prop where
  outputPath_eq : job.outputPath = some output.path
  documentIn_eq : job.documentIn fs = output.text

/-- A job for declarations makes the document of these declarations, whatever the files hold. -/
theorem makes_declarations (arguments : Arguments) (base : String) (declarations : List String)
    (fs : FileSystem) :
    Makes fs (arguments.job base (.declarations declarations))
      ⟨arguments.path base, generateFromDeclarations base declarations arguments.config⟩ :=
  ⟨rfl, Job.documentIn_eq _ fs⟩

/-- A job for a table file makes the document of the table that the file holds now. -/
theorem makes_file (arguments : Arguments) (base file : String) (fs : FileSystem) :
    Makes fs (arguments.job base (.file file))
      ⟨arguments.path base,
        ((generateFromFile base file arguments.config : StateM FileSystem _) fs).1⟩ := by
  refine ⟨rfl, ?_⟩
  rw [Job.documentIn_eq, Job.tableIn_of_file rfl, generateFromFile_fst]
  rfl

/-- Jobs make outputs.  Only the first may depend on the files as they are: what it writes does not
change the others. -/
structure Plan (fs : FileSystem) (jobs : List Job) (outputs : List Output) : Prop where
  now : List.Forall₂ (Makes fs) jobs outputs
  later : ∀ fs', List.Forall₂ (Makes fs') jobs.tail outputs.tail

/-- The jobs after the first make their outputs from any files. -/
theorem Plan.tail {fs : FileSystem} {job : Job} {jobs : List Job} {output : Output}
    {outputs : List Output} (h : Plan fs (job :: jobs) (output :: outputs)) (fs' : FileSystem) :
    Plan fs' jobs outputs := by
  refine ⟨h.later fs', fun fs'' => ?_⟩
  cases h.later fs'' with
  | nil => exact .nil
  | cons _ htail => exact htail

/-- The jobs of a run make the documents that its arguments ask for. -/
theorem plan_jobs (arguments : Arguments) (fs : FileSystem) :
    Plan fs arguments.jobs (arguments.outputs fs) := by
  rw [arguments.jobs_eq, Arguments.outputs]
  split
  · next base file _ =>
      exact ⟨.cons (makes_file arguments base file fs) .nil, fun _ => .nil⟩
  · have hexpr := makes_declarations arguments "Expr" exprDeclarations
    have hstmt := makes_declarations arguments "Stmt" stmtDeclarations
    exact ⟨.cons (hexpr fs) (.cons (hstmt fs) .nil), fun fs' => .cons (hstmt fs') .nil⟩

/-! ### Running the jobs -/

/-- What jobs come to, apart from the events that they tell. -/
def runJobsOn (jobs : List Job) (fs : FileSystem) :
    Except GenerationError (List String) × FileSystem :=
  let (told, after) := (runJobs jobs : StateM FileSystem _) fs
  (told.2, after)

theorem runJobsOn_cons (job : Job) (rest : List Job) (fs : FileSystem) :
    runJobsOn (job :: rest) fs =
      match (Request.run job).perform fs with
      | (.error cause, after) => (.error cause, after)
      | (.ok path, after) =>
        ((runJobsOn rest after).1.map (path :: ·), (runJobsOn rest after).2) := by
  simp only [runJobsOn, runJobs, bind_apply, Request.perform]
  generalize (job.run : StateM FileSystem Job.Outcome) fs = ran
  obtain ⟨⟨events, result⟩, after⟩ := ran
  cases result with
  | error cause => rfl
  | ok path => rfl

/-- Outputs were written: each has a text, which went to the place of its path. -/
def Wrote (fs : FileSystem) (outputs : List Output) (texts : List (Location × String)) : Prop :=
  List.Forall₂ (fun output text => fs.place? output.path = some text.1 ∧ output.text = .ok text.2)
    outputs texts

/-- What was written depends on the places of paths, and so on directories alone. -/
theorem Wrote.of_sameDirectories {fs fs' : FileSystem} {outputs : List Output}
    {texts : List (Location × String)} (hsame : SameDirectories fs fs')
    (h : Wrote fs' outputs texts) : Wrote fs outputs texts :=
  h.imp fun output _ houtput => ⟨hsame.place?_eq output.path ▸ houtput.1, houtput.2⟩

/-- Why an output is not written. -/
inductive Output.Fails (output : Output) (fs : FileSystem) : GenerationError → Prop where
  | noText {cause : GenerationError} (htext : output.text = .error cause) : Fails output fs cause
  | refused {text : String} {cause : FileError} (htext : output.text = .ok text)
      (htarget : fs.writeTarget output.path = .error cause) :
      Fails output fs (.write output.path cause)

/-- A job fails for a reason why its output is not written. -/
theorem Output.fails_of_request {fs : FileSystem} {job : Job} {output : Output}
    {cause : GenerationError} (hmakes : Makes fs job output)
    (hfails : (Request.run job).Fails fs cause) : output.Fails fs cause := by
  cases hfails with
  | noDestination hpath =>
      rw [Request.path?, hmakes.outputPath_eq] at hpath
      cases hpath
  | noText hpath htext => exact .noText (hmakes.documentIn_eq.symm.trans htext)
  | refused hpath htext htarget =>
      rw [Request.path?, hmakes.outputPath_eq] at hpath
      cases hpath
      exact .refused (hmakes.documentIn_eq.symm.trans htext) htarget

/-- **Jobs run until one fails.**  The outputs before it are written, and no other. -/
theorem runJobsOn_cases {fs : FileSystem} {jobs : List Job} {outputs : List Output}
    (hplan : Plan fs jobs outputs) :
    (∃ texts, Wrote fs outputs texts ∧
      runJobsOn jobs fs = (.ok (outputs.map Output.path), fs.putTexts texts)) ∨
    ∃ before failing rest texts cause, outputs = before ++ failing :: rest ∧
      Wrote fs before texts ∧ failing.Fails (fs.putTexts texts) cause ∧
      runJobsOn jobs fs = (.error cause, fs.putTexts texts) := by
  induction jobs generalizing fs outputs with
  | nil =>
      obtain rfl := List.forall₂_nil_left_iff.mp hplan.now
      exact .inl ⟨[], .nil, rfl⟩
  | cons job jobs ih =>
      obtain ⟨output, outputs, hmakes, -, rfl⟩ := List.forall₂_cons_left_iff.mp hplan.now
      rw [runJobsOn_cons]
      obtain ⟨path, text, place, hdelivers, hperform⟩ | ⟨cause, hfails, hperform⟩ :=
        (Request.run job).perform_cases fs
      · have hpath : output.path = path :=
          Option.some.inj (hmakes.outputPath_eq.symm.trans hdelivers.path_eq)
        have htext : output.text = .ok text := hmakes.documentIn_eq.symm.trans hdelivers.text_eq
        -- What this job wrote is no directory, so the paths of the later outputs keep their places.
        have hsame : SameDirectories fs (fs.insert place (.file text.toUTF8)) := by
          have h := (Request.run job).sameDirectories_perform fs
          rwa [hperform] at h
        have hwrote : ∀ {before : List Output} {texts : List (Location × String)},
            Wrote (fs.insert place (.file text.toUTF8)) before texts →
              Wrote fs (output :: before) ((place, text) :: texts) := fun h =>
          .cons ⟨hpath ▸ hdelivers.place?_eq, htext⟩ (h.of_sameDirectories hsame)
        rw [hperform]
        rcases ih (hplan.tail _) with
          ⟨texts, htexts, hrun⟩ | ⟨before, failing, rest, texts, cause, rfl, htexts, hfails, hrun⟩
        · refine .inl ⟨(place, text) :: texts, hwrote htexts, ?_⟩
          simp only [hrun, Except.map, List.map_cons, hpath, putTexts_cons]
        · refine .inr ⟨output :: before, failing, rest, (place, text) :: texts, cause, rfl,
            hwrote htexts, hfails, ?_⟩
          simp only [hrun, Except.map, putTexts_cons]
      · rw [hperform]
        exact .inr ⟨[], output, outputs, [], cause, rfl, .nil,
          Output.fails_of_request hmakes hfails, rfl⟩

/-! ### The outputs of the arguments -/

section

variable {fs : FileSystem} {asked : Arguments} {outputs before rest : List Output}
  {failing output : Output} {texts : List (Location × String)}

/-- The two built-in documents have file names without a separator, and different ones. -/
theorem fileName_builtin (target : Target) :
    (∀ base ∈ ["Expr", "Stmt"],
      target.fileName base ≠ "" ∧ Path.separator ∉ (target.fileName base).toList) ∧
    target.fileName "Expr" ≠ target.fileName "Stmt" := by
  cases target with
  | java => decide +kernel
  | rust => decide +kernel

/-- No two documents of a run go to the same place. -/
theorem nodup_places (asked : Arguments) (fs : FileSystem) :
    ((asked.outputs fs).filterMap fun output => fs.place? output.path).Nodup := by
  rw [List.Nodup, List.pairwise_filterMap, Arguments.outputs]
  split
  · exact List.pairwise_singleton _ _
  · obtain ⟨hfile, hdiffer⟩ := fileName_builtin asked.target
    obtain ⟨hexpr, hexpr'⟩ := hfile "Expr" (by simp)
    obtain ⟨hstmt, hstmt'⟩ := hfile "Stmt" (by simp)
    rw [List.pairwise_pair]
    -- The two files are in one directory, so only their names tell their places apart.
    rintro place hplace _ hplace' rfl
    have hlast := getLast?_of_place?_join hexpr hexpr' hplace
    rw [getLast?_of_place?_join hstmt hstmt' hplace'] at hlast
    exact hdiffer (Option.some.inj hlast).symm

/-- Texts are written to the places of their outputs' paths. -/
theorem Wrote.places_eq (h : Wrote fs outputs texts) :
    texts.map Prod.fst = outputs.filterMap fun output => fs.place? output.path := by
  induction h with
  | nil => rfl
  | cons houtput _ ih => rw [List.map_cons, List.filterMap_cons, houtput.1, ih]

theorem Wrote.ne_nil (h : Wrote fs outputs texts) : ∀ text ∈ texts, text.1 ≠ [] := by
  intro text htext
  obtain ⟨output, -, hplace, -⟩ := exists_of_mem_forall₂ h htext
  exact ne_nil_of_place? hplace

/-- Writing some outputs of a run changes the files at their places and nothing else. -/
theorem Wrote.changed (h : Wrote fs before texts) (hbefore : before.Sublist (asked.outputs fs)) :
    Changed fs (fs.putTexts texts) texts := by
  have hnodup : (texts.map Prod.fst).Nodup := by
    rw [h.places_eq]
    exact (nodup_places asked fs).sublist (hbefore.filterMap _)
  exact changed_putTexts hnodup h.ne_nil fs

/-- Making a text never fails by a write. -/
theorem text_ne_write (houtput : output ∈ asked.outputs fs) (path : String) (cause : FileError) :
    output.text ≠ .error (.write path cause) := by
  have hgenerate (x : Except TableError Table) :
      x.mapError GenerationError.table >>= (·.generate asked.config) ≠
        .error (.write path cause) := by
    refine bind_ne_error ?_ fun t => t.generate_ne_write asked.config path cause
    cases x with
    | error e => exact nofun
    | ok t => exact nofun
  rw [Arguments.outputs] at houtput
  split at houtput
  · next base file _ =>
      obtain rfl := List.mem_singleton.mp houtput
      rw [generateFromFile_fst]
      exact hgenerate _
  · rcases List.mem_cons.mp houtput with rfl | houtput
    · exact hgenerate _
    · obtain rfl := List.mem_singleton.mp houtput
      exact hgenerate _

/-- An output whose text cannot be made comes first: the built-in tables always have a document. -/
theorem eq_nil_of_noText {cause : GenerationError}
    (h : asked.outputs fs = before ++ failing :: rest) (htext : failing.text = .error cause) :
    before = [] := by
  rw [Arguments.outputs] at h
  split at h
  · cases before with
    | nil => rfl
    | cons first before => simp at h
  · have hmem : failing ∈ before ++ failing :: rest :=
      List.mem_append_right before List.mem_cons_self
    rw [← h] at hmem
    rcases List.mem_cons.mp hmem with rfl | hmem
    · obtain ⟨document, hdocument⟩ := exists_exprDocument asked.config
      cases hdocument.symm.trans htext
    · obtain rfl := List.mem_singleton.mp hmem
      obtain ⟨document, hdocument⟩ := exists_stmtDocument asked.config
      cases hdocument.symm.trans htext

end

/-! ### The program -/

/-- What a run comes to, told by its arguments, its jobs and the reports on them. -/
theorem run_eq (arguments : List String) (fs : FileSystem) :
    let (result, after) := (run arguments : StateM FileSystem Result) fs
    (result.outcome, after) =
      match Arguments.parse arguments with
      | .error cause => (.error (.usage cause), fs)
      | .ok asked =>
        ((runJobsOn asked.jobs fs).1.mapError .generation, (runJobsOn asked.jobs fs).2) := by
  rw [run]
  cases Arguments.parse arguments with
  | error cause => rfl
  | ok asked =>
      simp only [bind_apply, runJobsOn]
      generalize (runJobs asked.jobs : StateM FileSystem _) fs = ran
      obtain ⟨⟨events, result⟩, after⟩ := ran
      cases result with
      | error cause => rfl
      | ok paths => rfl

/-- **The exit code tells what happened to the files.**  A run that ends with code 0 has written
every document that was asked for.  A run that ends because a document could not be written has
written those before it.  A run that ends in any other way has changed nothing. -/
theorem files_match_exit_code (arguments : List String) (fs : FileSystem) :
    let (result, after) := (run arguments : StateM FileSystem Result) fs
    match result.outcome with
    | .ok paths =>
      result.exitCode = 0 ∧ ∃ asked texts, Arguments.parse arguments = .ok asked ∧
        paths = (asked.outputs fs).map Output.path ∧
        Wrote fs (asked.outputs fs) texts ∧ Changed fs after texts
    | .error (.generation (.write path cause)) =>
      result.exitCode ≠ 0 ∧ ∃ asked before document rest texts,
        Arguments.parse arguments = .ok asked ∧
        asked.outputs fs = before ++ ⟨path, .ok document⟩ :: rest ∧
        after.writeTarget path = .error cause ∧
        Wrote fs before texts ∧ Changed fs after texts
    | .error _ => result.exitCode ≠ 0 ∧ after = fs := by
  have hrun := run_eq arguments fs
  generalize (run arguments : StateM FileSystem Result) fs = ran at hrun ⊢
  obtain ⟨⟨events, outcome⟩, after⟩ := ran
  simp only at hrun ⊢
  cases hparse : Arguments.parse arguments with
  | error cause =>
      rw [hparse] at hrun
      obtain ⟨rfl, rfl⟩ := Prod.mk.inj hrun
      exact ⟨nofun, rfl⟩
  | ok asked =>
      rw [hparse] at hrun
      obtain ⟨texts, hwrote, hjobs⟩ |
          ⟨before, failing, rest, texts, cause, houtputs, hwrote, hfails, hjobs⟩ :=
        runJobsOn_cases (plan_jobs asked fs)
      · simp only [hjobs] at hrun
        obtain ⟨rfl, rfl⟩ := Prod.mk.inj hrun
        exact ⟨rfl, asked, texts, rfl, rfl, hwrote, hwrote.changed (List.Sublist.refl _)⟩
      · simp only [hjobs] at hrun
        obtain ⟨rfl, rfl⟩ := Prod.mk.inj hrun
        have hmem : failing ∈ asked.outputs fs :=
          houtputs ▸ List.mem_append_right before List.mem_cons_self
        cases hfails with
        | noText htext =>
            obtain rfl := eq_nil_of_noText houtputs htext
            obtain rfl := List.forall₂_nil_left_iff.mp hwrote
            cases cause with
            | write path cause => exact absurd htext (text_ne_write hmem path cause)
            | _ => exact ⟨nofun, rfl⟩
        | refused htext htarget =>
            obtain ⟨path, text⟩ := failing
            obtain rfl := htext
            have hbefore : before.Sublist (asked.outputs fs) :=
              houtputs ▸ List.sublist_append_left before _
            exact ⟨nofun, asked, before, _, rest, texts, rfl, houtputs, htarget, hwrote,
              hwrote.changed hbefore⟩

end CommandLine

end AstForge
