import Mathlib.Data.List.DropRight
import AstForge.Proofs.Job.OutputName

/-!
# Jobs — what settings come to

A setting gives one value of one kind.  A job is its base type and, for each kind, what the values
of that kind come to in their order: declarations and imports add up, of other values the last one
counts, and the path of a table replaces the declarations before it (`Job.foldl_apply_eq`).  So the
order of settings matters only among those of one kind (`Job.foldl_apply_swap`).

* `Job.settings_agree_with_plain_functions`: the configuration of a job, the plain function that
  makes its document, and which settings can be swapped.
* `noDeclarations_keep_tableFile`: a list of no declarations leaves the path of a table in place.
-/

namespace AstForge

/-! ### Kinds of settings -/

namespace Setting

/-- What a setting is about. -/
inductive Kind where
  | source
  | target
  | indent
  | package
  | imports
  | header
  | derives
  | destination
  deriving DecidableEq

/-- The values that a setting of each kind gives. -/
abbrev Kind.Value : Kind → Type
  | .source      => Source
  | .target      => Target
  | .indent      => String
  | .package     => String
  | .imports     => String
  | .header      => Option String
  | .derives     => List String
  | .destination => Destination

/-- The kind of a setting with the value that it gives. -/
def entry : Setting → (kind : Kind) × kind.Value
  | .declaration d        => ⟨.source, .declarations [d]⟩
  | .declarations ds      => ⟨.source, .declarations ds⟩
  | .tableFile path       => ⟨.source, .file path⟩
  | .target chosen        => ⟨.target, chosen⟩
  | .indent chosen        => ⟨.indent, chosen⟩
  | .package name         => ⟨.package, name⟩
  | .addImport name       => ⟨.imports, name⟩
  | .header chosen        => ⟨.header, chosen⟩
  | .derives names        => ⟨.derives, names⟩
  | .outputFile path      => ⟨.destination, .file path⟩
  | .outputDirectory path => ⟨.destination, .directory path⟩

/-- The kind of a setting. -/
def kind (s : Setting) : Kind :=
  s.entry.1

/-- The value that a setting gives, if it is of the kind. -/
def value? (kind : Kind) (s : Setting) : Option kind.Value :=
  if h : s.kind = kind then some (h ▸ s.entry.2) else none

/-- The values of a kind that settings give, in order. -/
def values (kind : Kind) (ss : List Setting) : List kind.Value :=
  ss.filterMap (value? kind)

theorem value?_eq_none {kind : Kind} {s : Setting} (h : s.kind ≠ kind) : s.value? kind = none :=
  dif_neg h

/-- Two settings of different kinds can be swapped, as far as the values of one kind go. -/
theorem values_swap {s s' : Setting} (h : s.kind ≠ s'.kind) (kind : Kind)
    (before after : List Setting) :
    values kind (before ++ s :: s' :: after) = values kind (before ++ s' :: s :: after) := by
  simp only [values, List.filterMap_append, List.filterMap_cons]
  -- One of the two gives no value of the kind.
  by_cases hs : s.kind = kind
  · rw [value?_eq_none (hs ▸ h.symm : s'.kind ≠ kind)]
  · rw [value?_eq_none hs]

end Setting

/-! ### Sources -/

namespace Source

/-- A declaration added to a source; a path is given up for it. -/
def declare : Source → String → Source
  | .declarations ds, d => .declarations (ds ++ [d])
  | .file _, d          => .declarations [d]

/-- A source after another one was chosen. -/
def add (source : Source) : Source → Source
  | .declarations ds => ds.foldl declare source
  | .file path       => .file path

/-- The path of a table. -/
def file? : Source → Option String
  | .declarations _ => none
  | .file path      => some path

/-- The declarations that a source gives. -/
def declared : Source → List String
  | .declarations ds => ds
  | .file _          => []

/-- The path of a table that was chosen last. -/
def lastFile (sources : List Source) : Option String :=
  (sources.filterMap file?).getLast?

/-- The declarations that were added after the last path of a table, in order. -/
def declaredSince (sources : List Source) : List String :=
  (sources.rtakeWhile (·.file?.isNone)).flatMap declared

/-- Declarations are added after those that are there. -/
theorem foldl_declare_declarations (old new : List String) :
    new.foldl declare (.declarations old) = .declarations (old ++ new) := by
  induction new generalizing old with
  | nil => rw [List.append_nil, List.foldl_nil]
  | cons d new ih => rw [List.foldl_cons, declare, ih, List.append_assoc, List.singleton_append]

/-- The first declaration takes the place of a file. -/
theorem foldl_declare_file (path : String) {new : List String} (h : new ≠ []) :
    new.foldl declare (.file path) = .declarations new := by
  obtain ⟨d, new, rfl⟩ := List.exists_cons_of_ne_nil h
  exact foldl_declare_declarations [d] new

/-- What sources come to, one after the other. -/
def outcome (sources : List Source) : Source :=
  sources.foldl add (.declarations [])

theorem outcome_concat (sources : List Source) (source : Source) :
    outcome (sources ++ [source]) = (outcome sources).add source :=
  List.foldl_concat ..

theorem lastFile_concat (sources : List Source) (source : Source) :
    lastFile (sources ++ [source]) = source.file?.or (lastFile sources) := by
  rw [lastFile, List.filterMap_append, List.getLast?_append]
  cases source with
  | declarations ds => rfl
  | file path => rfl

/-- Declarations are added to those since the last file. -/
theorem declaredSince_concat_declarations (sources : List Source) (ds : List String) :
    declaredSince (sources ++ [.declarations ds]) = declaredSince sources ++ ds := by
  rw [declaredSince, List.rtakeWhile_concat_pos _ _ _ rfl, List.flatMap_append, declaredSince]
  simp [declared]

/-- A file makes a new start. -/
theorem declaredSince_concat_file (sources : List Source) (path : String) :
    declaredSince (sources ++ [.file path]) = [] := by
  rw [declaredSince, List.rtakeWhile_concat_neg _ _ _ (by simp [file?]), List.flatMap_nil]

/-- **Sources.**  The last path counts as long as no declaration follows it; otherwise the
declarations after it do. -/
theorem outcome_eq (sources : List Source) :
    outcome sources =
      match lastFile sources, declaredSince sources with
      | some path, [] => .file path
      | _, ds         => .declarations ds := by
  induction sources using List.reverseRecOn with
  | nil => rfl
  | append_singleton sources source ih =>
      rw [outcome_concat, lastFile_concat, ih]
      cases source with
      | file path =>
          rw [declaredSince_concat_file]
          rfl
      | declarations ds =>
          rw [declaredSince_concat_declarations, file?, Option.none_or, add]
          cases lastFile sources with
          | none => exact foldl_declare_declarations _ ds
          | some path =>
              cases hsince : declaredSince sources with
              | cons d since => exact foldl_declare_declarations (d :: since) ds
              | nil =>
                  cases ds with
                  | nil => rfl
                  | cons d ds => exact foldl_declare_file path (by simp)

/-- A file without declarations after it is the source. -/
theorem outcome_eq_file {sources : List Source} {path : String}
    (hfile : lastFile sources = some path) (hnone : declaredSince sources = []) :
    outcome sources = .file path := by
  rw [outcome_eq, hfile, hnone]

/-- The declarations since the last file are the source, if there are any or there is no file. -/
theorem outcome_eq_declarations {sources : List Source}
    (h : lastFile sources = none ∨ declaredSince sources ≠ []) :
    outcome sources = .declarations (declaredSince sources) := by
  rw [outcome_eq]
  split
  · next path hfile hnone => exact absurd h (by simp [hfile, hnone])
  · rfl

end Source

/-! ### Jobs -/

/-- Of several values the last one counts. -/
theorem getLast?_cons_or {α : Type} (a : α) (l : List α) (o : Option α) :
    (a :: l).getLast?.or o = l.getLast?.or (some a) := by
  rw [List.getLast?_cons, Option.some_or, Option.or_some]

/-- Making a document from a file changes no file. -/
theorem generateFromFile_snd (base path : String) (cfg : Config) (fs : FileSystem) :
    ((generateFromFile base path cfg : StateM FileSystem _) fs).2 = fs := by
  obtain ⟨result, hresult⟩ : ∃ result,
      (Table.ofFile base path : StateM FileSystem (Except TableError Table)) fs = (result, fs) :=
    ⟨_, Table.ofFile_eq base path fs⟩
  rw [generateFromFile, bind_apply, hresult]
  cases result with
  | error cause => rfl
  | ok t => rfl

namespace Job

open Setting (values)

theorem declare_eq (job : Job) (d : String) :
    job.declare d = { job with source := job.source.declare d } := by
  rw [declare]
  cases job.source with
  | declarations ds => rfl
  | file path => rfl

/-- Declaring changes the source of a job and nothing else. -/
theorem foldl_declare (ds : List String) (job : Job) :
    ds.foldl declare job = { job with source := ds.foldl Source.declare job.source } := by
  induction ds generalizing job with
  | nil => rfl
  | cons d ds ih => rw [List.foldl_cons, declare_eq, ih, List.foldl_cons]

/-- The job that settings make of a job, kind by kind. -/
def settled (job : Job) (ss : List Setting) : Job where
  base := job.base
  source := (values .source ss).foldl Source.add job.source
  target := (values .target ss).getLastD job.target
  indent := (values .indent ss).getLast?.or job.indent
  package := (values .package ss).getLast?.or job.package
  imports := job.imports ++ values .imports ss
  header := (values .header ss).getLast?.or job.header
  derives := (values .derives ss).getLast?.or job.derives
  destination := (values .destination ss).getLast?.or job.destination

/-- **One setting.**  It changes what the job has of its kind, and nothing else. -/
theorem settled_cons (job : Job) (s : Setting) (ss : List Setting) :
    job.settled (s :: ss) = (job.apply s).settled ss := by
  cases s with
  | declaration d =>
      rw [apply, declare_eq]
      rfl
  | declarations ds =>
      rw [apply, foldl_declare]
      rfl
  | tableFile path => rfl
  | target chosen =>
      unfold settled
      congr 1
      exact List.getLastD_cons
  | addImport name =>
      unfold settled
      congr 1
      exact List.append_cons job.imports name (values .imports ss)
  | indent _ | package _ | header _ | derives _ | outputFile _ | outputDirectory _ =>
      unfold settled
      congr 1
      exact getLast?_cons_or ..

/-- **All settings.** -/
theorem foldl_apply_eq (ss : List Setting) (job : Job) : ss.foldl apply job = job.settled ss := by
  induction ss generalizing job with
  | nil =>
      rw [settled]
      simp [values]
  | cons s ss ih => rw [List.foldl_cons, ih, settled_cons]

/-- Settings of different kinds can be swapped. -/
theorem foldl_apply_swap {s s' : Setting} (h : s.kind ≠ s'.kind) (before after : List Setting)
    (job : Job) :
    (before ++ s :: s' :: after).foldl apply job =
      (before ++ s' :: s :: after).foldl apply job := by
  simp only [foldl_apply_eq, settled, Setting.values_swap h]

/-! ### Documents -/

variable {job : Job} (fs : FileSystem)

/-- A job makes its document and leaves the files as they are. -/
theorem generate_eq (job : Job) :
    (job.generate : StateM FileSystem (Except GenerationError String)) fs =
      (job.documentIn fs, fs) := by
  rw [documentIn_eq, generate, bind_apply, table_eq]
  cases job.tableIn fs with
  | error cause => rfl
  | ok t => rfl

/-- A job for a file agrees with the plain function for files. -/
theorem generate_of_file {path : String} (h : job.source = .file path) :
    (job.generate : StateM FileSystem (Except GenerationError String)) fs =
      (generateFromFile job.base path job.config : StateM FileSystem _) fs := by
  rw [generate_eq, documentIn_eq, tableIn_of_file h, ← generateFromFile_fst]
  exact Prod.ext rfl (generateFromFile_snd job.base path job.config fs).symm

/-- A job for declarations agrees with the plain function for declarations. -/
theorem generate_of_declarations {ds : List String} (h : job.source = .declarations ds) :
    (job.generate : StateM FileSystem (Except GenerationError String)) fs =
      (generateFromDeclarations job.base ds job.config, fs) := by
  rw [generate_eq, documentIn_eq, tableIn, table, h]
  rfl

/-- The configuration that settings choose. -/
theorem config_settled (base : String) (settings : List Setting) :
    let target := (values .target settings).getLastD .java
    let unset := Config.ofTarget target
    ((new base).settled settings).config =
      { target := target
        indent := (values .indent settings).getLastD unset.indent
        package := (values .package settings).getLast?.or unset.package
        imports := values .imports settings
        header := (values .header settings).getLastD unset.header
        derives := (values .derives settings).getLastD unset.derives } := by
  simp only [config, settled, new, Config.ofTarget, Option.or_none, List.nil_append,
    List.getLastD_eq_getLast?]

/-- **Settings agree with the plain functions.**  Take any settings, in any order.  The
configuration of the job is that of the last target, with the last indentation, package, header and
derived traits that were chosen, if any, and all imports in their order.  If the path of a table was
chosen and no declaration was added since, the document is the one that is made from the last such
file; otherwise it is the one made from the declarations that were added since the last path, in
their order.
Swapping two neighbouring settings of different kinds changes neither the configuration nor the
path of the document nor the table nor the document. -/
theorem settings_agree_with_plain_functions (base : String) (settings : List Setting)
    (fs : FileSystem) :
    let job := settings.foldl apply (new base)
    let target := (values .target settings).getLastD .java
    let unset := Config.ofTarget target
    let file := Source.lastFile (values .source settings)
    let declarations := Source.declaredSince (values .source settings)
    job.config =
        { target := target
          indent := (values .indent settings).getLastD unset.indent
          package := (values .package settings).getLast?.or unset.package
          imports := values .imports settings
          header := (values .header settings).getLastD unset.header
          derives := (values .derives settings).getLastD unset.derives } ∧
      (∀ path, file = some path → declarations = [] →
        (job.generate : StateM FileSystem _) fs =
          (generateFromFile base path job.config : StateM FileSystem _) fs) ∧
      (file = none ∨ declarations ≠ [] →
        (job.generate : StateM FileSystem _) fs =
          (generateFromDeclarations base declarations job.config, fs)) ∧
      ∀ before s s' after, settings = before ++ s :: s' :: after → s.kind ≠ s'.kind →
        let swapped := (before ++ s' :: s :: after).foldl apply (new base)
        swapped.config = job.config ∧ swapped.outputPath = job.outputPath ∧
          (swapped.table : StateM FileSystem _) fs = (job.table : StateM FileSystem _) fs ∧
          (swapped.generate : StateM FileSystem _) fs =
            (job.generate : StateM FileSystem _) fs := by
  intro job target unset file declarations
  have hjob : job = (new base).settled settings := foldl_apply_eq settings (new base)
  have hbase : job.base = base := congrArg Job.base hjob
  have hsource : job.source = Source.outcome (values .source settings) := congrArg Job.source hjob
  refine ⟨?_, fun path hfile hnone => ?_, fun hdeclared => ?_, ?_⟩
  · rw [hjob]
    exact config_settled base settings
  · rw [Source.outcome_eq_file hfile hnone] at hsource
    rw [generate_of_file fs hsource, hbase]
  · rw [Source.outcome_eq_declarations hdeclared] at hsource
    rw [generate_of_declarations fs hsource, hbase]
  · rintro before s s' after rfl hkind
    have hswap := foldl_apply_swap hkind before after (new base)
    intro swapped
    have heq : swapped = job := hswap.symm
    rw [heq]
    exact ⟨rfl, rfl, rfl, rfl⟩

end Job

open Setting (values)

/-- Settings of which some are replaced: declarations by the path of a table, and that by other
declarations; the header twice. -/
def mixedSettings : List Setting :=
  [.indent "\t", .declaration "Nil :", .tableFile "shapes.txt", .header none,
    .declarations ["This :", "struct Pair :"], .target .rust, .header (some "h")]

theorem settings_agree_with_plain_functions_mixedSettings :
    let job := mixedSettings.foldl Job.apply (Job.new "Expr")
    job.config = ⟨.rust, "\t", none, [], some "h", ["Debug", "Clone"]⟩ ∧
      (job.generate : StateM FileSystem _) shapesDirectory =
        (generateFromDeclarations "Expr" ["This :", "struct Pair :"] job.config,
          shapesDirectory) ∧
      ((mixedSettings.take 5 ++ [Setting.header (some "h"), .target .rust]).foldl Job.apply
        (Job.new "Expr")).config = job.config := by
  intro job
  obtain ⟨hconfig, -, hdeclared, hswap⟩ :=
    Job.settings_agree_with_plain_functions "Expr" mixedSettings shapesDirectory
  refine ⟨hconfig, hdeclared (.inr (by decide)), ?_⟩
  exact (hswap (mixedSettings.take 5) (.target .rust) (.header (some "h")) [] rfl (by decide)).1

/-- Settings that choose the path of a table, and then a list of no declarations. -/
def noDeclarationsSince : List Setting :=
  [.tableFile "shapes.txt", .declarations []]

/-- A list of no declarations adds nothing, so the path of the table before it still counts: the
document is made from the file, and there is none for no declarations. -/
theorem noDeclarations_keep_tableFile :
    let job := noDeclarationsSince.foldl Job.apply (Job.new "Expr")
    (values .source noDeclarationsSince).getLast? = some (.declarations []) ∧
      Source.declaredSince (values .source noDeclarationsSince) = [] ∧
      (∃ doc, ((job.generate : StateM FileSystem _) shapesDirectory).1 = .ok doc) ∧
      generateFromDeclarations "Expr" [] job.config = .error (.table (.noShapes "Expr")) := by
  intro job
  have hmade : ((job.generate : StateM FileSystem _) shapesDirectory).1.isOk := by decide +kernel
  refine ⟨rfl, rfl, ?_, rfl⟩
  cases hdoc : ((job.generate : StateM FileSystem _) shapesDirectory).1 with
  | ok doc => exact ⟨doc, rfl⟩
  | error cause =>
      rw [hdoc] at hmade
      cases hmade

end AstForge
