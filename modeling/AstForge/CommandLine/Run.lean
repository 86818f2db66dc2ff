import AstForge.CommandLine.Arguments
import AstForge.CommandLine.Report
import AstForge.Job
import AstForge.Log.Filter
import AstForge.Table.Builtin

/-!
# Command line — running the program

The arguments give the jobs: one for the table of a file, or one for each built-in table. Jobs run
in order, and the first that fails ends the program. What was written before stays written.
-/

namespace AstForge.CommandLine

/-- The jobs that the arguments ask for. -/
def Arguments.jobs (arguments : Arguments) : List Job :=
  let jobs :=
    match arguments.table with
    | some (base, path) => [(Job.new base).apply (.tableFile path)]
    | none =>
      [(Job.new "Expr").apply (.declarations exprDeclarations),
       (Job.new "Stmt").apply (.declarations stmtDeclarations)]
  let common : List Setting :=
    [.target arguments.target, .outputDirectory arguments.outputDirectory] ++
      (arguments.package.map Setting.package).toList
  jobs.map fun job => common.foldl Job.apply job

variable {m : Type → Type} [Monad m] [Storage m]

/-- Runs jobs until one fails; gives the events, and the paths written or the failure. -/
def runJobs : List Job → m (List Event × Except GenerationError (List String))
  | [] => return ([], .ok [])
  | job :: rest => do
    let outcome : Job.Outcome ← job.run
    match outcome.result with
    | .error cause => return (outcome.events, .error cause)
    | .ok path =>
      let (events, result) ← runJobs rest
      return (outcome.events ++ events, result.map (path :: ·))

/-- Why the program failed. -/
inductive Failure where
  | usage (cause : UsageError)
  | generation (cause : GenerationError)
  deriving DecidableEq

/-- The report of a failure. -/
def Failure.report : Failure → String
  | .usage cause => reportFailure cause.message []
  | .generation cause => reportFailure cause.message cause.causes

/-- What a run of the program came to: the events it told, and the paths it wrote or its failure. -/
structure Result where
  events : List Event
  outcome : Except Failure (List String)

/-- The exit code of the program: 0 if nothing failed. -/
def Result.exitCode (r : Result) : Nat :=
  match r.outcome with
  | .ok _ => 0
  | .error _ => 1

/-- What the program writes of its log. -/
def Result.log (filter : LogFilter) (r : Result) : String :=
  filter.render r.events

/-- What the program writes about the filter of its log and about its failure, if it failed. -/
def Result.errors (filter : LogFilter) (r : Result) : String :=
  String.join filter.reports ++
    match r.outcome with
    | .ok _ => ""
    | .error failure => failure.report

/-- Tells that the document at a path is finished. -/
def finished (path : String) : Event :=
  ⟨.info, "treegen", "Generated " ++ path⟩

/-- Runs the program on its arguments. The finished documents are told once all are written. -/
def run (arguments : List String) : m Result := do
  match Arguments.parse arguments with
  | .error cause => return ⟨[], .error (.usage cause)⟩
  | .ok arguments =>
    let (events, result) ← runJobs arguments.jobs
    match result with
    | .error cause => return ⟨events, .error (.generation cause)⟩
    | .ok paths => return ⟨events ++ paths.map finished, .ok paths⟩

end AstForge.CommandLine
