import AstForge.Document
import AstForge.Files.Storage
import AstForge.Log

/-!
# Jobs

A job makes one document: it knows where the table comes from, what was chosen about the document,
and where the document goes. A job starts with nothing but the name of the base type, and settings
are applied to it one after another; a later setting replaces an earlier one of its kind, except
that declarations and imports add up.
-/

namespace AstForge

/-- Where the table of a job comes from. -/
inductive Source where
  | declarations (declarations : List String)
  | file (path : String)
  deriving DecidableEq

/-- Where the document of a job goes. -/
inductive Destination where
  | file (path : String)
  | directory (path : String)
  deriving DecidableEq

/-- What is needed to make and write one document. -/
structure Job where
  base : String
  source : Source
  target : Target
  indent : Option String
  package : Option String
  imports : List String
  header : Option (Option String)
  derives : Option (List String)
  destination : Option Destination
  deriving DecidableEq

/-- A choice about a job. -/
inductive Setting where
  | declaration (declaration : String)
  | declarations (declarations : List String)
  | tableFile (path : String)
  | target (target : Target)
  | indent (indent : String)
  | package (name : String)
  | addImport (name : String)
  | header (header : Option String)
  | derives (derives : List String)
  | outputFile (path : String)
  | outputDirectory (path : String)
  deriving DecidableEq

namespace Job

/-- The job for a base type about which nothing is chosen. -/
def new (base : String) : Job where
  base := base
  source := .declarations []
  target := .java
  indent := none
  package := none
  imports := []
  header := none
  derives := none
  destination := none

/-- Adds a declaration to the table. A job that read a file starts anew with the declaration. -/
def declare (job : Job) (declaration : String) : Job :=
  match job.source with
  | .declarations declarations =>
    { job with source := .declarations (declarations ++ [declaration]) }
  | .file _ => { job with source := .declarations [declaration] }

/-- Applies a setting. -/
def apply (job : Job) : Setting → Job
  | .declaration declaration => job.declare declaration
  | .declarations declarations => declarations.foldl declare job
  | .tableFile path => { job with source := .file path }
  | .target target => { job with target := target }
  | .indent indent => { job with indent := some indent }
  | .package name => { job with package := some name }
  | .addImport name => { job with imports := job.imports ++ [name] }
  | .header header => { job with header := some header }
  | .derives derives => { job with derives := some derives }
  | .outputFile path => { job with destination := some (.file path) }
  | .outputDirectory path => { job with destination := some (.directory path) }

/-- The configuration of the document. -/
def config (job : Job) : Config :=
  let chosen := Config.ofTarget job.target
  { target := job.target
    indent := job.indent.getD chosen.indent
    package := job.package
    imports := job.imports
    header := job.header.getD chosen.header
    derives := job.derives.getD chosen.derives }

/-- The path of the document. In a directory the file is named after the base type, as the job
writes it. -/
def outputPath (job : Job) : Option String :=
  match job.destination with
  | none => none
  | some (.file path) => some path
  | some (.directory path) => some (Path.join path (job.target.fileName job.base))

variable {m : Type → Type} [Monad m] [Storage m]

/-- Reads the table. -/
def table (job : Job) : m (Except GenerationError Table) := do
  match job.source with
  | .declarations declarations =>
    return (Table.ofDeclarations job.base declarations).mapError .table
  | .file path => return (← Table.ofFile job.base path).mapError .table

/-- Reads the table and makes the document. -/
def generate (job : Job) : m (Except GenerationError String) := do
  match ← job.table with
  | .ok table => return table.generate job.config
  | .error cause => return .error cause

/-- What a job came to: the events it told, and the path it wrote or why it wrote none. -/
structure Outcome where
  events : List Event
  result : Except GenerationError String

/-- Tells that a document was made. -/
def generated (job : Job) (table : Table) : Event where
  level := .debug
  source := "treegen_codegen::generator"
  message := "Generating " ++ toString table.shapes.size ++ " " ++ job.target.name ++
    " shapes and " ++ toString table.dataTypes.size ++ " data types for base type " ++ table.base

/-- Tells that a document was written. -/
def written (path document : String) : Event where
  level := .info
  source := "treegen_codegen::output"
  message := "Wrote " ++ toString document.utf8ByteSize ++ " bytes to " ++ path

/-- Makes the document and writes it. Nothing is read for a job without a destination. -/
def run (job : Job) : m Outcome := do
  match job.outputPath with
  | none => return ⟨[], .error .noDestination⟩
  | some path =>
    match ← job.table with
    | .error cause => return ⟨[], .error cause⟩
    | .ok table =>
      match table.generate job.config with
      | .error cause => return ⟨[], .error cause⟩
      | .ok document =>
        match ← Storage.write path document with
        | .error cause => return ⟨[job.generated table], .error (.write path cause)⟩
        | .ok () => return ⟨[job.generated table, written path document], .ok path⟩

end Job

end AstForge
