import AstForge.Document
import AstForge.Files.Storage

/-!
# From a table's text to a document

The plain ways to make a document: from declarations, and from the file of a table.
-/

namespace AstForge

/-- The document for the table that the declarations make. -/
def generateFromDeclarations (base : String) (declarations : List String) (cfg : Config) :
    Except GenerationError String := do
  let table ← (Table.ofDeclarations base declarations).mapError .table
  table.generate cfg

/-- The document for the table in the file at a path. -/
def generateFromFile {m : Type → Type} [Monad m] [Storage m] (base path : String) (cfg : Config) :
    m (Except GenerationError String) := do
  match ← Table.ofFile base path with
  | .ok table => return table.generate cfg
  | .error cause => return .error (.table cause)

end AstForge
