import AstForge.Files.FileSystem
import AstForge.Table.Source

/-!
# Files — reading and writing as effects

What a job needs of the world around it: to read a file as a text, and to replace a file by a text
as a whole. A file system is one such world.
-/

namespace AstForge

/-- A world in which files are read and replaced. -/
class Storage (m : Type → Type) where
  /-- The text of the file at a path. -/
  read : String → m (Except FileError String)
  /-- Replaces the file at a path by a text, or changes nothing. -/
  write : String → String → m (Except FileError Unit)

/-- A file system that changes as files are written. -/
instance : Storage (StateM FileSystem) where
  read path := fun fs => (fs.read path, fs)
  write path contents := fun fs => fs.write path contents

/-- Reads a table from the file at a path. -/
def Table.ofFile {m : Type → Type} [Monad m] [Storage m] (base path : String) :
    m (Except TableError Table) := do
  match ← Storage.read path with
  | .ok source => return Table.ofSource base source
  | .error cause => return .error (.read (.file cause))

end AstForge
