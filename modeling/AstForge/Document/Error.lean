import AstForge.Config
import AstForge.Table.Error

/-!
# Documents — why none is made

The causes for which no document is made or none is written, with the text of each and the texts of
the causes that it wraps.
-/

namespace AstForge

/-- Why no document was made or written. -/
inductive GenerationError where
  | table (cause : TableError)
  | write (path : String) (cause : FileError)
  | stream (cause : FileError)
  | reserved (name role : String) (target : Target)
  | collision (method first second : String) (target : Target)
  | invalidType (owner field type : String)
  | noDestination
  deriving DecidableEq

/-- The text of a cause. -/
def GenerationError.message : GenerationError → String
  | .table cause => "shape table error: " ++ cause.message
  | .write path cause => "failed to write output '" ++ path ++ "': " ++ cause.message
  | .stream cause => "IO error: " ++ cause.message
  | .reserved name role target =>
    "'" ++ name ++ "' is reserved in " ++ target.name ++ " and cannot be used as a " ++ role ++
      " name"
  | .collision method first second target =>
    "shapes '" ++ first ++ "' and '" ++ second ++ "' both generate the " ++ target.name ++
      " method '" ++ method ++ "'"
  | .invalidType owner field type =>
    "invalid type '" ++ type ++ "' for field '" ++ owner ++ "." ++ field ++ "'"
  | .noDestination => "generation error: no output destination configured"

/-- The texts of the causes that a reading error wraps. -/
def ReadError.causes : ReadError → List String
  | .file cause => [cause.message]
  | .malformedShape _ | .malformedField _ _ => []

/-- The texts of the causes that a table error wraps, outermost first. -/
def TableError.causes : TableError → List String
  | .read cause => cause.message :: cause.causes
  | .duplicate _ _ | .invalidName _ _ | .shadowsBase _ | .noShapes _ => []

/-- The texts of the causes that an error wraps, outermost first. -/
def GenerationError.causes : GenerationError → List String
  | .table cause => cause.message :: cause.causes
  | .write _ cause | .stream cause => [cause.message]
  | .reserved _ _ _ | .collision _ _ _ _ | .invalidType _ _ _ | .noDestination => []

end AstForge
