import AstForge.Files.Error
import AstForge.Shape

/-!
# Tables — why a table is refused

A table is refused because its text cannot be read (`ReadError`) or because what was read breaks a
rule of tables (`TableError`).
-/

namespace AstForge

/-- Why the text of a table cannot be read. -/
inductive ReadError where
  | malformedShape (declaration : String)
  | malformedField (shape field : String)
  | file (cause : FileError)
  deriving DecidableEq

/-- The text of a reading error. -/
def ReadError.message : ReadError → String
  | .malformedShape declaration =>
    "malformed shape declaration '" ++ declaration ++ "': expected '<Name> : <fields>'"
  | .malformedField shape field =>
    "malformed field '" ++ field ++ "' in shape '" ++ shape ++
      "': expected '<Type> <identifier>'"
  | .file cause => "IO error: " ++ cause.message

/-- Why a table is refused. -/
inductive TableError where
  | read (cause : ReadError)
  | duplicate (role : Role) (name : String)
  | invalidName (role : Role) (name : String)
  | shadowsBase (name : String)
  | noShapes (base : String)
  deriving DecidableEq

/-- The text of a table error. -/
def TableError.message : TableError → String
  | .read cause => "parse error: " ++ cause.message
  | .duplicate role name => "duplicate " ++ role.label ++ " definition: '" ++ name ++ "'"
  | .invalidName role name => "invalid " ++ role.label ++ " name '" ++ name ++ "'"
  | .shadowsBase name => "'" ++ name ++ "' has the same name as its base type"
  | .noShapes base => "shape table for '" ++ base ++ "' declares no shapes"

end AstForge
