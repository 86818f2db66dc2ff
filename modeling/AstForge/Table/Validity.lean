import AstForge.Table
import AstForge.Table.Error
import AstForge.Text.Identifier

/-!
# Tables — validity

A table is valid when its base type is named by an identifier, it declares a shape, every declared
name is an identifier that differs from the base type and from every other declared name, and no
declaration repeats a field. The first rule that is broken, in the order of the declarations, is
the one that is reported.
-/

namespace AstForge

open Text

/-- Refuses a field whose identifier is among `seen` or repeats an earlier one. -/
def checkFields (owner : String) (seen : List String) : List Field → Except TableError Unit
  | [] => .ok ()
  | f :: fs =>
    if f.identifier ∈ seen then .error (.duplicate .field (owner ++ "." ++ f.identifier))
    else checkFields owner (f.identifier :: seen) fs

/-- Refuses a declaration that breaks a rule; `seen` are the names declared before. -/
def checkDeclared (base : String) (seen : List String) :
    List (Role × Shape) → Except TableError Unit
  | [] => .ok ()
  | (role, s) :: rest =>
    if !isIdentifier s.name.toList then .error (.invalidName role s.name)
    else if s.name == base then .error (.shadowsBase s.name)
    else if s.name ∈ seen then .error (.duplicate role s.name)
    else do
      checkFields s.name [] s.fields
      checkDeclared base (s.name :: seen) rest

/-- The declarations of a table with their roles, shapes first. -/
def Table.declared (t : Table) : List (Role × Shape) :=
  t.shapes.toList.map (Role.shape, ·) ++ t.dataTypes.toList.map (Role.dataType, ·)

/-- Refuses a table that is not valid. -/
def Table.validate (t : Table) : Except TableError Unit :=
  if !isIdentifier t.base.toList then .error (.invalidName .baseType t.base)
  else if t.shapes.isEmpty then .error (.noShapes t.base)
  else checkDeclared t.base [] t.declared

end AstForge
