import AstForge.Declaration
import AstForge.Table.Validity

/-!
# Tables — reading a table

A table is read from its declarations, or from a text that has one declaration a line. In a text a
`#` starts a comment that ends with its line, and lines left blank declare nothing. Every
declaration is read before the table is validated.
-/

namespace AstForge

open Text

/-- Adds a declaration to a table. -/
def Table.declare (t : Table) : Declaration → Table
  | .shape s => t.addShape s
  | .dataType d => t.addDataType d

/-- Reads the table that the declarations make. -/
def Table.ofDeclarations (base : String) (declarations : List String) :
    Except TableError Table := do
  let declared ← (declarations.mapM Declaration.parse).mapError .read
  let table := declared.foldl Table.declare (Table.empty (String.ofList (trim base.toList)))
  table.validate
  return table

/-- The part of a line before its comment. -/
def dropComment (cs : List Char) : List Char :=
  match splitFirst (· == '#') cs with
  | some (code, _) => code
  | none => cs

/-- The declarations of a text, one a line. -/
def sourceDeclarations (source : String) : List String :=
  (((lines source.toList).map fun line => trim (dropComment line)).filter (!·.isEmpty)).map
    String.ofList

/-- Reads a table from a text. -/
def Table.ofSource (base source : String) : Except TableError Table :=
  Table.ofDeclarations base (sourceDeclarations source)

end AstForge
