import AstForge.Table
import AstForge.Text.Lower
import AstForge.Text.Snake

/-!
# Resolved tables

Resolving a table settles every name that the documents need: the visit method of a shape, the
parameter of the visit methods, and which fields hold a node of the base type. Nothing is checked
here, so every table can be resolved.
-/

namespace AstForge

open Text

/-- A field and whether its type is the base type. -/
structure ResolvedField where
  type : String
  identifier : String
  isBase : Bool
  deriving DecidableEq

/-- A data type with its resolved fields. -/
structure ResolvedData where
  name : String
  fields : List ResolvedField
  deriving DecidableEq

/-- A shape with its visit method. -/
structure ResolvedShape extends ResolvedData where
  visitMethod : String
  deriving DecidableEq

/-- A table with every name settled. -/
structure ResolvedTable where
  base : String
  visitorParameter : String
  shapes : List ResolvedShape
  dataTypes : List ResolvedData
  deriving DecidableEq

/-- The visit method of a shape, in camel case. -/
def visitMethodName (shape base : String) : String :=
  "visit" ++ shape ++ base

/-- The visit method of a shape, in snake case. -/
def ResolvedShape.visitMethodSnake (s : ResolvedShape) : String :=
  toSnakeCase s.visitMethod

/-- Tells whether a field refers to the base type; its type must be that name and nothing else. -/
def Field.resolve (base : String) (f : Field) : ResolvedField :=
  ⟨f.type, f.identifier, f.type == base⟩

/-- Resolves the fields of a declaration. -/
def Shape.resolveData (base : String) (s : Shape) : ResolvedData :=
  ⟨s.name, s.fields.map (Field.resolve base)⟩

/-- Resolves a shape. -/
def Shape.resolve (base : String) (s : Shape) : ResolvedShape :=
  ⟨s.resolveData base, visitMethodName s.name base⟩

/-- Resolves a table. -/
def Table.resolve (t : Table) : ResolvedTable where
  base := t.base
  visitorParameter := toLower t.base
  shapes := t.shapes.toList.map (Shape.resolve t.base)
  dataTypes := t.dataTypes.toList.map (Shape.resolveData t.base)

namespace ResolvedTable

/-- The first shape with the given name. -/
def shape? (t : ResolvedTable) (name : String) : Option ResolvedShape :=
  t.shapes.find? (·.name == name)

/-- The types of all fields, those of the shapes first. -/
def fieldTypes (t : ResolvedTable) : List String :=
  (t.shapes.flatMap (·.fields) ++ t.dataTypes.flatMap (·.fields)).map (·.type)

end ResolvedTable

end AstForge
