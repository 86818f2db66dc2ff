import Std.Data.HashMap
import AstForge.Shape

/-!
# Tables

A table holds the name of the base type, the shapes that extend it and the data types they use, in
the order of their declarations. Shapes are looked up through an index from a name to the position
of the first shape of that name.
-/

namespace AstForge

/-- The shapes and data types declared for a base type. -/
structure Table where
  base : String
  shapes : Array Shape
  dataTypes : Array Shape
  index : Std.HashMap String Nat

namespace Table

/-- The table that declares nothing. -/
def empty (base : String) : Table :=
  ⟨base, #[], #[], ∅⟩

/-- Declares a shape. An earlier shape of the same name stays the one that is looked up. -/
def addShape (t : Table) (s : Shape) : Table :=
  { t with shapes := t.shapes.push s, index := t.index.insertIfNew s.name t.shapes.size }

/-- Declares a data type. -/
def addDataType (t : Table) (d : Shape) : Table :=
  { t with dataTypes := t.dataTypes.push d }

/-- The first shape with the given name. -/
def shape? (t : Table) (name : String) : Option Shape :=
  t.index[name]?.bind (t.shapes[·]?)

/-- Whether a shape has the given name. -/
def hasShape (t : Table) (name : String) : Bool :=
  t.index.contains name

/-- The first data type with the given name. -/
def dataType? (t : Table) (name : String) : Option Shape :=
  t.dataTypes.toList.find? (·.name == name)

end Table

end AstForge
