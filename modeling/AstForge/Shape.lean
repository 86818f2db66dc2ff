/-!
# Shapes

A shape is a kind of node: a name and the fields of the node, in order. The same record describes a
plain data type, which has a name and fields and is no node.
-/

namespace AstForge

/-- A field: its type, as the table writes it, and its identifier. -/
structure Field where
  type : String
  identifier : String
  deriving DecidableEq

/-- The declaration of a field. -/
def Field.render (f : Field) : String :=
  f.type ++ " " ++ f.identifier

/-- A named list of fields. -/
structure Shape where
  name : String
  fields : List Field
  deriving DecidableEq

/-- The first field with the given identifier. -/
def Shape.field? (s : Shape) (identifier : String) : Option Field :=
  s.fields.find? (·.identifier == identifier)

/-- What a name stands for. -/
inductive Role where
  | baseType
  | shape
  | dataType
  | field
  | visitorParameter
  deriving DecidableEq

/-- How messages call a role. -/
def Role.label : Role → String
  | .baseType => "base type"
  | .shape => "shape"
  | .dataType => "data type"
  | .field => "field"
  | .visitorParameter => "visitor parameter"

end AstForge
