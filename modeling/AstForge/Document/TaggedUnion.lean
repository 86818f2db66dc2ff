import AstForge.Document.Error
import AstForge.Document.Line
import AstForge.Resolved
import AstForge.TypeExpr.Grammar

/-!
# Documents — the tagged union

The document for the target Rust. The base type is an enumeration with one variant a shape, a shape
is a structure with a constructor and accessors, and the visitor is a trait. A field of the base
type is boxed, since a node cannot hold a node by value.
-/

namespace AstForge.TaggedUnion

/-! ### Names -/

/-- The reserved words that have a raw form. -/
def keywords : List String :=
  ["abstract", "as", "async", "await", "become", "box", "break", "const", "continue", "do", "dyn",
   "else", "enum", "extern", "false", "final", "fn", "for", "gen", "if", "impl", "in", "let",
   "loop", "macro", "match", "mod", "move", "mut", "override", "priv", "pub", "ref", "return",
   "static", "struct", "trait", "true", "try", "type", "typeof", "unsafe", "unsized", "use",
   "virtual", "where", "while", "yield"]

/-- The reserved words that have no raw form. -/
def unwritable : List String := ["crate", "self", "Self", "super", "_"]

/-- The types that the document itself uses. -/
def takenTypes : List String := ["R", "Box"]

/-- A name as the document writes it: a keyword is written raw. -/
def identifier (role name : String) : Except GenerationError String :=
  if unwritable.contains name then .error (.reserved name role .rust)
  else if keywords.contains name then .ok ("r#" ++ name)
  else .ok name

/-- Refuses the name of a type that is taken or a reserved word. -/
def checkTypeName (role name : String) : Except GenerationError Unit :=
  if keywords.contains name || unwritable.contains name || takenTypes.contains name then
    .error (.reserved name role .rust)
  else .ok ()

/-- The trait of visitors. -/
def visitorTrait (base : String) : String :=
  base ++ "Visitor"

/-! ### Types -/

/-- The type that a node stores for a field. -/
def storedType (base : String) (f : ResolvedField) : String :=
  if f.isBase then "Box<" ++ base ++ ">" else f.type

/-- Refuses a field whose type cannot be read. -/
def checkFieldType (owner : String) (f : ResolvedField) : Except GenerationError Unit :=
  if TypeExpr.accepts f.type then .ok () else .error (.invalidType owner f.identifier f.type)

/-! ### Checks -/

/-- The methods that the structure of a shape has besides its accessors. -/
def nodeMethods : List String := ["new", "accept"]

/-- The methods that the structure of a data type has besides its accessors. -/
def dataMethods : List String := ["new"]

/-- Refuses a field whose accessor or type cannot be written. -/
def checkField (owner : String) (methods : List String) (f : ResolvedField) :
    Except GenerationError Unit := do
  if methods.contains f.identifier then
    throw (.reserved f.identifier Role.field.label .rust)
  let _ ← identifier Role.field.label f.identifier
  checkFieldType owner f

/-- Refuses a declaration whose name or fields cannot be written. -/
def checkDeclaration (base : String) (role : Role) (methods : List String) (d : ResolvedData) :
    Except GenerationError Unit := do
  if d.name == visitorTrait base then
    throw (.reserved d.name role.label .rust)
  checkTypeName role.label d.name
  d.fields.forM (checkField d.name methods)

/-- Refuses a shape whose visit method is that of an earlier shape; `seen` holds the visit methods
of the earlier shapes with their names. -/
def checkVisitMethods (seen : List (String × String)) :
    List ResolvedShape → Except GenerationError Unit
  | [] => .ok ()
  | s :: rest =>
    match seen.lookup s.visitMethodSnake with
    | some first => .error (.collision s.visitMethodSnake first s.name .rust)
    | none => checkVisitMethods ((s.visitMethodSnake, s.name) :: seen) rest

/-- Refuses a table whose names, types or visit methods cannot be written. -/
def check (t : ResolvedTable) : Except GenerationError Unit := do
  checkTypeName Role.baseType.label t.base
  let _ ← identifier Role.visitorParameter.label t.visitorParameter
  t.shapes.forM fun s => checkDeclaration t.base .shape nodeMethods s.toResolvedData
  t.dataTypes.forM (checkDeclaration t.base .dataType dataMethods)
  checkVisitMethods [] t.shapes

/-! ### Pieces -/

/-- The header and the imports, which keep their order. -/
def preamble (cfg : Config) : List Line :=
  joinSections
    ((cfg.header.map commentLines).toList ++
      if cfg.imports.isEmpty then []
      else [cfg.imports.map fun name => ⟨0, "use " ++ name ++ ";"⟩])

/-- The attribute that derives traits; deriving none takes no attribute. -/
def deriveAttribute (derives : List String) : List Line :=
  if derives.isEmpty then [] else [⟨0, "#[derive(" ++ ", ".intercalate derives ++ ")]"⟩]

/-- The enumeration of all nodes. -/
def opening (cfg : Config) (t : ResolvedTable) : List Line :=
  ⟨0, "/// Any `" ++ t.base ++ "` node."⟩ :: deriveAttribute cfg.derives ++
    ⟨0, "pub enum " ++ t.base ++ " \x7b"⟩ ::
    t.shapes.map (fun s => ⟨1, s.name ++ "(" ++ s.name ++ "),"⟩) ++
    [⟨0, "\x7d"⟩, Line.blank]

/-- The trait of visitors; `parameter` names the parameter of its methods. -/
def visitorLines (t : ResolvedTable) (parameter : String) : List Line :=
  [⟨0, "/// Visitor over every `" ++ t.base ++ "` shape."⟩,
      ⟨0, "pub trait " ++ visitorTrait t.base ++ "<R> \x7b"⟩] ++
    t.shapes.map (fun s =>
      ⟨1, "fn " ++ s.visitMethodSnake ++ "(&mut self, " ++ parameter ++ ": &" ++ s.name ++
        ") -> R;"⟩) ++
    [⟨0, "\x7d"⟩]

/-- The trait of visitors, if its parameter can be written. -/
def visitor (t : ResolvedTable) : Except GenerationError (List Line) :=
  return visitorLines t (← identifier Role.visitorParameter.label t.visitorParameter)

/-- A field with the name by which the document writes it. -/
structure NamedField where
  name : String
  field : ResolvedField

/-- The fields with the names by which the document writes them. -/
def nameFields (fields : List ResolvedField) : Except GenerationError (List NamedField) :=
  fields.mapM fun f => return ⟨← identifier Role.field.label f.identifier, f⟩

/-- The structure of a declaration. -/
def structLines (cfg : Config) (t : ResolvedTable) (doc name : String)
    (fields : List NamedField) : List Line :=
  ⟨0, "/// " ++ doc⟩ :: deriveAttribute cfg.derives ++ ⟨0, "pub struct " ++ name ++ " \x7b"⟩ ::
    fields.map (fun f => ⟨1, f.name ++ ": " ++ storedType t.base f.field ++ ","⟩) ++
    [⟨0, "\x7d"⟩]

/-- How the constructor sets a field. -/
def initializer (f : NamedField) : String :=
  if f.field.isBase then f.name ++ ": Box::new(" ++ f.name ++ ")," else f.name ++ ","

/-- The constructor of a structure, which sets every field. -/
def constructor (doc : String) (fields : List NamedField) : List Line :=
  let parameters := ", ".intercalate (fields.map fun f => f.name ++ ": " ++ f.field.type)
  [⟨1, "/// " ++ doc⟩, ⟨1, "pub fn new(" ++ parameters ++ ") -> Self \x7b"⟩,
      ⟨2, "Self \x7b"⟩] ++
    fields.map (fun f => ⟨3, initializer f⟩) ++ [⟨2, "\x7d"⟩, ⟨1, "\x7d"⟩]

/-- The line that opens a method by which a visitor is accepted. -/
def acceptOpening (base : String) : Line :=
  ⟨1, "pub fn accept<R>(&self, visitor: &mut dyn " ++ visitorTrait base ++ "<R>) -> R \x7b"⟩

/-- The method by which a node calls its visit method. -/
def acceptMethod (t : ResolvedTable) (s : ResolvedShape) : List Line :=
  [acceptOpening t.base, ⟨2, "visitor." ++ s.visitMethodSnake ++ "(self)"⟩, ⟨1, "\x7d"⟩]

/-- The accessors of the fields, each after a blank line. -/
def accessors (fields : List NamedField) : List Line :=
  fields.flatMap fun f =>
    [Line.blank,
     ⟨1, "pub fn " ++ f.name ++ "(&self) -> &" ++ f.field.type ++ " \x7b"⟩,
     ⟨2, "&self." ++ f.name⟩,
     ⟨1, "\x7d"⟩]

/-- The conversion of a shape into a node. -/
def conversion (t : ResolvedTable) (s : ResolvedShape) : List Line :=
  [⟨0, "impl From<" ++ s.name ++ "> for " ++ t.base ++ " \x7b"⟩,
   ⟨1, "fn from(node: " ++ s.name ++ ") -> Self \x7b"⟩,
   ⟨2, t.base ++ "::" ++ s.name ++ "(node)"⟩,
   ⟨1, "\x7d"⟩,
   ⟨0, "\x7d"⟩]

/-- The structure of a shape with its methods. -/
def nodeLines (cfg : Config) (t : ResolvedTable) (s : ResolvedShape)
    (fields : List NamedField) : List Line :=
  structLines cfg t ("`" ++ s.name ++ "` node.") s.name fields ++
    [Line.blank, ⟨0, "impl " ++ s.name ++ " \x7b"⟩] ++
    constructor ("Creates a new `" ++ s.name ++ "` node.") fields ++
    Line.blank :: acceptMethod t s ++ accessors fields ++ [⟨0, "\x7d"⟩, Line.blank] ++
    conversion t s

/-- The structure of a shape with its methods, if its fields can be written. -/
def node (cfg : Config) (t : ResolvedTable) (s : ResolvedShape) :
    Except GenerationError (List Line) :=
  return nodeLines cfg t s (← nameFields s.fields)

/-- The structure of a data type with its methods. -/
def dataTypeLines (cfg : Config) (t : ResolvedTable) (d : ResolvedData)
    (fields : List NamedField) : List Line :=
  structLines cfg t ("`" ++ d.name ++ "` data.") d.name fields ++
    [Line.blank, ⟨0, "impl " ++ d.name ++ " \x7b"⟩] ++
    constructor ("Creates a new `" ++ d.name ++ "`.") fields ++ accessors fields ++
    [⟨0, "\x7d"⟩]

/-- The structure of a data type with its methods, if its fields can be written. -/
def dataType (cfg : Config) (t : ResolvedTable) (d : ResolvedData) :
    Except GenerationError (List Line) :=
  return dataTypeLines cfg t d (← nameFields d.fields)

/-- The method by which any node calls its visit method. -/
def dispatch (t : ResolvedTable) : List Line :=
  [⟨0, "impl " ++ t.base ++ " \x7b"⟩, acceptOpening t.base, ⟨2, "match self \x7b"⟩] ++
    t.shapes.map (fun s =>
      ⟨3, t.base ++ "::" ++ s.name ++ "(node) => visitor." ++ s.visitMethodSnake ++
        "(node),"⟩) ++
    [⟨2, "\x7d"⟩, ⟨1, "\x7d"⟩]

/-- The line that closes the methods of the base type. -/
def closing : List Line :=
  [⟨0, "\x7d"⟩]

end AstForge.TaggedUnion
