import AstForge.Document.Error
import AstForge.Document.Line
import AstForge.Resolved

/-!
# Documents — the class hierarchy

The document for the target Java. The base type is an abstract class; the visitor, the shapes and
the data types are nested in it. A shape is a class that extends the base and accepts a visitor.
-/

namespace AstForge.ClassHierarchy

/-! ### Names -/

/-- The words that name nothing. -/
def reservedWords : List String :=
  ["abstract", "assert", "boolean", "break", "byte", "case", "catch", "char", "class", "const",
   "continue", "default", "do", "double", "else", "enum", "extends", "false", "final", "finally",
   "float", "for", "goto", "if", "implements", "import", "instanceof", "int", "interface", "long",
   "native", "new", "null", "package", "private", "protected", "public", "return", "short",
   "static", "strictfp", "super", "switch", "synchronized", "this", "throw", "throws",
   "transient", "true", "try", "void", "volatile", "while", "_"]

/-- The types that the document itself declares. -/
def takenTypes : List String := ["Visitor", "R"]

/-- Refuses a name that is a reserved word. -/
def checkName (role : Role) (name : String) : Except GenerationError Unit :=
  if reservedWords.contains name then .error (.reserved name role.label .java) else .ok ()

/-- Refuses the name of a type that is taken or a reserved word. -/
def checkTypeName (role : Role) (name : String) : Except GenerationError Unit :=
  if takenTypes.contains name then .error (.reserved name role.label .java)
  else checkName role name

/-- Refuses a declaration whose name or fields cannot be written. -/
def checkDeclaration (role : Role) (d : ResolvedData) : Except GenerationError Unit := do
  checkTypeName role d.name
  d.fields.forM fun f => checkName .field f.identifier

/-- Refuses a table whose names cannot be written. -/
def check (t : ResolvedTable) : Except GenerationError Unit := do
  checkTypeName .baseType t.base
  checkName .visitorParameter t.visitorParameter
  t.shapes.forM fun s => checkDeclaration .shape s.toResolvedData
  t.dataTypes.forM (checkDeclaration .dataType)

/-! ### Imports -/

/-- The collection types that are imported when a field names them. -/
def utilTypes : List String :=
  ["ArrayDeque", "ArrayList", "Collection", "Deque", "HashMap", "HashSet", "Iterator",
   "LinkedHashMap", "LinkedHashSet", "LinkedList", "List", "Map", "Optional", "Set", "TreeMap",
   "TreeSet"]

/-- Whether `c` belongs to a name, qualified or not. -/
def isNameChar (c : Char) : Bool :=
  c.isAlphanum || c == '_' || c == '.'

/-- The names that a type is made of. -/
def typeNames (type : String) : List String :=
  (type.toList.splitOnP (!isNameChar ·)).map String.ofList

/-- The imports that the types of the fields need. -/
def neededImports (t : ResolvedTable) : List String :=
  ((t.fieldTypes.flatMap typeNames).filter (utilTypes.contains ·)).map ("java.util." ++ ·)

/-- Puts an import into its place among imports in ascending order, unless it is there. -/
def insertImport (name : String) : List String → List String
  | [] => [name]
  | other :: rest =>
    if name < other then name :: other :: rest
    else if name = other then other :: rest
    else other :: insertImport name rest

/-- The imports of a document in ascending order, each once. -/
def imports (cfg : Config) (t : ResolvedTable) : List String :=
  (neededImports t ++ cfg.imports).foldr insertImport []

/-! ### Pieces -/

/-- The header, the package and the imports. -/
def preamble (cfg : Config) (t : ResolvedTable) : List Line :=
  let names := imports cfg t
  joinSections
    ((cfg.header.map commentLines).toList ++
      (cfg.package.map fun name => [⟨0, "package " ++ name ++ ";"⟩]).toList ++
      if names.isEmpty then [] else [names.map fun name => ⟨0, "import " ++ name ++ ";"⟩])

/-- The line that opens the base class. -/
def opening (t : ResolvedTable) : List Line :=
  [⟨0, "abstract class " ++ t.base ++ " \x7b"⟩]

/-- The interface of visitors. -/
def visitor (t : ResolvedTable) : List Line :=
  ⟨1, "interface Visitor<R> \x7b"⟩ ::
    t.shapes.map (fun s =>
      ⟨2, "R " ++ s.visitMethod ++ "(" ++ s.name ++ " " ++ t.visitorParameter ++ ");"⟩) ++
    [⟨1, "\x7d"⟩]

/-- The constructor of a class, which sets every field. -/
def constructor (d : ResolvedData) : List Line :=
  let parameters := ", ".intercalate (d.fields.map fun f => f.type ++ " " ++ f.identifier)
  ⟨2, d.name ++ "(" ++ parameters ++ ") \x7b"⟩ ::
    d.fields.map (fun f => ⟨3, "this." ++ f.identifier ++ " = " ++ f.identifier ++ ";"⟩) ++
    [⟨2, "\x7d"⟩]

/-- The fields of a class, after a blank line if there are any. -/
def fieldLines (d : ResolvedData) : List Line :=
  if d.fields.isEmpty then []
  else Line.blank :: d.fields.map fun f => ⟨2, "final " ++ f.type ++ " " ++ f.identifier ++ ";"⟩

/-- The method by which a node calls its visit method. -/
def acceptMethod (s : ResolvedShape) : List Line :=
  [⟨2, "@Override"⟩,
   ⟨2, "<R> R accept(Visitor<R> visitor) \x7b"⟩,
   ⟨3, "return visitor." ++ s.visitMethod ++ "(this);"⟩,
   ⟨2, "\x7d"⟩]

/-- The class of a shape. -/
def node (t : ResolvedTable) (s : ResolvedShape) : List Line :=
  ⟨1, "static class " ++ s.name ++ " extends " ++ t.base ++ " \x7b"⟩ ::
    constructor s.toResolvedData ++ Line.blank :: acceptMethod s ++
    fieldLines s.toResolvedData ++ [⟨1, "\x7d"⟩]

/-- The class of a data type. -/
def dataType (d : ResolvedData) : List Line :=
  ⟨1, "static class " ++ d.name ++ " \x7b"⟩ :: constructor d ++ fieldLines d ++ [⟨1, "\x7d"⟩]

/-- The method that every node has. -/
def dispatch : List Line :=
  [⟨1, "abstract <R> R accept(Visitor<R> visitor);"⟩]

/-- The line that closes the base class. -/
def closing : List Line :=
  [⟨0, "\x7d"⟩]

end AstForge.ClassHierarchy
