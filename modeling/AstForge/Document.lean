import AstForge.Document.ClassHierarchy
import AstForge.Document.TaggedUnion

/-!
# Documents

A document is put together from its pieces: the preamble, the opening of the base type, the
visitor, a node for each shape, the data types, and the dispatch that closes the base type. The
target chooses how each piece is written, and the table is checked before any piece is made.
-/

namespace AstForge

namespace Document

/-- Refuses a table that the target cannot write. -/
def check (cfg : Config) (t : ResolvedTable) : Except GenerationError Unit :=
  match cfg.target with
  | .java => ClassHierarchy.check t
  | .rust => TaggedUnion.check t

/-- What stands before the base type. -/
def preamble (cfg : Config) (t : ResolvedTable) : List Line :=
  match cfg.target with
  | .java => ClassHierarchy.preamble cfg t
  | .rust => TaggedUnion.preamble cfg

/-- The opening of the base type. -/
def opening (cfg : Config) (t : ResolvedTable) : List Line :=
  match cfg.target with
  | .java => ClassHierarchy.opening t
  | .rust => TaggedUnion.opening cfg t

/-- The visitor. -/
def visitor (cfg : Config) (t : ResolvedTable) : Except GenerationError (List Line) :=
  match cfg.target with
  | .java => .ok (ClassHierarchy.visitor t)
  | .rust => TaggedUnion.visitor t

/-- The node of a shape. -/
def node (cfg : Config) (t : ResolvedTable) (s : ResolvedShape) :
    Except GenerationError (List Line) :=
  match cfg.target with
  | .java => .ok (ClassHierarchy.node t s)
  | .rust => TaggedUnion.node cfg t s

/-- A data type. -/
def dataType (cfg : Config) (t : ResolvedTable) (d : ResolvedData) :
    Except GenerationError (List Line) :=
  match cfg.target with
  | .java => .ok (ClassHierarchy.dataType d)
  | .rust => TaggedUnion.dataType cfg t d

/-- The dispatch of the base type. -/
def dispatch (cfg : Config) (t : ResolvedTable) : List Line :=
  match cfg.target with
  | .java => ClassHierarchy.dispatch
  | .rust => TaggedUnion.dispatch t

/-- The closing of the base type. -/
def closing (cfg : Config) : List Line :=
  match cfg.target with
  | .java => ClassHierarchy.closing
  | .rust => TaggedUnion.closing

/-- The lines of the document for a table. -/
def lines (cfg : Config) (t : ResolvedTable) : Except GenerationError (List Line) := do
  check cfg t
  let visitor ← visitor cfg t
  let nodes ← t.shapes.mapM (node cfg t)
  let dataTypes ← t.dataTypes.mapM (dataType cfg t)
  return preamble cfg t ++ opening cfg t ++ visitor ++
    (nodes ++ dataTypes).flatMap (Line.blank :: ·) ++
    Line.blank :: dispatch cfg t ++ closing cfg

end Document

/-- The text of the document for a resolved table. -/
def ResolvedTable.generate (t : ResolvedTable) (cfg : Config) : Except GenerationError String :=
  (Document.lines cfg t).map (renderLines cfg.indent)

/-- The text of the document for a table. -/
def Table.generate (t : Table) (cfg : Config) : Except GenerationError String :=
  t.resolve.generate cfg

end AstForge
