import AstForge.Text.Split

/-!
# Documents — lines

A document is a list of lines. A line knows how many levels it is indented, and not by what: the
indentation of a level is chosen when the lines are rendered. A blank line is never indented.
-/

namespace AstForge

/-- A line of a document. -/
structure Line where
  depth : Nat
  text : String
  deriving DecidableEq

namespace Line

/-- The line that holds nothing. -/
def blank : Line := ⟨0, ""⟩

/-- The text of a line, with its line feed. -/
def render (indent : String) (l : Line) : String :=
  String.join (List.replicate l.depth indent) ++ l.text ++ "\n"

end Line

/-- The text of some lines. -/
def renderLines (indent : String) (ls : List Line) : String :=
  String.join (ls.map (Line.render indent))

/-- A text as a comment, one comment line for each of its lines. -/
def commentLines (text : String) : List Line :=
  (Text.lines text.toList).map fun line =>
    ⟨0, if line.isEmpty then "//" else "// " ++ String.ofList line⟩

/-- Sections with a blank line between two of them, and one after the last if there is any line. -/
def joinSections (sections : List (List Line)) : List Line :=
  let joined := [Line.blank].intercalate sections
  if joined.isEmpty then [] else joined ++ [Line.blank]

end AstForge
