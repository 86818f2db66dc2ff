import AstForge.Text.Lower

/-!
# Targets and settings

A target is the language of a document. A configuration holds what may be chosen about a document
besides its table.
-/

namespace AstForge

/-- The language of a document. -/
inductive Target where
  | java
  | rust
  deriving DecidableEq

namespace Target

/-- The name of a target. -/
def name : Target → String
  | .java => "Java"
  | .rust => "Rust"

/-- Reads a target; the case of ASCII letters does not matter. -/
def parse? (s : String) : Option Target :=
  let lowered := String.ofList (s.toList.map Char.toLower)
  if lowered == "java" then some .java
  else if lowered == "rust" || lowered == "rs" then some .rust
  else none

/-- The indentation of one level, unless another is chosen. -/
def indent : Target → String
  | .java => "  "
  | .rust => "    "

/-- The file that holds the document for a base type. -/
def fileName : Target → String → String
  | .java, base => base ++ ".java"
  | .rust, base => Text.toLower base ++ ".rs"

end Target

/-- The header of a document, unless another is chosen. -/
def defaultHeader : String := "Generated by treegen. Do not edit."

/-- What may be chosen about a document. -/
structure Config where
  target : Target
  indent : String
  package : Option String
  imports : List String
  header : Option String
  derives : List String
  deriving DecidableEq

/-- The configuration in which nothing is chosen but the target. -/
def Config.ofTarget (target : Target) : Config where
  target := target
  indent := target.indent
  package := none
  imports := []
  header := some defaultHeader
  derives := ["Debug", "Clone"]

end AstForge
