/-!
# Text — identifiers

An identifier is a letter or `_`, then letters, digits and `_`, all ASCII.
-/

namespace AstForge.Text

/-- Whether `c` may start an identifier. -/
def isIdentifierStart (c : Char) : Bool :=
  c.isAlpha || c == '_'

/-- Whether `c` may continue an identifier. -/
def isIdentifierRest (c : Char) : Bool :=
  c.isAlphanum || c == '_'

/-- Whether `cs` is an identifier. -/
def isIdentifier : List Char → Bool
  | [] => false
  | c :: cs => isIdentifierStart c && cs.all isIdentifierRest

end AstForge.Text
