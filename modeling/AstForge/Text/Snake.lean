import AstForge.Text.Property.Lowercase
import AstForge.Text.Property.Uppercase

/-!
# Text — snake case

A capital letter starts a new word after a lower-case letter or a digit, and before a lower-case
letter, so that the last capital of an acronym goes with the word it starts. Words are joined by
`_`, and only ASCII capitals are lowered.
-/

namespace AstForge.Text

/-- Whether `c`, which stands between `prev` and `rest`, starts a new word. -/
def startsWord (prev c : Char) (rest : List Char) : Bool :=
  isUppercase c && prev != '_' &&
    (isLowercase prev || prev.isDigit || (rest.head?.any isLowercase))

/-- The snake case of the text that follows the character `prev`. -/
def snakeAfter (prev : Char) : List Char → List Char
  | [] => []
  | c :: cs =>
    if startsWord prev c cs then '_' :: c.toLower :: snakeAfter c cs
    else c.toLower :: snakeAfter c cs

/-- The snake case of `cs`; the first character starts no new word. -/
def snake : List Char → List Char
  | [] => []
  | c :: cs => c.toLower :: snakeAfter c cs

/-- The snake case of a text. -/
def toSnakeCase (s : String) : String :=
  String.ofList (snake s.toList)

end AstForge.Text
