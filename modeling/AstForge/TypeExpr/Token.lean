/-!
# Type expressions — tokens

A type expression is read as a list of tokens. Marks are single characters; a mark is joint when
another mark follows it at once, so that `::`, `->` and `...` are read as joint marks. A comment
that documents what follows stands for an attribute, and is read as the tokens of that attribute.
-/

namespace AstForge.TypeExpr

/-- A kind of bracket. -/
inductive Bracket where
  | round
  | square
  | curly
  deriving DecidableEq

/-- A token of a type expression. -/
inductive Token where
  /-- A word, with the `r#` of a raw word. -/
  | word (text : String)
  /-- A lifetime, such as `'a`: a quote and the word that it names. -/
  | lifetime
  /-- The quote before a name, for as long as the two are not read as one lifetime. -/
  | quote
  /-- A string literal. -/
  | text
  /-- A number, as it is written. -/
  | number (text : String)
  /-- A literal of another kind: a character, or a string of bytes. -/
  | literal
  /-- A mark, and whether another mark follows it at once. -/
  | mark (char : Char) (joint : Bool)
  | opening (bracket : Bracket)
  | closing (bracket : Bracket)
  deriving DecidableEq

/-- Reads a quote and the word after it as one lifetime. A quote before a literal stays alone. -/
def joinLifetimes : List Token → List Token
  | .quote :: .word _ :: ts => .lifetime :: joinLifetimes ts
  | t :: ts => t :: joinLifetimes ts
  | [] => []

/-- The attribute that a documenting comment stands for. An `inner` one documents what it stands
in. -/
def documentation (inner : Bool) : List Token :=
  .mark '#' false :: (if inner then [.mark '!' false] else []) ++
    [.opening .square, .word "doc", .mark '=' false, .text, .closing .square]

/-- Whether the brackets of a list of tokens match; `opened` are those still open, innermost
first. -/
def balanced (opened : List Bracket) : List Token → Bool
  | [] => opened.isEmpty
  | .opening b :: ts => balanced (b :: opened) ts
  | .closing b :: ts =>
    match opened with
    | [] => false
    | o :: opened => o == b && balanced opened ts
  | _ :: ts => balanced opened ts

end AstForge.TypeExpr
