import AstForge.Table.Error
import AstForge.Text.Blank
import AstForge.Text.Identifier
import AstForge.Text.Split

/-!
# Declarations

One line of a table declares a shape or a data type.

* `Name : Type field, Type field` declares a shape. The first colon ends the name.
* `struct Name : Type field` declares a data type.

A comma separates two fields only outside brackets, so that a type may hold commas of its own. The
depth of brackets never goes below zero: a closing bracket that closes nothing is skipped. The last
blank of a field divides its type from its identifier.
-/

namespace AstForge

open Text

/-- The word that marks a data type. -/
def dataKeyword : String := "struct"

/-- Reads one field of the shape named `shape`. -/
def Field.ofChars (shape : String) (cs : List Char) : Except ReadError Field :=
  let trimmed := trim cs
  let malformed := .error (.malformedField shape (String.ofList trimmed))
  match splitLast isBlank trimmed with
  | none => malformed
  | some (before, identifier) =>
    let type := trimEnd before
    if type.isEmpty || !isIdentifier identifier then malformed
    else .ok ⟨String.ofList type, String.ofList identifier⟩

/-- Reads one field of the shape named `shape`. -/
def Field.parse (shape text : String) : Except ReadError Field :=
  Field.ofChars shape text.toList

/-- The depth of brackets after `c`. -/
def bracketDepth (depth : Nat) (c : Char) : Nat :=
  if c == '<' || c == '(' || c == '[' then depth + 1
  else if c == '>' || c == ')' || c == ']' then depth - 1
  else depth

/-- Cuts at the commas outside brackets, starting inside `depth` of them. -/
def splitCommas (depth : Nat) : List Char → List (List Char)
  | [] => [[]]
  | c :: cs =>
    if c == ',' && depth == 0 then [] :: splitCommas depth cs
    else (splitCommas (bracketDepth depth c) cs).modifyHead (c :: ·)

/-- The texts of the fields; a blank list has none. -/
def splitFields (cs : List Char) : List (List Char) :=
  if (trim cs).isEmpty then [] else splitCommas 0 cs

/-- Reads a name and its fields. -/
def Shape.ofChars (cs : List Char) : Except ReadError Shape :=
  match splitFirst (· == ':') cs with
  | none => .error (.malformedShape (String.ofList (trim cs)))
  | some (before, list) => do
    let name := String.ofList (trim before)
    let fields ← (splitFields list).mapM (Field.ofChars name)
    return ⟨name, fields⟩

/-- Reads a name and its fields. -/
def Shape.parse (declaration : String) : Except ReadError Shape :=
  Shape.ofChars declaration.toList

/-- A line of a table. -/
inductive Declaration where
  | shape (shape : Shape)
  | dataType (type : Shape)
  deriving DecidableEq

/-- What follows the word that marks a data type, if the declaration starts with that word. -/
def dataBody? (cs : List Char) : Option (List Char) :=
  match dataKeyword.toList.isPrefixOf? (trimStart cs) with
  | some rest => if rest.head?.any isBlank then some rest else none
  | none => none

/-- Reads a declaration. -/
def Declaration.parse (declaration : String) : Except ReadError Declaration :=
  match dataBody? declaration.toList with
  | some body => return .dataType (← Shape.ofChars body)
  | none => return .shape (← Shape.ofChars declaration.toList)

end AstForge
