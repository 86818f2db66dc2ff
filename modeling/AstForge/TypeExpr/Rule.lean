import AstForge.TypeExpr.Take

/-!
# Type expressions — the rules that refer to each other

The grammar is a set of rules, of which those named here refer to each other. The rest of a rule is
written over `Rules`, which apply the named rules to what lies deeper.

A `+` may continue a type only where `plus` is set: the pointee of a reference and the result of a
function take none, so that the `+` continues the type around them. The bracket of a block may
follow an expression only where `braces` is not set: a path before it would otherwise take it for
the members of a value.
-/

namespace AstForge.TypeExpr

/-- What matters of a type. -/
inductive TypeForm where
  /-- One name, perhaps with arguments, which may also be the name of a member. -/
  | name
  /-- Another type that may stand as a bound: a longer path, or a path with a binder. -/
  | bound
  /-- A type that is no bound. -/
  | other
  deriving DecidableEq

/-- The arguments of a segment of a path. -/
inductive ArgumentForm where
  /-- There is no list of arguments. -/
  | missing
  /-- The list of arguments is empty. -/
  | empty
  /-- There are arguments. -/
  | listed
  deriving DecidableEq

/-- What matters of a path. -/
structure PathForm where
  /-- It is one segment, without a leading `::`. -/
  single : Bool
  /-- No segment has a list of arguments. -/
  plain : Bool
  /-- The last segment has no arguments. -/
  bare : Bool

/-- What bounds stand for, which decides the bounds that may stand there. -/
inductive BoundPlace where
  /-- An object of some type. -/
  | object
  /-- A parameter or a member that they bound. -/
  | member
  /-- A type that the program keeps to itself. -/
  | hidden
  deriving DecidableEq

/-- What matters of a bound. -/
inductive BoundForm where
  | trait
  /-- A lifetime, or parameters that a hidden type keeps. -/
  | other
  deriving DecidableEq

/-- What matters of an operand. -/
inductive OperandForm where
  /-- A range that has no start, which no operator may follow. -/
  | range
  | other
  deriving DecidableEq

/-- What matters of a pattern. -/
inductive PatternForm where
  /-- A range that lacks its start or its end. -/
  | openRange
  | other
  deriving DecidableEq

/-- The rules that refer to each other, by what matters of what they take. -/
inductive Rule : Type → Type where
  | type (plus : Bool) : Rule TypeForm
  /-- A path; in an `expression` its arguments stand after `::`. -/
  | path (expression : Bool) : Rule PathForm
  | bound (place : BoundPlace) : Rule BoundForm
  | expression (braces : Bool) : Rule Unit
  | operand (braces : Bool) : Rule OperandForm
  /-- An expression that ends with a block. -/
  | blockExpression : Rule Unit
  | pattern : Rule PatternForm
  /-- The statements of a block, up to the bracket that closes it. -/
  | statements : Rule Unit
  | item : Rule Unit
  /-- What an import names; it may start at the `root`. -/
  | imported (root : Bool) : Rule Unit
  /-- The named fields of a data type, in their brackets. -/
  | fields : Rule Unit

/-- How the rules apply. -/
structure Rules where
  take : {α : Type} → Rule α → Take α

end AstForge.TypeExpr
