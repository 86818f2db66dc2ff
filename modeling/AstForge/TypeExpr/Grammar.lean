import AstForge.TypeExpr.Grammar.Statement

/-!
# Type expressions — the grammar

Whether a text is a type that the tagged-union target can read. The grammar is that of its types:
paths with generic arguments, tuples, arrays, references, pointers, functions, and bounds joined by
`+`. The length of an array and a block among generic arguments hold expressions, and a block holds
statements and items.
-/

namespace AstForge.TypeExpr

/-- A rule, over the rules that apply to what lies deeper. -/
def Rule.body (rules : Rules) : {α : Type} → Rule α → Take α
  | _, .type plus => typeRule rules plus
  | _, .path inExpression => pathRule rules inExpression
  | _, .bound place => boundRule rules place
  | _, .expression braces => expressionRule rules braces
  | _, .operand braces => operandRule rules braces
  | _, .blockExpression => blockExpressionRule rules
  | _, .pattern => patternRule rules
  | _, .statements => statementsRule rules
  | _, .item => itemRule rules
  | _, .imported root => importedRule rules root
  | _, .fields => fieldsRule rules

/-- The place of a rule among those that start at one token: a rule starts only rules of a lower
rank there. -/
def Rule.rank : {α : Type} → Rule α → Nat
  | _, .type _ | _, .expression _ | _, .statements => 2
  | _, .bound _ | _, .operand _ | _, .pattern => 1
  | _, .path _ | _, .blockExpression | _, .item | _, .imported _ | _, .fields => 0

/-- What grows less with every rule inside a rule: the tokens that are left, and then the rank. -/
def Rule.weight {α : Type} (rule : Rule α) (ts : List Token) : Nat :=
  3 * ts.length + rule.rank

/-- The rules, for as long as they weigh less than `bound`. -/
def Rules.below (rules : Rules) (bound : Nat) : Rules where
  take rule ts := if rule.weight ts < bound then rules.take rule ts else none

/-- The rules that nest at most `depth` deep. -/
def rulesWithin : (depth : Nat) → Rules
  | 0 => ⟨fun _ => failure⟩
  | n + 1 => ⟨fun rule ts => rule.body ((rulesWithin n).below (rule.weight ts)) ts⟩

/-- Takes what a rule describes. The rules inside it weigh ever less, so its weight bounds how deep
they nest. -/
def Rule.take {α : Type} (rule : Rule α) : Take α := fun ts =>
  (rulesWithin (rule.weight ts + 1)).take rule ts

/-- Whether a text is a type, from its first token to its last. -/
def accepts (s : String) : Bool :=
  match tokens? s with
  | none => false
  | some ts =>
    balanced [] ts &&
      match (Rule.type true).take ts with
      | some (_, []) => true
      | _ => false

end AstForge.TypeExpr
