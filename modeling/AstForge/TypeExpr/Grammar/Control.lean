import AstForge.TypeExpr.Grammar.Expression

/-!
# Grammar — expressions that end with a block

Conditions, loops, matches and blocks. As a statement, or as the body of an arm, such an expression
ends with its block: what follows is not taken for an operator.
-/

namespace AstForge.TypeExpr

open Take

/-- Takes an expression that ends with a block as soon as it can; tells whether something must stand
between it and what follows. -/
def earlyExpression (rules : Rules) : Take Bool := do
  let _ ← attributes rules
  if ← sees startsBlockExpression then
    rules.take .blockExpression
    let ts ← get
    if point?.starts ts || (mark? '?').starts ts then
      trailers rules
      chain rules true .whole .other
      return true
    else return false
  else
    let first ← rules.take (.operand true)
    chain rules true .whole first
    return true

/-- Takes a conditional expression after its word. -/
def conditional (rules : Rules) : Take Unit :=
  loop () fun _ => do
    rules.take (.expression false)
    plainBlock rules
    if ← skip (word? "else") then
      if ← skip (word? "if") then return .inl ()
      plainBlock rules
      return .inr ()
    else return .inr ()

/-- Takes an arm of a match. -/
def arm (rules : Rules) : Take Unit := do
  let _ ← attributes rules
  let _ ← patterns rules
  if ← skip (word? "if") then rules.take (.expression true)
  need (marks? ['=', '>'])
  let separate ← earlyExpression rules
  let ended ← skip (mark? ',')
  if separate && !ended && !atEnd (← get) then failure

/-- Takes a match after its word. -/
def arms (rules : Rules) : Take Unit := do
  rules.take (.expression false)
  within .curly do
    innerAttributes rules
    let _ ← many (!atEnd ·) (arm rules)

/-- Takes a loop or a block, before which a label may stand. -/
def labelled (rules : Rules) : Take Unit := do
  if ← skip (word? "while") then
    rules.take (.expression false)
  else if ← skip (word? "for") then
    let _ ← patterns rules
    need (word? "in")
    rules.take (.expression false)
  else
    let _ ← skip (word? "loop")
  block rules

/-- The rule of expressions that end with a block. -/
def blockExpressionRule (rules : Rules) : Take Unit := do
  if ← skip (word? "if") then conditional rules
  else if ← skip (word? "match") then arms rules
  else if ← skip (word? "try") then plainBlock rules
  else if ← skip (wordWith? fun w => w == "unsafe" || w == "const") then block rules
  else
    if ← skip lifetime? then need (mark? ':')
    labelled rules

end AstForge.TypeExpr
