import AstForge.TypeExpr.Grammar.Control
import AstForge.TypeExpr.Grammar.Item

/-!
# Grammar — statements

A block holds bindings, items, macro calls and expressions, ended by semicolons. The last expression
and one that ends with a block need none.
-/

namespace AstForge.TypeExpr

open Take

/-- Takes a macro call with braces that is a statement of its own. -/
def callStatement? : Phrase := fun ts => do
  let rest ← ((plainPath? ts).bind (mark? '!')).bind (group? .curly)
  if point?.starts rest || (mark? '?').starts rest then none else some rest

/-- Whether a macro call that declares something starts here. -/
def startsCallItem (ts : List Token) : Bool :=
  ((plainPath? ts).bind (mark? '!')).any (wordWith? fun w => isName w || w == "try").starts

/-- Takes a macro call with braces, in whose path the word `try` may stand. -/
def bracedCall? : Phrase := fun ts =>
  ((pathWith? (fun w => startsPath w || w == "try") ts).bind (mark? '!')).bind (group? .curly)

/-- Whether the last token before `after`, which is a rest of `before`, closes a block. -/
def endsWithBlock (before after : List Token) : Bool :=
  match (before.take (before.length - after.length)).getLast? with
  | some (.closing .curly) => true
  | _ => false

/-- Takes a binding after its word. What runs if the pattern fails may not follow a block. -/
def binding (rules : Rules) : Take Unit := do
  let _ ← rules.take .pattern
  if ← skip (mark? ':') then
    let _ ← rules.take (.type true)
  if ← skip (mark? '=') then
    let before ← get
    rules.take (.expression true)
    if !endsWithBlock before (← get) then
      if ← skip (word? "else") then plainBlock rules
  need (mark? ';')

/-- Takes an expression as a statement; tells whether it must be the last. -/
def expressionStatement (rules : Rules) : Take Bool := do
  let before ← get
  let separate ← earlyExpression rules
  let after ← get
  if ← skip (mark? ';') then return false
  else return separate && (bracedCall? before).map List.length != some after.length

/-- Takes a statement; tells whether it must be the last. -/
def statement (rules : Rules) : Take Bool := do
  let _ ← attributes rules
  if ← skip callStatement? then
    let _ ← skip (mark? ';')
    return false
  else if ← skip (word? "let") then
    binding rules
    return false
  else
    let ts ← get
    if startsItem ts || startsCallItem ts then
      rules.take .item
      return false
    else expressionStatement rules

/-- The rule of statements. -/
def statementsRule (rules : Rules) : Take Unit :=
  loop () fun _ => do
    if ← skip (mark? ';') then return .inl ()
    else if ← sees atEnd then return .inr ()
    else
      let last ← statement rules
      if last && !atEnd (← get) then failure else return .inl ()

end AstForge.TypeExpr
