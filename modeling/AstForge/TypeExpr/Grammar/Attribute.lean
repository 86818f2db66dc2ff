import AstForge.TypeExpr.Rule

/-!
# Grammar — attributes and blocks

An attribute stands before what it is about, or at the start of a block that it is about. It is a
path, perhaps with a bracket or a value. A block is a bracket with statements.
-/

namespace AstForge.TypeExpr

open Take

/-- Takes what an attribute says: its name, and perhaps a bracket or a value. -/
def attributeBody (rules : Rules) : Take Unit := do
  need attributeName?
  if ← skip anyGroup? then return
  if ← skip equals? then
    match ← get with
    | .mark '#' _ :: .opening .square :: _ => failure
    | _ => rules.take (.expression true)

/-- Takes the attributes that stand before something; tells whether there are any. -/
def attributes (rules : Rules) : Take Bool := do
  let found ← many (mark? '#').starts do
    need (mark? '#')
    within .square (attributeBody rules)
  return !found.isEmpty

/-- Whether an attribute of the block around it starts here. -/
def startsInnerAttribute : List Token → Bool
  | .mark '#' _ :: .mark '!' _ :: _ => true
  | _ => false

/-- Takes the attributes of the block around them. -/
def innerAttributes (rules : Rules) : Take Unit := do
  let _ ← many startsInnerAttribute do
    need (mark? '#')
    need (mark? '!')
    within .square (attributeBody rules)

/-- Takes a block without attributes of its own. -/
def plainBlock (rules : Rules) : Take Unit :=
  within .curly (rules.take .statements)

/-- Takes a block, perhaps with attributes of its own. -/
def block (rules : Rules) : Take Unit :=
  within .curly do
    innerAttributes rules
    rules.take .statements

end AstForge.TypeExpr
