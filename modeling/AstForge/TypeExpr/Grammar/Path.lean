import AstForge.TypeExpr.Grammar.Bound

/-!
# Grammar — paths

A path is a list of segments with `::` between them, and a segment may have generic arguments. A
qualified path starts at a type.
-/

namespace AstForge.TypeExpr

open Take

/-- Takes a generic argument: a lifetime, a constant, a type, or a member that is set or bounded. -/
def argument (rules : Rules) : Take Unit := do
  let ts ← get
  if lifetime?.starts ts && !(mark? '+').starts (afterFirst ts) then need lifetime?
  else if literal?.starts ts || (opening? .curly).starts ts then constant rules
  else
    let form ← rules.take (.type true)
    if form = .name then
      if ← skip (mark? '=') then
        let ts ← get
        if literal?.starts ts || (opening? .curly).starts ts then constant rules
        else
          let _ ← rules.take (.type true)
      else if ← skip (mark? ':') then memberBounds rules

/-- Takes generic arguments in their brackets. -/
def arguments (rules : Rules) : Take ArgumentForm := do
  need (mark? '<')
  let count ← separated (mark? ',') (mark? '>').starts (argument rules)
  need (mark? '>')
  return if count = 0 then .empty else .listed

/-- Takes a segment of a path. In an `expression` its arguments stand after `::`; elsewhere the `::`
may be missing. -/
def segment (rules : Rules) (expression : Bool) : Take ArgumentForm := do
  if ← skip (wordWith? isFixedSegment) then return .missing
  need (wordWith? fun w => isName w || w == "Self")
  let ts ← get
  if !expression && angle?.starts ts then arguments rules
  else if (colons? ts).any (mark? '<').starts then
    need colons?
    arguments rules
  else return .missing

/-- Takes the segments that follow a first one, for as long as the tokens have a property. -/
def segments (rules : Rules) (expression : Bool) (goesOn : List Token → Bool) :
    Take (List ArgumentForm) := do
  let first ← segment rules expression
  let others ← many goesOn do
    need colons?
    segment rules expression
  return first :: others

/-- The rule of paths. A `::` before a parenthesis belongs to what follows the path. -/
def pathRule (rules : Rules) (expression : Bool) : Take PathForm := do
  let rooted ← skip colons?
  let forms ← segments rules expression fun ts =>
    (colons? ts).any fun rest => !(opening? .round).starts rest
  return {
    single := !rooted && forms.length == 1
    plain := forms.all (· == .missing)
    bare := forms.getLast? != some .listed }

/-- Takes a path that starts at a type. -/
def qualifiedPath (rules : Rules) (expression : Bool) : Take Unit := do
  need (mark? '<')
  let _ ← rules.take (.type true)
  if ← skip (word? "as") then
    let _ ← rules.take (.path false)
  need (mark? '>')
  need colons?
  let _ ← segments rules expression colons?.starts

/-- Takes a path, perhaps one that starts at a type; tells whether it is one without arguments that
starts at no type. -/
def anyPath (rules : Rules) (expression : Bool) : Take Bool := do
  if ← sees (mark? '<').starts then
    qualifiedPath rules expression
    return false
  else
    let form ← rules.take (.path expression)
    return form.plain

end AstForge.TypeExpr
