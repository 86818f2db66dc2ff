import AstForge.TypeExpr.Grammar.Path

/-!
# Grammar — patterns

A pattern is a name, a path with the patterns of its parts, a literal, a range, a reference, a tuple
or a slice. Several patterns may stand with bars between them.
-/

namespace AstForge.TypeExpr

open Take

/-- Takes a pattern, or several with bars between them. -/
def patterns (rules : Rules) : Take PatternForm := do
  let leading ← skip bar?
  let first ← rules.take .pattern
  let others ← many bar?.starts do
    need bar?
    rules.take .pattern
  return if leading || !others.isEmpty then .other else first

/-- Takes patterns with commas between them. -/
def patternList (rules : Rules) : Take Unit :=
  listed do
    let _ ← patterns rules

/-! ### Ranges -/

/-- Whether a range has no end here. -/
def lacksBound (ts : List Token) : Bool :=
  atEnd ts || (word? "if").starts ts || colon?.starts ts ||
    ['|', '=', ',', ';'].any fun c => (mark? c).starts ts

/-- Takes one end of a range: a literal, a path or a constant block. -/
def rangeBound (rules : Rules) : Take Unit := do
  if ← skip literal? then return
  else if ← skip (word? "const") then block rules
  else
    let _ ← anyPath rules true
    return

/-- Takes a range after its start; only a half-open one may lack its end. -/
def rangeRest (rules : Rules) : Take PatternForm := do
  match range? (← get) with
  | none => failure
  | some (mark, rest) =>
    set rest
    if lacksBound rest then
      if mark = .halfOpen then return .openRange else failure
    else
      rangeBound rules
      return .other

/-- Takes a range that has no start; alone, two points stand for the rest of the parts. -/
def startlessRange (rules : Rules) : Take PatternForm := do
  match range? (← get) with
  | some (.dotted, _) | none => failure
  | some (mark, rest) =>
    set rest
    if lacksBound rest then
      if mark = .halfOpen then return .other else failure
    else
      rangeBound rules
      return .openRange

/-! ### Parts -/

/-- Takes the pattern of a named part: a name that it is bound to, or the part and its pattern. -/
def partPattern (rules : Rules) : Take Unit := do
  let boxed ← skip (word? "box")
  let referenced ← skip (word? "ref")
  let mutable ← skip (word? "mut")
  if boxed || referenced || mutable then need name?
  else
    let named ← sees name?.starts
    need member?
    if !named || (mark? ':').starts (← get) then
      need (mark? ':')
      let _ ← patterns rules

/-- Takes the patterns of named parts; two points may stand for the others. -/
def partPatterns (rules : Rules) : Take Unit :=
  loop () fun _ => do
    if ← sees atEnd then return .inr ()
    let _ ← attributes rules
    if ← skip span? then return .inr ()
    partPattern rules
    if ← skip (mark? ',') then return .inl () else return .inr ()

/-- Takes a pattern that starts with a path. -/
def pathPattern (rules : Rules) : Take PatternForm := do
  let plain ← anyPath rules true
  let ts ← get
  if plain && bang?.starts ts then
    need bang?
    need anyGroup?
    return .other
  else if (opening? .curly).starts ts then
    within .curly (partPatterns rules)
    return .other
  else if (opening? .round).starts ts then
    within .round (patternList rules)
    return .other
  else if span?.starts ts then rangeRest rules
  else return .other

/-- Takes a name that is bound, perhaps to what a pattern describes. -/
def namePattern (rules : Rules) : Take Unit := do
  let _ ← skip (word? "ref")
  let _ ← skip (word? "mut")
  need (wordWith? fun w => isName w || w == "self")
  if ← skip (mark? '@') then
    let _ ← rules.take .pattern

/-- Takes a slice; a range that lacks an end may not stand in it alone. -/
def slicePattern (rules : Rules) : Take Unit :=
  within .square <| listed do
    if (← patterns rules) = .openRange then failure

/-! ### Patterns -/

/-- Whether a pattern that starts with a path starts here. -/
def startsPathPattern : List Token → Bool
  | .mark '<' _ :: _ => true
  | .word w :: ts =>
    w == "Self" || w == "super" || w == "crate" || (w == "self" && colons?.starts ts) ||
      (isName w && (colons?.starts ts || (mark? '!').starts ts || (opening? .curly).starts ts ||
        (opening? .round).starts ts || span?.starts ts))
  | ts => colons?.starts ts

/-- The rule of patterns. -/
def patternRule (rules : Rules) : Take PatternForm := do
  let ts ← get
  if startsPathPattern ts then pathPattern rules
  else if span?.starts ts then startlessRange rules
  else if literal?.starts ts || (word? "const").starts ts then
    rangeBound rules
    if ← sees span?.starts then rangeRest rules else return .other
  else
    match ts with
    | .word "_" :: rest => set rest
    | .word "box" :: rest =>
      set rest
      let _ ← rules.take .pattern
    | .mark '&' _ :: rest =>
      set rest
      let _ ← skip (word? "mut")
      let _ ← rules.take .pattern
    | .opening .round :: _ => within .round (patternList rules)
    | .opening .square :: _ => slicePattern rules
    | _ => namePattern rules
    return .other

end AstForge.TypeExpr
