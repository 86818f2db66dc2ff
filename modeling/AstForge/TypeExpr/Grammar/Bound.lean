import AstForge.TypeExpr.Grammar.Attribute

/-!
# Grammar — bounds, binders and generic parameters

A bound is a lifetime or names a trait. A binder names parameters for the bound or the type after
it. Generic parameters are lifetimes, types and constants, and conditions may follow them.
-/

namespace AstForge.TypeExpr

open Take

/-! ### Lists of bounds -/

/-- Whether a list of bounds ends here. -/
def endsBounds : List Token → Bool
  | .opening .curly :: _ | .mark ',' _ :: _ | .mark ';' _ :: _ | .mark '=' _ :: _
  | .mark '>' _ :: _ => true
  | .word w :: _ => w == "where"
  | ts => atEnd ts || colon?.starts ts

/-- Takes the bounds of a member or a parameter, of which there may be none. -/
def memberBounds (rules : Rules) : Take Unit := do
  let _ ← separated (mark? '+') endsBounds do
    let _ ← rules.take (.bound .member)
  return

/-- Takes lifetimes joined by `+`, of which there may be none. -/
def lifetimeBounds : Take Unit := do
  let _ ← separated (mark? '+') endsBounds (need lifetime?)

/-! ### Parameters -/

/-- Takes a constant: a literal or a block. -/
def constant (rules : Rules) : Take Unit := do
  if ← skip literal? then return else block rules

/-- Takes a generic parameter: a lifetime, a type or a constant. A blank may stand for a type where
`blank` is set. -/
def genericParameter (rules : Rules) (blank : Bool) : Take Unit := do
  if ← skip lifetime? then
    if ← skip (mark? ':') then lifetimeBounds
  else if ← skip (word? "const") then
    need name?
    need (mark? ':')
    let _ ← rules.take (.type true)
    if ← skip (mark? '=') then
      if ← skip name? then return else constant rules
  else if ← skip name? then
    if ← skip (mark? ':') then memberBounds rules
    if ← skip (mark? '=') then
      let _ ← rules.take (.type true)
  else if blank then need (word? "_")
  else failure

/-- Takes generic parameters in their brackets. -/
def genericParameters (rules : Rules) (blank : Bool) : Take Unit := do
  need (mark? '<')
  let _ ← separated (mark? ',') (mark? '>').starts do
    let _ ← attributes rules
    genericParameter rules blank
  need (mark? '>')

/-- Takes the generic parameters of an item, if it has any. -/
def generics (rules : Rules) : Take Unit := do
  if ← sees (mark? '<').starts then genericParameters rules true

/-- Takes a binder after its word. -/
def binder (rules : Rules) : Take Unit :=
  genericParameters rules false

/-- Takes a binder, if one is there; tells whether one was. -/
def skipBinder (rules : Rules) : Take Bool := do
  if ← skip (word? "for") then
    binder rules
    return true
  else return false

/-! ### Conditions -/

/-- Whether a `<` starts generic parameters and not a path. -/
def startsGenerics : List Token → Bool
  | .mark '<' _ :: .mark '>' _ :: _ | .mark '<' _ :: .mark '#' _ :: _ => true
  | .mark '<' _ :: .word "const" :: _ => true
  | .mark '<' _ :: .lifetime :: ts => endsParameter ts
  | .mark '<' _ :: .word w :: ts => isName w && endsParameter ts
  | _ => false
where
  /-- Whether what stands before this is a parameter. -/
  endsParameter (ts : List Token) : Bool :=
    (mark? '>').starts ts || (mark? ',').starts ts || colon?.starts ts || (mark? '=').starts ts

/-- Takes a condition on a lifetime or a type. -/
def condition (rules : Rules) : Take Unit := do
  match ← get with
  | .lifetime :: .mark ':' _ :: rest =>
    set rest
    lifetimeBounds
  | _ =>
    let _ ← skipBinder rules
    let _ ← rules.take (.type true)
    need (mark? ':')
    memberBounds rules

/-- Takes conditions, if there are any; tells whether their word is there. -/
def conditions (rules : Rules) : Take Bool := do
  if ← skip (word? "where") then
    if ← sees startsGenerics then failure
    let _ ← separated (mark? ',') endsBounds (condition rules)
    return true
  else return false

/-! ### Bounds -/

/-- Takes the mark of a constant bound, if it is there and may be. -/
def skipConst (place : BoundPlace) : Take Unit := do
  if place != .object then
    match ← get with
    | .word "const" :: rest | .opening .square :: .word "const" :: .closing .square :: rest =>
      set rest
    | _ => return

/-- Takes types with commas between them, in parentheses. -/
def types (rules : Rules) : Take Unit :=
  within .round <| listed do
    let _ ← rules.take (.type true)

/-- Takes the result of a function, if it has one. -/
def result (rules : Rules) (plus : Bool) : Take Unit := do
  if ← skip arrow? then
    let _ ← rules.take (.type plus)

/-- Takes the path of a trait, perhaps with the parameters and the result of a function. -/
def traitPath (rules : Rules) : Take Unit := do
  let form ← rules.take (.path false)
  let ts ← get
  let call := (opening? .round).starts ts || ((colons? ts).any (opening? .round).starts)
  if form.bare && call then
    let _ ← skip colons?
    types rules
    result rules false

/-- Takes a bound that names a trait: a binder or a `?` may stand before it, and not both. -/
def trait (rules : Rules) (place : BoundPlace) : Take Unit := do
  if ← skipBinder rules then skipConst place
  else
    skipConst place
    let _ ← skip (mark? '?')
  traitPath rules

/-- Takes the parameters that a hidden type keeps. -/
def captured : Take Unit := do
  need (mark? '<')
  let _ ← separated (mark? ',') (mark? '>').starts do
    if ← skip lifetime? then return
    else need (wordWith? fun w => isName w || w == "Self")
  need (mark? '>')

/-- The rule of bounds. -/
def boundRule (rules : Rules) (place : BoundPlace) : Take BoundForm := do
  if ← skip lifetime? then return .other
  else if ← skip (word? "use") then
    captured
    if place = .hidden then return .other else failure
  else if ← sees (opening? .round).starts then
    within .round (trait rules place)
    return .trait
  else
    trait rules place
    return .trait

/-- Whether a bound may start after a `+`. -/
def startsBound (place : BoundPlace) : List Token → Bool
  | .word _ :: _ | .lifetime :: _ | .opening .round :: _ | .mark '?' _ :: _ => true
  | .opening .square :: _ => place != .object
  | ts => colons?.starts ts

/-- Takes further bounds, each after a `+`; a last `+` may stand alone. Tells whether one of them
names a trait. -/
def furtherBounds (rules : Rules) (place : BoundPlace) : Take Bool :=
  loop false fun found => do
    if ← skip (mark? '+') then
      if ← sees (startsBound place) then
        let form ← rules.take (.bound place)
        return .inl (found || form == .trait)
      else return .inr found
    else return .inr found

/-- Takes bounds, one of which names a trait. -/
def bounds (rules : Rules) (place : BoundPlace) (plus : Bool) : Take Unit := do
  let form ← rules.take (.bound place)
  let further ← if plus then furtherBounds rules place else pure false
  if form == .trait || further then return else failure

end AstForge.TypeExpr
