import AstForge.TypeExpr.Grammar.Path

/-!
# Grammar — types

Paths, tuples, arrays, references, pointers, functions, and bounds joined by `+`.
-/

namespace AstForge.TypeExpr

open Take

/-! ### Functions -/

/-- Takes the words before a function that say how it is called. -/
def callingConvention : Take Unit := do
  if ← skip (word? "extern") then
    let _ ← skip text?

/-- Takes the name of a parameter and its colon, if they are there. -/
def parameterName? : Phrase := fun ts =>
  (nameOrBlank? ts).bind colon?

/-- Takes a parameter of the type of a function. The `first` may be the receiver of a method. -/
def typeParameter (rules : Rules) (first : Bool) : Take Unit := do
  match first, ← get with
  | true, .word "mut" :: .word "self" :: rest =>
    set rest
    if ← skip colon? then
      let _ ← rules.take (.type true)
  | true, .word "self" :: _ =>
    let _ ← skip fun ts => (word? "self" ts).bind colon?
    let _ ← rules.take (.type true)
  | _, _ =>
    let _ ← skip parameterName?
    match first, ← get with
    | true, .word "mut" :: .word "self" :: rest => set rest
    | _, _ =>
      let _ ← rules.take (.type true)

/-- Takes the parameters of the type of a function; dots may stand for the last. -/
def typeParameters (rules : Rules) : Take Unit :=
  loop true fun first => do
    if ← sees atEnd then return .inr ()
    let _ ← attributes rules
    if ← skip fun ts => dots? ((parameterName? ts).getD ts) then
      let _ ← skip (mark? ',')
      return .inr ()
    typeParameter rules first
    if ← skip (mark? ',') then return .inl false else return .inr ()

/-- Takes the type of a function. -/
def functionType (rules : Rules) : Take Unit := do
  let _ ← skip (word? "unsafe")
  callingConvention
  need (word? "fn")
  within .round (typeParameters rules)
  result rules false

/-! ### Types -/

/-- Takes a type that starts with a path: the path, a macro call, or bounds that the path starts. -/
def namedType (rules : Rules) (plus : Bool) : Take TypeForm := do
  let form ← rules.take (.path false)
  if form.plain && bang?.starts (← get) then
    need bang?
    need anyGroup?
    return .other
  else if plus && (mark? '+').starts (← get) then
    let _ ← furtherBounds rules .object
    return .other
  else return if form.single then .name else .bound

/-- Takes a type after a binder. -/
def boundType (rules : Rules) (plus : Bool) : Take TypeForm := do
  match ← get with
  | .word w :: rest =>
    if startsBuiltin (.word w :: rest) then
      need builtin?
      return .other
    else if startsFunction w then
      functionType rules
      return .other
    else if startsPath w then
      let form ← namedType rules plus
      return if form = .name then .bound else form
    else failure
  | _ => failure

/-- Takes further bounds of an object, each after a `+`. -/
def addedBounds (rules : Rules) : Take Unit := do
  let _ ← many (mark? '+').starts do
    need (mark? '+')
    rules.take (.bound .object)

/-- Takes a parenthesis: nothing, a type, the types of a tuple, or a bound that further bounds may
follow. -/
def parenthesis (rules : Rules) (plus : Bool) : Take TypeForm := do
  need (opening? .round)
  match ← get with
  | .closing .round :: rest =>
    set rest
    return .other
  | .lifetime :: _ =>
    bounds rules .object true
    need (closing? .round)
    return .other
  | .mark '?' _ :: _ =>
    trait rules .object
    need (closing? .round)
    if ← sees (mark? '+').starts then
      addedBounds rules
      return .other
    else return .bound
  | _ =>
    let form ← rules.take (.type true)
    if ← skip (mark? ',') then
      listed do
        let _ ← rules.take (.type true)
      need (closing? .round)
    else
      need (closing? .round)
      if plus && form != .other then addedBounds rules
    return .other

/-- Takes a square bracket: a type, and perhaps a length. -/
def array (rules : Rules) : Take Unit :=
  within .square do
    let _ ← rules.take (.type true)
    if ← skip (mark? ';') then rules.take (.expression true)

/-- Takes a type that is no bound, and that starts with a word which is no name. -/
def wordType (rules : Rules) (plus : Bool) (word : String) : Take Unit := do
  if startsFunction word then functionType rules
  else
    need (word? word)
    if word == "_" then return
    else if word == "dyn" then
      let _ ← skip (mark? '*')
      bounds rules .object plus
    else if word == "impl" then bounds rules .hidden plus
    else failure

/-- The rule of types. -/
def typeRule (rules : Rules) (plus : Bool) : Take TypeForm := do
  match ← get with
  | .opening .round :: _ => parenthesis rules plus
  | .opening .square :: _ =>
    array rules
    return .other
  | .mark '*' _ :: rest =>
    set rest
    need (wordWith? fun w => w == "const" || w == "mut")
    let _ ← rules.take (.type false)
    return .other
  | .mark '&' _ :: rest =>
    set rest
    let _ ← skip lifetime?
    let _ ← skip (word? "mut")
    let _ ← rules.take (.type false)
    return .other
  | .mark '!' _ :: rest =>
    set rest
    return .other
  | .mark '<' _ :: _ =>
    qualifiedPath rules false
    return .other
  | .lifetime :: _ =>
    bounds rules .object true
    return .other
  | .word w :: rest =>
    if startsBuiltin (.word w :: rest) then
      need builtin?
      return .other
    else if w == "for" then
      set rest
      binder rules
      boundType rules plus
    else if startsPath w then namedType rules plus
    else
      wordType rules plus w
      return .other
  | ts => if colons?.starts ts then namedType rules plus else failure

end AstForge.TypeExpr
