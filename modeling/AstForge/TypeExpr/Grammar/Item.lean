import AstForge.TypeExpr.Grammar.Type
import AstForge.TypeExpr.Grammar.Pattern

/-!
# Grammar — items

What a block may declare: functions, constants, types with their fields, traits, implementations,
modules and imports. Attributes and a visibility may stand before an item.
-/

namespace AstForge.TypeExpr

open Take

/-- Takes the word that makes an item visible, and for whom. -/
def visibility? : Phrase := fun ts =>
  match word? "pub" ts with
  | some (.opening .round :: .word "in" :: rest) => (plainPath? rest).bind (closing? .round)
  | some (.opening .round :: .word w :: .closing .round :: rest) =>
    if isPlace w then some rest else some (.opening .round :: .word w :: .closing .round :: rest)
  | rest => rest

/-- Takes a value after its mark, if there is one. -/
def skipValue (rules : Rules) : Take Unit := do
  if ← skip (mark? '=') then rules.take (.expression true)

/-- Takes a new name after `as`, if there is one. -/
def skipRenaming : Take Unit := do
  if ← skip (word? "as") then need nameOrBlank?

/-! ### Functions -/

/-- Whether the signature of a function starts here; `safe` tells whether it may be called safe. -/
def startsSignature (safe : Bool) (ts : List Token) : Bool :=
  let leave (words : List String) (ts : List Token) := (wordWith? words.contains ts).getD ts
  let called := leave (if safe then ["safe", "unsafe"] else ["unsafe"]) (leave ["async"]
    (leave ["const"] ts))
  match word? "extern" called with
  | some rest => (word? "fn").starts ((text? rest).getD rest)
  | none => (word? "fn").starts called

/-- Takes the receiver of a method, if it is there; tells whether it is. -/
def skipReceiver (rules : Rules) : Take Bool := do
  if ← skip fun ts => do
    let rest ← mark? '&' ts
    let rest := (lifetime? rest).getD rest
    word? "self" ((word? "mut" rest).getD rest) then return true
  else
    let ts ← get
    match word? "self" ((word? "mut" ts).getD ts) with
    | none => return false
    | some rest =>
      if colons?.starts rest || ((mark? ':' rest).bind dots?).isSome then return false
      set rest
      if ← skip (mark? ':') then
        let _ ← rules.take (.type true)
      return true

/-- Takes a parameter that is no receiver; tells whether it stands for any number of them. -/
def functionParameter (rules : Rules) : Take Bool := do
  let ts ← get
  if name?.starts ts && (mark? '<').starts (afterFirst ts) then
    let _ ← rules.take (.type true)
    return false
  else
    let _ ← rules.take .pattern
    need (mark? ':')
    if ← skip dots? then return true
    let _ ← rules.take (.type true)
    return false

/-- Takes the parameters of a function. Only the first may be a receiver, and only the last may
stand for any number of them. -/
def functionParameters (rules : Rules) : Take Unit :=
  loop true fun first => do
    if ← sees atEnd then return .inr ()
    let _ ← attributes rules
    let received ← skipReceiver rules
    if received && !first then failure
    let many ←
      if received then pure false
      else if ← skip dots? then pure true
      else functionParameter rules
    let separated ← skip (mark? ',')
    if many || !separated then return .inr () else return .inl false

/-- Takes the signature of a function. -/
def signature (rules : Rules) (safe : Bool) : Take Unit := do
  let _ ← skip (word? "const")
  let _ ← skip (word? "async")
  let _ ← skip (wordWith? fun w => w == "unsafe" || (safe && w == "safe"))
  callingConvention
  need (word? "fn")
  need name?
  generics rules
  within .round (functionParameters rules)
  result rules true
  let _ ← conditions rules

/-- Takes a function, whose body may be missing. -/
def function (rules : Rules) (safe : Bool) : Take Unit := do
  signature rules safe
  if ← skip (mark? ';') then return else block rules

/-! ### Constants and types -/

/-- Takes a constant of an item, whose value may be missing. -/
def constantItem (rules : Rules) : Take Unit := do
  need (word? "const")
  need nameOrBlank?
  generics rules
  need (mark? ':')
  let _ ← rules.take (.type true)
  skipValue rules
  let _ ← conditions rules
  need (mark? ';')

/-- Takes a static item; where `typed` is not set its type may be missing. -/
def staticItem (rules : Rules) (typed : Bool) : Take Unit := do
  need (word? "static")
  let _ ← skip (word? "mut")
  need name?
  if typed || !(mark? '=').starts (← get) then
    need (mark? ':')
    let _ ← rules.take (.type true)
  skipValue rules
  need (mark? ';')

/-- The places of the conditions of a type. -/
inductive ConditionPlace where
  /-- Before its definition. -/
  | before
  /-- After its definition. -/
  | after
  /-- At one of the two. -/
  | either
  deriving DecidableEq

/-- Takes the name of a type, with its bounds and what it stands for. -/
def typeItem (rules : Rules) (place : ConditionPlace) : Take Unit := do
  need (word? "type")
  need name?
  generics rules
  if ← skip (mark? ':') then memberBounds rules
  let conditioned ← if place = .after then pure false else conditions rules
  if ← skip (mark? '=') then
    let _ ← rules.take (.type true)
  if place ≠ .before && !conditioned then
    let _ ← conditions rules
  need (mark? ';')

/-! ### Data types -/

/-- The rule of named fields. A field without a name may hold fields of its own. -/
def fieldsRule (rules : Rules) : Take Unit :=
  within .curly <| listed do
    let _ ← attributes rules
    let _ ← skip visibility?
    let unnamed ← sees (word? "_").starts
    need nameOrBlank?
    need (mark? ':')
    let ts ← get
    if unnamed && ((word? "struct").starts ts ||
        ((word? "union" ts).any (opening? .curly).starts)) then
      need (wordWith? fun _ => true)
      rules.take .fields
    else
      let _ ← rules.take (.type true)

/-- Takes fields that have no names. -/
def tupleFields (rules : Rules) : Take Unit :=
  within .round <| listed do
    let _ ← attributes rules
    let _ ← skip visibility?
    let _ ← rules.take (.type true)

/-- Takes a data type after its word. -/
def structItem (rules : Rules) : Take Unit := do
  need name?
  generics rules
  if ← sees (opening? .round).starts then
    tupleFields rules
    let _ ← conditions rules
    need (mark? ';')
  else
    let _ ← conditions rules
    if ← skip (mark? ';') then return else rules.take .fields

/-- Takes a variant of a data type. -/
def variant (rules : Rules) : Take Unit := do
  let _ ← attributes rules
  let _ ← skip visibility?
  need name?
  if ← sees (opening? .curly).starts then rules.take .fields
  else if ← sees (opening? .round).starts then tupleFields rules
  skipValue rules

/-- Takes a data type of variants after its word. -/
def enumItem (rules : Rules) : Take Unit := do
  need name?
  generics rules
  let _ ← conditions rules
  within .curly (listed (variant rules))

/-- Takes a data type with one place for all fields, after its word. -/
def unionItem (rules : Rules) : Take Unit := do
  need name?
  generics rules
  let _ ← conditions rules
  rules.take .fields

/-! ### Macro calls, imports and modules -/

/-- Takes a macro call as an item; where `named` is set, a name may follow its mark. -/
def callItem (named : Bool) : Take Unit := do
  if ← sees (word? "Self").starts then failure
  need plainPath?
  need (mark? '!')
  if named then
    let _ ← skip (wordWith? fun w => isName w || w == "try")
  let ended ← sees (opening? .curly).starts
  need anyGroup?
  if !ended then need (mark? ';')

/-- The rule of what an import names. -/
def importedRule (rules : Rules) (root : Bool) : Take Unit := do
  if ← skip (mark? '*') then return
  else if ← sees (opening? .curly).starts then
    within .curly <| listed do
      let rooted ← if root then skip colons? else pure false
      rules.take (.imported (root && !rooted))
  else
    need (wordWith? fun w => isName w || isFixedSegment w)
    if ← skip colons? then rules.take (.imported false) else skipRenaming

/-- Takes an import after its word. -/
def importItem (rules : Rules) : Take Unit := do
  let rooted ← skip colons?
  rules.take (.imported !rooted)
  need (mark? ';')

/-- Takes the import of a library after its words. -/
def libraryItem : Take Unit := do
  need (wordWith? fun w => isName w || w == "self")
  skipRenaming
  need (mark? ';')

/-- Takes items, in brackets with attributes of their own. -/
def members (rules : Rules) (item : Take Unit) : Take Unit :=
  within .curly do
    innerAttributes rules
    let _ ← many (!atEnd ·) do
      let _ ← attributes rules
      item

/-- Takes a module after its word. -/
def moduleItem (rules : Rules) : Take Unit := do
  need (wordWith? fun w => isName w || w == "try")
  if ← skip (mark? ';') then return else members rules (rules.take .item)

/-- Takes an item that is defined elsewhere. -/
def foreignMember (rules : Rules) : Take Unit := do
  let visible ← skip visibility?
  let ts ← get
  if startsSignature true ts then function rules true
  else if (word? "type").starts ts then typeItem rules .either
  else
    let marked := wordWith? fun w => w == "unsafe" || w == "safe"
    if (word? "static").starts ((marked ts).getD ts) then
      let _ ← skip marked
      staticItem rules true
    else if visible then failure
    else callItem false

/-- Takes items that are defined elsewhere. -/
def foreignItem (rules : Rules) : Take Unit := do
  callingConvention
  members rules (foreignMember rules)

/-! ### Traits and implementations -/

/-- Takes an item of a trait or of an implementation. -/
def associatedItem (rules : Rules) (plain : Bool) : Take Unit := do
  let ts ← get
  if startsSignature false ts then function rules false
  else if (word? "const").starts ts then constantItem rules
  else if (word? "type").starts ts then typeItem rules .after
  else if plain then callItem false
  else failure

/-- Takes an item of a trait. -/
def traitMember (rules : Rules) : Take Unit := do
  let visible ← skip visibility?
  let defaulted ← skip (word? "default")
  associatedItem rules (!visible && !defaulted)

/-- Takes an item of an implementation. -/
def implMember (rules : Rules) : Take Unit := do
  let visible ← skip visibility?
  let defaulted ← skip fun ts =>
    (word? "default" ts).bind fun rest => if (mark? '!').starts rest then none else some rest
  associatedItem rules (!visible && !defaulted)

/-- Takes a trait after its word; only where `synonym` is set may it stand for bounds. -/
def traitItem (rules : Rules) (synonym : Bool) : Take Unit := do
  need name?
  generics rules
  if synonym && (mark? '=').starts (← get) then
    need (mark? '=')
    let _ ← separated (mark? '+') endsBounds do
      let _ ← rules.take (.bound .object)
    let _ ← conditions rules
    need (mark? ';')
  else
    if ← skip (mark? ':') then memberBounds rules
    let _ ← conditions rules
    members rules (traitMember rules)

/-- Takes an implementation after its word. Only one of a trait may be negative. -/
def implItem (rules : Rules) : Take Unit := do
  if ← sees startsGenerics then generics rules
  let _ ← skip fun ts => word? "const" ((mark? '?' ts).getD ts)
  let negative ← skip fun ts =>
    (mark? '!' ts).bind fun rest => if (opening? .curly).starts rest then none else some rest
  let _ ← rules.take (.type true)
  if ← skip (word? "for") then
    let _ ← rules.take (.type true)
  else if negative then failure
  let _ ← conditions rules
  members rules (implMember rules)

/-! ### Items -/

/-- Whether an item starts here that no expression starts with. -/
def startsItem : List Token → Bool
  | .word w :: ts =>
    let next (words : List String) := (wordWith? words.contains).starts ts
    if w == "crate" then !colons?.starts ts
    else if w == "static" then next ["mut"] || name?.starts ts
    else if w == "const" then
      !((opening? .curly).starts ts || (mark? '|').starts ts || next ["static", "move"] ||
        (next ["async"] && !(wordWith? ["unsafe", "extern", "fn"].contains).starts (afterFirst ts)))
    else if w == "unsafe" then !(opening? .curly).starts ts
    else if w == "async" then next ["unsafe", "extern", "fn"]
    else if w == "union" then name?.starts ts
    else if w == "auto" then next ["trait"]
    else if w == "default" then next ["unsafe", "impl"]
    else ["pub", "extern", "use", "fn", "mod", "type", "struct", "enum", "trait", "impl",
      "macro"].contains w
  | _ => false

/-- Takes an item after its first word. -/
def namedItem (rules : Rules) (visible : Bool) (word : String) : Take Unit := do
  if word == "use" then importItem rules
  else if word == "mod" then moduleItem rules
  else if word == "struct" then structItem rules
  else if word == "enum" then enumItem rules
  else if word == "trait" then traitItem rules true
  else if word == "impl" then implItem rules
  else if word == "macro" then
    need name?
    let _ ← skip (group? .round)
    need (group? .curly)
  else if word == "unsafe" then
    if ← skip (word? "impl") then implItem rules
    else if ← skip (word? "mod") then moduleItem rules
    else if ← sees (word? "extern").starts then
      if visible then failure else foreignItem rules
    else
      let _ ← skip (word? "auto")
      need (word? "trait")
      traitItem rules false
  else failure

/-- The rule of items. -/
def itemRule (rules : Rules) : Take Unit := do
  let _ ← attributes rules
  let visible ← skip visibility?
  let ts ← get
  if startsSignature false ts then function rules false
  else
    match ts with
    | .word "extern" :: .word "crate" :: rest =>
      set rest
      libraryItem
    | .word "extern" :: _ => if visible then failure else foreignItem rules
    | .word "static" :: _ => staticItem rules false
    | .word "const" :: _ => constantItem rules
    | .word "type" :: _ => typeItem rules .before
    | .word "auto" :: .word "trait" :: rest =>
      set rest
      traitItem rules false
    | .word "default" :: rest =>
      if (mark? '!').starts rest then
        if visible then failure else callItem true
      else
        set rest
        let _ ← skip (word? "unsafe")
        need (word? "impl")
        implItem rules
    | .word "union" :: .word w :: rest =>
      if isName w then
        set (.word w :: rest)
        unionItem rules
      else failure
    | .word w :: rest =>
      if isName w || isPlace w then
        if visible then failure else callItem true
      else
        set rest
        namedItem rules visible w
    | _ => if visible then failure else callItem true

end AstForge.TypeExpr
