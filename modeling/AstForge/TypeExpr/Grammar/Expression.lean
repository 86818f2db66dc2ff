import AstForge.TypeExpr.Grammar.Pattern

/-!
# Grammar — expressions

An expression is a chain of operands with operators between them. An operand is an atom with signs
before it and with members, calls and indices after it.
-/

namespace AstForge.TypeExpr

open Take

/-- Takes expressions with commas between them. -/
def expressionList (rules : Rules) : Take Unit :=
  listed (rules.take (.expression true))

/-! ### Operators -/

/-- The operators that a chain takes. -/
inductive Strength where
  /-- All operators. -/
  | whole
  /-- No assignment and no range: the end of a range. -/
  | bound
  /-- Comparisons and what binds tighter: what a pattern is matched with. -/
  | compared
  deriving DecidableEq

/-- What matters of a chain so far. -/
structure Chain where
  /-- It is a comparison, which another one may not follow. -/
  compared : Bool
  /-- It ends with a range that is compared, so that an operator applies to the comparison. -/
  closed : Bool

/-- The chain after an operator that binds tighter than a comparison. -/
def Chain.tighten (c : Chain) : Chain :=
  ⟨c.compared && !c.closed, false⟩

/-- Takes the operators that follow an operand, with their operands; a range stops the chain.
`rangeEnd` takes what follows the mark of a range. -/
def operations (rules : Rules) (braces : Bool) (strength : Strength) (first : OperandForm)
    (rangeEnd : RangeMark → Take Unit) : Take Unit :=
  if first = .range then return
  else loop (⟨false, false⟩ : Chain) fun chain => do
    let ts ← get
    match operator? ts, range? ts with
    | some (.assignment, rest), _ =>
      if strength ≠ .whole then return .inr ()
      set rest
      rules.take (.expression braces)
      return .inl ⟨false, false⟩
    | some (.comparison, rest), _ =>
      if chain.compared then failure
      set rest
      let form ← rules.take (.operand braces)
      return .inl ⟨true, form == .range⟩
    | some (.logical, rest), _ =>
      if strength = .compared then return .inr ()
      set rest
      let _ ← rules.take (.operand braces)
      return .inl ⟨false, false⟩
    | some (.arithmetic, rest), _ =>
      set rest
      let _ ← rules.take (.operand braces)
      return .inl chain.tighten
    | none, some (mark, rest) =>
      if strength ≠ .whole then return .inr ()
      set rest
      rangeEnd mark
      return .inr ()
    | none, none =>
      if ← skip (word? "as") then
        let _ ← rules.take (.type false)
        return .inl chain.tighten
      else return .inr ()

/-- Takes the end of a range, which only a half-open one may lack. -/
def rangeEnd (rules : Rules) (braces : Bool) (mark : RangeMark) : Take Unit := do
  if mark = .dotted then failure
  if mark = .halfOpen && lacksRangeEnd braces (← get) then return
  let first ← rules.take (.operand braces)
  operations rules braces .bound first fun _ => failure

/-- Takes the operators that follow an operand, with their operands. -/
def chain (rules : Rules) (braces : Bool) (strength : Strength) (first : OperandForm) : Take Unit :=
  operations rules braces strength first (rangeEnd rules braces)

/-- The rule of expressions. -/
def expressionRule (rules : Rules) (braces : Bool) : Take Unit := do
  let first ← rules.take (.operand braces)
  chain rules braces .whole first

/-! ### Members, calls and indices -/

/-- Takes a member of a value after its point, or a call of one. -/
def memberRest (rules : Rules) : Take Unit := do
  if ← skip (word? "await") then return
  let named ← sees name?.starts
  need member?
  if named && colons?.starts (← get) then
    need colons?
    let _ ← arguments rules
    within .round (expressionList rules)

/-- Takes what follows a point. A number with points names a member of a member; if it ends with a
point, another member follows. -/
def member (rules : Rules) : Take Unit := do
  match ← get with
  | .number text :: rest =>
    if text.toList.contains '.' then
      let parts := (text.splitOn ".").map String.toList
      let pending := parts.getLast? == some []
      if (if pending then parts.dropLast else parts).all isMemberIndex then
        set rest
        if pending then memberRest rules
      else failure
    else memberRest rules
  | _ => memberRest rules

/-- Takes the members, calls and indices that follow an atom. -/
def trailers (rules : Rules) : Take Unit :=
  loop () fun _ => do
    let ts ← get
    if (opening? .round).starts ts then
      within .round (expressionList rules)
      return .inl ()
    else if (opening? .square).starts ts then
      within .square (rules.take (.expression true))
      return .inl ()
    else if ← skip point? then
      member rules
      return .inl ()
    else if ← skip (mark? '?') then return .inl ()
    else return .inr ()

/-! ### Closures -/

/-- Whether a closure starts here. -/
def startsClosure : List Token → Bool
  | .mark '|' _ :: _ => true
  | .word "for" :: .mark '<' _ :: .lifetime :: _
  | .word "for" :: .mark '<' _ :: .mark '>' _ :: _ => true
  | .word "const" :: ts => !(opening? .curly).starts ts
  | .word "async" :: ts => (mark? '|').starts ts || (word? "move").starts ts
  | .word w :: _ => w == "move" || w == "static"
  | _ => false

/-- Takes the parameter of a closure. -/
def closureParameter (rules : Rules) : Take Unit := do
  let _ ← attributes rules
  let _ ← rules.take .pattern
  if ← skip (mark? ':') then
    let _ ← rules.take (.type true)

/-- Takes a closure; one that names its result has a block for its body. -/
def closure (rules : Rules) (braces : Bool) : Take Unit := do
  let _ ← skipBinder rules
  let _ ← skip (word? "const")
  let _ ← skip (word? "static")
  let _ ← skip (word? "async")
  let _ ← skip (word? "move")
  need (mark? '|')
  let _ ← separated (mark? ',') (mark? '|').starts (closureParameter rules)
  need (mark? '|')
  if ← skip arrow? then
    let _ ← rules.take (.type true)
    plainBlock rules
  else rules.take (.expression braces)

/-! ### Values -/

/-- Takes the value of a part: the part and an expression, or a name that is both. -/
def partValue (rules : Rules) : Take Unit := do
  let _ ← attributes rules
  let named ← sees name?.starts
  need member?
  if !named || (mark? ':').starts (← get) then
    need (mark? ':')
    rules.take (.expression true)

/-- Takes the values of the parts of a value; the others may come from another value. -/
def partValues (rules : Rules) : Take Unit :=
  loop () fun _ => do
    if ← sees atEnd then return .inr ()
    else if ← skip span? then
      if ← sees atEnd then return .inr ()
      rules.take (.expression true)
      return .inr ()
    else
      partValue rules
      if ← skip (mark? ',') then return .inl () else return .inr ()

/-- Takes a path, a macro call, or a value with its parts. -/
def pathExpression (rules : Rules) (braces : Bool) : Take Unit := do
  let plain ← anyPath rules true
  let ts ← get
  if plain && bang?.starts ts then
    need bang?
    need anyGroup?
  else if braces && (opening? .curly).starts ts then within .curly (partValues rules)

/-- Takes an array: its elements, or one element and how often it stands there. -/
def arrayExpression (rules : Rules) : Take Unit :=
  within .square do
    if ← sees atEnd then return
    rules.take (.expression true)
    if ← skip (mark? ';') then rules.take (.expression true)
    else if ← skip (mark? ',') then expressionList rules

/-! ### Atoms -/

/-- Whether an expression that ends with a block starts here. -/
def startsBlockExpression : List Token → Bool
  | .opening .curly :: _ | .lifetime :: _ => true
  | .word "for" :: ts => !startsClosure (.word "for" :: ts)
  | .word w :: ts =>
    w == "if" || w == "while" || w == "loop" || w == "match" || w == "unsafe" ||
      ((w == "try" || w == "const") && (opening? .curly).starts ts)
  | _ => false

/-- Takes an expression that starts with a word of the language. -/
def wordExpression (rules : Rules) (braces : Bool) (word : String) : Take Unit := do
  need (word? word)
  if word == "_" then return
  else if word == "break" then
    if ← skip lifetime? then
      if ← sees (mark? ':').starts then failure
    let ts ← get
    if startsExpression ts && (braces || !(opening? .curly).starts ts) then
      rules.take (.expression braces)
  else if word == "continue" then
    let _ ← skip lifetime?
  else if word == "return" || word == "yield" then
    if ← sees startsExpression then rules.take (.expression true)
  else if word == "become" then rules.take (.expression true)
  else if word == "let" then
    let _ ← patterns rules
    need (mark? '=')
    let first ← rules.take (.operand braces)
    chain rules braces .compared first
  else if word == "async" then
    let _ ← skip (word? "move")
    plainBlock rules
  else failure

/-- Whether a block that runs apart starts here. -/
def startsAsyncBlock : List Token → Bool
  | .word "async" :: .opening .curly :: _
  | .word "async" :: .word "move" :: .opening .curly :: _ => true
  | _ => false

/-- Whether a path starts here. -/
def startsPathExpression : List Token → Bool
  | .mark '<' _ :: _ => true
  | .word w :: ts =>
    startsPath w || (w == "try" && ((mark? '!').starts ts || colons?.starts ts))
  | ts => colons?.starts ts

/-- Takes an atom that is neither a range nor ends with a block. -/
def atom (rules : Rules) (braces : Bool) : Take Unit := do
  let ts ← get
  if literal?.starts ts then need literal?
  else if startsClosure ts && !startsAsyncBlock ts then closure rules braces
  else if startsBuiltin ts then need builtin?
  else if startsPathExpression ts then pathExpression rules braces
  else
    match ts with
    | .opening .round :: _ => within .round (expressionList rules)
    | .opening .square :: _ => arrayExpression rules
    | .word w :: _ => wordExpression rules braces w
    | _ => failure

/-- Takes an operand after its attributes. -/
def operandRest (rules : Rules) (braces : Bool) : Take OperandForm := do
  let ts ← get
  match ts, range? ts with
  | _, some (mark, rest) =>
    set rest
    rangeEnd rules braces mark
    return .range
  | .mark '&' _ :: rest, _ =>
    set rest
    let _ ← skip fun ts => (word? "raw" ts).bind (wordWith? fun w => w == "const" || w == "mut")
    let _ ← skip (word? "mut")
    let _ ← rules.take (.operand braces)
    return .other
  | .mark '*' _ :: rest, _ | .mark '!' _ :: rest, _ | .mark '-' _ :: rest, _ =>
    set rest
    let _ ← rules.take (.operand braces)
    return .other
  | _, _ =>
    if startsBlockExpression ts then rules.take .blockExpression else atom rules braces
    trailers rules
    return .other

/-- The rule of operands. Attributes may not stand before a range. -/
def operandRule (rules : Rules) (braces : Bool) : Take OperandForm := do
  let attributed ← attributes rules
  let form ← operandRest rules braces
  if attributed && form == .range then failure else return form

end AstForge.TypeExpr
