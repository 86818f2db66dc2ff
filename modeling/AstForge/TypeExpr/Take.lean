import AstForge.TypeExpr.Phrase

/-!
# Type expressions — taking tokens

A rule of the grammar takes tokens from the front of those that are left. It fails if they do not
start with what it takes; what it took so far is then given back to the rule around it.
-/

namespace AstForge.TypeExpr

/-- What takes tokens, with what matters of them. -/
abbrev Take := StateT (List Token) Option

namespace Take

/-- Takes a phrase. -/
def need (phrase : Phrase) : Take Unit := fun ts =>
  (phrase ts).map ((), ·)

/-- Takes a phrase if it is there, and tells whether it was. -/
def skip (phrase : Phrase) : Take Bool := fun ts =>
  match phrase ts with
  | some rest => some (true, rest)
  | none => some (false, ts)

/-- Whether the tokens have a property. -/
def sees (p : List Token → Bool) : Take Bool := fun ts =>
  some (p ts, ts)

/-- Takes brackets of one kind and what they hold. -/
def within {α : Type} (b : Bracket) (body : Take α) : Take α := do
  need (opening? b)
  let a ← body
  need (closing? b)
  return a

/-- Goes through `body` until it gives a result, at most as many times as is said. -/
def rounds {σ α : Type} (body : σ → Take (σ ⊕ α)) : Nat → σ → Take α
  | 0, _ => failure
  | n + 1, s => do
    match ← body s with
    | .inl s => rounds body n s
    | .inr a => return a

/-- Goes through `body` until it gives a result. Every round but the last takes a token, so the
tokens bound the rounds. -/
def loop {σ α : Type} (start : σ) (body : σ → Take (σ ⊕ α)) : Take α := fun ts =>
  rounds body (ts.length + 1) start ts

/-- Takes elements for as long as the tokens have a property. -/
def many {α : Type} (goesOn : List Token → Bool) (element : Take α) : Take (List α) :=
  loop [] fun found => do
    if goesOn (← get) then return .inl ((← element) :: found)
    else return .inr found.reverse

/-- Takes elements with a separator between them, until the tokens have a property or a separator is
missing; tells how many there are. A last separator may stand alone. -/
def separated (separator : Phrase) (stops : List Token → Bool) (element : Take Unit) : Take Nat :=
  loop 0 fun count => do
    if stops (← get) then return .inr count
    else
      element
      if ← skip separator then return .inl (count + 1) else return .inr (count + 1)

/-- Takes elements with commas between them, up to a closing bracket. -/
def listed (element : Take Unit) : Take Unit := do
  let _ ← separated (mark? ',') atEnd element

end Take

end AstForge.TypeExpr
