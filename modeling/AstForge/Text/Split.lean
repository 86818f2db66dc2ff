/-!
# Text — cutting a text at its separators

* `splitFirst p` cuts at the first separator, `splitLast p` at the last; the separator is dropped.
* `lines` cuts at line feeds and drops the carriage return of a line that a line feed ends.
-/

namespace AstForge.Text

/-- The parts before and after the first character with `p`. -/
def splitFirst (p : Char → Bool) : List Char → Option (List Char × List Char)
  | [] => none
  | c :: cs =>
    if p c then some ([], cs) else (splitFirst p cs).map fun s => (c :: s.1, s.2)

/-- The parts before and after the last character with `p`. -/
def splitLast (p : Char → Bool) : List Char → Option (List Char × List Char)
  | [] => none
  | c :: cs =>
    match splitLast p cs with
    | some (l, r) => some (c :: l, r)
    | none => if p c then some ([], cs) else none

/-- `cs` without one final carriage return. -/
def dropReturn (cs : List Char) : List Char :=
  if cs.getLast? == some '\r' then cs.dropLast else cs

/-- The lines among the pieces between line feeds: all pieces but the last were ended by a line
feed, and the last is a line only if it holds something. -/
def endedLines : List (List Char) → List (List Char)
  | [] => []
  | [final] => if final.isEmpty then [] else [final]
  | piece :: rest => dropReturn piece :: endedLines rest

/-- The lines of a text. -/
def lines (cs : List Char) : List (List Char) :=
  endedLines (cs.splitOn '\n')

end AstForge.Text
