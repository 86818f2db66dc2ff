import AstForge.Log
import AstForge.Text.Blank
import AstForge.Text.Property.Alphanumeric

/-!
# The log — directives

A directive says which events are shown of the sources whose name starts with a given text, or of
all sources:

* `info` shows what matters at least as much as `info`, from every source;
* `name=info` does so for the sources that start with `name`;
* `name` and `name=` show everything from them.

Between the name and the level a bracket may narrow a directive: `name[span]=info` is about the
events within a span of work, `name[{part}]=info` about those that have a part, and
`name[{part=value}]=info` about those within a span in which the part has a value. No event of
this program is told within a span.

A level may be written in capitals, or as a number from 0, which shows nothing, to 5, which shows
everything.

Blanks around a directive do not matter for what it is, and yet its pieces are cut out of the whole
text, blanks included, at the places that they have in the text without blanks.
-/

namespace AstForge

open Text

/-- Which events are shown of some sources. -/
structure Directive where
  /-- What the names of the sources start with. -/
  source : String
  /-- The part that an event must have, if one is named. -/
  part : Option String
  /-- It is about the events within some span. -/
  spanned : Bool
  /-- The highest rank of the levels that are shown. -/
  rank : Nat
  deriving DecidableEq

/-- Why a directive cannot be read. -/
inductive DirectiveError where
  | malformed
  | unknownLevel
  deriving DecidableEq

/-- The text of a cause. -/
def DirectiveError.message : DirectiveError → String
  | .malformed => "invalid filter directive"
  | .unknownLevel =>
    "error parsing level filter: expected one of \"off\", \"error\", \"warn\", \"info\", " ++
      "\"debug\", \"trace\", or a number 0-5"

/-! ### Levels -/

/-- Reads a level, or `off`, as the rank that it shows. -/
def rank? (s : String) : Option Nat :=
  let digits := if s.toList.head? == some '+' then s.toList.tail else s.toList
  if !digits.isEmpty && digits.all Char.isDigit then
    let n := Nat.ofDigitChars 10 digits 0
    if n ≤ Level.trace.rank then some n else none
  else
    let upper := String.ofList (s.toList.map Char.toUpper)
    if upper == "OFF" then some 0 else (Level.all.find? (·.name == upper)).map Level.rank

/-- Reads the level at the end of a directive; a missing one shows everything. -/
def Directive.leveled (d : Directive) (level : String) : Except DirectiveError Directive :=
  if level.isEmpty then .ok { d with rank := Level.trace.rank }
  else match rank? level with
    | some rank => .ok { d with rank := rank }
    | none => .error .unknownLevel

/-! ### Places -/

/-- The characters of a text with their places, counted in bytes from `start`. -/
def places (start : Nat) : List Char → List (Nat × Char)
  | [] => []
  | c :: cs => (start, c) :: places (start + c.utf8Size) cs

/-- The first place whose character has `p`, that character, and the places after it. -/
def seek (p : Char → Bool) : List (Nat × Char) → Option (Nat × Char × List (Nat × Char))
  | [] => none
  | (n, c) :: rest => if p c then some (n, c, rest) else seek p rest

/-- A text without its first `n` bytes. -/
def dropBytes : Nat → List Char → List Char
  | 0, cs => cs
  | _, [] => []
  | n, c :: cs => dropBytes (n - c.utf8Size) cs

/-- The first `n` bytes of a text. -/
def takeBytes : Nat → List Char → List Char
  | 0, _ => []
  | _, [] => []
  | n, c :: cs => c :: takeBytes (n - c.utf8Size) cs

/-- The piece of a text between two places. -/
def piece (s : String) (first last : Nat) : String :=
  String.ofList (takeBytes (last - first) (dropBytes first s.toList))

/-- The piece of a text from a place on. -/
def pieceFrom (s : String) (first : Nat) : String :=
  String.ofList (dropBytes first s.toList)

namespace Directive

/-! ### Reading -/

/-- Whether a directive may start with `c`. -/
def mayStart (c : Char) : Bool :=
  isAlphanumeric c || c == '-' || c == ':' || c == '_'

/-- Reads what follows the bracket of a directive. -/
def parseEnd (s : String) (d : Directive) : List (Nat × Char) → Except DirectiveError Directive
  | [] => .ok d
  | (n, '=') :: _ => d.leveled (pieceFrom s (n + 1))
  | _ => .error .malformed

/-- Reads the part that a bracket names, from a place on. -/
def parsePart (s : String) (d : Directive) (first : Nat) (rest : List (Nat × Char)) :
    Except DirectiveError Directive :=
  match seek (· == '\x7d') rest with
  | some (n, _, (_, ']') :: rest) =>
    let text := piece s first n
    if text.isEmpty then .error .malformed
    else if text.toList.contains '=' then parseEnd s { d with spanned := true } rest
    else parseEnd s { d with part := some text } rest
  | _ => .error .malformed

/-- Reads what a bracket holds, from a place on. -/
def parseBracket (s : String) (d : Directive) (first : Nat) (rest : List (Nat × Char)) :
    Except DirectiveError Directive :=
  match seek (fun c => c == ']' || c == '\x7b') rest with
  | none => .error .malformed
  | some (_, ']', rest) => parseEnd s { d with spanned := true } rest
  | some (n, _, rest) =>
    parsePart s { d with spanned := !(piece s first n).isEmpty } (n + 1) rest

/-- Reads a directive. -/
def parse (s : String) : Except DirectiveError Directive :=
  let whole : Directive := ⟨"", none, false, Level.trace.rank⟩
  match places 0 (trim s.toList) with
  | [] => .error .malformed
  | (_, '[') :: rest => parseBracket s whole 1 rest
  | (_, c) :: rest =>
    if !mayStart c then .error .malformed
    else match seek (fun c => c == '=' || c == '[') rest with
      | none =>
        match rank? s with
        | some rank => .ok { whole with rank := rank }
        | none => .ok { whole with source := s }
      | some (n, '=', _) => { whole with source := piece s 0 n }.leveled (pieceFrom s (n + 1))
      | some (n, _, rest) => parseBracket s { whole with source := piece s 0 n } (n + 1) rest

/-! ### Choosing -/

/-- Whether a directive decides about an event. -/
def covers (d : Directive) (e : Event) : Bool :=
  !d.spanned && d.part.all Event.parts.contains && d.source.toList.isPrefixOf e.source.toList

/-- Whether a directive decides rather than another one that covers the same event and is read
before it: it says as much about the source, and as much about parts. -/
def atLeast (d other : Directive) : Bool :=
  other.source.length < d.source.length ||
    (other.source.length == d.source.length && (d.part.isSome || other.part.isNone))

end Directive

end AstForge
