import AstForge.Text.Blank
import AstForge.TypeExpr.Literal

/-!
# Type expressions — from a text to tokens

Blanks and comments separate tokens. A comment runs from `//` to the end of its line or from `/*`
to the `*/` that closes it, and comments of the second kind nest. A comment that documents what
follows is read as an attribute. A character that starts no token makes the text unreadable, and so
does a comment that is not closed.
-/

namespace AstForge.TypeExpr

open Text

/-- Whether `c` separates tokens: a blank, or a mark of the direction of writing. -/
def isSeparator (c : Char) : Bool :=
  isBlank c || c == '\u200e' || c == '\u200f'

/-- Whether `c` is a mark. -/
def isMark (c : Char) : Bool :=
  "~!@#$%^&*-=+|;:,<.>/?'".toList.contains c

/-- Whether a text starts with a mark; the `/` of a comment is none. -/
def startsMark : List Char → Bool
  | '/' :: '/' :: _ | '/' :: '*' :: _ | [] => false
  | c :: _ => isMark c

/-- What follows a nested comment, read from inside `depth` open ones. -/
def commentEnd (depth : Nat) : List Char → Option (List Char)
  | '/' :: '*' :: cs => commentEnd (depth + 1) cs
  | '*' :: '/' :: cs => if depth ≤ 1 then some cs else commentEnd (depth - 1) cs
  | _ :: cs => commentEnd depth cs
  | [] => none

/-- Whether a carriage return stands before something other than a line feed. -/
def hasStrayReturn : List Char → Bool
  | '\r' :: '\n' :: cs => hasStrayReturn cs
  | '\r' :: _ => true
  | _ :: cs => hasStrayReturn cs
  | [] => false

/-- The attribute of a documenting comment; a stray carriage return in its text makes it
unreadable. -/
def documented? (inner : Bool) (body : List Char) : Option (List Token) :=
  if hasStrayReturn body then none else some (documentation inner)

/-- The tokens of a comment, given its text after the two characters that open it and the text that
closes it: its attribute if it documents something, or none. The second character that opens it,
once more and not twice, makes it document what follows. -/
def comment? (opener : Char) (closer : List Char) : List Char → Option (List Token)
  | '!' :: body => documented? true body
  | c :: body =>
    if c == opener && (body ++ closer).head? != some opener then documented? false body
    else some []
  | [] => some []

/-- What follows a `//` on its line. A carriage return before the line feed is no part of it. -/
def lineBody : List Char → List Char
  | '\r' :: '\n' :: _ | '\n' :: _ | [] => []
  | c :: cs => c :: lineBody cs

/-- Whether a lifetime starts after a quote. A quote or a lone `#` after its name makes it
unreadable. -/
def startsLifetime (cs : List Char) : Bool :=
  match readName cs with
  | some (word, rest) =>
    rest.head? != some '\'' && (rest.head? != some '#' || "r#".toList.isPrefixOf word.toList)
  | none => false

/-- The starts of literals that no word may have. -/
def literalStarts : List String :=
  ["r\"", "r#\"", "r##", "b\"", "b'", "br\"", "br#", "c\"", "cr\"", "cr#"]

/-- Reads the bracket that is `c`. -/
def bracket? (c : Char) : Option Token :=
  if c == '(' then some (.opening .round)
  else if c == ')' then some (.closing .round)
  else if c == '[' then some (.opening .square)
  else if c == ']' then some (.closing .square)
  else if c == '\x7b' then some (.opening .curly)
  else if c == '\x7d' then some (.closing .curly)
  else none

/-- Reads a mark or a word. -/
def readMarkOrWord (cs : List Char) : Option (Token × List Char) :=
  match cs with
  | [] => none
  | '\'' :: rest => if startsLifetime rest then some (.quote, rest) else none
  | c :: rest =>
    if startsMark cs then some (.mark c (startsMark rest), rest)
    else if literalStarts.any fun start => start.toList.isPrefixOf cs then none
    else (readName cs).map fun w => (.word w.1, w.2)

/-- The text of a literal that could not be written. -/
def unwritable : List Char := "(/*ERROR*/)".toList

/-- Reads the token that a text starts with. -/
def readToken (cs : List Char) : Option (Token × List Char) :=
  match cs with
  | [] => none
  | c :: rest =>
    if unwritable.isPrefixOf cs then some (.literal, cs.drop unwritable.length)
    else match bracket? c with
      | some token => some (token, rest)
      | none => (readLiteral cs).or (readMarkOrWord cs)

/-- Reads a comment up to the end of its line, after the `//` that opens it. -/
def readLineComment (cs : List Char) : Option (List Token × List Char) :=
  (comment? '/' [] (lineBody cs)).map (·, cs.dropWhile (· != '\n'))

/-- Reads a nested comment after the `/*` that opens it. -/
def readBlockComment (cs : List Char) : Option (List Token × List Char) :=
  (commentEnd 1 cs).bind fun after =>
    (comment? '*' ['*', '/'] (cs.take (cs.length - after.length - 2))).map (·, after)

/-- Reads a separator or a token. -/
def readSeparatorOrToken (cs : List Char) : Option (List Token × List Char) :=
  if cs.head?.any isSeparator then some ([], cs.tail)
  else (readToken cs).map fun p => ([p.1], p.2)

/-- Reads a comment, a separator or a token, with the tokens that it stands for. -/
def readPiece : List Char → Option (List Token × List Char)
  | '/' :: '/' :: cs => readLineComment cs
  | '/' :: '*' :: cs => readBlockComment cs
  | cs => readSeparatorOrToken cs

/-- The tokens of a text; `fuel` bounds the number of steps. -/
def tokensWithin : (fuel : Nat) → List Char → Option (List Token)
  | 0, _ => none
  | _ + 1, [] => some []
  | n + 1, cs => (readPiece cs).bind fun p => (tokensWithin n p.2).map (p.1 ++ ·)

/-- A text without the byte order mark at its start. -/
def dropByteOrderMark : List Char → List Char
  | '\ufeff' :: cs => cs
  | cs => cs

/-- The tokens of a text. Each step reads a character, so the length of the text bounds them. A
byte order mark at the start is skipped. -/
def tokens? (s : String) : Option (List Token) :=
  let cs := dropByteOrderMark s.toList
  (tokensWithin (cs.length + 1) cs).map joinLifetimes

end AstForge.TypeExpr
