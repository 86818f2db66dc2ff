import AstForge.TypeExpr.Lexer

/-!
# Type expressions — words, marks and short phrases

A phrase is a part of the grammar that holds no type and no expression. It takes tokens from the
front of a list and gives what is left of it, or `none` if the list does not start with it.
-/

namespace AstForge.TypeExpr

/-- What takes tokens from the front of a list and gives the others. -/
abbrev Phrase := List Token → Option (List Token)

/-- Whether a list of tokens starts with a phrase. -/
def Phrase.starts (phrase : Phrase) (ts : List Token) : Bool :=
  (phrase ts).isSome

/-! ### Words -/

/-- The words that name nothing. -/
def reservedWords : List String :=
  ["_", "abstract", "as", "async", "await", "become", "box", "break", "const", "continue", "crate",
   "do", "dyn", "else", "enum", "extern", "false", "final", "fn", "for", "if", "impl", "in", "let",
   "loop", "macro", "match", "mod", "move", "mut", "override", "priv", "pub", "ref", "return",
   "Self", "self", "static", "struct", "super", "trait", "true", "try", "type", "typeof", "unsafe",
   "unsized", "use", "virtual", "where", "while", "yield"]

/-- Whether a word is a name. -/
def isName (word : String) : Bool :=
  !reservedWords.contains word

/-- Whether a word stands for a place that a path may start from. -/
def isPlace (word : String) : Bool :=
  word == "super" || word == "self" || word == "crate"

/-- Whether a word may start a path that is a type. -/
def startsPath (word : String) : Bool :=
  isName word || isPlace word || word == "Self"

/-- Whether a word is a segment that takes no arguments. -/
def isFixedSegment (word : String) : Bool :=
  isPlace word || word == "try"

/-- Whether a word starts the type of a function. -/
def startsFunction (word : String) : Bool :=
  word == "fn" || word == "unsafe" || word == "extern"

/-- Takes a word that has a property. -/
def wordWith? (p : String → Bool) : Phrase
  | .word w :: ts => if p w then some ts else none
  | _ => none

/-- Takes the word `word`. -/
def word? (word : String) : Phrase :=
  wordWith? (· == word)

/-- Takes a name. -/
def name? : Phrase :=
  wordWith? isName

/-- Takes a name or a blank. -/
def nameOrBlank? : Phrase :=
  wordWith? fun w => isName w || w == "_"

/-- Takes a lifetime. -/
def lifetime? : Phrase
  | .lifetime :: ts => some ts
  | _ => none

/-! ### Marks -/

/-- Takes the mark `c`. -/
def mark? (c : Char) : Phrase
  | .mark d _ :: ts => if c == d then some ts else none
  | _ => none

/-- Takes marks that follow each other at once. -/
def marks? : List Char → Phrase
  | [], ts => some ts
  | [c], ts => mark? c ts
  | c :: cs, .mark d true :: ts => if c == d then marks? cs ts else none
  | _, _ => none

/-- Takes a mark that is not the start of one of the `longer` marks. -/
def markOutside? (c : Char) (longer : List (List Char)) : Phrase := fun ts =>
  if longer.any fun marks => (marks? marks).starts ts then none else mark? c ts

/-- Takes the mark `::`. -/
def colons? : Phrase :=
  marks? [':', ':']

/-- Takes the mark `->`. -/
def arrow? : Phrase :=
  marks? ['-', '>']

/-- Takes the mark `..`. -/
def span? : Phrase :=
  marks? ['.', '.']

/-- Takes the mark `...`. -/
def dots? : Phrase :=
  marks? ['.', '.', '.']

/-- Takes a colon that is not the first of `::`. -/
def colon? : Phrase :=
  markOutside? ':' [[':', ':']]

/-- Takes an equals sign that is the start neither of `==` nor of `=>`. -/
def equals? : Phrase :=
  markOutside? '=' [['=', '='], ['=', '>']]

/-- Takes an exclamation mark that is not the first of `!=`. -/
def bang? : Phrase :=
  markOutside? '!' [['!', '=']]

/-- Takes a point that is not the first of `..`. -/
def point? : Phrase :=
  markOutside? '.' [['.', '.']]

/-- Takes a `<` that is the start neither of `<=` nor of `<<=`. -/
def angle? : Phrase :=
  markOutside? '<' [['<', '='], ['<', '<', '=']]

/-- Takes a bar between two patterns. -/
def bar? : Phrase :=
  markOutside? '|' [['|', '|'], ['|', '=']]

/-! ### Brackets -/

/-- Takes an opening bracket. -/
def opening? (b : Bracket) : Phrase
  | .opening d :: ts => if b == d then some ts else none
  | _ => none

/-- Takes a closing bracket. -/
def closing? (b : Bracket) : Phrase
  | .closing d :: ts => if b == d then some ts else none
  | _ => none

/-- Whether no token is left before the bracket that closes around here. -/
def atEnd : List Token → Bool
  | [] | .closing _ :: _ => true
  | _ => false

/-- Takes tokens up to the bracket that closes the outermost of `depth` open ones. -/
def groupEnd? (depth : Nat) : Phrase
  | [] => none
  | .opening _ :: ts => groupEnd? (depth + 1) ts
  | .closing _ :: ts => if depth ≤ 1 then some ts else groupEnd? (depth - 1) ts
  | _ :: ts => groupEnd? depth ts

/-- Takes a bracket of one kind and all tokens up to the one that closes it. -/
def group? (b : Bracket) : Phrase
  | .opening d :: ts => if b == d then groupEnd? 1 ts else none
  | _ => none

/-- Takes a bracket and all tokens up to the one that closes it. -/
def anyGroup? : Phrase
  | .opening _ :: ts => groupEnd? 1 ts
  | _ => none

/-- What follows the first token, or the first bracket with all that it holds. -/
def afterFirst : List Token → List Token
  | .opening _ :: ts => (groupEnd? 1 ts).getD []
  | .closing b :: ts => .closing b :: ts
  | _ :: ts => ts
  | [] => []

/-! ### Literals -/

/-- Takes a literal; a number may have a sign. -/
def literal? : Phrase
  | .text :: ts | .number _ :: ts | .literal :: ts | .mark '-' _ :: .number _ :: ts => some ts
  | .word w :: ts => if w == "true" || w == "false" then some ts else none
  | _ => none

/-- Takes a string. -/
def text? : Phrase
  | .text :: ts => some ts
  | _ => none

/-- Takes the place of a member. -/
def index? : Phrase
  | .number text :: ts => if isMemberIndex text.toList then some ts else none
  | _ => none

/-- Takes the name or the place of a member. -/
def member? : Phrase := fun ts =>
  (name? ts).or (index? ts)

/-! ### Paths without arguments -/

/-- Takes words that have a property, with `::` between them. -/
def segmentsWith? (p : String → Bool) : Phrase
  | .word w :: .mark ':' true :: .mark ':' _ :: ts => if p w then segmentsWith? p ts else none
  | .word w :: ts => if p w then some ts else none
  | _ => none

/-- Takes a path without arguments, whose words have a property. -/
def pathWith? (p : String → Bool) : Phrase := fun ts =>
  segmentsWith? p ((colons? ts).getD ts)

/-- Takes a path without arguments. -/
def plainPath? : Phrase :=
  pathWith? startsPath

/-- Takes the path that names an attribute. -/
def attributeName? : Phrase
  | .word "unsafe" :: ts => some ts
  | ts => plainPath? ts

/-- Takes a call of what the language builds in, with all that its parenthesis holds. -/
def builtin? : Phrase
  | .word "builtin" :: .mark '#' _ :: .word w :: ts => if isName w then group? .round ts else none
  | _ => none

/-- Whether a call of what the language builds in starts here. -/
def startsBuiltin : List Token → Bool
  | .word "builtin" :: .mark '#' _ :: _ => true
  | _ => false

/-! ### Operators -/

/-- A kind of operator between two operands. -/
inductive Operator where
  | arithmetic
  | comparison
  | logical
  | assignment

/-- The operators; one that starts another comes after it. -/
def operators : List (String × Operator) :=
  [("<<=", .assignment), (">>=", .assignment), ("+=", .assignment), ("-=", .assignment),
   ("*=", .assignment), ("/=", .assignment), ("%=", .assignment), ("^=", .assignment),
   ("&=", .assignment), ("|=", .assignment), ("&&", .logical), ("||", .logical),
   ("<<", .arithmetic), (">>", .arithmetic), ("==", .comparison), ("<=", .comparison),
   ("!=", .comparison), (">=", .comparison), ("+", .arithmetic), ("-", .arithmetic),
   ("*", .arithmetic), ("/", .arithmetic), ("%", .arithmetic), ("^", .arithmetic),
   ("&", .arithmetic), ("|", .arithmetic), ("<", .comparison), (">", .comparison)]

/-- Takes an operator. -/
def operator? (ts : List Token) : Option (Operator × List Token) :=
  match operators.findSome? fun (text, kind) => (marks? text.toList ts).map (kind, ·) with
  | some r => some r
  | none => (equals? ts).map (.assignment, ·)

/-- How a range is written. -/
inductive RangeMark where
  /-- `..`, after which the end may be missing. -/
  | halfOpen
  /-- `..=`. -/
  | closed
  /-- `...`, which stands in patterns only. -/
  | dotted
  deriving DecidableEq

/-- Takes the mark of a range. -/
def range? (ts : List Token) : Option (RangeMark × List Token) :=
  match marks? ['.', '.', '='] ts, dots? ts, span? ts with
  | some rest, _, _ => some (.closed, rest)
  | none, some rest, _ => some (.dotted, rest)
  | none, none, rest => rest.map (.halfOpen, ·)

/-- Whether an expression may start here. -/
def startsExpression : List Token → Bool
  | .word w :: _ => w != "as"
  | .opening _ :: _ | .lifetime :: _ | .mark '#' _ :: _ => true
  | ts =>
    literal?.starts ts || bang?.starts ts || span?.starts ts || angle?.starts ts ||
      colons?.starts ts || (markOutside? '-' [['-', '='], ['-', '>']]).starts ts ||
      (markOutside? '*' [['*', '=']]).starts ts || (markOutside? '|' [['|', '=']]).starts ts ||
      (markOutside? '&' [['&', '=']]).starts ts

/-- Whether the end of a range is missing here. A bracket of a block is no end where `braces` is not
set. -/
def lacksRangeEnd (braces : Bool) : List Token → Bool
  | [] | .closing _ :: _ => true
  | .opening .curly :: _ => !braces
  | .word w :: _ => w == "as"
  | .mark c joint :: ts =>
    [',', ';', '?', '=', '+', '/', '%', '^', '>'].contains c ||
      point?.starts (.mark c joint :: ts) ||
      [['<', '='], ['!', '='], ['-', '='], ['*', '='], ['&', '='], ['|', '='], ['<', '<', '=']].any
        fun marks => (marks? marks).starts (.mark c joint :: ts)
  | _ => false

end AstForge.TypeExpr
