import AstForge.Text.Property.NameContinue
import AstForge.TypeExpr.Token

/-!
# Type expressions — words and literals

How a word, a string, a character and a number are read from the start of a text. Each reader gives
what is left of the text, and `none` if the text does not start with what it reads.
-/

namespace AstForge.TypeExpr

open Text

/-! ### Words -/

/-- Whether `c` may start a word. -/
def isWordStart (c : Char) : Bool :=
  c == '_' || isNameStart c

/-- Whether `c` may continue a word. -/
def isWordRest (c : Char) : Bool :=
  isNameContinue c

/-- Reads a word. -/
def readWord : List Char → Option (String × List Char)
  | [] => none
  | c :: cs =>
    if isWordStart c then
      some (String.ofList (c :: cs.takeWhile isWordRest), cs.dropWhile isWordRest)
    else none

/-- The words that have no raw form. -/
def neverRaw : List String := ["_", "super", "self", "Self", "crate"]

/-- Reads a word or a raw word. -/
def readName : List Char → Option (String × List Char)
  | 'r' :: '#' :: cs =>
    match readWord cs with
    | some (word, rest) => if neverRaw.contains word then none else some ("r#" ++ word, rest)
    | none => none
  | cs => readWord cs

/-- What follows the suffix of a literal, which is any word. -/
def dropSuffix (cs : List Char) : List Char :=
  match readWord cs with
  | some (_, rest) => rest
  | none => cs

/-! ### Strings and characters -/

/-- The value of a hexadecimal digit. -/
def hexValue? (c : Char) : Option Nat :=
  if c.isDigit then some (c.toNat - '0'.toNat)
  else if 'a' ≤ c && c ≤ 'f' then some (c.toNat - 'a'.toNat + 10)
  else if 'A' ≤ c && c ≤ 'F' then some (c.toNat - 'A'.toNat + 10)
  else none

/-- Reads the digits of a code point and the bracket that closes them; up to six digits make a code
point, and a `_` may stand after any of them. -/
def readCodePoint (digits value : Nat) : List Char → Option (Nat × List Char)
  | [] => none
  | c :: cs =>
    match hexValue? c with
    | some d => if digits < 6 then readCodePoint (digits + 1) (value * 16 + d) cs else none
    | none =>
      if digits == 0 then none
      else if c == '_' then readCodePoint digits value cs
      else if c == '\x7d' && value.isValidChar then some (value, cs)
      else none

/-- What a string or a character literal stands for. -/
inductive Encoding where
  /-- Characters. -/
  | unicode
  /-- Bytes; as characters, only those of ASCII stand for themselves. -/
  | bytes
  /-- Bytes that a zero ends, so that none of them is zero. -/
  | zeroEnded
  deriving DecidableEq

/-- Whether `c` may stand for itself. -/
def Encoding.allows (encoding : Encoding) (c : Char) : Bool :=
  match encoding with
  | .unicode => true
  | .bytes => c.toNat < 128
  | .zeroEnded => c != '\x00'

/-- Whether the byte `value` may be written as two hexadecimal digits. -/
def Encoding.allowsByte (encoding : Encoding) (value : Nat) : Bool :=
  match encoding with
  | .unicode => value < 128
  | .bytes => true
  | .zeroEnded => value != 0

/-- Whether the code point `value` may be written as such. -/
def Encoding.allowsCodePoint (encoding : Encoding) (value : Nat) : Bool :=
  match encoding with
  | .unicode => true
  | .bytes => false
  | .zeroEnded => value != 0

/-- Whether a backslash may stand before `c`. -/
def Encoding.allowsEscaped (encoding : Encoding) (c : Char) : Bool :=
  c == 'n' || c == 'r' || c == 't' || c == '\\' || c == '\'' || c == '"' ||
    (c == '0' && encoding != .zeroEnded)

/-- Reads the part of an escape after its backslash. -/
def readEscape (encoding : Encoding) : List Char → Option (List Char)
  | 'x' :: a :: b :: cs =>
    match hexValue? a, hexValue? b with
    | some high, some low => if encoding.allowsByte (16 * high + low) then some cs else none
    | _, _ => none
  | 'u' :: '\x7b' :: cs =>
    match readCodePoint 0 0 cs with
    | some (value, rest) => if encoding.allowsCodePoint value then some rest else none
    | none => none
  | c :: cs => if encoding.allowsEscaped c then some cs else none
  | [] => none

/-- Reads a string up to its closing quote. A carriage return stands only before a line feed, and a
backslash may end a line. -/
def readQuoted (encoding : Encoding) : Nat → List Char → Option (List Char)
  | 0, _ | _, [] => none
  | _ + 1, '"' :: cs => some cs
  | n + 1, '\r' :: cs => if cs.head? == some '\n' then readQuoted encoding n cs else none
  | n + 1, '\\' :: c :: cs =>
    if c == '\n' then readQuoted encoding n cs
    else if c == '\r' then (if cs.head? == some '\n' then readQuoted encoding n cs else none)
    else (readEscape encoding (c :: cs)).bind (readQuoted encoding n)
  | n + 1, c :: cs => if encoding.allows c then readQuoted encoding n cs else none

/-- Reads a raw string up to the quote that `hashes` many `#` follow. -/
def readRaw (encoding : Encoding) (hashes : Nat) : List Char → Option (List Char)
  | [] => none
  | c :: cs =>
    if c == '"' && cs.take hashes == List.replicate hashes '#' then some (cs.drop hashes)
    else if c == '\r' && cs.head? != some '\n' then none
    else if encoding.allows c then readRaw encoding hashes cs
    else none

/-- The token of a string. -/
def Encoding.token : Encoding → Token
  | .unicode => .text
  | .bytes | .zeroEnded => .literal

/-- Reads a string after its opening quote, with its suffix. -/
def readString (encoding : Encoding) (cs : List Char) : Option (Token × List Char) :=
  (readQuoted encoding (cs.length + 1) cs).map fun rest => (encoding.token, dropSuffix rest)

/-- The most `#` that may stand before the opening quote of a raw string. -/
def maxHashes : Nat := 255

/-- Reads a raw string after its `r`, with its suffix. -/
def readRawString (encoding : Encoding) (cs : List Char) : Option (Token × List Char) :=
  let hashes := (cs.takeWhile (· == '#')).length
  match cs.dropWhile (· == '#') with
  | '"' :: body =>
    if hashes ≤ maxHashes then
      (readRaw encoding hashes body).map fun rest => (encoding.token, dropSuffix rest)
    else none
  | _ => none

/-- Reads a character after its opening quote, with its suffix. -/
def readChar (encoding : Encoding) (cs : List Char) : Option (Token × List Char) :=
  let rest? :=
    match cs with
    | '\\' :: cs => readEscape encoding cs
    | c :: cs => if encoding.allows c then some cs else none
    | [] => none
  match rest? with
  | some ('\'' :: rest) => some (.literal, dropSuffix rest)
  | _ => none

/-! ### Numbers -/

/-- Whether `c` may continue the digits of a decimal number. -/
def isDigitRest (c : Char) : Bool :=
  c.isDigit || c == '_'

/-- Reads an exponent after its letter: a sign or none, and at least one digit. -/
def readExponent (cs : List Char) : Option (List Char) :=
  let unsigned :=
    match cs.dropWhile (· == '_') with
    | '+' :: cs | '-' :: cs => cs.dropWhile (· == '_')
    | cs => cs
  if unsigned.head?.any Char.isDigit then some (unsigned.dropWhile isDigitRest) else none

/-- Whether `c` marks an exponent. -/
def isExponentMark (c : Char) : Bool :=
  c == 'e' || c == 'E'

/-- Reads a number with a fraction or an exponent. A point before a word or another point belongs
to no number. -/
def readFloat (cs : List Char) : Option (List Char) :=
  if !cs.head?.any Char.isDigit then none
  else match cs.dropWhile isDigitRest with
    | '.' :: cs =>
      if cs.head?.any fun c => c == '.' || isWordStart c then none
      else
        let rest := cs.dropWhile isDigitRest
        match rest with
        | e :: cs => some (if isExponentMark e then (readExponent cs).getD rest else rest)
        | [] => some []
    | e :: cs => if isExponentMark e then readExponent cs else none
    | [] => none

/-- Reads digits of a base; `seen` tells whether one was read before. There must be one, and a
decimal digit that the base does not have makes the number malformed. -/
def readDigits (base : Nat) (seen : Bool) : List Char → Option (List Char)
  | [] => if seen then some [] else none
  | c :: cs =>
    let stop := if seen then some (c :: cs) else none
    if c == '_' then (if !seen && base == 10 then none else readDigits base seen cs)
    else match hexValue? c with
      | some d =>
        if d < base then readDigits base true cs else if c.isDigit then none else stop
      | none => stop

/-- Reads a whole number. -/
def readInteger : List Char → Option (List Char)
  | '0' :: 'x' :: cs => readDigits 16 false cs
  | '0' :: 'o' :: cs => readDigits 8 false cs
  | '0' :: 'b' :: cs => readDigits 2 false cs
  | cs => readDigits 10 false cs

/-- Reads the suffix of a number, which no other part of a word may follow. -/
def endNumber (cs : List Char) : Option (List Char) :=
  match readWord cs with
  | some (_, rest) => some rest
  | none => if cs.head?.any isWordRest then none else some cs

/-- Reads a number, with its suffix. -/
def readNumber (cs : List Char) : Option (Token × List Char) :=
  (((readFloat cs).bind endNumber).or ((readInteger cs).bind endNumber)).map fun rest =>
    (.number (String.ofList (cs.take (cs.length - rest.length))), rest)

/-- The value of the digits of a base. -/
def digitsValue (base : Nat) (cs : List Char) : Nat :=
  (cs.filterMap hexValue?).foldl (fun n d => n * base + d) 0

/-- The value of a whole number. -/
def integerValue : List Char → Nat
  | '0' :: 'x' :: cs => digitsValue 16 cs
  | '0' :: 'o' :: cs => digitsValue 8 cs
  | '0' :: 'b' :: cs => digitsValue 2 cs
  | cs => digitsValue 10 cs

/-- Whether a text is the place of a member: a whole number of 32 bits, without a suffix. -/
def isMemberIndex (cs : List Char) : Bool :=
  readInteger cs == some [] && integerValue cs < UInt32.size

/-- Reads a literal. -/
def readLiteral : List Char → Option (Token × List Char)
  | '"' :: cs => readString .unicode cs
  | 'r' :: cs => readRawString .unicode cs
  | 'b' :: '"' :: cs => readString .bytes cs
  | 'b' :: 'r' :: cs => readRawString .bytes cs
  | 'c' :: '"' :: cs => readString .zeroEnded cs
  | 'c' :: 'r' :: cs => readRawString .zeroEnded cs
  | 'b' :: '\'' :: cs => readChar .bytes cs
  | '\'' :: cs => readChar .unicode cs
  | c :: cs => if c.isDigit then readNumber (c :: cs) else none
  | [] => none

end AstForge.TypeExpr
