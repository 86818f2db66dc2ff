/-!
# The log

What is done is told as events, each with a level that says how much it matters and with the part of
the program that tells it.

A control character that a terminal could obey is shown as an escape.
-/

namespace AstForge

/-- How much an event matters. -/
inductive Level where
  | error
  | warn
  | info
  | debug
  | trace
  deriving DecidableEq

namespace Level

/-- The levels. -/
def all : List Level := [.error, .warn, .info, .debug, .trace]

/-- The place of a level; what matters more comes first. -/
def rank : Level → Nat
  | .error => 1
  | .warn => 2
  | .info => 3
  | .debug => 4
  | .trace => 5

/-- The name of a level. -/
def name : Level → String
  | .error => "ERROR"
  | .warn => "WARN"
  | .info => "INFO"
  | .debug => "DEBUG"
  | .trace => "TRACE"

end Level

/-- Something that was done, and the part of the program that tells it. -/
structure Event where
  level : Level
  source : String
  message : String
  deriving DecidableEq

/-- The parts of an event that a filter can name. -/
def Event.parts : List String := ["message"]

/-! ### Lines -/

/-- A hexadecimal number, with at least `width` digits. -/
def hexText (width n : Nat) : String :=
  let digits := Nat.toDigits 16 n
  String.ofList (List.replicate (width - digits.length) '0' ++ digits)

/-- A character of a message as it is shown. -/
def showChar (c : Char) : String :=
  if c == '\x07' || c == '\x08' || c == '\x0c' || c == '\x1b' || c == '\x7f' then
    "\\x" ++ hexText 2 c.toNat
  else if 0x80 ≤ c.toNat && c.toNat ≤ 0x9f then "\\u\x7b" ++ hexText 1 c.toNat ++ "\x7d"
  else c.toString

/-- The line that shows an event. -/
def Event.render (e : Event) : String :=
  e.level.name ++ " " ++ e.source ++ ": " ++ String.join (e.message.toList.map showChar) ++ "\n"

end AstForge
