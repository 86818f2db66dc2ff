/-!
# Files — paths

A path is a text. Slashes divide it into steps; the empty steps between two slashes lead nowhere. A
path that starts with a slash leads from the root, any other from the working directory.
-/

namespace AstForge

namespace Path

/-- The character between the steps of a path. -/
def separator : Char := '/'

/-- Whether a path leads from the root. -/
def isAbsolute (path : String) : Bool :=
  path.toList.head? == some separator

/-- Whether a path ends with a separator. -/
def endsOpen (path : String) : Bool :=
  path.toList.getLast? == some separator

/-- Whether a path holds the character that ends a path for the machine. -/
def holdsZero (path : String) : Bool :=
  path.toList.contains '\x00'

/-- The steps of a path. -/
def steps (path : String) : List String :=
  ((path.toList.splitOn separator).filter (!·.isEmpty)).map String.ofList

/-- The pieces of a path up to the last step that leads somewhere else. -/
def trimPieces (pieces : List (List Char)) : List (List Char) :=
  (pieces.reverse.dropWhile fun piece => piece.isEmpty || piece == ['.']).reverse

/-- The directory of a path: the path without its last step. A path without a directory lies in the
working directory. -/
def parent (path : String) : String :=
  match trimPieces (path.toList.splitOn separator) with
  | [] => "."
  | pieces =>
    match trimPieces pieces.dropLast with
    | [] => if isAbsolute path then "/" else "."
    | pieces => String.ofList ([separator].intercalate pieces)

/-- The path of a file in a directory. An absolute file name stands for itself, and no separator is
added to a directory that is empty or ends with one. -/
def join (directory file : String) : String :=
  if isAbsolute file then file
  else if directory.isEmpty || endsOpen directory then directory ++ file
  else directory ++ "/" ++ file

end Path

end AstForge
