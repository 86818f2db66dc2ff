import AstForge.Files.Error
import AstForge.Files.Path

/-!
# Files — a file system

A file system maps locations to files and directories, and has a working directory. A location is
the list of names that leads to it from the root. Reading and writing resolve a path step by step,
and fail with the first step that leads nowhere.

A file is written as a draft in the same directory, under a name that nothing else has, and the
draft is then moved to the path of the file. The directory of the file must exist; the path must not
lead to a directory, and must not say that it does by ending with a separator. A draft that cannot
be moved is removed.
-/

namespace AstForge

/-- The names that lead from the root to a place. -/
abbrev Location := List String

/-- What stands at a location. -/
inductive Entry where
  | directory
  | file (bytes : ByteArray)

/-- Files and directories by location, with a working directory. -/
structure FileSystem where
  entries : List (Location × Entry)
  workingDirectory : Location

namespace FileSystem

/-- Puts an entry at a location of a list of entries. -/
def put (place : Location) (entry : Entry) : List (Location × Entry) → List (Location × Entry)
  | [] => [(place, entry)]
  | (other, old) :: rest =>
    if other == place then (place, entry) :: rest else (other, old) :: put place entry rest

/-- What stands at a location; the root is always a directory. -/
def get? (fs : FileSystem) (place : Location) : Option Entry :=
  if place.isEmpty then some .directory else fs.entries.lookup place

/-- The file system with an entry put at a location. -/
def insert (fs : FileSystem) (place : Location) (entry : Entry) : FileSystem :=
  { fs with entries := put place entry fs.entries }

/-- The file system without what stands at a location. -/
def remove (fs : FileSystem) (place : Location) : FileSystem :=
  { fs with entries := fs.entries.filter fun entry => entry.1 != place }

/-- The names of all files and directories, and of those on the way to them. -/
def names (fs : FileSystem) : List String :=
  fs.entries.flatMap Prod.fst

/-- The most bytes that a name may have. -/
def nameLimit : Nat := 255

/-- The most bytes that a path may have. -/
def pathLimit : Nat := 4095

/-- The directory reached from a directory by some steps. -/
def walk (fs : FileSystem) (place : Location) : List String → Except FileError Location
  | [] => .ok place
  | step :: rest =>
    if step == "." then walk fs place rest
    else if step == ".." then walk fs place.dropLast rest
    else if step.utf8ByteSize > nameLimit then .error .nameTooLong
    else match fs.get? (place ++ [step]) with
      | some .directory => walk fs (place ++ [step]) rest
      | some (.file _) => .error .notDirectory
      | none => .error .notFound

/-- Where the steps of a path start. -/
def start (fs : FileSystem) (path : String) : Location :=
  if Path.isAbsolute path then [] else fs.workingDirectory

/-- Where a path ends. -/
inductive Endpoint where
  /-- A place that `.` or `..` or the root names. -/
  | directory
  /-- A name in a directory. -/
  | named (directory : Location) (name : String)

/-- The end of a path whose last step is taken in a directory. -/
def endpoint (directory : Location) (last : String) : Except FileError Endpoint :=
  if last == "." || last == ".." then .ok .directory
  else if last.utf8ByteSize > nameLimit then .error .nameTooLong
  else .ok (.named directory last)

/-- Resolves a path up to its last step. -/
def resolve (fs : FileSystem) (path : String) : Except FileError Endpoint :=
  if path.utf8ByteSize > pathLimit then .error .nameTooLong
  else if path.isEmpty then .error .notFound
  else match (Path.steps path).getLast? with
    | none => .ok .directory
    | some last => do endpoint (← fs.walk (fs.start path) (Path.steps path).dropLast) last

/-- The text of a file. -/
def read (fs : FileSystem) (path : String) : Except FileError String := do
  if Path.holdsZero path then throw .zeroInName
  match ← fs.resolve path with
  | .directory => throw .isDirectory
  | .named directory name =>
    match fs.get? (directory ++ [name]) with
    | none => throw .notFound
    | some .directory => throw .isDirectory
    | some (.file bytes) =>
      if Path.endsOpen path then throw .notDirectory
      else match String.fromUTF8? bytes with
        | some text => return text
        | none => throw .notUnicode

/-- The path of a location. -/
def absolute (place : Location) : String :=
  String.join (place.map ("/" ++ ·))

/-- The bytes that the name of a draft adds to the path of its directory: a separator and ten
characters. -/
def draftBytes : Nat := 11

/-- The bytes of the whole path of a draft in a directory. -/
def draftSize (fs : FileSystem) (directory : String) : Nat :=
  let start := if Path.isAbsolute directory then "" else absolute fs.workingDirectory ++ "/"
  start.utf8ByteSize + directory.utf8ByteSize + draftBytes

/-- The place of the directory for a draft, which must exist. -/
def draftDirectory (fs : FileSystem) (directory : String) : Except FileError Location := do
  if Path.holdsZero directory then throw .zeroInName
  if fs.draftSize directory > pathLimit then throw .nameTooLong
  fs.walk (fs.start directory) (Path.steps directory)

/-- The names for drafts, in the order in which they are tried. -/
def draftName (n : Nat) : String :=
  ".tmp" ++ toString n

/-- The first name for a draft that is not taken. -/
def freshName (taken : List String) : String :=
  (((List.range (taken.length + 1)).map draftName).find? (!taken.contains ·)).getD ""

/-- Makes an empty draft in the directory of a path; gives its place. -/
def makeDraft (fs : FileSystem) (path : String) : Except FileError (Location × FileSystem) := do
  let directory ← fs.draftDirectory (Path.parent path)
  let draft := directory ++ [freshName (fs.names ++ Path.steps path)]
  return (draft, fs.insert draft (.file .empty))

/-- The place to which a path lets a file be moved: no directory may stand there. -/
def moveTarget (fs : FileSystem) (path : String) : Except FileError Location := do
  if Path.holdsZero path then throw .invalidArgument
  match ← fs.resolve path with
  | .directory => throw .busy
  | .named directory name =>
    if Path.endsOpen path then throw .notDirectory
    else match fs.get? (directory ++ [name]) with
      | some .directory => throw .isDirectory
      | _ => return directory ++ [name]

/-- Moves a file to a path, over the file that stands there. -/
def move (fs : FileSystem) (old : Location) (path : String) : Except FileError FileSystem := do
  let place ← fs.moveTarget path
  match fs.get? old with
  | none => throw .notFound
  | some entry => return (fs.remove old).insert place entry

/-- Writes a text to a path, by a draft. -/
def write (fs : FileSystem) (path contents : String) : Except FileError Unit × FileSystem :=
  match fs.makeDraft path with
  | .error cause => (.error cause, fs)
  | .ok (draft, drafted) =>
    let filled := drafted.insert draft (.file contents.toUTF8)
    match filled.move draft path with
    | .error cause => (.error cause, filled.remove draft)
    | .ok moved => (.ok (), moved)

/-! ### Building a file system -/

/-- Puts directories at a location and at every location on the way to it. -/
def makeDirectory (fs : FileSystem) (place : Location) : FileSystem :=
  (List.range place.length).foldl (fun fs n => fs.insert (place.take (n + 1)) .directory) fs

/-- Puts a file at a location, in a directory that is made for it. -/
def makeFile (fs : FileSystem) (place : Location) (bytes : ByteArray) : FileSystem :=
  (fs.makeDirectory place.dropLast).insert place (.file bytes)

/-- The file system that holds its working directory and nothing else. -/
def empty (workingDirectory : Location) : FileSystem :=
  (FileSystem.mk [] workingDirectory).makeDirectory workingDirectory

/-- The files below the working directory, each with its path from there. -/
def files (fs : FileSystem) : List (String × ByteArray) :=
  fs.entries.filterMap fun (place, entry) =>
    match fs.workingDirectory.isPrefixOf? place, entry with
    | some steps, .file bytes => some ("/".intercalate steps, bytes)
    | _, _ => none

end FileSystem

end AstForge
