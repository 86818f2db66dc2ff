import AstForge.Config

/-!
# Command line — arguments

The arguments are flags with values, in any order, and one output directory. They are read from
left to right; a later value of a flag replaces an earlier one. A base type and the file of its
table are given together or not at all.
-/

namespace AstForge.CommandLine

/-- How the program is called. -/
def usage : String :=
  "usage: treegen [--target java|rust] [--package PKG] [--base NAME --table FILE] <out-dir>"

/-- What the arguments ask for. -/
structure Arguments where
  target : Target
  package : Option String
  /-- A base type and the file of its table. -/
  table : Option (String × String)
  outputDirectory : String
  deriving DecidableEq

/-- Why arguments are refused. -/
inductive UsageError where
  | missingValue (flag : String)
  | unknownTarget (value : String)
  | unknownFlag (flag : String)
  | unexpected (argument : String)
  | unpaired
  | noDirectory
  deriving DecidableEq

/-- The text of a usage error. -/
def UsageError.message : UsageError → String
  | .missingValue flag => flag ++ " needs a value"
  | .unknownTarget value => "unknown target '" ++ value ++ "'"
  | .unknownFlag flag => "unknown flag '" ++ flag ++ "'\n" ++ usage
  | .unexpected argument => "unexpected argument '" ++ argument ++ "'\n" ++ usage
  | .unpaired => "--base and --table must be given together\n" ++ usage
  | .noDirectory => usage

/-- What was read of the arguments so far. -/
structure Given where
  target : Target
  package : Option String
  base : Option String
  table : Option String
  outputDirectory : Option String
  deriving DecidableEq

/-- Nothing was read yet. -/
def Given.nothing : Given := ⟨.java, none, none, none, none⟩

/-- The flags that take a value. -/
inductive Flag where
  | target
  | package
  | base
  | table
  deriving DecidableEq

/-- Reads a flag that takes a value. -/
def Flag.parse? (s : String) : Option Flag :=
  if s == "--target" then some .target
  else if s == "--package" then some .package
  else if s == "--base" then some .base
  else if s == "--table" then some .table
  else none

/-- Takes the value of a flag. -/
def Given.set (given : Given) (flag : Flag) (value : String) : Except UsageError Given :=
  match flag with
  | .target =>
    match Target.parse? value with
    | some target => .ok { given with target := target }
    | none => .error (.unknownTarget value)
  | .package => .ok { given with package := some value }
  | .base => .ok { given with base := some value }
  | .table => .ok { given with table := some value }

/-- Whether an argument is written like a flag. -/
def looksLikeFlag (s : String) : Bool :=
  "--".toList.isPrefixOf s.toList

/-- Reads the arguments from left to right. -/
def readArguments (given : Given) : List String → Except UsageError Given
  | [] => .ok given
  | [argument] =>
    if (Flag.parse? argument).isSome then .error (.missingValue argument)
    else readWord given argument
  | argument :: value :: rest =>
    match Flag.parse? argument with
    | some flag => do readArguments (← given.set flag value) rest
    | none => do readArguments (← readWord given argument) (value :: rest)
where
  /-- Takes an argument that is no flag with a value. -/
  readWord (given : Given) (argument : String) : Except UsageError Given :=
    if looksLikeFlag argument then .error (.unknownFlag argument)
    else if given.outputDirectory.isSome then .error (.unexpected argument)
    else .ok { given with outputDirectory := some argument }

/-- What the arguments ask for, if they are complete. -/
def Given.finish (given : Given) : Except UsageError Arguments := do
  let table ← match given.base, given.table with
    | some base, some table => pure (some (base, table))
    | none, none => pure none
    | _, _ => throw .unpaired
  match given.outputDirectory with
  | some directory => return ⟨given.target, given.package, table, directory⟩
  | none => throw .noDirectory

/-- Reads the arguments. -/
def Arguments.parse (arguments : List String) : Except UsageError Arguments := do
  (← readArguments .nothing arguments).finish

end AstForge.CommandLine
