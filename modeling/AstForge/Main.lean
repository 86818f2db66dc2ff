import AstForge.CommandLine.Run

/-!
# The program

Reads the arguments, works on the files of the machine, and shows the log that the environment
variable `RUST_LOG` asks for.
-/

namespace AstForge

/-- The cause that the machine gives for a failure. -/
def FileError.ofMachine (cause : IO.Error) : FileError :=
  match cause with
  | .noFileOrDirectory _ _ _ | .noSuchThing _ _ _ => .notFound
  | .permissionDenied _ _ _ => .denied
  | .resourceBusy _ _ => .busy
  | .inappropriateType _ code _ => if code == 21 then .isDirectory else .notDirectory
  | .invalidArgument _ code _ =>
    if code == 36 then .nameTooLong
    else if code == 22 then .invalidArgument
    else .other (toString cause)
  | cause => .other (toString cause)

/-- The files of the machine. A file is written beside its place and then moved there. -/
instance : Storage IO where
  read path := do
    match ← (IO.FS.readBinFile path).toBaseIO with
    | .error cause => return .error (.ofMachine cause)
    | .ok bytes =>
      match String.fromUTF8? bytes with
      | some text => return .ok text
      | none => return .error .notUnicode
  write path contents := do
    let attempt : IO Unit := do
      let number ← IO.rand 0 999999999
      let draft := Path.join (Path.parent path) (".draft" ++ toString number)
      IO.FS.writeFile draft contents
      try IO.FS.rename draft path
      catch cause =>
        IO.FS.removeFile draft
        throw cause
    match ← attempt.toBaseIO with
    | .error cause => return .error (.ofMachine cause)
    | .ok () => return .ok ()

end AstForge

/-- Runs the program on the arguments of the command line. -/
def main (arguments : List String) : IO UInt32 := do
  let filter := AstForge.LogFilter.parse ((← IO.getEnv "RUST_LOG").getD "")
  let result ← AstForge.CommandLine.run arguments
  IO.print (result.log filter)
  IO.eprint (result.errors filter)
  return result.exitCode.toUInt32
