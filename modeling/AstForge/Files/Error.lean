/-!
# Files — why a file cannot be read or written

Each cause that the operating system knows carries its number in the message. A cause that is not
told apart here carries the text that the machine gives for it.
-/

namespace AstForge

/-- Why reading or writing failed. -/
inductive FileError where
  | notFound
  | denied
  | busy
  | notDirectory
  | isDirectory
  | invalidArgument
  | nameTooLong
  | zeroInName
  | notUnicode
  | outOfRoom
  | other (text : String)
  deriving DecidableEq

/-- The text of a cause. -/
def FileError.message : FileError → String
  | .notFound => "No such file or directory (os error 2)"
  | .denied => "Permission denied (os error 13)"
  | .busy => "Device or resource busy (os error 16)"
  | .notDirectory => "Not a directory (os error 20)"
  | .isDirectory => "Is a directory (os error 21)"
  | .invalidArgument => "Invalid argument (os error 22)"
  | .nameTooLong => "File name too long (os error 36)"
  | .zeroInName => "file name contained an unexpected NUL byte"
  | .notUnicode => "stream did not contain valid UTF-8"
  | .outOfRoom => "failed to write whole buffer"
  | .other text => text

end AstForge
