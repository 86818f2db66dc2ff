/-!
# Command line — reports of failure

A failure is reported by its text and, below it, the texts of its causes. A single cause is
indented; several are numbered. The further lines of a cause are indented as far as its first.
-/

namespace AstForge.CommandLine

/-- The lines of a text with the first after `first` and the others after `other`. -/
def hang (first other text : String) : String :=
  first ++ ("\n" ++ other).intercalate ((text.toList.splitOn '\n').map String.ofList)

/-- The report of the causes of a failure. -/
def reportCauses : List String → String
  | [] => ""
  | [cause] => "\nCaused by:\n" ++ hang "    " "    " cause ++ "\n"
  | causes =>
    "\nCaused by:\n" ++
      String.join (causes.zipIdx.map fun (cause, n) =>
        hang ("    " ++ toString n ++ ": ") "       " cause ++ "\n")

/-- The report of a failure. -/
def reportFailure (message : String) (causes : List String) : String :=
  "Error: " ++ message ++ "\n" ++ reportCauses causes

end AstForge.CommandLine
