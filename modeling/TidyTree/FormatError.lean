/-
TidyTree.FormatError — why one file could not be formatted.

Either the formatter could not be started on the file, or it ran and
ended with something else than success.
-/
import TidyTree.SystemError
import TidyTree.WaitStatus

namespace TidyTree

/-- Why the formatter `program` did not format the file at `path`. -/
inductive FormatError where
  /-- The program could not be started. -/
  | spawn (program path : String) (source : SystemError)
  /-- The program ran and ended with a status other than success. -/
  | failed (program path : String) (status : WaitStatus)
deriving DecidableEq, Repr

namespace FormatError

/-- The file that was to be formatted. -/
def path : FormatError → String
  | spawn _ p _ => p
  | failed _ p _ => p

/-- The program that was to format it. -/
def program : FormatError → String
  | spawn p _ _ => p
  | failed p _ _ => p

/-- The failure of the system behind it, if the program was not started. -/
def source? : FormatError → Option SystemError
  | spawn _ _ e => some e
  | failed _ _ _ => none

/-- The status of the program, if it ran. -/
def status? : FormatError → Option WaitStatus
  | spawn _ _ _ => none
  | failed _ _ w => some w

/-- What the error is called. -/
def text : FormatError → String
  | spawn program path source =>
    "failed to run " ++ program ++ " on " ++ path ++ ": " ++ source.text
  | failed program path status =>
    program ++ " failed on " ++ path ++ " (" ++ status.text ++ ")"

end FormatError

end TidyTree
