/-!
What a run reports while it goes on: a message, and what it is about as fields, each a name with its
text. Reports of details are kept but not shown.
-/

namespace LedgerRehearsal

inductive Severity where
  | debug
  | info
  | warn
  | error
deriving DecidableEq, Repr

structure Notice where
  severity : Severity
  message : String
  fields : List (String × String)
deriving DecidableEq, Repr

namespace Severity

def label : Severity → String
  | debug => "DEBUG"
  | info => "INFO"
  | warn => "WARN"
  | error => "ERROR"

end Severity

namespace Notice

/-- Details are not shown. -/
def isShown (notice : Notice) : Bool := notice.severity ≠ .debug

/-- A notice on one line, without its fields. -/
def line (notice : Notice) : String := notice.severity.label ++ " " ++ notice.message

/-- What is reported by steps that are made until one fails: each with its own reports, and whether
it succeeds. -/
def untilFailure : List (List Notice × Bool) → List Notice
  | [] => []
  | (notices, succeeded) :: rest => notices ++ if succeeded then untilFailure rest else []

end Notice

end LedgerRehearsal
