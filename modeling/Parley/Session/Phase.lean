import Parley.ExitStatus

/-!
# Parley.Session.Phase

The phases of a session: it runs, is being closed, is closed, or its program has ended by itself.
-/

namespace Parley

inductive Phase
  | running
  | closing
  | closed
  | exited (status : ExitStatus)
deriving DecidableEq, Repr

namespace Phase

def text : Phase → String
  | running => "running"
  | closing => "closing"
  | closed => "closed"
  | exited status => "exited (" ++ status.text ++ ")"

/-- A phase by the name of its case. -/
def caseText : Phase → String
  | running => "Running"
  | closing => "Closing"
  | closed => "Closed"
  | exited status => "Exited(" ++ status.caseText ++ ")"

end Phase
end Parley
