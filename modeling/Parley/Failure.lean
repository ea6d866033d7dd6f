import Parley.Duration
import Parley.ExitStatus
import Parley.Failure.Snippet
import Parley.Regex.Reader
import Parley.SystemError

/-!
# Parley.Failure

Why a dialogue with a console ends before its time. A failure of an expectation carries the output
that was still unread, so a report can show what the console printed instead.

* `Failure.message`: the text of a failure.
* `Failure.kind`: a failure by its broad class; a failed step has the class of its cause.
* `Failure.causes`: the texts of a failure's causes, the nearest first.
-/

namespace Parley

/-- Why a console could not be started. -/
inductive LaunchFault
  | notFound (command : String)
  | denied (path : String)
  | missingStream (stream : String)
  | system (error : SystemError)
deriving DecidableEq, Repr

namespace LaunchFault

/-- What a fault of the operating system means for starting a command. -/
def ofSystem (command : String) (e : SystemError) : LaunchFault :=
  match e.kind with
  | .notFound => notFound command
  | .permissionDenied => denied command
  | _ => system e

def message : LaunchFault → String
  | notFound command => "command not found: " ++ command
  | denied path => "permission denied: " ++ path
  | missingStream stream => "child process has no " ++ stream ++ " handle"
  | system e => "I/O error during spawn: " ++ e.message

def causes : LaunchFault → List String
  | system e => [e.message]
  | _ => []

end LaunchFault

/-- The broad classes of failures. -/
inductive FailureKind
  | launch
  | timeout
  | termination
  | other
deriving DecidableEq, Repr

def FailureKind.name : FailureKind → String
  | launch => "SpawnError"
  | timeout => "TimeoutError"
  | termination => "UnexpectedTermination"
  | other => "UncategorizedError"

inductive Failure
  | launch (fault : LaunchFault)
  | system (error : SystemError)
  /-- A fault of the operating system, and what was being done. -/
  | systemDuring (activity : String) (error : SystemError)
  /-- The time allowed has passed; `unread` is the output that did not match. -/
  | timedOut (allowed : Duration) (pattern : String) (unread : String)
  /-- The output ended; the status is known if the program had ended too. -/
  | ended (pattern : String) (status : Option ExitStatus) (unread : String)
  | badRegex (fault : Regex.Fault)
  | sessionClosed
  | settings (reason : String)
  | inStep (index : Nat) (name : String) (cause : Failure)
deriving DecidableEq, Repr

namespace Failure

/-- The pattern that was waited for and the output that there was instead. -/
def evidence (pattern unread : String) : String :=
  "\n\nPattern: '" ++ pattern ++ "'\n\n" ++ Snippet.frame unread

def message : Failure → String
  | launch f => "failed to spawn process: " ++ f.message
  | system e => "I/O error: " ++ e.message
  | systemDuring activity e => activity ++ ": " ++ e.message
  | timedOut allowed pattern unread =>
    "timeout after " ++ allowed.text ++ " waiting for pattern" ++ evidence pattern unread
  | ended pattern status unread =>
    "process output closed before pattern was seen (" ++
      (status.map ExitStatus.text).getD "exit status unknown" ++ ")" ++ evidence pattern unread
  | badRegex f => "invalid regex pattern: " ++ f.message
  | sessionClosed => "session is closed"
  | settings reason => "configuration error: " ++ reason
  | inStep index name cause =>
    "step " ++ toString index ++ " (" ++ name ++ ") failed: " ++ cause.message

def kind : Failure → FailureKind
  | launch _ => .launch
  | timedOut .. => .timeout
  | ended .. => .termination
  | inStep _ _ cause => cause.kind
  | _ => .other

def isTimeout (f : Failure) : Bool := f.kind == .timeout

def isTermination (f : Failure) : Bool := f.kind == .termination

/-- The output that was unread when an expectation failed. -/
def unread? : Failure → Option String
  | timedOut _ _ unread => some unread
  | ended _ _ unread => some unread
  | inStep _ _ cause => cause.unread?
  | _ => none

def stepName? : Failure → Option String
  | inStep _ name _ => some name
  | _ => none

def causes : Failure → List String
  | launch f => f.message :: f.causes
  | system e => [e.message]
  | systemDuring _ e => [e.message]
  | inStep _ _ cause => cause.message :: cause.causes
  | _ => []

end Failure
end Parley
