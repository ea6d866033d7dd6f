/-!
# Parley.ExitStatus

How a program came to its end: by itself with a code, by a signal, or in a way that is not known.

* `ExitStatus.ofRaw`: the end that the operating system's number for it stands for.
* `ExitStatus.text`: an end as messages name it.
-/

namespace Parley

inductive ExitStatus
  | exited (code : Int)
  | signaled (signal : Int)
  | unknown
deriving DecidableEq, Repr

namespace ExitStatus

/-- The lowest seven bits hold the signal; none means that the program ended by itself, with the
next eight bits as its code. All seven set stand for a program that is only stopped. -/
def ofRaw (raw : Int) : ExitStatus :=
  let low := raw % 128
  if low == 0 then exited (raw / 256 % 256)
  else if low < 127 then signaled low
  else unknown

def success (s : ExitStatus) : Bool := s == exited 0

def code? : ExitStatus → Option Int
  | exited code => some code
  | _ => none

def signal? : ExitStatus → Option Int
  | signaled signal => some signal
  | _ => none

def text : ExitStatus → String
  | exited code => "exited with code " ++ toString code
  | signaled signal => "terminated by signal " ++ toString signal
  | unknown => "unknown exit status"

/-- An end by the name of its case. -/
def caseText : ExitStatus → String
  | exited code => "Exited(" ++ toString code ++ ")"
  | signaled signal => "Signaled(" ++ toString signal ++ ")"
  | unknown => "Unknown"

end ExitStatus
end Parley
