/-!
# Parley.Rehearsal.Shell.SignalName

The names of signals, and what a shell says of a command that a signal has ended.

* `SignalName.number?`, `SignalName.name`: from a name to its signal and back.
-/

namespace Parley
namespace Rehearsal
namespace Shell
namespace SignalName

/-- Signals with names of their own; zero stands for the end of the shell. -/
def table : List (String × Nat) :=
  [("EXIT", 0), ("HUP", 1), ("INT", 2), ("QUIT", 3), ("ILL", 4), ("TRAP", 5), ("ABRT", 6),
   ("BUS", 7), ("FPE", 8), ("KILL", 9), ("USR1", 10), ("SEGV", 11), ("USR2", 12), ("PIPE", 13),
   ("ALRM", 14), ("TERM", 15), ("CHLD", 17), ("CONT", 18), ("STOP", 19), ("TSTP", 20),
   ("TTIN", 21), ("TTOU", 22), ("URG", 23), ("XCPU", 24), ("XFSZ", 25), ("VTALRM", 26),
   ("PROF", 27), ("WINCH", 28), ("IO", 29), ("PWR", 30), ("SYS", 31), ("RTMIN", 34),
   ("RTMAX", 64)]

/-- There are as many signals as this number says, zero among them. -/
def count : Nat := 65

/-- The name of a signal: its own, or one by its distance from the nearer end of the last ones, or
its number. -/
def name (n : Nat) : String :=
  match table.find? fun t => t.2 == n with
  | some t => t.1
  | none =>
    if 34 < n && n ≤ 49 then "RTMIN+" ++ toString (n - 34)
    else if 49 < n && n < 64 then "RTMAX-" ++ toString (64 - n)
    else toString n

/-- The signal of a name or a number. -/
def number? (s : String) : Option Nat :=
  match s.toNat? with
  | some n => if n < count then some n else none
  | none => (List.range count).find? fun n => name n == s.toUpper

/-- What is said of a program that a signal has ended. -/
def text (n : Nat) : String :=
  match [(1, "Hangup"), (2, "Interrupt"), (3, "Quit"), (4, "Illegal instruction"),
      (5, "Trace/breakpoint trap"), (6, "Aborted"), (7, "Bus error"),
      (8, "Floating point exception"), (9, "Killed"), (10, "User defined signal 1"),
      (11, "Segmentation fault"), (12, "User defined signal 2"), (13, "Broken pipe"),
      (14, "Alarm clock"), (15, "Terminated"), (16, "Stack fault"),
      (24, "CPU time limit exceeded"), (25, "File size limit exceeded"),
      (26, "Virtual timer expired"), (27, "Profiling timer expired"), (29, "I/O possible"),
      (30, "Power failure"), (31, "Bad system call")].lookup n with
  | some text => text
  | none =>
    if 34 ≤ n && n < count then "Real-time signal " ++ toString (n - 34)
    else "Unknown signal " ++ toString n

/-- What is said of a command that a signal has ended; an interrupted command and one whose reader
has gone are passed over. -/
def remark? (n : Nat) : Option String := if n == 2 || n == 13 then none else some (text n)

end SignalName
end Shell
end Rehearsal
end Parley
