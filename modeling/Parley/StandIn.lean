import Parley.Environment
import Parley.Text.Blank
import Parley.Utf8

/-!
# Parley.StandIn

A console that needs no device. It prints what a console prints, and it can be told to go wrong: to
be slow, to crash on a line, to be silent on a line, to keep its banner to itself, or not to end.

* `Faults`: how it is to go wrong.
* `StandIn.turn`: what it does with one line.
* `StandIn.play`: what it prints for a whole input, and how it ends.
-/

namespace Parley

/-- How a stand-in goes wrong. -/
structure Faults where
  /-- How many milliseconds it waits before it replies. -/
  delayMillis : Option Nat := none
  /-- The line at which it crashes. -/
  crashOn : Option String := none
  /-- The line to which it gives no reply. -/
  muteOn : Option String := none
  /-- Whether it goes on when it is asked to stop. -/
  ignoresTerm : Bool := false
  /-- Whether it goes on after the end of its input. -/
  stuck : Bool := false
  noBanner : Bool := false
deriving DecidableEq, Repr

namespace Faults

/-- A number of 64 bits, in decimal digits with or without a plus sign. -/
def number? (s : String) : Option Nat :=
  let ds := match s.toList with
    | '+' :: rest => rest
    | cs => cs
  if ds.isEmpty || !ds.all Char.isDigit then none
  else
    let n := ds.foldl (fun n d => n * 10 + (d.toNat - 48)) 0
    if n < Nat.pow 2 64 then some n else none

/-- Whether a variable switches something on. -/
def isOn (e : Environment) (name : String) : Bool :=
  (e.get? name).any fun v => !v.isEmpty && v != "0"

/-- The faults that the environment asks for. -/
def ofEnvironment (e : Environment) : Faults where
  delayMillis := (e.get? "V4_SIM_DELAY_MS").bind number?
  crashOn := e.get? "V4_SIM_CRASH_ON"
  muteOn := e.get? "V4_SIM_MUTE_ON"
  ignoresTerm := isOn e "V4_SIM_IGNORE_TERM"
  stuck := isOn e "V4_SIM_STUCK"
  noBanner := isOn e "V4_SIM_NO_BANNER"

end Faults

namespace StandIn

def version : String := "0.1.0"

/-- What stands in front of every line. -/
def prompt : String := "v4> "

def farewell : String := "Goodbye!\n"

/-- How the stand-in ends when it crashes. -/
def crashCode : Nat := 3

/-- The lines that it prints first, each as it is written. -/
def banner (f : Faults) (port : String) : List String :=
  if f.noBanner then []
  else
    [ "V4 REPL v" ++ version ++ "\n",
      "Connected to " ++ port ++ "\n",
      "Type 'bye' or press Ctrl+D to exit\n",
      "Type '.help' for help\n",
      "\n",
      "Resetting device...\n",
      "Device ready\n\n" ]

/-- What follows a line. -/
inductive Next
  /-- The next prompt. -/
  | prompt
  /-- The end, with a code. -/
  | exit (code : Nat)
deriving DecidableEq, Repr

/-- What the stand-in does with one line: it may wait, then it writes, then it goes on or ends. -/
structure Turn where
  waitMillis : Nat := 0
  writes : List String := []
  next : Next := .prompt
deriving DecidableEq, Repr

def help : List String :=
  [ "Available commands:\n",
    "  .help    - Show this help\n",
    "  .ping    - Check device connection\n",
    "  .reset   - Reset VM and compiler context\n",
    "  .exit    - Exit REPL (same as 'bye')\n",
    "  bye      - Exit REPL\n" ]

/-- The reply to a line that is neither blank nor the place of a fault. -/
def respond (line : String) : List String × Next :=
  if line = "bye" ∨ line = "quit" ∨ line = ".exit" then ([farewell], .exit 0)
  else if line = ".ping" then (["Device is responsive\n"], .prompt)
  else if line = ".help" then (help, .prompt)
  else if line = ".reset" then (["VM and compiler context reset\n"], .prompt)
  else if line.toList.head? = some '.' then
    ([ "Unknown command: " ++ String.ofList (Text.firstWord line.toList) ++ "\n",
       "Type '.help' for available commands\n" ], .prompt)
  else ([" ok\n"], .prompt)

/-- What the stand-in does with a line. A crash counts before silence, and silence before an end. -/
def turn (f : Faults) (line : List Char) : Turn :=
  let line := String.ofList (Text.trim line)
  if line.isEmpty then {}
  else if f.crashOn = some line then { next := .exit crashCode }
  else if f.muteOn = some line then {}
  else
    let (writes, next) := respond line
    { waitMillis := f.delayMillis.getD 0, writes, next }

/-! ## Whole inputs -/

/-- The lines of an input, each with its line feed; the last one may have none. `line` holds the
current line, the last byte first. -/
def splitLines (line : List UInt8) : List UInt8 → List (List UInt8)
  | [] => if line.isEmpty then [] else [line.reverse]
  | b :: rest =>
    if b == 10 then (b :: line).reverse :: splitLines [] rest else splitLines (b :: line) rest

/-- How a run of the stand-in comes out. -/
inductive Outcome
  | exit (code : Nat)
  /-- The input is not text. -/
  | notText
  /-- It never ends. -/
  | stuck
deriving DecidableEq, Repr

/-- What the stand-in prints from a prompt on, for the lines that are left. -/
def transcript (f : Faults) : List (List UInt8) → List String × Outcome
  | [] => ([prompt, farewell], if f.stuck then .stuck else .exit 0)
  | line :: rest =>
    if Utf8.isText line then
      let t := turn f (Utf8.text line)
      match t.next with
      | .exit code => (prompt :: t.writes, .exit code)
      | .prompt =>
        let (writes, outcome) := transcript f rest
        (prompt :: (t.writes ++ writes), outcome)
    else ([prompt], .notText)

/-- A whole run: what it writes and how it comes out. -/
def play (f : Faults) (port : String) (input : List UInt8) : List String × Outcome :=
  let (writes, outcome) := transcript f (splitLines [] input)
  (banner f port ++ writes, outcome)

end StandIn
end Parley
