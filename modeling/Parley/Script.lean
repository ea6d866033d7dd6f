import Parley.Duration
import Parley.Pattern
import Parley.Text.Quoted

/-!
# Parley.Script

Scripted dialogues: a list of steps without branches. A step sends a line, or none, and then waits
for patterns one after another.

* `Step`, `Script`: the data.
* `Script.summary`: all parts of a script on one line.
-/

namespace Parley

structure Step where
  name : String
  /-- The line to send. -/
  send : Option String := none
  /-- The patterns to wait for, in order. -/
  expect : List Pattern := []
  /-- How long to wait for each pattern, if not as long as usual. -/
  timeout : Option Duration := none
  /-- Whether the output has to end with the step. -/
  expectExit : Bool := false
  /-- What to report when the step has passed, if not its name. -/
  passedMessage : Option String := none

namespace Step

/-- What is reported when the step has passed. -/
def praise (s : Step) : String := s.passedMessage.getD s.name

/-- A step that sends a line and waits for a pattern. -/
def sendExpect (name line : String) (p : Pattern) : Step :=
  { name, send := some line, expect := [p] }

/-- A value that may be missing, by the name of its case. -/
def optionText {α : Type} (text : α → String) : Option α → String
  | some a => "Some(" ++ text a ++ ")"
  | none => "None"

/-- All parts of a step on one line. -/
def summary (s : Step) : String :=
  "Step \x7b name: " ++ Text.quote s.name ++
    ", send: " ++ optionText Text.quote s.send ++
    ", expect: [" ++ ", ".intercalate (s.expect.map Pattern.caseText) ++
    "], timeout: " ++ optionText Duration.text s.timeout ++
    ", expect_exit: " ++ toString s.expectExit ++
    ", passed_message: " ++ optionText Text.quote s.passedMessage ++ " \x7d"

end Step

structure Script where
  name : String
  steps : List Step := []

namespace Script

def length (s : Script) : Nat := s.steps.length

def isEmpty (s : Script) : Bool := s.steps.isEmpty

def summary (s : Script) : String :=
  "Script \x7b name: " ++ Text.quote s.name ++ ", steps: [" ++
    ", ".intercalate (s.steps.map Step.summary) ++ "] \x7d"

end Script
end Parley
