import Parley.Script

/-!
# Parley.Script.Smoke

The dialogue that shows whether a console works at all: it starts, computes, learns words and uses
them, answers a question about its device, and ends when asked to.
-/

namespace Parley
namespace Smoke

/-- What a console prints first. -/
def banner : String := "V4 REPL"

/-- What a console prints once its device has been reset. -/
def ready : String := "Device ready"

/-- What a console prints behind every line that it has evaluated. -/
def acknowledgement : String := "ok"

/-- The answer to `.ping`. -/
def pingReply : String := "Device is responsive"

/-- What a console prints when it ends. -/
def farewell : String := "Goodbye!"

/-- A step that sends a line and waits for a text. -/
def ask (name line reply praise : String) : Step :=
  { name, send := some line, expect := [.literal reply], passedMessage := some praise }

def script : Script where
  name := "v4-repl"
  steps :=
    [ { name := "REPL start-up"
        expect := [.literal banner, .literal ready]
        passedMessage := some "REPL started successfully" },
      ask "Simple arithmetic: 1 2 +" "1 2 +" acknowledgement "Simple arithmetic works",
      ask "Define word: : sq dup * ;" ": sq dup * ;" acknowledgement "Word definition works",
      ask "Use defined word: 5 sq" "5 sq" acknowledgement "Defined word execution works",
      ask "Define another word: : double 2 * ;" ": double 2 * ;" acknowledgement
        "Multiple word definitions work",
      ask "Use both words: 3 double sq" "3 double sq" acknowledgement
        "Multiple words work together",
      ask "Meta command: .ping" ".ping" pingReply ".ping command works",
      { ask "Exit REPL" "bye" farewell "Exit works" with expectExit := true } ]

end Smoke
end Parley
