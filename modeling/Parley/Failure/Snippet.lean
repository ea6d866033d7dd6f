import Parley.Text.Lines

/-!
# Parley.Failure.Snippet

The last output in a frame, for the message of a failure. Every line of output stands behind a bar,
so nothing that a console prints can pass for the frame. Of a long output only the last lines are
shown, since what explains a failure stands at the end.

* `Snippet.frame`: the framed text.
-/

namespace Parley
namespace Snippet

/-- Outputs of more bytes than this are cut, if they have many lines. -/
def shortBytes : Nat := 500

/-- How many lines of a long output are shown. -/
def tailLines : Nat := 6

def bar : String := "│ "

def footer : String := "└────────────────────────────────────────"

/-- Lines behind bars. -/
def barred (ls : List String) : String := bar ++ ("\n" ++ bar).intercalate ls

def header (bytes : Nat) : String :=
  "┌─ buffer (" ++ toString bytes ++ " bytes) ──────────────────────"

/-- The header of an output that is cut. -/
def longHeader (bytes lines : Nat) : String :=
  "┌─ buffer (" ++ toString bytes ++ " bytes, " ++ toString lines ++ " lines) ─────────────"

def hiddenLine (hidden : Nat) : String := bar ++ "... (" ++ toString hidden ++ " lines hidden)"

def frame (output : String) : String :=
  if output.isEmpty then "(empty buffer)"
  else
    let ls := Text.lines output
    let bytes := output.utf8ByteSize
    if bytes ≤ shortBytes || ls.length ≤ tailLines then
      "\n".intercalate [header bytes, barred ls, footer]
    else
      let hidden := ls.length - tailLines
      "\n".intercalate
        [longHeader bytes ls.length, hiddenLine hidden, barred (ls.drop hidden), footer]

end Snippet
end Parley
