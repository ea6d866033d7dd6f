/-!
# Parley.Settings.LineEnding

What is sent behind each line.

* `LineEnding.ofText`: a line ending by its name, in any case.
-/

namespace Parley

inductive LineEnding
  | lf
  | crlf
  | cr
deriving DecidableEq, Repr

namespace LineEnding

/-- The characters that end a line. -/
def terminator : LineEnding → String
  | lf => "\n"
  | crlf => "\r\n"
  | cr => "\r"

def names : List (String × LineEnding) := [("lf", lf), ("crlf", crlf), ("cr", cr)]

/-- The line ending of a name, or why there is none. -/
def ofText (s : String) : Except String LineEnding :=
  let name := s.map Char.toLower
  match names.lookup name with
  | some e => .ok e
  | none => .error ("unknown line ending '" ++ name ++ "' (expected lf, crlf or cr)")

end LineEnding
end Parley
