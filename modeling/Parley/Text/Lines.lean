/-!
# Parley.Text.Lines

The lines of a text. A line feed ends a line, and so does a carriage return with a line feed behind
it; a carriage return alone belongs to its line. What follows the last line feed is a line unless it
is empty.
-/

namespace Parley
namespace Text

/-- A line without the carriage return that stood before its line feed; the line is in reverse. -/
def endLine (line : List Char) : List Char :=
  match line with
  | '\r' :: rest => rest.reverse
  | line => line.reverse

/-- Splits into lines; `done` holds the lines before, the last one first, and `line` the characters
of the current line, in reverse. -/
def linesFrom (done : List (List Char)) (line : List Char) : List Char → List (List Char)
  | [] => (if line.isEmpty then done else line.reverse :: done).reverse
  | c :: rest =>
    if c == '\n' then linesFrom (endLine line :: done) [] rest
    else linesFrom done (c :: line) rest

def linesOf (cs : List Char) : List (List Char) := linesFrom [] [] cs

def lines (s : String) : List String := (linesOf s.toList).map String.ofList

end Text
end Parley
