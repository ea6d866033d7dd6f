import Parley.Unicode.Latest

/-!
# Parley.Text.Quoted

A text between double quotes, on one line and in visible characters only. Tab, line feed, carriage
return, NUL, the backslash and the double quote have short escapes. A character that leaves no mark
of its own, or changes the look of the one before it, is written by its number.

* `quote`: the quoted form of a text.
* `quoteList`: a list of quoted texts between square brackets.
-/

namespace Parley
namespace Text

def hexDigits (n : Nat) : List Char := Nat.toDigits 16 n

/-- Code points that leave no mark of their own: what is not printed, fillers, and marks on the
character before them. Letters that only belong to that character have room of their own. -/
def unmarked : Unicode.CodeSet :=
  Unicode.CodeSet.unions [Unicode.Latest.printable.complement, Unicode.defaultIgnorable,
    Unicode.Latest.graphemeExtending.diff Unicode.Category.modifierLetterSet]

/-- A character by its number, in lower-case hexadecimal digits. -/
def escapeNumber (c : Char) : List Char := ['\\', 'u', '\x7b'] ++ hexDigits c.toNat ++ ['\x7d']

/-- One character as it stands between quotes. -/
def escape (c : Char) : List Char :=
  match c with
  | '\x00' => ['\\', '0']
  | '\t' => ['\\', 't']
  | '\r' => ['\\', 'r']
  | '\n' => ['\\', 'n']
  | '\\' => ['\\', '\\']
  | '"' => ['\\', '"']
  | c =>
    if c.toNat < 128 then
      if 32 ≤ c.toNat && c.toNat < 127 then [c] else escapeNumber c
    else if unmarked.contains c.toNat then escapeNumber c
    else [c]

def quoteChars (cs : List Char) : List Char := '"' :: (cs.flatMap escape ++ ['"'])

def quote (s : String) : String := String.ofList (quoteChars s.toList)

def quoteList (ss : List String) : String := "[" ++ ", ".intercalate (ss.map quote) ++ "]"

end Text
end Parley
