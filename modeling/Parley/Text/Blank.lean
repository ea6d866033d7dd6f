import Parley.Unicode.Property

/-!
# Parley.Text.Blank

White space around a text, in every script's sense of white space.
-/

namespace Parley
namespace Text

def isBlank (c : Char) : Bool :=
  if c.toNat < 128 then c == ' ' || (9 ≤ c.toNat && c.toNat ≤ 13)
  else Unicode.blank.contains c.toNat

/-- A text without the white space at its end. -/
def trimEnd (cs : List Char) : List Char := (cs.reverse.dropWhile isBlank).reverse

/-- A text without the white space at its start and end. -/
def trim (cs : List Char) : List Char := trimEnd (cs.dropWhile isBlank)

/-- The first word of a text: all before the first white space. -/
def firstWord (cs : List Char) : List Char :=
  (cs.dropWhile isBlank).takeWhile fun c => !isBlank c

def trimString (s : String) : String := String.ofList (trim s.toList)

end Text
end Parley
