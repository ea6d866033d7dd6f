import Parley.Regex.Syntax

/-!
# Parley.Regex.Flags

What holds while a regular expression is read, and what can be wrong with one.

* `Fault`: why an expression is refused.
* `Flags`: how the parts of an expression are meant.
* `foldSet`, `negateSet`, `finishSet`: sets of characters as the flags ask for.
-/

namespace Parley
namespace Regex

open Unicode (CodeSet)

/-- Why an expression is refused. -/
inductive Fault
  | groupUnclosed
  | groupUnopened
  | groupName
  | lookAround
  | backReference
  | flag
  | repetitionMissing
  | repetitionCount
  | setUnclosed
  | setRange
  | setItem
  | escape
  | unknownProperty
  /-- It could match in the middle of a character. -/
  | notText
  /-- It needs the flag `u`. -/
  | needsUnicode
  | tooDeep
  | tooLarge
deriving DecidableEq, Repr

namespace Fault

def message : Fault → String
  | groupUnclosed => "unclosed group"
  | groupUnopened => "unopened group"
  | groupName => "invalid or duplicate capture group name"
  | lookAround => "look-around, including look-ahead and look-behind, is not supported"
  | backReference => "backreferences are not supported"
  | flag => "invalid flags"
  | repetitionMissing => "repetition operator missing expression"
  | repetitionCount => "invalid repetition count"
  | setUnclosed => "unclosed character class"
  | setRange => "invalid character class range"
  | setItem => "invalid item in character class"
  | escape => "unrecognized escape sequence"
  | unknownProperty => "Unicode property not found"
  | notText => "pattern can match invalid UTF-8"
  | needsUnicode => "Unicode not allowed here"
  | tooDeep => "exceeded the maximum number of nested parentheses/brackets"
  | tooLarge => "compiled regex exceeds size limit"

end Fault

/-- What holds until the end of the group that sets it. -/
structure Flags where
  ignoreCase : Bool := false
  multiLine : Bool := false
  dotMatchesAll : Bool := false
  swapGreed : Bool := false
  crlf : Bool := false
  ignoreBlank : Bool := false
  unicode : Bool := true
deriving DecidableEq, Repr

/-! ## Sets of characters -/

def anyChar : CodeSet := ⟨#[(0, 0xD7FF), (0xE000, Unicode.maxCode)]⟩

/-- ASCII letters with both their cases. -/
def closeUnderAsciiCase (s : CodeSet) : CodeSet :=
  let letters := (List.range 26).filter fun i => s.contains (0x41 + i) || s.contains (0x61 + i)
  s.union (CodeSet.ofRanges (letters.flatMap fun i => [(0x41 + i, 0x41 + i), (0x61 + i, 0x61 + i)]))

/-- A set with the cases that the flags ask for. -/
def foldSet (f : Flags) (s : CodeSet) : CodeSet :=
  if !f.ignoreCase then s
  else if f.unicode then Unicode.closeUnderCase s else closeUnderAsciiCase s

/-- What is not in a set: all other characters, or without the flag `u` all other bytes. -/
def negateSet (f : Flags) (s : CodeSet) : CodeSet :=
  if f.unicode then s.complement.inter anyChar else s.complement.inter (CodeSet.range 0 255)

def isAscii (s : CodeSet) : Bool := s.ranges.all fun r => r.2 < 128

/-- A finished set; without the flag `u` it must stay within ASCII, since a larger byte is no
character. -/
def finishSet (f : Flags) (negated : Bool) (s : CodeSet) : Except Fault CodeSet :=
  let folded := foldSet f s
  let s := if negated then negateSet f folded else folded
  if f.unicode || isAscii s then .ok s else .error .notText

end Regex
end Parley
