import Parley.Rehearsal.Bytes

/-!
# Parley.Rehearsal.Naming

How the names of files and other words stand in what tools say about them.

* `cited`: a word in quotes, with escapes for what cannot be shown.
* `asWord`: a name as a word that a shell would read as that name, always in quotes.
* `asName`: the same, in quotes only if a shell needs them.
-/

namespace Parley
namespace Rehearsal
namespace Naming

def isPrintable (b : UInt8) : Bool := 32 ≤ b && b < 127

/-- The last three digits of a byte in base eight. -/
def octal (b : UInt8) : List Char :=
  [b / 64, b / 8 % 8, b % 8].map fun d => Char.ofNat (48 + d.toNat)

/-- A byte that cannot be shown, behind a backslash. -/
def escaped (b : UInt8) : List Char :=
  '\\' :: match b with
    | 7 => ['a']
    | 8 => ['b']
    | 9 => ['t']
    | 10 => ['n']
    | 11 => ['v']
    | 12 => ['f']
    | 13 => ['r']
    | b => octal b

/-- A byte of a word in quotes; a backslash stands before a quote and before itself. -/
def citedByte (b : UInt8) : List Char :=
  if b == 39 || b == 92 then ['\\', Char.ofNat b.toNat]
  else if isPrintable b then [Char.ofNat b.toNat]
  else escaped b

/-- Bytes that a shell reads as something else than themselves. -/
def special : List Char :=
  ['?', ' ', '!', '"', '$', '&', '(', ')', '*', ';', '<', '=', '>', '[', '^', '\x60', '|', '\'',
    '\\']

/-- Whether a name stands for itself if it is a word without quotes. -/
def standsAlone (bs : Bytes) : Bool :=
  let cs := letters bs
  !cs.isEmpty && bs.all isPrintable && !cs.any special.contains &&
    cs.head? != some '#' && cs.head? != some '~' && cs != ['\x7b'] && cs != ['\x7d']

/-- Whether a byte means the same in quotes of either kind. -/
def isEven (first alone : Bool) (c : Char) : Bool :=
  if c == '#' || c == '~' then first
  else if c == '\x7b' || c == '\x7d' then alone
  else isPrintable (UInt8.ofNat c.toNat) &&
    (c == ' ' || c == '\'' || !special.contains c)

/-- Whether all bytes of a name mean the same in quotes of either kind. -/
def isEvenWord : List Char → Bool
  | [] => true
  | [c] => isEven true true c
  | c :: cs => isEven true false c && cs.all (isEven false false)

/-- A name inside single quotes. What cannot be shown stands in quotes of its own that know escapes;
`inside` tells whether these are open. -/
def singly (inside : Bool) : Bytes → List Char
  | [] => []
  | b :: bs =>
    if !isPrintable b then
      (if inside then [] else ['\'', '$', '\'']) ++ escaped b ++ singly true bs
    else if b == 39 then ['\'', '\\', '\'', '\''] ++ singly false bs
    else (if inside then ['\'', '\''] else []) ++ Char.ofNat b.toNat :: singly false bs

/-- A name in quotes: in double ones if it has a single one and nothing else against them, where
`marks` stand behind a backslash. -/
def inQuotes (marks : List Char) (bs : Bytes) : String :=
  let cs := letters bs
  if cs.contains '\'' && isEvenWord cs then
    let marked (c : Char) : List Char := if marks.contains c then ['\\', c] else [c]
    String.ofList ('"' :: cs.flatMap marked ++ ['"'])
  else String.ofList ('\'' :: singly false bs ++ ['\''])

end Naming

/-- A word in quotes, with escapes for what cannot be shown. -/
def cited (bs : Bytes) : String :=
  String.ofList ('\'' :: bs.flatMap Naming.citedByte ++ ['\''])

/-- A name as a word that a shell would read as that name, always in quotes. -/
def asWord (bs : Bytes) : String := Naming.inQuotes [] bs

/-- A name as a word that a shell would read as that name; a colon calls for quotes as well, since
one follows the name. -/
def asName (bs : Bytes) : String :=
  if Naming.standsAlone bs && !bs.contains 58 then wordOf bs else Naming.inQuotes [':'] bs

end Rehearsal
end Parley
