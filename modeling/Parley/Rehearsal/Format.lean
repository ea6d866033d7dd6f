import Parley.Number.Leading
import Parley.Number.Places
import Parley.Rehearsal.Bytes

/-!
# Parley.Rehearsal.Format

Formats with directives, each of which lays out an argument, and texts with escapes.

* `Format.printf`: a format with its arguments, again and again while arguments are left.
* `Format.echo`: words with blanks between them.
-/

namespace Parley
namespace Rehearsal
namespace Format

/-! ## Escapes -/

def isOctal (c : Char) : Bool := '0' ≤ c && c ≤ '7'

/-- The character of an octal number of at most so many digits, and what follows it. -/
def octal (n : Nat) : Nat → List Char → Char × List Char
  | 0, cs => (Char.ofNat (n % 256), cs)
  | _ + 1, [] => (Char.ofNat (n % 256), [])
  | digits + 1, c :: rest =>
    if isOctal c then octal (n * 8 + (c.toNat - 48)) digits rest
    else (Char.ofNat (n % 256), c :: rest)

/-- The character that a letter behind a backslash stands for. -/
def letter? (c : Char) : Option Char :=
  [('\\', '\\'), ('a', '\x07'), ('b', '\x08'), ('e', '\x1b'), ('f', '\x0c'), ('n', '\n'),
   ('r', '\r'), ('t', '\t'), ('v', '\x0b')].lookup c

/-- The character that a backslash and what is behind it stand for; a backslash before anything
else stands for itself. -/
def escape (cs : List Char) : Char × List Char :=
  match cs with
  | [] => ('\\', [])
  | c :: rest =>
    match letter? c with
    | some d => (d, rest)
    | none => if isOctal c then octal 0 3 cs else ('\\', cs)

/-- A text with the escapes of `echo`, in which octal digits may follow a zero; `false` says that
the output ends there. -/
def unescape (acc : List Char) : Nat → List Char → List Char × Bool
  | 0, _ => (acc.reverse, true)
  | _ + 1, [] => (acc.reverse, true)
  | fuel + 1, '\\' :: rest =>
    match rest with
    | 'c' :: _ => (acc.reverse, false)
    | '0' :: d :: digits =>
      let (c, rest) := if isOctal d then octal 0 3 (d :: digits) else escape rest
      unescape (c :: acc) fuel rest
    | rest =>
      let (c, rest) := escape rest
      unescape (c :: acc) fuel rest
  | fuel + 1, c :: rest => unescape (c :: acc) fuel rest

def unescaped (cs : List Char) : List Char × Bool := unescape [] (cs.length + 1) cs

/-- The output of `echo` in a shell. -/
def echo (words : List Bytes) : Bytes :=
  let (words, ending) : List Bytes × List Char := match words with
    | [45, 110] :: rest => (rest, [])
    | words => (words, ['\n'])
  let (out, goesOn) := unescaped (letters (joinWith [32] words))
  ofLetters (if goesOn then out ++ ending else out)

/-! ## Layout -/

/-- How a directive lays out its value. -/
structure Layout where
  left : Bool := false
  zero : Bool := false
  plus : Bool := false
  space : Bool := false
  alternate : Bool := false
  width : Nat := 0
  precision : Option Nat := none
deriving Repr

def flags (l : Layout) : List Char → Layout × List Char
  | '-' :: rest => flags { l with left := true } rest
  | '0' :: rest => flags { l with zero := true } rest
  | '+' :: rest => flags { l with plus := true } rest
  | ' ' :: rest => flags { l with space := true } rest
  | '#' :: rest => flags { l with alternate := true } rest
  | rest => (l, rest)

/-- Fills a text up to its width. -/
def fill (l : Layout) (cs : List Char) : List Char :=
  let missing := l.width - cs.length
  if l.left then cs ++ List.replicate missing ' ' else List.replicate missing ' ' ++ cs

/-- Fills digits with a sign in front of them. -/
def fillDigits (l : Layout) (zeros : Bool) (sign digits : List Char) : List Char :=
  if zeros && l.zero && !l.left then
    sign ++ List.replicate (l.width - sign.length - digits.length) '0' ++ digits
  else fill l (sign ++ digits)

def signOf (l : Layout) (negative : Bool) : List Char :=
  if negative then ['-'] else if l.plus then ['+'] else if l.space then [' '] else []

/-- A whole number with a sign in front of it. -/
def whole (l : Layout) (sign digits : List Char) : List Char :=
  let digits := if digits == ['0'] && l.precision == some 0 then [] else digits
  let digits := List.replicate (l.precision.getD 1 - digits.length) '0' ++ digits
  fillDigits l l.precision.isNone sign digits

/-- A number in 64 bits, counted from zero. -/
def unsigned (i : Int) : Nat := (i % Int.pow 2 64).toNat

def signed (l : Layout) (i : Int) : List Char :=
  whole l (signOf l (i < 0)) (Nat.toDigits 10 i.natAbs)

def counted (l : Layout) (kind : Char) (i : Int) : List Char :=
  let n := unsigned i
  match kind with
  | 'o' =>
    let ds := Nat.toDigits 8 n
    whole l [] (if l.alternate && n != 0 then '0' :: ds else ds)
  | 'x' => whole l (if l.alternate && n != 0 then ['0', 'x'] else []) (Nat.toDigits 16 n)
  | 'X' =>
    whole l (if l.alternate && n != 0 then ['0', 'X'] else [])
      ((Nat.toDigits 16 n).map Char.toUpper)
  | _ => whole l [] (Nat.toDigits 10 n)

/-- A number that may have a part behind the point. -/
def real (l : Layout) (kind : Char) (x : Binary64) : List Char :=
  let upper := kind.isUpper
  let named (negative : Bool) (name : String) : List Char :=
    fillDigits l false (signOf l negative)
      (if upper then name.toList.map Char.toUpper else name.toList)
  let mark := if upper then 'E' else 'e'
  match x with
  | .nan => named false "nan"
  | .infinite negative => named negative "inf"
  | .finite negative m e =>
    let places := l.precision.getD 6
    let digits := match kind.toLower with
      | 'f' => Places.fixed m e places l.alternate
      | 'e' => Places.scientific m e places l.alternate mark
      | 'a' => Places.hexadecimal m e (if upper then 'X' else 'x') (if upper then 'P' else 'p')
      | _ => Places.general m e places l.alternate mark
    fillDigits l true (signOf l negative) digits

/-- A text, of which no more is taken than is asked for. -/
def text (l : Layout) (cs : List Char) : List Char :=
  fill l (match l.precision with
    | some n => cs.take n
    | none => cs)

/-! ## Arguments -/

/-- Who lays out: a shell, or the program of the same name, which differ in what they say. -/
inductive Voice
  | shell
  | program
deriving DecidableEq, Repr

/-- What is wrong with an argument that should be a number. -/
inductive Doubt
  | noNumber
  | moreBehind
  | outOfRange
deriving DecidableEq, Repr

def Doubt.text (v : Voice) (argument : String) : Doubt → String
  | noNumber =>
    if v == .shell then argument ++ ": expected numeric value"
    else "'" ++ argument ++ "': expected a numeric value"
  | moreBehind =>
    if v == .shell then argument ++ ": not completely converted"
    else "'" ++ argument ++ "': value not completely converted"
  | outOfRange =>
    (if v == .shell then argument else "'" ++ argument ++ "'") ++ ": Numerical result out of range"

/-- What is doubtful about a number, by what follows it. -/
def doubt? (rest : Option (List Char)) (inRange : Bool) (cs : List Char) : Option Doubt :=
  match rest with
  | none => if cs.isEmpty then none else some .noNumber
  | some [] => if inRange then none else some .outOfRange
  | some _ => some .moreBehind

/-- The character behind a quote counts by its number. -/
def quoted? (cs : List Char) : Option Nat :=
  match cs with
  | '\'' :: c :: _ => some c.toNat
  | '"' :: c :: _ => some c.toNat
  | ['\''] => some 0
  | ['"'] => some 0
  | _ => none

/-- The whole number that an argument stands for, within 64 bits. -/
def wholeArgument (isSigned : Bool) (cs : List Char) : Int × Option Doubt :=
  match quoted? cs with
  | some n => (n, none)
  | none =>
    match Number.leadingInt? cs with
    | none => (0, doubt? none true cs)
    | some (i, rest) =>
      let low : Int := if isSigned then -(Int.pow 2 63) else -(Int.pow 2 64) + 1
      let high : Int := if isSigned then Int.pow 2 63 - 1 else Int.pow 2 64 - 1
      let inRange := low ≤ i ∧ i ≤ high
      let i := if isSigned then max low (min high i) else if inRange then i else high
      (i, doubt? (some rest) (decide inRange) cs)

def realArgument (cs : List Char) : Binary64 × Option Doubt :=
  match quoted? cs with
  | some n => (.ofInt n, none)
  | none =>
    match Number.leading? cs with
    | none => (.zero false, doubt? none true cs)
    | some (x, rest) =>
      let named := cs.any fun c => c == 'i' || c == 'I'
      (x, doubt? (some rest) (x.isFinite || named || x == .nan) cs)

/-! ## Formats -/

/-- What a format has written so far. -/
structure Written where
  /-- The output, the last character first. -/
  output : List Char := []
  arguments : List (List Char)
  /-- Whether a directive took an argument. -/
  took : Bool := false
  goesOn : Bool := true
  /-- Complaints about arguments, the last one first. -/
  doubts : List String := []
  /-- What is wrong with the format. -/
  fault : Option String := none

namespace Written

def add (w : Written) (cs : List Char) : Written := { w with output := cs.reverse ++ w.output }

/-- Takes the next argument; none is left at the end. -/
def take (w : Written) : Option (List Char) × Written :=
  match w.arguments with
  | [] => (none, w)
  | a :: rest => (some a, { w with arguments := rest, took := true })

def note (v : Voice) (w : Written) (argument : List Char) (d : Option Doubt) : Written :=
  match d with
  | none => w
  | some d => { w with doubts := d.text v (String.ofList argument) :: w.doubts }

/-- Takes the next argument as a whole number. -/
def takeInt (v : Voice) (isSigned : Bool) (w : Written) : Int × Written :=
  let (a, w) := w.take
  let a := a.getD []
  let (i, d) := wholeArgument isSigned a
  (i, w.note v a d)

end Written

/-- A width or a precision: digits, or an argument. -/
def measure (v : Voice) (w : Written) (cs : List Char) : Option Int × List Char × Written :=
  match cs with
  | '*' :: rest =>
    let (i, w) := w.takeInt v true
    (some i, rest, w)
  | cs =>
    let run := cs.takeWhile Char.isDigit
    if run.isEmpty then (none, cs, w)
    else (some (Number.digitsValue run), cs.drop run.length, w)

/-- The layout behind a percent sign. -/
def layout (v : Voice) (w : Written) (cs : List Char) : Layout × List Char × Written :=
  let (l, cs) := flags {} cs
  let (width, cs, w) := measure v w cs
  let width := width.getD 0
  let l := { l with width := width.natAbs, left := l.left || width < 0 }
  match cs with
  | '.' :: rest =>
    let (precision, rest, w) := measure v w rest
    let precision := precision.getD 0
    ({ l with precision := if precision < 0 then none else some precision.toNat }, rest, w)
  | cs => (l, cs, w)

/-- What one directive writes; none if there is no such directive. -/
def directive (v : Voice) (w : Written) (l : Layout) (kind : Char) : Option Written :=
  match kind with
  | 's' =>
    let (a, w) := w.take
    some (w.add (text l (a.getD [])))
  | 'b' =>
    let (a, w) := w.take
    let (cs, goesOn) := unescaped (a.getD [])
    some { w.add (text l cs) with goesOn }
  | 'c' =>
    let (a, w) := w.take
    match a with
    | some (c :: _) => some (w.add (fill l [c]))
    | _ => some (w.add (fill l (if v == .shell then ['\x00'] else [])))
  | _ =>
    if kind == 'd' || kind == 'i' then
      let (i, w) := w.takeInt v true
      some (w.add (signed l i))
    else if "ouxX".toList.contains kind then
      let (i, w) := w.takeInt v false
      some (w.add (counted l kind i))
    else if "eEfFgGaA".toList.contains kind then
      let (a, w) := w.take
      let a := a.getD []
      let (x, d) := realArgument a
      some ((w.note v a d).add (real l kind x))
    else none

/-- Two digits in base sixteen at most, and what follows them. -/
def hexEscape (cs : List Char) : Option (Char × List Char) :=
  let run := (cs.take 2).takeWhile Number.isHex
  if run.isEmpty then none else some (Char.ofNat (Number.hexOf run), cs.drop run.length)

/-- Goes once through a format. -/
def once (v : Voice) (w : Written) : Nat → List Char → Written
  | 0, _ => w
  | _ + 1, [] => w
  | fuel + 1, '\\' :: rest =>
    let (c, rest) := match v, rest with
      | .program, 'x' :: ds => (hexEscape ds).getD ('\\', rest)
      | .program, '"' :: rest => ('"', rest)
      | _, rest => escape rest
    match v, c, rest with
    | .program, '\\', 'c' :: _ => { w with goesOn := false }
    | _, c, rest => once v (w.add [c]) fuel rest
  | fuel + 1, '%' :: '%' :: rest => once v (w.add ['%']) fuel rest
  | fuel + 1, '%' :: rest =>
    let (l, behind, w) := layout v w rest
    match behind with
    | [] =>
      let what := if v == .shell then "missing format character"
        else String.ofList ('%' :: rest) ++ ": invalid conversion specification"
      { w with goesOn := false, fault := some what }
    | kind :: behind =>
      match directive v w l kind with
      | none =>
        let used := String.ofList ('%' :: rest.take (rest.length - behind.length))
        let what := if v == .shell then used ++ ": invalid directive"
          else used ++ ": invalid conversion specification"
        { w with goesOn := false, fault := some what }
      | some w => if w.goesOn then once v w fuel behind else w
  | fuel + 1, c :: rest => once v (w.add [c]) fuel rest

/-- Goes through a format until all arguments have been taken. -/
def again (v : Voice) (format : List Char) : Nat → Written → Written
  | 0, w => w
  | fuel + 1, w =>
    let w := once v { w with took := false } (format.length + 1) format
    if w.goesOn && w.took && !w.arguments.isEmpty then again v format fuel w else w

/-- The output of a format with its arguments. -/
def printf (v : Voice) (format : Bytes) (arguments : List Bytes) : Written :=
  again v (letters format) (arguments.length + 1) { arguments := arguments.map letters }

/-- The bytes that a format has written. -/
def Written.bytes (w : Written) : Bytes := ofLetters w.output.reverse

end Format
end Rehearsal
end Parley
