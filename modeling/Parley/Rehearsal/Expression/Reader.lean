import Parley.Rehearsal.Expression.Search
import Parley.Rehearsal.Shell.Glob

/-!
# Parley.Rehearsal.Expression.Reader

How regular expressions are written. In the basic dialect a backslash makes an operator of a
bracket, a brace or a bar; in the extended one it takes that away.

* `Expression.Dialect`: what differs between tools.
* `Expression.read?`: an expression from its text.
-/

namespace Parley
namespace Rehearsal
namespace Expression

/-- What is wrong with an expression. -/
inductive Fault
  | openBracket
  | bareBracket
  | rangeEnd
  | className
  | collation
  | openBrace
  | braceContent
  | tooBig
  | openParenthesis
  | closeParenthesis
  | reference
  | trailing
  | preceding
  | bareClass
deriving DecidableEq, Repr

def Fault.text : Fault → String
  | openBracket => "Unmatched [, [^, [:, [., or [="
  | bareBracket => "Invalid regular expression"
  | rangeEnd => "Invalid range end"
  | className => "Invalid character class name"
  | collation => "Invalid collation character"
  | openBrace => "Unmatched \\\x7b"
  | braceContent => "Invalid content of \\\x7b\\\x7d"
  | tooBig => "Regular expression too big"
  | openParenthesis => "Unmatched ( or \\("
  | closeParenthesis => "Unmatched ) or \\)"
  | reference => "Invalid back reference"
  | trailing => "Trailing backslash"
  | preceding => "Invalid preceding regular expression"
  | bareClass => "character class syntax is [[:space:]], not [:space:]"

structure Dialect where
  extended : Bool
  /-- Whether an operator needs something in front of it. -/
  needsOperand : Bool := false
  /-- Whether a closing parenthesis needs an opening one. -/
  needsOpening : Bool := true
  /-- Whether a backslash protects what follows it between brackets as well. -/
  escapesInSets : Bool := false
  /-- Whether letters behind a backslash stand for places and classes. -/
  hasClasses : Bool := true
  hasReferences : Bool := true
  /-- Whether the number of a piece may be told only once. -/
  countsOnce : Bool := false
deriving Repr

/-! ## Sets -/

/-- A member of a set: a single byte, or ranges that cannot begin a range. -/
inductive Member
  | single (b : UInt8)
  | ranges (rs : List (UInt8 × UInt8))

/-- What stands up to a delimiter and a closing bracket, and what follows. -/
def upToDelimiter (d : UInt8) (acc : Bytes) : Bytes → Option (Bytes × Bytes)
  | b :: 93 :: rest =>
    if b == d then some (acc.reverse, rest) else upToDelimiter d (b :: acc) (93 :: rest)
  | b :: rest => upToDelimiter d (b :: acc) rest
  | [] => none

/-- The byte that a letter behind a backslash stands for. -/
def escaped (b : UInt8) : UInt8 :=
  ([(97, 7), (98, 8), (102, 12), (110, 10), (114, 13), (116, 9), (118, 11)].lookup b).getD b

/-- One member of a set. -/
def member (d : Dialect) : Bytes → Except Fault (Member × Bytes)
  | [] => .error .openBracket
  | 91 :: 58 :: rest =>
    match upToDelimiter 58 [] rest with
    | none => .ok (.single 91, 58 :: rest)
    | some (name, rest) =>
      match Shell.Glob.classRanges (wordOf name) with
      | some rs => .ok (.ranges rs, rest)
      | none => .error .className
  | 91 :: b :: rest =>
    if b == 61 || b == 46 then
      match upToDelimiter b [] rest with
      | none => .error .openBracket
      | some ([x], rest) => .ok (if b == 61 then .ranges [(x, x)] else .single x, rest)
      | some (_, _) => .error .collation
    else .ok (.single 91, b :: rest)
  | 92 :: b :: rest =>
    if d.escapesInSets then .ok (.single (escaped b), rest) else .ok (.single 92, b :: rest)
  | b :: rest => .ok (.single b, rest)

/-- The members of a set up to its closing bracket. -/
def membersFrom (d : Dialect) (first : Bool) (acc : List (UInt8 × UInt8)) :
    Nat → Bytes → Except Fault (List (UInt8 × UInt8) × Bytes)
  | 0, _ => .error .openBracket
  | fuel + 1, bs =>
    match bs, first with
    | [], _ => .error .openBracket
    | 93 :: rest, false => .ok (acc, rest)
    | bs, _ => do
      match ← member d bs with
      | (.ranges rs, rest) => membersFrom d false (rs ++ acc) fuel rest
      | (.single a, 45 :: 93 :: rest) => membersFrom d false ((a, a) :: acc) fuel (45 :: 93 :: rest)
      | (.single a, 45 :: c :: rest) =>
        match ← member d (c :: rest) with
        | (.single b, rest) =>
          if b < a then .error .rangeEnd else membersFrom d false ((a, b) :: acc) fuel rest
        | (.ranges _, _) => .error .rangeEnd
      | (.single a, rest) => membersFrom d false ((a, a) :: acc) fuel rest

/-- A set behind its opening bracket. -/
def set (d : Dialect) (bs : Bytes) : Except Fault (Expression × Bytes) := do
  let (excluded, inner) := match bs with
    | 94 :: inner => (true, inner)
    | inner => (false, inner)
  if inner.isEmpty then throw .bareBracket
  let (ranges, rest) ← membersFrom d true [] (inner.length + 1) inner
  let written := inner.take (inner.length - rest.length - 1)
  if !excluded && 2 ≤ written.length && written.head? == some 58 && written.getLast? == some 58 then
    throw .bareClass
  return (byte excluded ranges, rest)

/-! ## Operators -/

/-- How far an expression has been read. -/
structure Reading where
  rest : Bytes
  /-- How many groups have begun, and which have ended. -/
  begun : Nat := 0
  closed : List Nat := []
  depth : Nat := 0

inductive Operator
  | star
  | plus
  | optional
  | opening
  | closing
  | bar
  | brace
deriving DecidableEq, Repr

/-- The operator at the front of a text, if there is one, and what follows. -/
def operator? (d : Dialect) : Bytes → Option (Operator × Bytes)
  | 42 :: rest => some (.star, rest)
  | bs =>
    let named (b : UInt8) : Option Operator :=
      [(40, Operator.opening), (41, .closing), (124, .bar), (123, .brace), (43, .plus),
       (63, .optional)].lookup b
    if d.extended then
      match bs with
      | b :: rest => (named b).map fun o => (o, rest)
      | [] => none
    else
      match bs with
      | 92 :: b :: rest => (named b).map fun o => (o, rest)
      | _ => none

/-- Digits at the front of a text as a number, and what follows. -/
def number? (bs : Bytes) : Option Nat × Bytes :=
  let ds := bs.takeWhile fun b => 48 ≤ b && b ≤ 57
  (if ds.isEmpty then none else some (ds.foldl (fun n b => n * 10 + (b.toNat - 48)) 0),
    bs.drop ds.length)

/-- The greatest count. -/
def mostTimes : Nat := 32767

/-- Counts behind an opening brace, and what follows the closing one; none if this is no count in a
dialect in which a brace may stand for itself. -/
def counts? (d : Dialect) (bs : Bytes) : Except Fault (Option (Nat × Option Nat × Bytes)) :=
  let closing (bs : Bytes) : Option Bytes :=
    match d.extended, bs with
    | true, 125 :: rest => some rest
    | false, 92 :: 125 :: rest => some rest
    | _, _ => none
  let wrong (bs : Bytes) : Except Fault (Option (Nat × Option Nat × Bytes)) :=
    if d.extended then .ok none
    else if bs.isEmpty then .error .openBrace else .error .braceContent
  let (low, rest) := number? bs
  let (high, rest) : Option (Option Nat) × Bytes := match rest with
    | 44 :: rest =>
      let (high, rest) := number? rest
      (some high, rest)
    | rest => (none, rest)
  match closing rest with
  | none => wrong rest
  | some after =>
    match low, high with
    | none, none => wrong rest
    | low, high =>
      let least := low.getD 0
      let most : Option Nat := match high with
        | none => some least
        | some m => m
      if most.any fun m => decide (m < least) then .error .braceContent
      else if mostTimes < least || most.any fun m => decide (mostTimes < m) then .error .tooBig
      else .ok (some (least, most, after))

/-- A letter behind a backslash that stands for a class or a place. -/
def letter? (b : UInt8) : Option Expression :=
  let word : List (UInt8 × UInt8) := [(48, 57), (65, 90), (95, 95), (97, 122)]
  let space : List (UInt8 × UInt8) := [(9, 13), (32, 32)]
  [(119, byte false word), (87, byte true word), (115, byte false space), (83, byte true space),
   (98, edge .boundary), (66, edge .inner), (60, edge .wordStart), (62, edge .wordEnd),
   (96, edge .textStart), (39, edge .textEnd)].lookup b

/-- Whether an alternative ends at the front of a text. -/
def endsHere (d : Dialect) (bs : Bytes) : Bool :=
  bs.isEmpty ||
    match operator? d bs with
    | some (.bar, _) => true
    | some (.closing, _) => true
    | _ => false

mutual

/-- Alternatives with bars between them. -/
def alternatives (d : Dialect) : Nat → Reading → Except Fault (Expression × Reading)
  | 0, r => .ok (nothing, r)
  | fuel + 1, r => do
    let (e, r) ← pieces d true nothing fuel r
    match operator? d r.rest with
    | some (.bar, rest) =>
      let (f, r) ← alternatives d fuel { r with rest }
      return (either e f, r)
    | _ => return (e, r)

/-- Pieces one after another behind `acc`. -/
def pieces (d : Dialect) (first : Bool) (acc : Expression) :
    Nat → Reading → Except Fault (Expression × Reading)
  | 0, r => .ok (acc, r)
  | fuel + 1, r => do
    let isClosing := (operator? d r.rest).any fun o => o.1 == .closing
    if isClosing && r.depth == 0 && d.needsOpening then throw .closeParenthesis
    let plainClosing := isClosing && r.depth == 0
    if endsHere d r.rest && !plainClosing then return (acc, r)
    let (e, r) ← piece d first fuel r
    let (e, isAnchor) := e
    let (e, r) ← if isAnchor && !d.extended then pure (e, r) else suffixes d false e fuel r
    let acc := match acc with
      | nothing => e
      | acc => both acc e
    pieces d (isAnchor && !d.extended) acc fuel r

/-- One piece without what is said of its number, and whether it is the beginning of a line. -/
def piece (d : Dialect) (first : Bool) :
    Nat → Reading → Except Fault ((Expression × Bool) × Reading)
  | 0, r => .ok ((nothing, false), r)
  | fuel + 1, r => do
    let plain (b : UInt8) (rest : Bytes) : Except Fault ((Expression × Bool) × Reading) :=
      .ok ((byte false [(b, b)], false), { r with rest })
    match operator? d r.rest with
    | some (.opening, rest) =>
      let n := r.begun + 1
      let (e, inner) ← alternatives d fuel { r with rest, begun := n, depth := r.depth + 1 }
      match operator? d inner.rest with
      | some (.closing, rest) =>
        return ((group n e, false),
          { inner with rest, closed := n :: inner.closed, depth := r.depth })
      | _ => throw .openParenthesis
    | some (.closing, rest) => plain 41 rest
    | some (.brace, rest) =>
      if first && d.extended then
        match ← counts? d rest with
        | some (_, _, after) =>
          if d.needsOperand then throw .preceding
          else return ((nothing, false), { r with rest := after })
        | none => plain 123 rest
      else if d.extended then plain 123 rest
      else if first then throw .preceding
      else plain 123 rest
    | some (o, rest) =>
      if d.extended then
        if d.needsOperand then throw .preceding
        else return ((nothing, false), { r with rest })
      else
        match o with
        | .star => plain 42 rest
        | .plus => plain 43 rest
        | .optional => plain 63 rest
        | _ => return ((nothing, false), { r with rest })
    | none =>
      match r.rest with
      | [] => return ((nothing, false), r)
      | 46 :: rest => return ((byte true [], false), { r with rest })
      | 91 :: rest => do
        let (e, rest) ← set d rest
        return ((e, false), { r with rest })
      | 94 :: rest =>
        if d.extended || first then return ((edge .start, true), { r with rest }) else plain 94 rest
      | 36 :: rest =>
        if d.extended || endsHere d rest then return ((edge .finish, false), { r with rest })
        else plain 36 rest
      | [92] => throw .trailing
      | 92 :: b :: rest =>
        if 49 ≤ b && b ≤ 57 && d.hasReferences then
          let n := b.toNat - 48
          if r.closed.contains n then return ((same n, false), { r with rest })
          else throw .reference
        else if d.hasClasses then
          match letter? b with
          | some e => return ((e, false), { r with rest })
          | none => plain b rest
        else plain b rest
      | b :: rest => plain b rest

/-- What is said of the number of a piece; `again` says that something has been said. -/
def suffixes (d : Dialect) (again : Bool) (e : Expression) :
    Nat → Reading → Except Fault (Expression × Reading)
  | 0, r => .ok (e, r)
  | fuel + 1, r => do
    let next (e : Expression) (rest : Bytes) : Except Fault (Expression × Reading) :=
      if again && d.countsOnce then .error .preceding
      else suffixes d true e fuel { r with rest }
    match operator? d r.rest with
    | some (.star, rest) => next (many e) rest
    | some (.plus, rest) => next (repeated e 1 none) rest
    | some (.optional, rest) => next (counted e 0 1) rest
    | some (.brace, rest) =>
      match ← counts? d rest with
      | some (low, high, rest) => next (repeated e low high) rest
      | none => return (e, r)
    | _ => return (e, r)

end

/-- An expression from its text. -/
def read? (d : Dialect) (bs : Bytes) : Except Fault Expression := do
  let (e, _) ← alternatives d (4 * bs.length + 8) { rest := bs }
  return e

/-- How many groups an expression has. -/
def groupsOf : Expression → Nat
  | group _ a => groupsOf a + 1
  | both a b => groupsOf a + groupsOf b
  | either a b => groupsOf a + groupsOf b
  | many a => groupsOf a
  | counted a _ _ => groupsOf a
  | _ => 0

end Expression
end Rehearsal
end Parley
