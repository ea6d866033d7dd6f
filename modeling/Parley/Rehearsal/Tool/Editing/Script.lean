import Parley.Rehearsal.Expression.Reader

/-!
# Parley.Rehearsal.Tool.Editing.Script

The scripts of an editor of streams: commands, each with the lines for which it is meant.

* `Editing.Command`: a command.
* `Editing.readScript`: the commands of a script.
-/

namespace Parley
namespace Rehearsal
namespace Editing

/-! ## Commands -/

/-- An expression with what is said of it. -/
structure Sought where
  expression : Expression
  ignoresCase : Bool := false
  hasLines : Bool := false

/-- A line. -/
inductive Place
  | line (n : Nat)
  | last
  /-- A line in which something is found, and none for what was last looked for. -/
  | found (s : Option Sought)
  | step (first step : Nat)

/-- Where lines end that begin at a place. -/
inductive Limit
  | place (p : Place)
  | further (n : Nat)
  | multiple (n : Nat)

/-- A part of what is put in the place of something. -/
inductive Piece
  | text (bs : Bytes)
  | group (n : Nat)
  /-- What follows is written in another case, by a letter. -/
  | case (letter : Char)

structure Replacement where
  sought : Option Sought
  pieces : List Piece
  everywhere : Bool := false
  /-- Which one of those that are found comes first. -/
  which : Nat := 1
  print : Bool := false
  file : Option Bytes := none

inductive JumpKind
  | always
  | replaced
  | notReplaced
deriving DecidableEq

inductive Action
  /-- Begins a block that ends at a command. -/
  | opening (close : Nat)
  | closing
  | label (name : Bytes)
  | jump (kind : JumpKind) (label : Bytes)
  /-- A command that is a letter alone. -/
  | letter (c : Char)
  | text (kind : Char) (bs : Bytes)
  | quit (silent : Bool) (code : Nat)
  | list (width : Option Nat)
  | readFile (path : Bytes)
  | readLine (path : Bytes)
  | write (path : Bytes) (onlyFirst : Bool)
  | replace (r : Replacement)
  | exchange (pairs : List (UInt8 × UInt8))
  | none

structure Command where
  start : Option Place := Option.none
  limit : Option Limit := Option.none
  negated : Bool := false
  action : Action

/-! ## Reading -/

/-- What is wrong with a script, and how much of it is left there; none if it is the whole. -/
structure Fault where
  left : Option Nat
  text : String

abbrev Reader (α : Type) := StateT Bytes (Except Fault) α

/-- Stops with what is wrong here. -/
def wrong {α : Type} (text : String) : Reader α := do
  let rest ← get
  throw { left := some rest.length, text }

def next? : Reader (Option UInt8) := do
  match ← get with
  | [] => return none
  | b :: rest =>
    set rest
    return some b

def peek? : Reader (Option UInt8) := do return (← get).head?

def isBlank (b : UInt8) : Bool := b == 32 || (9 ≤ b && b ≤ 13)

def isBlankInLine (b : UInt8) : Bool := isBlank b && b != 10

def skip (test : UInt8 → Bool) : Reader Unit := modify (·.dropWhile test)

def digits : Reader (Option Nat) := do
  let ds := (← get).takeWhile fun b => 48 ≤ b && b ≤ 57
  modify (·.drop ds.length)
  return if ds.isEmpty then none else some (ds.foldl (fun n b => n * 10 + (b.toNat - 48)) 0)

/-! ### Texts between delimiters -/

/-- The rest of a set between brackets, with the bracket that closes it. -/
def setFrom : Nat → Bytes → Bytes × Bytes
  | 0, bs => ([], bs)
  | _ + 1, [] => ([], [])
  | fuel + 1, 91 :: d :: rest =>
    if d == 58 || d == 46 || d == 61 then
      match Expression.upToDelimiter d [] rest with
      | some (name, rest) =>
        let (more, rest) := setFrom fuel rest
        (91 :: d :: name ++ [d, 93] ++ more, rest)
      | none =>
        let (more, rest) := setFrom fuel (d :: rest)
        (91 :: more, rest)
    else
      let (more, rest) := setFrom fuel (d :: rest)
      (91 :: more, rest)
  | fuel + 1, b :: rest =>
    if b == 93 then ([93], rest)
    else
      let (more, rest) := setFrom fuel rest
      (b :: more, rest)

/-- A set behind its opening bracket, in which a closing one may come first. -/
def setText (bs : Bytes) : Bytes × Bytes :=
  let front := match bs with
    | 94 :: 93 :: _ => 2
    | 93 :: _ => 1
    | 94 :: _ => 1
    | _ => 0
  let (more, rest) := setFrom (bs.length + 1) (bs.drop front)
  (bs.take front ++ more, rest)

/-- A text up to a delimiter that no backslash protects, and what follows; none if it does not
end. -/
def delimited (delimiter : UInt8) (isExpression : Bool) (acc : Bytes) :
    Nat → Bytes → Option Bytes × Bytes
  | 0, bs => (none, bs)
  | _ + 1, [] => (none, [])
  | fuel + 1, b :: rest =>
    if b == delimiter then (some acc.reverse, rest)
    else if b == 10 then (none, b :: rest)
    else if b == 92 then
      match rest with
      | [] => (none, [])
      | c :: rest =>
        let kept : Bytes :=
          if c == 110 && isExpression then [10]
          else if c == 10 then [10]
          else if c == delimiter && (isExpression || c != 38) then [c]
          else [c, 92]
        delimited delimiter isExpression (kept ++ acc) fuel rest
    else if b == 91 && isExpression then
      let (inner, rest) := setText rest
      let inner := unescapeSet inner
      delimited delimiter isExpression (inner.reverse ++ 91 :: acc) fuel rest
    else delimited delimiter isExpression (b :: acc) fuel rest
where
  /-- A line feed in a set may be written as a letter behind a backslash. -/
  unescapeSet : Bytes → Bytes
    | 92 :: 110 :: rest => 10 :: unescapeSet rest
    | b :: rest => b :: unescapeSet rest
    | [] => []

def upTo (delimiter : UInt8) (isExpression : Bool) : Reader (Option Bytes) := do
  let bs ← get
  let (text, rest) := delimited delimiter isExpression [] (bs.length + 1) bs
  set rest
  return text

/-- A number in a base of at most so many digits. -/
def numberIn (base most : Nat) (bs : Bytes) : Option (UInt8 × Bytes) :=
  let value (b : UInt8) : Option Nat :=
    if 48 ≤ b && b ≤ 57 then some (b.toNat - 48)
    else if 97 ≤ b && b ≤ 102 then some (b.toNat - 87)
    else if 65 ≤ b && b ≤ 70 then some (b.toNat - 55)
    else none
  let ds := (bs.take most).takeWhile fun b => (value b).any fun n => decide (n < base)
  if ds.isEmpty then none
  else
    some (UInt8.ofNat (ds.foldl (fun n b => n * base + (value b).getD 0) 0), bs.drop ds.length)

/-- The byte that an escape stands for, and what follows it. -/
def escape? : Bytes → Option (UInt8 × Bytes)
  | 97 :: rest => some (7, rest)
  | 102 :: rest => some (12, rest)
  | 114 :: rest => some (13, rest)
  | 116 :: rest => some (9, rest)
  | 118 :: rest => some (11, rest)
  | 99 :: c :: rest => some (Expression.upper c ^^^ 64, rest)
  | 100 :: rest => numberIn 10 3 rest
  | 111 :: rest => numberIn 8 3 rest
  | 120 :: rest => numberIn 16 2 rest
  | _ => none

/-- A text in which escapes stand as what they mean; a byte among `special` is protected. -/
def plainText (special : Bytes) : Nat → Bytes → Bytes
  | 0, bs => bs
  | _ + 1, [] => []
  | fuel + 1, 92 :: rest =>
    match escape? rest with
    | some (b, rest) =>
      (if special.contains b then [92, b] else [b]) ++ plainText special fuel rest
    | none =>
      match rest with
      | c :: rest => 92 :: c :: plainText special fuel rest
      | [] => [92]
  | fuel + 1, b :: rest => b :: plainText special fuel rest

/-! ### Expressions -/

/-- The dialect of expressions. -/
def dialect (extended : Bool) : Expression.Dialect :=
  { extended, needsOperand := extended, countsOnce := !extended }

/-- What is looked for by a text; nothing stands for what was last looked for. -/
def sought (extended : Bool) (text : Bytes) (ignoresCase hasLines : Bool) :
    Reader (Option Sought) := do
  if text.isEmpty then
    if ignoresCase || hasLines then wrong "cannot specify modifiers on empty regexp"
    return none
  let text := plainText [36, 42, 46, 91, 92, 93, 94] (text.length + 1) text
  match Expression.read? (dialect extended) text with
  | .ok expression => return some { expression, ignoresCase, hasLines }
  | .error f => wrong f.text

/-- Letters behind an expression. -/
def modifiers : Nat → Bool → Bool → Reader (Bool × Bool)
  | 0, i, m => return (i, m)
  | fuel + 1, i, m => do
    match ← peek? with
    | some 73 =>
      modify (·.drop 1)
      modifiers fuel true m
    | some 77 =>
      modify (·.drop 1)
      modifiers fuel i true
    | _ => return (i, m)

/-! ### Places -/

/-- A place, if there is one. -/
def place? (extended : Bool) : Reader (Option Place) := do
  match ← get with
  | 36 :: rest =>
    set rest
    return some .last
  | 47 :: rest =>
    set rest
    return some (← between 47)
  | 92 :: d :: rest =>
    set rest
    return some (← between d)
  | _ =>
    let some n ← digits | return none
    skip isBlankInLine
    if (← peek?) == some 126 then
      modify (·.drop 1)
      skip isBlankInLine
      return some (.step n ((← digits).getD 0))
    return some (.line n)
where
  /-- An expression up to its delimiter. -/
  between (d : UInt8) : Reader Place := do
    let some text ← upTo d true | wrong "unterminated address regex"
    let (i, m) ← modifiers 64 false false
    return .found (← sought extended text i m)

/-- Where lines end. -/
def limit? (extended : Bool) : Reader (Option Limit) := do
  match ← peek? with
  | some 43 =>
    modify (·.drop 1)
    return (← digits).map .further
  | some 126 =>
    modify (·.drop 1)
    return (← digits).map .multiple
  | _ => return (← place? extended).map .place

/-! ### Texts and names -/

/-- Ends a command. -/
def endCommand : Reader Unit := do
  skip isBlankInLine
  match ← peek? with
  | none => return
  | some b =>
    if b == 10 || b == 59 then modify (·.drop 1)
    else if b == 125 || b == 35 then return
    else
      modify (·.drop 1)
      wrong "extra characters after command"

/-- The name of a file: the rest of the line. -/
def fileName : Reader Bytes := do
  skip isBlankInLine
  let name := (← get).takeWhile (· != 10)
  modify (·.drop name.length)
  if name.isEmpty then wrong "missing filename in r/R/w/W commands"
  return name

/-- The name of a place to jump to. -/
def labelName (isTarget : Bool) : Reader Bytes := do
  skip isBlankInLine
  let name := (← get).takeWhile fun b => !(isBlank b || (isTarget && b == 59))
  modify (·.drop name.length)
  return name

/-- A text up to a line feed that no backslash protects. -/
def textFrom (acc : Bytes) : Nat → Bytes → Bytes × Bytes
  | 0, bs => (acc.reverse, bs)
  | _ + 1, [] => (acc.reverse, [])
  | _ + 1, [92] => (acc.reverse, [])
  | fuel + 1, 92 :: rest =>
    match escape? rest with
    | some (b, rest) => textFrom (b :: acc) fuel rest
    | none =>
      match rest with
      | c :: rest => textFrom ((if c == 110 then 10 else c) :: acc) fuel rest
      | [] => (acc.reverse, [])
  | fuel + 1, b :: rest => if b == 10 then (acc.reverse, rest) else textFrom (b :: acc) fuel rest

/-- The text of a command that has one. -/
def commandText : Reader Bytes := do
  skip isBlankInLine
  match ← get with
  | [] => wrong "expected \\ after \x60a', \x60c' or \x60i'"
  | 92 :: rest =>
    let behind := rest.dropWhile isBlankInLine
    match behind with
    | 10 :: more => textOf more
    | [] =>
      set behind
      return []
    | _ => textOf rest
  | bs => textOf bs
where
  /-- A text, with the line feed that ends it. -/
  textOf (bs : Bytes) : Reader Bytes := do
    let (text, rest) := textFrom [] (bs.length + 1) bs
    set rest
    return text ++ [10]

/-! ### Replacements -/

/-- The pieces of a replacement. -/
def piecesFrom (acc : Bytes) : Nat → Bytes → List Piece
  | 0, _ => []
  | _ + 1, [] => flush acc []
  | fuel + 1, 38 :: rest => flush acc (.group 0 :: piecesFrom [] fuel rest)
  | fuel + 1, 92 :: rest =>
    match rest with
    | [] => flush (92 :: acc) []
    | c :: more =>
      if 48 ≤ c && c ≤ 57 then flush acc (.group (c.toNat - 48) :: piecesFrom [] fuel more)
      else if [76, 85, 69, 108, 117].contains c then
        flush acc (.case (Char.ofNat c.toNat) :: piecesFrom [] fuel more)
      else if c == 110 then piecesFrom (10 :: acc) fuel more
      else
        match escape? rest with
        | some (b, more) => piecesFrom (b :: acc) fuel more
        | none => piecesFrom (c :: acc) fuel more
  | fuel + 1, b :: rest => piecesFrom (b :: acc) fuel rest
where
  /-- The text that has been read, in front of what follows. -/
  flush (acc : Bytes) (rest : List Piece) : List Piece :=
    if acc.isEmpty then rest else .text acc.reverse :: rest

/-- What is said behind a replacement. -/
structure Marks where
  everywhere : Bool := false
  which : Option Nat := none
  print : Bool := false
  ignoresCase : Bool := false
  hasLines : Bool := false
  file : Option Bytes := none

/-- Takes the letters behind a replacement. -/
def marksFrom : Nat → Marks → Reader Marks
  | 0, m => return m
  | fuel + 1, m => do
    match ← peek? with
    | none => return m
    | some b =>
      match Char.ofNat b.toNat with
      | '}' => return m
      | '#' => return m
      | c =>
        if '0' ≤ c && c ≤ '9' then
          let n := (← digits).getD 0
          if m.which.isSome then wrong "multiple number options to \x60s' command"
          if n == 0 then wrong "number option to \x60s' command may not be zero"
          marksFrom fuel { m with which := some n }
        else
          modify (·.drop 1)
          match c with
          | 'i' => marksFrom fuel { m with ignoresCase := true }
          | 'I' => marksFrom fuel { m with ignoresCase := true }
          | 'm' => marksFrom fuel { m with hasLines := true }
          | 'M' => marksFrom fuel { m with hasLines := true }
          | 'e' => marksFrom fuel m
          | 'p' =>
            if m.print then wrong "multiple \x60p' options to \x60s' command"
            marksFrom fuel { m with print := true }
          | 'g' =>
            if m.everywhere then wrong "multiple \x60g' options to \x60s' command"
            marksFrom fuel { m with everywhere := true }
          | 'w' => return { m with file := some (← fileName) }
          | '\n' => return m
          | ';' => return m
          | _ => if isBlank b then marksFrom fuel m else wrong "unknown option to \x60s'"

/-- A replacement behind its letter. -/
def replacement (extended : Bool) : Reader Replacement := do
  let unended : String := "unterminated \x60s' command"
  let some d ← next? | wrong unended
  let some text ← upTo d true | wrong unended
  let some new ← upTo d false | wrong unended
  let m ← marksFrom (← get).length.succ {}
  let s ← sought extended text m.ignoresCase m.hasLines
  let pieces := piecesFrom [] (new.length + 1) new
  let most := pieces.foldl (fun n p =>
    match p with
    | .group k => max n k
    | _ => n) 0
  if let some s := s then
    if Expression.groupsOf s.expression < most then
      wrong ("invalid reference \\" ++ toString most ++ " on \x60s' command's RHS")
  return { sought := s, pieces, everywhere := m.everywhere, which := m.which.getD 1
           print := m.print, file := m.file }

/-- The bytes of one side of an exchange. -/
def exchangeText : Bytes → Bytes
  | 92 :: 92 :: rest => 92 :: exchangeText rest
  | 92 :: 110 :: rest => 10 :: exchangeText rest
  | b :: rest => b :: exchangeText rest
  | [] => []

def exchange : Reader (List (UInt8 × UInt8)) := do
  let unended : String := "unterminated \x60y' command"
  let some d ← next? | wrong unended
  let some old ← upTo d false | wrong unended
  let some new ← upTo d false | wrong unended
  let plain (bs : Bytes) : Bytes := exchangeText (plainText [] (bs.length + 1) bs)
  let (old, new) := (plain old, plain new)
  if old.length != new.length then wrong "strings for \x60y' command are different lengths"
  endCommand
  return old.zip new

/-! ### Scripts -/

/-- The action of a command by its letter, which has been read. -/
def action (extended : Bool) (c : Char) : Reader Action := do
  match c with
  | 'a' => return .text 'a' (← commandText)
  | 'i' => return .text 'i' (← commandText)
  | 'c' => return .text 'c' (← commandText)
  | 's' => return .replace (← replacement extended)
  | 'y' => return .exchange (← exchange)
  | 'r' => return .readFile (← fileName)
  | 'R' => return .readLine (← fileName)
  | 'w' => return .write (← fileName) false
  | 'W' => return .write (← fileName) true
  | 'q' => quit false
  | 'Q' => quit true
  | 'l' =>
    skip isBlankInLine
    let n ← digits
    endCommand
    return .list n
  | 'b' => jump .always
  | 't' => jump .replaced
  | 'T' => jump .notReplaced
  | 'v' =>
    let name ← labelName true
    if (name.head?).any fun b => 53 ≤ b && b ≤ 57 then wrong "expected newer version of sed"
    endCommand
    return .none
  | c =>
    if "=dDeFgGhHnNpPxz".toList.contains c then
      endCommand
      return .letter c
    else wrong ("unknown command: \x60" ++ String.ofList [c] ++ "'")
where
  /-- The end of the work, with a code. -/
  quit (silent : Bool) : Reader Action := do
    skip isBlankInLine
    let n ← digits
    endCommand
    return .quit silent (n.getD 0)
  /-- A jump to a label, or to the end. -/
  jump (kind : JumpKind) : Reader Action := do
    let name ← labelName true
    endCommand
    return .jump kind name

def isZeroLine : Place → Bool
  | .line 0 => true
  | _ => false

/-- Whether lines may begin before the first one. -/
def mayBeginBefore : Option Limit → Bool
  | some (.place (.found _)) => true
  | _ => false

/-- Commands behind some others; `blocks` holds those that begin blocks without end. -/
def commandsFrom (extended : Bool) (done : Array Command) (blocks : List Nat) :
    Nat → Reader (Array Command)
  | 0 => return done
  | fuel + 1 => do
    skip fun b => isBlank b || b == 59
    if (← get).isEmpty then
      if blocks.isEmpty then return done
      else throw { left := none, text := "unmatched \x60\x7b'" }
    if (← peek?) == some 43 || (← peek?) == some 126 then
      modify (·.drop 1)
      if (← peek?).any fun b => 48 ≤ b && b ≤ 57 then
        modify (·.drop 1)
        wrong "invalid usage of +N or ~N as first address"
      wrong ("unknown command: \x60+'")
    let start ← place? extended
    skip isBlankInLine
    let mut limit : Option Limit := none
    if start.isSome && (← peek?) == some 44 then
      modify (·.drop 1)
      skip isBlankInLine
      limit ← limit? extended
      if limit.isNone then
        modify (·.drop 1)
        wrong "unexpected \x60,'"
    if start.any isZeroLine && !mayBeginBefore limit then
      modify (·.drop 1)
      wrong "invalid usage of line address 0"
    skip isBlankInLine
    let mut negated := false
    if (← peek?) == some 33 then
      modify (·.drop 1)
      skip isBlankInLine
      negated := true
      if (← peek?) == some 33 then
        modify (·.drop 1)
        wrong "multiple \x60!'s"
    let some b ← next? | wrong "missing command"
    let c := Char.ofNat b.toNat
    let put (a : Action) : Array Command := done.push { start, limit, negated, action := a }
    match c with
    | '#' =>
      if start.isSome then wrong "comments don't accept any addresses"
      skip (· != 10)
      commandsFrom extended done blocks fuel
    | '\n' => wrong "missing command"
    | '\x7b' => commandsFrom extended (put (.opening 0)) (done.size :: blocks) fuel
    | '\x7d' =>
      match blocks with
      | [] => wrong "unexpected \x60\x7d'"
      | block :: blocks =>
        if start.isSome then wrong ": doesn't want any addresses"
        endCommand
        let done := done.modify block fun k => { k with action := .opening done.size }
        commandsFrom extended (done.push { action := .closing }) blocks fuel
    | ':' =>
      if start.isSome then wrong ": doesn't want any addresses"
      let name ← labelName true
      if name.isEmpty then wrong "\":\" lacks a label"
      commandsFrom extended (put (.label name)) blocks fuel
    | c =>
      if limit.isSome && (c == 'q' || c == 'Q') then wrong "command only uses one address"
      let a ← action extended c
      commandsFrom extended (put a) blocks fuel

/-- The commands of a script. -/
def readScript (extended : Bool) (script : Bytes) : Except Fault (Array Command) :=
  (commandsFrom extended #[] [] (script.length + 1)).run' script

/-- The label of a jump to nowhere. -/
def missingLabel? (commands : Array Command) : Option Bytes :=
  commands.toList.findSome? fun k =>
    match k.action with
    | .jump _ name =>
      let isThere := name.isEmpty || commands.any fun l =>
        match l.action with
        | .label n => n == name
        | _ => false
      if isThere then none else some name
    | _ => none

end Editing
end Rehearsal
end Parley
