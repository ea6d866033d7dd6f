import Parley.Toml.Scalar
import Parley.Toml.Value

/-!
# Parley.Toml.Reader

Reads keys and values. A reader takes what it reads from the front of the text and keeps count of
the bytes; where it cannot read on it stops with the place.

* `Reader.keyPath`: a key, with dots between its parts.
* `Reader.value`: a value.
-/

namespace Parley
namespace Toml

/-- A place in a text. -/
structure Cursor where
  rest : List Char
  place : Nat := 0

/-- Readers stop at the place that they cannot read. -/
abbrev Reader := StateT Cursor (Except Nat)

namespace Reader

/-- Stops where the text cannot be read. -/
def stop {α : Type} : Reader α := do throw (← get).place

def peek : Reader (Option Char) := do return (← get).rest.head?

/-- The place in the text, in bytes. -/
def place : Reader Nat := do return (← get).place

/-- Goes on past some characters, which are at the front of the text. -/
def pass (cs : List Char) : Reader Unit := modify fun c =>
  { rest := c.rest.drop cs.length, place := c.place + cs.foldl (fun n c => n + c.utf8Size) 0 }

/-- Passes the characters at the front that satisfy a condition, and returns them. -/
def takeWhile (p : Char → Bool) : Reader (List Char) := do
  let cs := (← get).rest.takeWhile p
  pass cs
  return cs

/-- Passes a given text, if it comes next. -/
def tryText (cs : List Char) : Reader Bool := do
  if cs.isPrefixOf (← get).rest then
    pass cs
    return true
  else return false

def expect (cs : List Char) : Reader Unit := do
  if !(← tryText cs) then stop

def blanks : Reader Unit := do let _ ← takeWhile fun c => c == ' ' || c == '\t'

/-- A line break, if it comes next. -/
def tryNewline : Reader Bool := do return (← tryText ['\n']) || (← tryText ['\r', '\n'])

/-- Characters that a comment may hold. -/
def isComment (c : Char) : Bool := c == '\t' || (32 ≤ c.toNat && c.toNat != 127)

/-- A comment, if one comes next. -/
def tryComment : Reader Bool := do
  if ← tryText ['#'] then
    let _ ← takeWhile isComment
    return true
  else return false

/-- The end of a line behind something: blanks, a comment, and a line break unless the text ends. -/
def lineEnd : Reader Unit := do
  blanks
  let _ ← tryComment
  if (← peek).isSome then
    if !(← tryNewline) then stop

/-- Blanks, comments and line breaks, as they may stand between the items of an array; at most
`fuel` of them. -/
def gap : Nat → Reader Unit
  | 0 => stop
  | fuel + 1 => do
    blanks
    if ← tryNewline then gap fuel
    else if ← tryComment then
      if ← tryNewline then gap fuel else stop

/-! ## Strings -/

/-- Characters that may stand in a string on one line, besides its quotes and the backslash. -/
def isPlain (c : Char) : Bool := c == '\t' || (32 ≤ c.toNat && c.toNat != 127)

/-- A character by its number, in so many hexadecimal digits. -/
def numbered (digits : Nat) : Reader Char := do
  let ds := (← get).rest.take digits
  if ds.length == digits && ds.all Scalar.isHexDigit then
    let n := Scalar.valueInBase 16 ds
    if n < 0xD800 || (0xE000 ≤ n && n ≤ 0x10FFFF) then
      pass ds
      return Char.ofNat n
    else stop
  else stop

/-- What a backslash and the characters behind it stand for. -/
def escape : Reader Char := do
  match ← peek with
  | some c =>
    pass [c]
    match c with
    | 'b' => return '\x08'
    | 't' => return '\t'
    | 'n' => return '\n'
    | 'f' => return '\x0c'
    | 'r' => return '\r'
    | '"' => return '"'
    | '\\' => return '\\'
    | 'u' => numbered 4
    | 'U' => numbered 8
    | _ => stop
  | none => stop

/-- The rest of a string on one line; `acc` holds what has been read, the last character first. -/
def basic (acc : List Char) : Nat → Reader String
  | 0 => stop
  | fuel + 1 => do
    match ← peek with
    | some '"' =>
      pass ['"']
      return String.ofList acc.reverse
    | some '\\' =>
      pass ['\\']
      let c ← escape
      basic (c :: acc) fuel
    | some c =>
      if isPlain c then
        pass [c]
        basic (c :: acc) fuel
      else stop
    | none => stop

/-- The rest of a string on one line in which nothing stands for anything else. -/
def literal : Reader String := do
  let cs ← takeWhile fun c => isPlain c && c != '\''
  expect ['\'']
  return String.ofList cs

/-- Quotes in a string of several lines. Three or more end it, and up to two of them belong to it;
the answer is how many belong to it, and whether it ends. -/
def quotes (quote : Char) : Reader (Nat × Bool) := do
  let run := ((← get).rest.takeWhile (· == quote)).length
  let inside := if run < 3 then run else min (run - 3) 2
  pass (List.replicate (if run < 3 then run else inside + 3) quote)
  return (inside, 3 ≤ run)

/-- A line that is continued behind a backslash: the blanks and line breaks up to the next text. -/
def continued : Nat → Reader Unit
  | 0 => stop
  | fuel + 1 => do
    blanks
    if ← tryNewline then continued fuel

/-- The rest of a string of several lines. -/
def manyLines (quote : Char) (acc : List Char) : Nat → Reader String
  | 0 => stop
  | fuel + 1 => do
    if ← tryNewline then manyLines quote ('\n' :: acc) fuel
    else
      match ← peek with
      | none => stop
      | some c =>
        if c == quote then
          let (inside, ends) ← quotes quote
          let acc := List.replicate inside quote ++ acc
          if ends then return String.ofList acc.reverse
          else manyLines quote acc fuel
        else if c == '\\' && quote == '"' then
          pass [c]
          match ← peek with
          | some d =>
            if d == ' ' || d == '\t' || d == '\n' || d == '\r' then
              blanks
              if !(← tryNewline) then stop
              continued fuel
              manyLines quote acc fuel
            else
              let e ← escape
              manyLines quote (e :: acc) fuel
          | none => stop
        else if isPlain c then
          pass [c]
          manyLines quote (c :: acc) fuel
        else stop

/-- More steps than the rest of the text can need. -/
def enough : Reader Nat := do return (← get).rest.length + 1

/-- A string on one line, if one comes next. -/
def tryShortString : Reader (Option String) := do
  if ← tryText ['"'] then return some (← basic [] (← enough))
  else if ← tryText ['\''] then return some (← literal)
  else return none

/-- A string, if one comes next. The line break behind three opening quotes is no part of it. -/
def tryString : Reader (Option String) := do
  if ← tryText ['"', '"', '"'] then
    let _ ← tryNewline
    return some (← manyLines '"' [] (← enough))
  else if ← tryText ['\'', '\'', '\''] then
    let _ ← tryNewline
    return some (← manyLines '\'' [] (← enough))
  else tryShortString

/-! ## Keys -/

def isBareKey (c : Char) : Bool := c.isAlphanum || c == '-' || c == '_'

/-- One part of a key. -/
def key : Reader Key := do
  let start ← place
  let text ← match ← tryShortString with
    | some s => pure s
    | none =>
      let cs ← takeWhile isBareKey
      if cs.isEmpty then stop
      pure (String.ofList cs)
  return { text, span := ⟨start, ← place⟩ }

/-- How deep tables and arrays may be nested. -/
def depthLimit : Nat := 80

/-- The parts of a key, with blanks around each. -/
def keyPathFrom (acc : List Key) : Nat → Reader (List Key)
  | 0 => stop
  | fuel + 1 => do
    blanks
    let k ← key
    blanks
    let acc := k :: acc
    if ← tryText ['.'] then keyPathFrom acc fuel
    else return acc.reverse

def keyPath : Reader (List Key) := keyPathFrom [] (depthLimit - 1)

/-! ## Values -/

/-- A word as a value. A date may have its time behind one space. -/
def word : Reader Scalar := do
  let cs ← takeWhile Scalar.isWordChar
  if Scalar.isDate cs then
    match (← get).rest with
    | ' ' :: d :: rest =>
      if d.isDigit then
        let time := (d :: rest).takeWhile Scalar.isWordChar
        match Scalar.dateAndTime? cs time with
        | some moment =>
          pass (' ' :: time)
          return moment
        | none => stop
    | _ => pure ()
  match Scalar.ofWord? cs with
  | some s => return s
  | none => stop

/-- Puts a value into a table in braces, at the end of a path. -/
def insertInto (path : List Key) (v : Value) (es : Entries) : Option Entries :=
  match path.getLast? with
  | none => none
  | some last =>
    let put : Value → Option Value := fun t =>
      match t with
      | .table span origin es =>
        if (Entries.valueOf? last.text es).isSome then none
        else if (origin == .dotted) == (path.length == 1) then none
        else some (.table span origin (es ++ [(last, v)]))
      | _ => none
    match Value.within .dotted put path.dropLast (.table none .braces es) with
    | some (.table _ _ es) => some es
    | _ => none

mutual

/-- A value; `depth` says how many more values may be nested. -/
def value (depth : Nat) : Nat → Reader Value
  | 0 => stop
  | fuel + 1 => do
    let start ← place
    match ← tryString with
    | some s => return .string ⟨start, ← place⟩ s
    | none =>
      match depth with
      | 0 => stop
      | depth + 1 =>
        if ← tryText ['['] then
          if depth == 0 then stop
          gap (← enough)
          let items ← items depth [] fuel
          return .array ⟨start, ← place⟩ items
        else if ← tryText ['\x7b'] then
          if depth == 0 then stop
          blanks
          let es ← if ← tryText ['\x7d'] then pure [] else entries depth [] fuel
          return .table (some ⟨start, ← place⟩) .braces es
        else
          match ← word with
          | .integer i => return .integer ⟨start, ← place⟩ i
          | .float x => return .float ⟨start, ← place⟩ x
          | .boolean b => return .boolean ⟨start, ← place⟩ b
          | .datetime t => return .datetime ⟨start, ← place⟩ t

/-- The rest of an array, from the next item or the closing bracket on. -/
def items (depth : Nat) (acc : List Value) : Nat → Reader (List Value)
  | 0 => stop
  | fuel + 1 => do
    if ← tryText [']'] then return acc.reverse
    else
      let v ← value depth fuel
      gap (← enough)
      if ← tryText [','] then
        gap (← enough)
        items depth (v :: acc) fuel
      else
        expect [']']
        return (v :: acc).reverse

/-- The rest of a table in braces, from the next key on. -/
def entries (depth : Nat) (es : Entries) : Nat → Reader Entries
  | 0 => stop
  | fuel + 1 => do
    let path ← keyPath
    expect ['=']
    blanks
    let v ← value depth fuel
    blanks
    match insertInto path v es with
    | none => stop
    | some es =>
      if ← tryText [','] then entries depth es fuel
      else
        expect ['\x7d']
        return es

end

end Reader
end Toml
end Parley
