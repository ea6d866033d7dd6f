import Parley.Number.Leading
import Parley.Rehearsal.Format
import Parley.Rehearsal.Tool.Records.Syntax

/-!
# Parley.Rehearsal.Tool.Records.Token

The tokens of scripts for records.

* `Records.Token`: a token.
* `Records.tokensOf`: the tokens of a script.
-/

namespace Parley
namespace Rehearsal
namespace Records

inductive Token
  | number (x : Binary64)
  | text (bs : Bytes)
  | pattern (bs : Bytes)
  | name (s : String)
  /-- A name with a parenthesis behind it. -/
  | calling (s : String)
  | built (s : String)
  | keyword (s : String)
  | op (s : String)
  | newline
deriving DecidableEq, Repr, Inhabited

/-- A token with the line in which it stands, and how it is written. -/
structure Spot where
  token : Token
  line : Nat
  shown : String
deriving Repr, Inhabited

def keywords : List String :=
  ["BEGIN", "END", "function", "func", "if", "else", "while", "for", "do", "break", "continue",
   "next", "nextfile", "exit", "return", "delete", "in", "getline", "print", "printf"]

def builtNames : List String :=
  ["length", "substr", "index", "split", "sub", "gsub", "match", "sprintf", "sin", "cos", "atan2",
   "exp", "log", "sqrt", "int", "rand", "srand", "tolower", "toupper", "system", "close", "fflush",
   "systime", "strftime", "mktime"]

/-- Operators, the longer ones first. -/
def operators : List String :=
  ["+=", "-=", "*=", "/=", "%=", "^=", "==", "<=", ">=", "!=", "!~", "&&", "||", "++", "--", ">>",
   "\x7b", "\x7d", "(", ")", "[", "]", ";", ",", "+", "-", "*", "/", "%", "^", "!", ">", "<", "|",
   "?", ":", "~", "$", "="]

def isNameStart (c : Char) : Bool := c.isAlpha || c == '_'

def isNamePart (c : Char) : Bool := c.isAlphanum || c == '_'

/-- Whether a value may end with a token, so that a slash behind it divides. -/
def endsValue : Token → Bool
  | .number _ => true
  | .text _ => true
  | .pattern _ => true
  | .name _ => true
  | .built _ => true
  | .op ")" => true
  | .op "]" => true
  | .op "$" => true
  | .op "++" => true
  | .op "--" => true
  | _ => false

/-- The characters that a backslash and what is behind it stand for, the last one first, and what
follows them. -/
def escapeAt : List Char → List Char × List Char
  | [] => (['\\'], [])
  | '\n' :: rest => ([], rest)
  | '"' :: rest => (['"'], rest)
  | '\\' :: rest => (['\\'], rest)
  | 'x' :: rest =>
    match Format.hexEscape rest with
    | some (c, rest) => ([c], rest)
    | none => (['x', '\\'], rest)
  | c :: rest =>
    let letter := [('a', '\x07'), ('b', '\x08'), ('f', '\x0c'), ('n', '\n'), ('r', '\r'),
      ('t', '\t'), ('v', '\x0b')].lookup c
    match letter with
    | some d => ([d], rest)
    | none =>
      if Format.isOctal c then
        let (d, rest) := Format.octal 0 3 (c :: rest)
        ([d], rest)
      else ([c, '\\'], rest)

/-- A text up to its closing quote, and what follows; none if it does not end. -/
def textFrom (acc : List Char) : Nat → List Char → Option (List Char × List Char)
  | 0, _ => none
  | _ + 1, [] => none
  | fuel + 1, '\\' :: rest =>
    let (cs, rest) := escapeAt rest
    textFrom (cs ++ acc) fuel rest
  | fuel + 1, c :: rest =>
    if c == '"' then some (acc.reverse, rest)
    else if c == '\n' then none
    else textFrom (c :: acc) fuel rest

/-- A text without quotes, with what its escapes stand for. -/
def unescaped (acc : List Char) : Nat → List Char → List Char
  | 0, _ => acc.reverse
  | _ + 1, [] => acc.reverse
  | fuel + 1, '\\' :: rest =>
    let (cs, rest) := escapeAt rest
    unescaped (cs ++ acc) fuel rest
  | fuel + 1, c :: rest => unescaped (c :: acc) fuel rest

def unescapedBytes (bs : Bytes) : Bytes := ofLetters (unescaped [] (bs.length + 1) (letters bs))

/-- A regular expression up to its closing slash, and what follows; none if it does not end. -/
def patternFrom (inSet : Bool) (acc : List Char) : List Char → Option (List Char × List Char)
  | [] => none
  | '\n' :: _ => none
  | '\\' :: '/' :: rest => patternFrom inSet ('/' :: acc) rest
  | '\\' :: c :: rest => patternFrom inSet (c :: '\\' :: acc) rest
  | '/' :: rest => if inSet then patternFrom inSet ('/' :: acc) rest else some (acc.reverse, rest)
  | '[' :: ']' :: rest => patternFrom (!inSet) (']' :: '[' :: acc) rest
  | '[' :: '^' :: ']' :: rest => patternFrom (!inSet) (']' :: '^' :: '[' :: acc) rest
  | '[' :: rest => patternFrom true ('[' :: acc) rest
  | c :: rest => patternFrom (inSet && c != ']') (c :: acc) rest

/-- How much of a number stands at the front of a text. -/
def numberLength (cs : List Char) : Nat :=
  let whole := (cs.takeWhile Char.isDigit).length
  let rest := cs.drop whole
  let part := match rest with
    | '.' :: more => (more.takeWhile Char.isDigit).length + 1
    | _ => 0
  let rest := rest.drop part
  let power := match rest with
    | e :: more =>
      if e == 'e' || e == 'E' then
        let sign := match more with
          | '+' :: _ => 1
          | '-' :: _ => 1
          | _ => 0
        let ds := ((more.drop sign).takeWhile Char.isDigit).length
        if ds == 0 then 0 else ds + sign + 1
      else 0
    | [] => 0
  whole + part + power

/-- Takes a token that begins with a letter. -/
def word (cs : List Char) : Token × String × List Char :=
  let name := cs.takeWhile isNamePart
  let rest := cs.drop name.length
  let s := String.ofList name
  let token : Token :=
    if keywords.contains s then .keyword s
    else if builtNames.contains s then .built s
    else if rest.head? == some '(' then .calling s
    else .name s
  (token, s, rest)

/-- The tokens of a script from a place on. -/
def tokensFrom (line : Nat) (last : Option Token) : Nat → List Char → Except String (List Spot)
  | 0, _ => .ok []
  | _ + 1, [] => .ok []
  | fuel + 1, c :: rest => do
    let put (t : Token) (shown : String) (rest : List Char) : Except String (List Spot) := do
      return { token := t, line, shown } :: (← tokensFrom line (some t) fuel rest)
    if c == ' ' || c == '\t' || c == '\r' then tokensFrom line last fuel rest
    else if c == '\n' then
      return { token := .newline, line, shown := "end of line" } ::
        (← tokensFrom (line + 1) (some .newline) fuel rest)
    else if c == '#' then tokensFrom line last fuel (rest.dropWhile (· != '\n'))
    else if c == '\\' && rest.head? == some '\n' then tokensFrom (line + 1) last fuel (rest.drop 1)
    else if c == '"' then
      match textFrom [] (rest.length + 1) rest with
      | some (cs, more) => put (.text (ofLetters cs)) (String.ofList cs) more
      | none =>
        throw ("line " ++ toString line ++ ": runaway string constant \"" ++
          String.ofList ((rest.takeWhile (· != '\n')).take 10) ++ " ...")
    else if c == '/' && !(last.any endsValue) then
      match patternFrom false [] rest with
      | some (cs, more) => put (.pattern (ofLetters cs)) ("/" ++ String.ofList cs ++ "/") more
      | none =>
        throw ("line " ++ toString line ++ ": runaway regular expression /" ++
          String.ofList ((rest.takeWhile (· != '\n')).take 10) ++ " ...")
    else if c.isDigit || (c == '.' && (rest.head?).any Char.isDigit) then
      let n := numberLength (c :: rest)
      let written := (c :: rest).take n
      let x := ((Number.leading? written).map (·.1)).getD (.zero false)
      put (.number x) (String.ofList written) ((c :: rest).drop n)
    else if isNameStart c then
      let (t, s, more) := word (c :: rest)
      put t s more
    else
      match operators.find? fun o => o.toList.isPrefixOf (c :: rest) with
      | some o => put (.op o) o ((c :: rest).drop o.length)
      | none =>
        throw (toString line ++ ": unexpected character '" ++ String.ofList [c] ++ "'")

/-- The tokens of a script. -/
def tokensOf (script : Bytes) : Except String (List Spot) :=
  tokensFrom 1 none (script.length + 1) (letters script)

end Records
end Rehearsal
end Parley
