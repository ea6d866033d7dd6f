import Parley.Regex.Named

/-!
# Parley.Regex.Escape

What a backslash begins: a character by its number or by a letter, a set of characters, or a
condition on the place. Where blanks are ignored, they are ignored between any two characters of an
escape, comments among them.

* `dropBlank`, `glance`: how blanks are ignored.
* `readEscape`: an escape, after its backslash.
-/

namespace Parley
namespace Regex

open Unicode (CodeSet)

/-- What an escape stands for. -/
inductive Escape
  | char (c : Char)
  | set (s : CodeSet)
  | look (l : Look)
deriving Repr

def isBlank (c : Char) : Bool := Unicode.blank.contains c.toNat

/-- What follows the blanks and the comments, which go from `#` to the end of the line. -/
def dropBlank (f : Flags) (cs : List Char) : List Char :=
  if f.ignoreBlank then skip false cs else cs
where
  skip : Bool → List Char → List Char
    | _, [] => []
    | true, c :: rest => skip (c != '\n') rest
    | false, c :: rest =>
      if isBlank c then skip false rest
      else if c == '#' then skip true rest
      else c :: rest

/-- The next character behind blanks. Of a comment only its sign is passed, and the text of the
comment counts. -/
def glance (f : Flags) (cs : List Char) : Option Char :=
  if f.ignoreBlank then look false cs else cs.head?
where
  look : Bool → List Char → Option Char
    | _, [] => none
    | passed, c :: rest =>
      if isBlank c then look passed rest
      else if c == '#' && !passed then look true rest
      else some c

def isMeta (c : Char) : Bool := "\\.+*?()|[]\x7b\x7d^$#&-~".toList.contains c

/-- Characters that a backslash leaves as they are. -/
def isEscapable (c : Char) : Bool :=
  isMeta c || (c.toNat < 128 && !c.isAlphanum && c != '<' && c != '>')

/-- The character with this number. -/
def scalar? (n : Nat) : Option Char := if h : n.isValidChar then some (Char.ofNatAux n h) else none

/-- A fixed count of hexadecimal digits. -/
def readFixedHex (f : Flags) : Nat → Nat → List Char → Except Fault (Nat × List Char)
  | 0, value, cs => .ok (value, cs)
  | _ + 1, _, [] => .error .escape
  | n + 1, value, c :: rest =>
    match CodeSet.hexDigit? c with
    | none => .error .escape
    | some d => readFixedHex f n (value * 16 + d) (dropBlank f rest)

/-- The characters up to a closing brace, without blanks, and what follows it. `passed` says whether
a comment is being passed, and `acc` holds the characters read, the last one first. -/
def readBraced (f : Flags) (passed : Bool) (acc : List Char) :
    List Char → Except Fault (List Char × List Char)
  | [] => .error .escape
  | c :: rest =>
    if passed then readBraced f (c != '\n') acc rest
    else if f.ignoreBlank && isBlank c then readBraced f false acc rest
    else if f.ignoreBlank && c == '#' then readBraced f true acc rest
    else if c == '\x7d' then .ok (acc.reverse, rest)
    else readBraced f false (c :: acc) rest

/-- The number of hexadecimal digits, of which there is one at least. -/
def hexNumber (ds : List Char) : Except Fault Nat :=
  match ds.mapM CodeSet.hexDigit? with
  | some (d :: ds) => .ok (ds.foldl (fun n d => n * 16 + d) d)
  | _ => .error .escape

/-- A character by its number; `width` is the count of digits that stand without braces. -/
def readHex (f : Flags) (width : Nat) (cs : List Char) : Except Fault (Char × List Char) := do
  let (value, rest, fixed) ← match dropBlank f cs with
    | '\x7b' :: inner =>
      let (digits, rest) ← readBraced f false [] inner
      pure (← hexNumber digits, dropBlank f rest, false)
    | cs =>
      let (value, rest) ← readFixedHex f width 0 cs
      pure (value, rest, true)
  if fixed && width == 2 && 128 ≤ value && !f.unicode then throw .notText
  match scalar? value with
  | some c => return (c, rest)
  | none => throw .escape

/-- Splits at the first place where a separator stands. -/
def splitAt? (separator : List Char) : List Char → List Char → Option (List Char × List Char)
  | seen, [] => if separator.isEmpty then some (seen.reverse, []) else none
  | seen, cs@(c :: rest) =>
    if separator.isPrefixOf cs then some (seen.reverse, cs.drop separator.length)
    else splitAt? separator (c :: seen) rest

/-- The set that the text after `\p` names. The sign between a property and its value tells nothing
else. -/
def propertyNamed (name : List Char) : Except Fault CodeSet :=
  let parts := (splitAt? ['!', '='] [] name).orElse fun _ =>
    (splitAt? [':'] [] name).orElse fun _ => splitAt? ['='] [] name
  let set := match parts with
    | some (property, value) => valuedSet? (String.ofList property) (String.ofList value)
    | none => namedSet? (String.ofList name)
  match set with
  | some s => .ok s
  | none => .error .unknownProperty

/-- A property, after `\p` or `\P`. -/
def readProperty (f : Flags) (negated : Bool) (cs : List Char) :
    Except Fault (CodeSet × List Char) := do
  let (name, rest) ← match dropBlank f cs with
    | [] => throw .escape
    | '\x7b' :: inner => readBraced f false [] inner
    | '\\' :: _ => throw .unknownProperty
    | c :: rest => pure ([c], dropBlank f rest)
  if !f.unicode then throw .needsUnicode
  let s ← finishSet f negated (← propertyNamed name)
  return (s, rest)

/-- The special word boundaries, by the name in braces. -/
def wordBoundary? (unicode : Bool) : String → Option Look
  | "start" => some (.wordStart unicode)
  | "end" => some (.wordEnd unicode)
  | "start-half" => some (.wordStartHalf unicode)
  | "end-half" => some (.wordEndHalf unicode)
  | _ => none

/-- What follows `\b`: a name in braces makes it a special boundary. Braces that do not begin with a
name are a count and belong to what comes next. -/
def readBoundary (f : Flags) (cs : List Char) : Except Fault (Look × List Char) :=
  match cs with
  | '\x7b' :: inner =>
    let isName (c : Char) : Bool := c.isAlpha || c == '-'
    match dropBlank f inner with
    | [] => .error .escape
    | c :: _ =>
      if !isName c then .ok (.wordBoundary f.unicode, cs)
      else
        match readBraced f false [] inner with
        | .ok (name, rest) =>
          match wordBoundary? f.unicode (String.ofList name) with
          | some look => .ok (look, rest)
          | none => .error .escape
        | .error e => .error e
  | _ => .ok (.wordBoundary f.unicode, cs)

/-- An escape, after its backslash. -/
def readEscape (f : Flags) : List Char → Except Fault (Escape × List Char)
  | [] => .error .escape
  | c :: rest =>
    if c.isDigit then .error .backReference
    else if c == 'x' || c == 'u' || c == 'U' then do
      let width := if c == 'x' then 2 else if c == 'u' then 4 else 8
      let (value, rest) ← readHex f width rest
      return (.char value, rest)
    else if c == 'p' || c == 'P' then do
      let (s, rest) ← readProperty f (c == 'P') rest
      return (.set s, rest)
    else
      match shorthand? f c with
      | some s => s.map fun s => (.set s, rest)
      | none =>
        if isEscapable c then .ok (.char c, rest)
        else
          match c with
          | 'a' => .ok (.char '\x07', rest)
          | 'f' => .ok (.char '\x0C', rest)
          | 't' => .ok (.char '\t', rest)
          | 'n' => .ok (.char '\n', rest)
          | 'r' => .ok (.char '\r', rest)
          | 'v' => .ok (.char '\x0B', rest)
          | 'A' => .ok (.look .textStart, rest)
          | 'z' => .ok (.look .textEnd, rest)
          | 'B' => .ok (.look (.notWordBoundary f.unicode), rest)
          | '<' => .ok (.look (.wordStart f.unicode), rest)
          | '>' => .ok (.look (.wordEnd f.unicode), rest)
          | 'b' => (readBoundary f rest).map fun (l, rest) => (.look l, rest)
          | _ => .error .escape

end Regex
end Parley
