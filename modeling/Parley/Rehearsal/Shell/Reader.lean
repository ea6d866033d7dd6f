import Parley.Rehearsal.Shell.Source

/-!
# Parley.Rehearsal.Shell.Reader

Reads the commands of a script from its text, one line of commands after another, so that a fault
further down does not keep those above from being run.

* `Source.next`: the next commands of a script, and what is left of it.
* `Source.words`: a text with parameters in it, as between double quotes.
-/

namespace Parley
namespace Rehearsal
namespace Shell

namespace Scan

/-- Where a part of a word stands. -/
inductive Style
  /-- In a word without quotes; one that only marks the end of a text has no parameters. -/
  | bare (isMark : Bool)
  /-- In the word of a parameter without quotes. -/
  | operand
  /-- Between double quotes. -/
  | quoted
  /-- In the word of a parameter between double quotes, perhaps between quotes of its own. -/
  | quotedOperand (toggled inDocument : Bool)
  | document
  /-- In an expression, between so many brackets. -/
  | arithmetic (depth : Nat)
deriving DecidableEq, Repr

namespace Style

/-- Characters that stand for themselves. -/
def isPlain (style : Style) (c : Char) : Bool :=
  match style with
  | bare true => !" \t\n;&|()<>'\"\\".toList.contains c
  | bare false => !" \t\n;&|()<>'\"\\$\x60".toList.contains c
  | operand => !"'\"\\$\x60\x7d".toList.contains c
  | quoted => !"\"\\$\x60".toList.contains c
  | quotedOperand .. => !"\"\\$\x60\x7d".toList.contains c
  | document => !"\\$\x60".toList.contains c
  | arithmetic _ => !"\\$\x60()".toList.contains c

/-- Whether all is protected as between double quotes. -/
def isQuoted : Style → Bool
  | bare _ => false
  | operand => false
  | _ => true

/-- Whether a backslash protects a character, and is gone with that. -/
def protects (style : Style) (c : Char) : Bool :=
  match style with
  | bare _ => true
  | operand => true
  | quotedOperand toggled _ => "\\\x60$\"".toList.contains c || (c == '\x7d' && !toggled)
  | document => "\\\x60$".toList.contains c
  | _ => "\\\x60$\"".toList.contains c

/-- The style of the word of a parameter. -/
def ofOperand : Style → Style
  | bare _ => operand
  | operand => operand
  | document => quotedOperand false true
  | quotedOperand _ inDocument => quotedOperand false inDocument
  | _ => quotedOperand false false

end Style

/-- Puts a part behind others, the last of which comes first. -/
def push (p : Part) (acc : List Part) : List Part :=
  match p, acc with
  | .text b, .text a :: rest => .text (a ++ b) :: rest
  | .literal b, .literal a :: rest => .literal (a ++ b) :: rest
  | p, acc => p :: acc

def pushText (cs : List Char) (acc : List Part) : List Part := push (.text (ofLetters cs)) acc

def isSpecial (c : Char) : Bool := c.isDigit || "@*#?$!-".toList.contains c

/-- What comes of the end of the text in the midst of a word. -/
def ended (style : Style) (acc : List Part) : Scan (List Part) :=
  match style with
  | .bare _ => return acc.reverse
  | .document => return acc.reverse
  | .operand => wrong "Missing '\x7d'"
  | .quotedOperand _ true => wrong "Missing '\x7d'"
  | .arithmetic _ => wrong "Missing '))'"
  | _ => wrong "Unterminated quoted string"

/-- Reads another text and then goes on where it was. -/
def within {α : Type} (text : List Char) (line : Nat) (x : Scan α) : Scan α := do
  let s ← get
  set { source := { rest := text, line }, aliases := s.aliases : Scanning }
  let a ← x
  set s
  return a

/-- The text up to a back quote, without the backslashes that protect something. -/
def backquoteText (quoted : Bool) (acc : List Char) : Nat → Scan (List Char)
  | 0 => wrong "EOF in backquote substitution"
  | fuel + 1 => do
    match ← peekJoined with
    | none => wrong "EOF in backquote substitution"
    | some '\x60' =>
      skip
      return acc.reverse
    | some '\\' =>
      skip
      match ← peek with
      | none => wrong "EOF in backquote substitution"
      | some c =>
        skip
        if "\\\x60$".toList.contains c || (quoted && c == '"') then
          backquoteText quoted (c :: acc) fuel
        else backquoteText quoted (c :: '\\' :: acc) fuel
    | some c =>
      skip
      backquoteText quoted (c :: acc) fuel

/-- What may come next besides plain tokens. -/
structure Wanted where
  /-- Line feeds are passed over. -/
  newlines : Bool := false
  keywords : Bool := false
  aliases : Bool := false
  /-- A word only marks the end of a text. -/
  isMark : Bool := false

/-- Where a command may begin on a line of its own. -/
def Wanted.anew : Wanted := { newlines := true, keywords := true, aliases := true }

def asKeyword (t : Token) : Token :=
  match t with
  | .word w =>
    match plainText? w with
    | some bytes => if keywords.contains (wordOf bytes) then .keyword (wordOf bytes) else t
    | none => t
  | t => t

/-- The text of an alias, unless it is being read already. -/
def aliasOf? (t : Token) : Scan (Option (String × Bytes)) := do
  let s ← get
  match t with
  | .word w =>
    match plainText? w with
    | some bytes =>
      let name := wordOf bytes
      if s.replaced.any (·.name == name) then return none
      else return (s.aliases.lookup name).map fun text => (name, text)
    | none => return none
  | _ => return none

/-- The rest of the sign of a redirection. -/
def redirectionSign (c : Char) : Scan String := do
  if c == '>' then
    if ← trySign '>' then return ">>"
    else if ← trySign '|' then return ">|"
    else if ← trySign '&' then return ">&"
    else return ">"
  else if ← trySign '<' then
    if ← trySign '-' then return "<<-" else return "<<"
  else if ← trySign '&' then return "<&"
  else if ← trySign '>' then return "<>"
  else return "<"

/-- The text that a word stands for when nothing in it is replaced. -/
def rawText : Nat → List Part → Bytes
  | 0, _ => []
  | fuel + 1, ps => ps.flatMap fun
    | .text bs => bs
    | .literal bs => bs
    | .quotes inner => rawText fuel inner
    | _ => []

def isText : Part → Bool
  | .text _ => true
  | _ => false

/-- Commands one after another. -/
def sequence (first : Option Command) (second : Command) : Command :=
  match first with
  | some c => .seq c second
  | none => second

def inBackground (line : Nat) (c : Command) : Command :=
  match c with
  | .redirected line body redirects => .background line body redirects
  | c => .background line c []

/-- A word with a sign for each of some parts of the grammar. -/
def sign (text : String) : Option String := some ("\"" ++ text ++ "\"")

/-- The word that a token stands for in a pattern. -/
def patternOf (t : Token) : Word :=
  match t with
  | .word w => w
  | .keyword text => [.text (bytesOf text)]
  | _ => []

/-- How deep a script may go. -/
def tooDeep {α : Type} : Scan α := wrong "nesting too deep"

mutual

/-- The rest of a word, or of a text in which parameters stand. -/
def parts (style : Style) (acc : List Part) : Nat → Scan (List Part)
  | 0 => tooDeep
  | fuel + 1 => do
    match ← peekJoined with
    | none => ended style acc
    | some c =>
      if style.isPlain c then
        let run ← takeJoined style.isPlain [] (← get).source.rest.length
        parts style (pushText run acc) fuel
      else
        match c with
        | '\\' =>
          skip
          match ← peek with
          | none => parts style (push (.literal [92]) acc) fuel
          | some d =>
            skip
            let kept := if style.protects d then [d] else ['\\', d]
            parts style (push (.literal (ofLetters kept)) acc) fuel
        | '\'' =>
          skip
          let run ← takeAll (· != '\'') [] (← get).source.rest.length
          match ← peek with
          | none => wrong "Unterminated quoted string"
          | some _ =>
            skip
            parts style (push (.literal (ofLetters run)) acc) fuel
        | '"' =>
          skip
          match style with
          | .quoted => return acc.reverse
          | .quotedOperand toggled inDocument =>
            parts (.quotedOperand (!toggled) inDocument) acc fuel
          | _ =>
            let inner ← parts .quoted [] fuel
            parts style (.quotes inner :: acc) fuel
        | '$' =>
          skip
          let p ← dollar style fuel
          parts style (push p acc) fuel
        | '\x60' =>
          skip
          let text ← backquoteText style.isQuoted [] ((← get).source.rest.length + 1)
          let c ← within text 1 (listFrom false true none fuel)
          parts style (.output c :: acc) fuel
        | '\x7d' =>
          skip
          match style with
          | .operand => return acc.reverse
          | .quotedOperand false _ => return acc.reverse
          | style => parts style (pushText [c] acc) fuel
        | '(' =>
          match style with
          | .arithmetic depth =>
            skip
            parts (.arithmetic (depth + 1)) (pushText [c] acc) fuel
          | _ => return acc.reverse
        | ')' =>
          match style with
          | .arithmetic (depth + 1) =>
            skip
            parts (.arithmetic depth) (pushText [c] acc) fuel
          | .arithmetic 0 =>
            skip
            if ← trySign ')' then return acc.reverse
            else parts style (pushText [c] acc) fuel
          | _ => return acc.reverse
        | _ => return acc.reverse

/-- What stands behind a dollar sign; one alone stands for itself. -/
def dollar (style : Style) : Nat → Scan Part
  | 0 => tooDeep
  | fuel + 1 => do
    match ← peekJoined with
    | none => return .text [36]
    | some '(' =>
      skip
      if ← trySign '(' then return .arithmetic (← parts (.arithmetic 0) [] fuel)
      else
        let c ← listFrom false true none fuel
        match ← token {} fuel with
        | .closing => return .output c
        | t => unexpected t (sign ")")
    | some '\x7b' =>
      skip
      braced style fuel
    | some c =>
      if isNameStart c then
        let name ← takeJoined isNameChar [] (← get).source.rest.length
        return .parameter (String.ofList name) .value
      else if isSpecial c then
        skip
        return .parameter (String.ofList [c]) .value
      else return .text [36]

/-- A parameter between braces. -/
def braced (style : Style) : Nat → Scan Part
  | 0 => tooDeep
  | fuel + 1 => do
    let longName (c : Char) : Scan String := do
      let test := if c.isDigit then Char.isDigit else isNameChar
      return String.ofList (← takeJoined test [] (← get).source.rest.length)
    match ← peekJoined with
    | some '#' =>
      skip
      match ← peekJoined with
      | some d =>
        if isNameChar d then
          let name ← longName d
          lengthOf style name fuel
        else
          let ahead := (← get).source.rest.tail.head?
          if d != '\x7d' && ahead == some '\x7d' then
            skip
            if isSpecial d then lengthOf style (String.ofList [d]) fuel else malformed style fuel
          else asked style "#" fuel
      | none => malformed style fuel
    | some c =>
      if isNameStart c || c.isDigit then
        let name ← longName c
        asked style name fuel
      else if isSpecial c then
        skip
        asked style (String.ofList [c]) fuel
      else malformed style fuel
    | none => malformed style fuel

/-- What is no question about a parameter is passed over. -/
def malformed (style : Style) : Nat → Scan Part
  | 0 => tooDeep
  | fuel + 1 => do
    let _ ← parts style.ofOperand [] fuel
    return .parameter "" .malformed

/-- The length of a parameter, of which nothing else can be asked. -/
def lengthOf (style : Style) (name : String) : Nat → Scan Part
  | 0 => tooDeep
  | fuel + 1 => do
    if ← trySign '\x7d' then return .parameter name .length
    else malformed style fuel

/-- What is asked about a parameter. -/
def asked (style : Style) (name : String) : Nat → Scan Part
  | 0 => tooDeep
  | fuel + 1 => do
    let substitute (orEmpty : Bool) (c : Char) : Option Use :=
      match c with
      | '-' => some (.substitute .otherwise orEmpty [])
      | '+' => some (.substitute .instead orEmpty [])
      | '=' => some (.substitute .assigned orEmpty [])
      | '?' => some (.substitute .demanded orEmpty [])
      | _ => none
    let orEmpty ← trySign ':'
    match ← peekJoined with
    | none => malformed style fuel
    | some c =>
      pass
      if c == '\x7d' then return .parameter name .value
      else
        match substitute orEmpty c with
        | some (.substitute how orEmpty _) =>
          let word ← parts style.ofOperand [] fuel
          return .parameter name (.substitute how orEmpty word)
        | _ =>
          if !orEmpty && (c == '%' || c == '#') then
            let longest ← trySign c
            let pattern ← parts .operand [] fuel
            return .parameter name (.trimmed (c == '%') longest pattern)
          else malformed style fuel

/-- The next token as it stands. -/
def rawToken (isMark : Bool) : Nat → Scan Token
  | 0 => tooDeep
  | fuel + 1 => do
    match ← peekJoined with
    | none =>
      settle
      return .ended
    | some ' ' =>
      skip
      rawToken isMark fuel
    | some '\t' =>
      skip
      rawToken isMark fuel
    | some '#' =>
      let _ ← takeAll (· != '\n') [] (← get).source.rest.length
      rawToken isMark fuel
    | some '\n' =>
      skip
      return .newline
    | some '&' =>
      skip
      return if ← trySign '&' then .both else .ampersand
    | some '|' =>
      skip
      return if ← trySign '|' then .either else .bar
    | some ';' =>
      skip
      return if ← trySign ';' then .nextArm else .semicolon
    | some '(' =>
      skip
      return .opening
    | some ')' =>
      skip
      return .closing
    | some c =>
      if c == '<' || c == '>' then
        skip
        return .redirection none (← redirectionSign c)
      else
        let w ← parts (.bare isMark) [] fuel
        match plainText? w, ← peek with
        | some [d], some e =>
          if 48 ≤ d && d ≤ 57 && (e == '<' || e == '>') then
            skip
            return .redirection (some (d.toNat - 48)) (← redirectionSign e)
          else return .word w
        | _, _ => return .word w

/-- The next token, among others that may be wanted. -/
def token (wanted : Wanted) : Nat → Scan Token
  | 0 => tooDeep
  | fuel + 1 => do
    let pushed := (← get).pushed
    modify fun s => { s with pushed := none, aliasNext := false }
    let t ← match pushed with
      | some t => pure t
      | none => rawToken wanted.isMark fuel
    match t with
    | .newline => if wanted.newlines then token wanted fuel else return t
    | t =>
      let t := if wanted.keywords then asKeyword t else t
      let aliases := pushed.isNone && (wanted.aliases || (← get).aliasNext)
      match ← (if aliases then aliasOf? t else pure none) with
      | none => return t
      | some (name, text) =>
        replace name text
        token { wanted with aliases := true } fuel

/-- Commands up to a token that ends them; on a line of its own, up to a line feed as well. With
`mayEnd` there may be no commands. -/
def listFrom (onLine mayEnd : Bool) (acc : Option Command) : Nat → Scan (Option Command)
  | 0 => tooDeep
  | fuel + 1 => do
    let t ← token { Wanted.anew with newlines := !onLine } fuel
    match t with
    | .newline => return acc
    | .ended =>
      putBack t
      return acc
    | t =>
      putBack t
      if mayEnd && !onLine && t.endsList then return acc
      else
        let line := (← get).source.line
        let c ← chain fuel
        let t ← token {} fuel
        let all := match t with
          | .ampersand => sequence acc (inBackground line c)
          | _ => sequence acc c
        match t with
        | .ampersand => listFrom onLine true (some all) fuel
        | .semicolon => listFrom onLine true (some all) fuel
        | .newline =>
          putBack t
          listFrom onLine true (some all) fuel
        | .ended =>
          putBack t
          return some all
        | t =>
          if onLine then unexpected t none
          else
            putBack t
            return some all

/-- Commands that depend on the ones before. -/
def chain : Nat → Scan Command
  | 0 => tooDeep
  | fuel + 1 => do chainFrom (← pipes {} fuel) fuel

def chainFrom (first : Command) : Nat → Scan Command
  | 0 => tooDeep
  | fuel + 1 => do
    match ← token {} fuel with
    | .both => chainFrom (.both first (← pipes .anew fuel)) fuel
    | .either => chainFrom (.either first (← pipes .anew fuel)) fuel
    | t =>
      putBack t
      return first

/-- Commands that are joined by pipes. -/
def pipes (wanted : Wanted) : Nat → Scan Command
  | 0 => tooDeep
  | fuel + 1 => do
    let t ← token wanted fuel
    let negated := t.isKeyword "!"
    if !negated then putBack t
    let first ← command (if negated then { keywords := true, aliases := true } else {}) fuel
    let c := match ← pipesFrom [first] fuel with
      | [c] => c
      | cs => Command.pipeline cs
    return if negated then .negated c else c

def pipesFrom (acc : List Command) : Nat → Scan (List Command)
  | 0 => tooDeep
  | fuel + 1 => do
    match ← token {} fuel with
    | .bar =>
      let c ← command .anew fuel
      pipesFrom (c :: acc) fuel
    | t =>
      putBack t
      return acc.reverse

/-- Takes a keyword, and complains if there is another token. -/
def expect (text : String) (wanted : Wanted) : Nat → Scan Unit
  | 0 => tooDeep
  | fuel + 1 => do
    let t ← token wanted fuel
    if !t.isKeyword text then unexpected t (sign text)

/-- Commands that cannot be missing. -/
def body : Nat → Scan Command
  | 0 => tooDeep
  | fuel + 1 => do
    match ← listFrom false false none fuel with
    | some c => return c
    | none => return .simple 0 [] [] []

def command (wanted : Wanted) : Nat → Scan Command
  | 0 => tooDeep
  | fuel + 1 => do
    let line := (← get).source.line
    let t ← token wanted fuel
    match t with
    | .opening =>
      let inner ← body fuel
      match ← token {} fuel with
      | .closing => return .subshell line inner (← redirects true [] fuel)
      | t => unexpected t (sign ")")
    | .keyword "\x7b" =>
      let inner ← body fuel
      expect "\x7d" {} fuel
      redirected line inner fuel
    | .keyword "if" => redirected line (← conditional fuel) fuel
    | .keyword "while" => redirected line (← loop false fuel) fuel
    | .keyword "until" => redirected line (← loop true fuel) fuel
    | .keyword "for" => redirected line (← forEach line fuel) fuel
    | .keyword "case" =>
      match ← token {} fuel with
      | .word w =>
        expect "in" .anew fuel
        redirected line (.choose line w (← arms [] fuel)) fuel
      | t => unexpected t (some "word")
    | .word _ =>
      putBack t
      simple (← get).source.line [] [] [] fuel
    | .redirection .. =>
      putBack t
      simple (← get).source.line [] [] [] fuel
    | t => unexpected t none

/-- A command with the redirections behind it. -/
def redirected (line : Nat) (c : Command) : Nat → Scan Command
  | 0 => tooDeep
  | fuel + 1 => do
    match ← redirects true [] fuel with
    | [] => return c
    | rs => return .redirected line c rs

def redirects (first : Bool) (acc : List Redirect) : Nat → Scan (List Redirect)
  | 0 => tooDeep
  | fuel + 1 => do
    match ← token (if first then { keywords := true, aliases := true } else {}) fuel with
    | .redirection d s =>
      let r ← redirect d s fuel
      redirects false (r :: acc) fuel
    | t =>
      putBack t
      return acc.reverse

/-- What a descriptor is joined to. -/
def redirect (descriptor : Option Nat) (text : String) : Nat → Scan Redirect
  | 0 => tooDeep
  | fuel + 1 => do
    let isDocument := text == "<<" || text == "<<-"
    match ← token { isMark := isDocument } fuel with
    | .word w =>
      let number := descriptor.getD (if text.toList.head? == some '<' then 0 else 1)
      if isDocument then
        let quoted := !w.all isText
        let mark := letters (rawText fuel w)
        let (content, first) ← document mark (text == "<<-") (!quoted)
        let content ← if quoted then pure [Part.literal (ofLetters content)]
          else within content first (parts .document [] fuel)
        return .mk number (.document content)
      else if text == "<&" || text == ">&" then
        match (plainText? w).map letters with
        | some ['-'] => return .mk number (.copyOf none)
        | some [d] =>
          if d.isDigit then return .mk number (.copyOf (some (d.toNat - 48)))
          else return .mk number (.copyOfWord w)
        | _ => return .mk number (.copyOfWord w)
      else
        let opening := match text with
          | "<" => Opening.read
          | ">" => Opening.write
          | ">|" => Opening.overwrite
          | ">>" => Opening.append
          | _ => Opening.readWrite
        return .mk number (.file opening w)
    | t => unexpected t none

/-- The rest of a command without structure. -/
def simple (line : Nat) (assignments : List (String × Word)) (words : List Word)
    (rs : List Redirect) : Nat → Scan Command
  | 0 => tooDeep
  | fuel + 1 => do
    let t ← token { aliases := words.isEmpty } fuel
    match t with
    | .word w =>
      match words, assignment? w with
      | [], some a => simple line (a :: assignments) words rs fuel
      | _, _ => simple line assignments (w :: words) rs fuel
    | .redirection d s =>
      let r ← redirect d s fuel
      simple line assignments words (r :: rs) fuel
    | t =>
      match t, words, assignments, rs with
      | .opening, [w], [], [] =>
        match ← token {} fuel with
        | .closing =>
          let name := ((plainText? w).map wordOf).getD ""
          if !isName name.toList || specialNames.contains name then wrong "Bad function name"
          else return .define name (← command .anew fuel)
        | t => unexpected t (sign ")")
      | t, _, _, _ =>
        putBack t
        return .simple line assignments.reverse words.reverse rs.reverse

def conditional : Nat → Scan Command
  | 0 => tooDeep
  | fuel + 1 => do
    let test ← body fuel
    expect "then" {} fuel
    let yes ← body fuel
    let t ← token {} fuel
    if t.isKeyword "elif" then return .conditional test yes (some (← conditional fuel))
    else if t.isKeyword "else" then
      let no ← body fuel
      expect "fi" {} fuel
      return .conditional test yes (some no)
    else
      putBack t
      expect "fi" {} fuel
      return .conditional test yes none

def loop (untilDone : Bool) : Nat → Scan Command
  | 0 => tooDeep
  | fuel + 1 => do
    let test ← body fuel
    expect "do" {} fuel
    let inner ← body fuel
    expect "done" {} fuel
    return .loop untilDone test inner

def wordsUntilEnd (acc : List Word) : Nat → Scan (List Word)
  | 0 => tooDeep
  | fuel + 1 => do
    match ← token {} fuel with
    | .word w => wordsUntilEnd (w :: acc) fuel
    | .newline => return acc.reverse
    | .semicolon => return acc.reverse
    | t => unexpected t none

def forEach (line : Nat) : Nat → Scan Command
  | 0 => tooDeep
  | fuel + 1 => do
    let name := match ← token {} fuel with
      | .word w => ((plainText? w).map wordOf).getD ""
      | _ => ""
    if !isName name.toList then wrong "Bad for loop variable"
    else
      let t ← token .anew fuel
      let words ← if t.isKeyword "in" then wordsUntilEnd [] fuel
        else do
          match t with
          | .semicolon => pure ()
          | t => putBack t
          pure [[Part.quotes [.parameter "@" .value]]]
      expect "do" .anew fuel
      let inner ← body fuel
      expect "done" {} fuel
      return .forEach line name words inner

/-- The rest of the patterns in front of an arm. -/
def patterns (acc : List Word) : Nat → Scan (List Word)
  | 0 => tooDeep
  | fuel + 1 => do
    match ← token {} fuel with
    | .bar =>
      let t ← token {} fuel
      patterns (patternOf t :: acc) fuel
    | .closing => return acc.reverse
    | t => unexpected t (sign ")")

def arms (acc : List Arm) : Nat → Scan (List Arm)
  | 0 => tooDeep
  | fuel + 1 => do
    let t ← token { newlines := true, keywords := true } fuel
    if t.isKeyword "esac" then return acc.reverse
    else
      let t ← match t with
        | .opening => token {} fuel
        | t => pure t
      let ps ← patterns [patternOf t] fuel
      let inner ← listFrom false true none fuel
      let acc := (ps, inner) :: acc
      match ← token { newlines := true, keywords := true } fuel with
      | .nextArm => arms acc fuel
      | t =>
        if t.isKeyword "esac" then return acc.reverse
        else unexpected t (sign ";;")

end

/-- Enough turns for a text; each turn takes a character or goes one step down in the grammar. -/
def turns (s : Scanning) : Nat :=
  32 * (s.source.rest.length + (s.aliases.map fun a => a.2.length).foldl (· + ·) 0) + 256

end Scan

/-- The next line of commands of a script. -/
inductive Line
  /-- Nothing is left. -/
  | ended
  /-- Commands, what is left behind them, and whether that is known to be nothing. -/
  | commands (c : Option Command) (rest : Source) (last : Bool)

/-- The next commands of a script. -/
def Source.next (aliases : List (String × Bytes)) (source : Source) : Except Fault Line :=
  let s : Scanning := { source, aliases }
  match (Scan.listFrom true false none (Scan.turns s)).run s with
  | .error e => .error e
  | .ok (c, s) =>
    let last := match s.pushed with
      | some .ended => true
      | _ => false
    match c, last with
    | none, true => .ok .ended
    | c, last => .ok (.commands c s.source last)

/-- A text in which parameters stand as between double quotes. -/
def Source.words (source : Source) : Except Fault Word :=
  let s : Scanning := { source }
  match (Scan.parts .document [] (Scan.turns s)).run s with
  | .error e => .error e
  | .ok (w, _) => .ok w

end Shell
end Rehearsal
end Parley
