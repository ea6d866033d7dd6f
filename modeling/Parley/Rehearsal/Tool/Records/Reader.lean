import Parley.Rehearsal.Tool.Records.Pattern
import Parley.Rehearsal.Tool.Records.Token

/-!
# Parley.Rehearsal.Tool.Records.Reader

Scripts for records, from their tokens.

* `Records.readScript`: a script from its text.
-/

namespace Parley
namespace Rehearsal
namespace Records

/-! ## Tokens -/

/-- The part of a script in which something stands. -/
inductive Place
  | rule
  | outside
  | function
deriving DecidableEq

/-- The tokens that are left, and the line that has been reached. -/
structure Reading where
  rest : List Spot
  line : Nat := 1
  place : Place := .rule
  /-- How many loops stand around what is read. -/
  loops : Nat := 0
  /-- The functions that are called, with how many arguments and in which line. -/
  calls : List (String × Nat × Nat) := []

abbrev Reader (α : Type) := StateT Reading (Except String) α

def peek? : Reader (Option Token) := do return ((← get).rest.head?).map (·.token)

def advance : Reader Unit :=
  modify fun r => { r with
    rest := r.rest.drop 1
    line := ((r.rest.head?).map (·.line)).getD r.line }

/-- Where reading has come to, as it is shown. -/
def near : Reader (Nat × String) := do
  let r ← get
  match r.rest with
  | s :: _ => return (s.line, s.shown)
  | [] => return (r.line, "end of line")

/-- Stops at a token that cannot stand where it does. -/
def unexpected {α : Type} : Reader α := do
  let (line, shown) ← near
  throw ("line " ++ toString line ++ ": syntax error at or near " ++ shown)

def isAt (t : Token) : Reader Bool := do return (← peek?) == some t

def takes (t : Token) : Reader Bool := do
  if ← isAt t then
    advance
    return true
  return false

def takesOp (s : String) : Reader Bool := takes (.op s)

def expectOp (s : String) : Reader Unit := do
  if !(← takesOp s) then
    if s == ")" then
      let (line, shown) ← near
      throw ("line " ++ toString line ++ ": missing ) near " ++ shown)
    unexpected

/-- Passes over ends of lines. -/
def skipLines : Nat → Reader Unit
  | 0 => return
  | fuel + 1 => do if ← takes .newline then skipLines fuel

def skipNewlines : Reader Unit := do skipLines (← get).rest.length

/-- Stops because of something in the line that has been reached. -/
def refuse {α : Type} (text : String) : Reader α := do
  throw ("line " ++ toString (← get).line ++ ": " ++ text)

/-- Reads the body of a loop. -/
def inLoop {α : Type} (body : Reader α) : Reader α := do
  modify fun r => { r with loops := r.loops + 1 }
  let a ← body
  modify fun r => { r with loops := r.loops - 1 }
  return a

/-- Reads a part of a script. -/
def inPlace {α : Type} (place : Place) (body : Reader α) : Reader α := do
  modify fun r => { r with place }
  let a ← body
  modify fun r => { r with place := .rule }
  return a

/-- How many values a function takes at least and at most. -/
def takesCount? (name : String) : Option (Nat × Nat) :=
  [("length", 0, 1), ("substr", 2, 3), ("index", 2, 2), ("split", 2, 3), ("sub", 2, 3),
   ("gsub", 2, 3), ("match", 2, 2), ("sprintf", 1, 1000), ("sin", 1, 1), ("cos", 1, 1),
   ("atan2", 2, 2), ("exp", 1, 1), ("log", 1, 1), ("sqrt", 1, 1), ("int", 1, 1), ("rand", 0, 0),
   ("srand", 0, 1), ("tolower", 1, 1), ("toupper", 1, 1), ("system", 1, 1), ("close", 1, 1),
   ("fflush", 0, 1), ("systime", 0, 0), ("strftime", 0, 3), ("mktime", 1, 2)].lookup name

/-- The call of a function that every script has. -/
def builtCall (name : String) (ts : List Term) : Reader Term := do
  match takesCount? name with
  | some (low, high) =>
    if ts.length < low || high < ts.length then
      refuse ("wrong number of arguments in call to " ++ name)
  | none => pure ()
  return .built name ts

/-- The name of a variable among the parameters of a function. -/
def nameOf (parameters : List String) (s : String) : Name :=
  match parameters.findIdx? (· == s) with
  | some i => .parameter i
  | none => .shared s

/-! ## Terms -/

/-- Which operators end a term: `>` where something is printed, and `in` in the head of a loop. -/
structure Limits where
  noMore : Bool := false
  noIn : Bool := false

def isTarget : Term → Bool
  | .named _ => true
  | .element .. => true
  | .field _ => true
  | _ => false

/-- Whether a term may begin with a token, where it follows another one. -/
def beginsOperand : Token → Bool
  | .number _ => true
  | .text _ => true
  | .name _ => true
  | .calling _ => true
  | .built _ => true
  | .op "$" => true
  | .op "!" => true
  | .op "(" => true
  | .op "-" => true
  | .op "+" => true
  | .op "++" => true
  | .op "--" => true
  | _ => false

/-- The operators of assignments. -/
def assignments : List (String × Option Arithmetic) :=
  [("=", none), ("+=", some .add), ("-=", some .subtract), ("*=", some .multiply),
   ("/=", some .divide), ("%=", some .remainder), ("^=", some .power)]

def comparisons : List (String × Comparison) :=
  [("<", .less), ("<=", .atMost), ("==", .equal), ("!=", .different), (">", .more),
   (">=", .atLeast)]

/-- Operators between terms of one level, all to the left. -/
def leftLevels : List (List (String × Arithmetic)) :=
  [[("+", .add), ("-", .subtract)], [("*", .multiply), ("/", .divide), ("%", .remainder)]]

mutual

/-- A term with all operators. -/
def term (ps : List String) (l : Limits) : Nat → Reader Term
  | 0 => unexpected
  | fuel + 1 => do
    let a ← alternatives ps l fuel
    if isTarget a then
      if let some (.op s) ← peek? then
        if let some op := assignments.lookup s then
          advance
          skipNewlines
          return .assign op a (← term ps l fuel)
    if ← takesOp "?" then
      skipNewlines
      let yes ← term ps l fuel
      skipNewlines
      expectOp ":"
      skipNewlines
      return .choose a yes (← term ps l fuel)
    return a
termination_by structural fuel => fuel

def alternatives (ps : List String) (l : Limits) : Nat → Reader Term
  | 0 => unexpected
  | fuel + 1 => do moreAlternatives ps l (← conjuncts ps l fuel) fuel
termination_by structural fuel => fuel

def moreAlternatives (ps : List String) (l : Limits) (a : Term) : Nat → Reader Term
  | 0 => return a
  | fuel + 1 => do
    if ← takesOp "||" then
      skipNewlines
      moreAlternatives ps l (.or a (← conjuncts ps l fuel)) fuel
    else return a
termination_by structural fuel => fuel

def conjuncts (ps : List String) (l : Limits) : Nat → Reader Term
  | 0 => unexpected
  | fuel + 1 => do moreConjuncts ps l (← members ps l fuel) fuel
termination_by structural fuel => fuel

def moreConjuncts (ps : List String) (l : Limits) (a : Term) : Nat → Reader Term
  | 0 => return a
  | fuel + 1 => do
    if ← takesOp "&&" then
      skipNewlines
      moreConjuncts ps l (.and a (← members ps l fuel)) fuel
    else return a
termination_by structural fuel => fuel

/-- Terms that may stand in arrays. -/
def members (ps : List String) (l : Limits) : Nat → Reader Term
  | 0 => unexpected
  | fuel + 1 => do moreMembers ps l (← matching ps l fuel) fuel
termination_by structural fuel => fuel

def moreMembers (ps : List String) (l : Limits) (a : Term) : Nat → Reader Term
  | 0 => return a
  | fuel + 1 => do
    if !l.noIn && (← isAt (.keyword "in")) then
      advance
      match ← peek? with
      | some (.name s) =>
        advance
        let subscripts := match a with
          | .several ts => ts
          | a => [a]
        moreMembers ps l (.member subscripts (nameOf ps s)) fuel
      | _ => unexpected
    else return a
termination_by structural fuel => fuel

/-- Terms with patterns that may stand for them. -/
def matching (ps : List String) (l : Limits) : Nat → Reader Term
  | 0 => unexpected
  | fuel + 1 => do moreMatches ps l (← compared ps l fuel) fuel
termination_by structural fuel => fuel

def moreMatches (ps : List String) (l : Limits) (a : Term) : Nat → Reader Term
  | 0 => return a
  | fuel + 1 => do
    if ← takesOp "~" then moreMatches ps l (.matched false a (← compared ps l fuel)) fuel
    else if ← takesOp "!~" then moreMatches ps l (.matched true a (← compared ps l fuel)) fuel
    else return a
termination_by structural fuel => fuel

def compared (ps : List String) (l : Limits) : Nat → Reader Term
  | 0 => unexpected
  | fuel + 1 => do
    let a ← joined ps l fuel
    match ← peek? with
    | some (.op s) =>
      match comparisons.lookup s with
      | some c =>
        if s == ">" && l.noMore then return a
        advance
        return .compare c a (← joined ps l fuel)
      | none => return a
    | _ => return a
termination_by structural fuel => fuel

/-- Terms one behind the other. -/
def joined (ps : List String) (l : Limits) : Nat → Reader Term
  | 0 => unexpected
  | fuel + 1 => do moreJoined ps l (← leveled ps l 0 fuel) fuel
termination_by structural fuel => fuel

def moreJoined (ps : List String) (l : Limits) (a : Term) : Nat → Reader Term
  | 0 => return a
  | fuel + 1 => do
    if (← peek?).any beginsOperand then moreJoined ps l (.join a (← leveled ps l 0 fuel)) fuel
    else return a
termination_by structural fuel => fuel

/-- Terms with arithmetic operators of one level between them. -/
def leveled (ps : List String) (l : Limits) (level : Nat) : Nat → Reader Term
  | 0 => unexpected
  | fuel + 1 => do
    match leftLevels[level]? with
    | none => signed ps l fuel
    | some ops =>
      let a ← leveled ps l (level + 1) fuel
      moreLeveled ps l level ops a fuel
termination_by structural fuel => fuel

def moreLeveled (ps : List String) (l : Limits) (level : Nat) (ops : List (String × Arithmetic))
    (a : Term) : Nat → Reader Term
  | 0 => return a
  | fuel + 1 => do
    match ← peek? with
    | some (.op s) =>
      match ops.lookup s with
      | some op =>
        advance
        let b ← leveled ps l (level + 1) fuel
        moreLeveled ps l level ops (.arithmetic op a b) fuel
      | none => return a
    | _ => return a
termination_by structural fuel => fuel

def signed (ps : List String) (l : Limits) : Nat → Reader Term
  | 0 => unexpected
  | fuel + 1 => do
    if ← takesOp "!" then return .not (← signed ps l fuel)
    else if ← takesOp "-" then return .negate (← signed ps l fuel)
    else if ← takesOp "+" then return .plus (← signed ps l fuel)
    else
      let a ← stepped ps l fuel
      if ← takesOp "^" then return .arithmetic .power a (← signed ps l fuel)
      return a
termination_by structural fuel => fuel

/-- A term that may be counted up or down behind it. -/
def stepped (ps : List String) (l : Limits) : Nat → Reader Term
  | 0 => unexpected
  | fuel + 1 => do
    let a ← simple ps l fuel
    if isTarget a then
      if ← takesOp "++" then return .step true false a
      if ← takesOp "--" then return .step false false a
    return a
termination_by structural fuel => fuel

/-- Terms with commas between them, up to a closing bracket. -/
def listed (ps : List String) (closing : String) : Nat → Reader (List Term)
  | 0 => unexpected
  | fuel + 1 => do
    skipNewlines
    let a ← term ps {} fuel
    skipNewlines
    if ← takesOp "," then return a :: (← listed ps closing fuel)
    expectOp closing
    return [a]
termination_by structural fuel => fuel

/-- The arguments of a call, behind its parenthesis. -/
def arguments (ps : List String) : Nat → Reader (List Term)
  | 0 => unexpected
  | fuel + 1 => do
    if ← takesOp ")" then return [] else listed ps ")" fuel
termination_by structural fuel => fuel

/-- A term without operators around it. -/
def simple (ps : List String) (l : Limits) : Nat → Reader Term
  | 0 => unexpected
  | fuel + 1 => do
    match ← peek? with
    | some (.number x) =>
      advance
      return .number x
    | some (.text bs) =>
      advance
      return .text bs
    | some (.pattern bs) =>
      advance
      return .pattern bs
    | some (.op "$") =>
      advance
      if ← takesOp "++" then return .field (.step true true (← simple ps l fuel))
      if ← takesOp "--" then return .field (.step false true (← simple ps l fuel))
      if ← takesOp "-" then return .field (.negate (← simple ps l fuel))
      return .field (← simple ps l fuel)
    | some (.op "++") =>
      advance
      return .step true true (← simple ps l fuel)
    | some (.op "--") =>
      advance
      return .step false true (← simple ps l fuel)
    | some (.op "(") =>
      advance
      match ← listed ps ")" fuel with
      | [a] => return .several [a]
      | ts => return .several ts
    | some (.name s) =>
      advance
      if ← takesOp "[" then return .element (nameOf ps s) (← listed ps "]" fuel)
      return .named (nameOf ps s)
    | some (.calling s) =>
      advance
      advance
      let ts ← arguments ps fuel
      modify fun r => { r with calls := (s, ts.length, r.line) :: r.calls }
      return .call s ts
    | some (.built s) =>
      advance
      if ← takesOp "(" then return ← builtCall s (← arguments ps fuel)
      if s == "length" then return .built s []
      unexpected
    | some (.keyword "getline") =>
      advance
      let hasTarget := match ← peek? with
        | some (.name _) => true
        | some (.op "$") => true
        | _ => false
      let target ← if hasTarget then pure (some (← simple ps l fuel)) else pure none
      if ← takesOp "<" then return .line target (some (← stepped ps l fuel))
      return .line target none
    | _ => unexpected
termination_by structural fuel => fuel

end

/-! ## Statements -/

/-- Ends a statement. -/
def endStatement : Reader Unit := do
  if ← takesOp ";" then return
  if ← takes .newline then return
  if ← isAt (.op "\x7d") then return
  if (← peek?).isNone then return
  unexpected

/-- Passes over ends of statements. -/
def skipEnds : Nat → Reader Unit
  | 0 => return
  | fuel + 1 => do
    if ← takes .newline then skipEnds fuel
    else if ← takesOp ";" then skipEnds fuel

/-- What is printed, and where. -/
def printed (ps : List String) (fuel : Nat) : Reader (List Term × Option Target) := do
  let isEmpty := match ← peek? with
    | none => true
    | some .newline => true
    | some (.op s) => [";", "\x7d", ">", ">>", "|"].contains s
    | _ => false
  let terms ← if isEmpty then pure [] else items fuel
  let terms := match terms with
    | [.several ts] => ts
    | ts => ts
  let target (path : Term) (appends isCommand : Bool) : Option Target :=
    some { path, appends, isCommand }
  let path : Reader Term := term ps { noMore := true } (16 * fuel + 64)
  if ← takesOp ">" then return (terms, target (← path) false false)
  if ← takesOp ">>" then return (terms, target (← path) true false)
  if ← takesOp "|" then return (terms, target (← path) false true)
  return (terms, none)
where
  /-- Terms with commas between them. -/
  items : Nat → Reader (List Term)
    | 0 => unexpected
    | fuel + 1 => do
      let a ← term ps { noMore := true } (16 * fuel + 64)
      if ← takesOp "," then
        skipNewlines
        return a :: (← items fuel)
      return [a]

/-- A statement that ends with a line. -/
def plainStatement (ps : List String) (fuel : Nat) : Reader Statement := do
  let ended : Reader Bool := do
    match ← peek? with
    | none => return true
    | some .newline => return true
    | some (.op s) => return s == ";" || s == "\x7d"
    | _ => return false
  match ← peek? with
  | some (.keyword s) =>
    match s with
    | "print" =>
      advance
      let (ts, target) ← printed ps fuel
      return .print ts target
    | "printf" =>
      advance
      let (ts, target) ← printed ps fuel
      if ts.isEmpty then unexpected
      return .printf ts target
    | "next" =>
      advance
      if (← get).place != .rule then refuse "improper use of next"
      return .next
    | "nextfile" =>
      advance
      if (← get).place != .rule then refuse "improper use of nextfile"
      return .nextFile
    | "break" =>
      advance
      if (← get).loops == 0 then refuse "break statement outside of loop"
      return .break
    | "continue" =>
      advance
      if (← get).loops == 0 then refuse "continue statement outside of loop"
      return .continue
    | "exit" =>
      advance
      if ← ended then return .exit none
      return .exit (some (← term ps {} fuel))
    | "return" =>
      advance
      if (← get).place != .function then refuse "return outside function body"
      if ← ended then return .return none
      return .return (some (← term ps {} fuel))
    | "delete" =>
      advance
      match ← peek? with
      | some (.name s) =>
        advance
        if ← takesOp "[" then return .delete (nameOf ps s) (← listed ps "]" fuel)
        return .delete (nameOf ps s) []
      | _ => unexpected
    | "getline" => return .term (← term ps {} fuel)
    | _ => unexpected
  | _ => return .term (← term ps {} fuel)

/-- The key and the array of a loop through an array, behind its parenthesis. -/
def eachHead? : List Token → Option (String × String)
  | .name key :: .keyword "in" :: .name array :: .op ")" :: _ => some (key, array)
  | _ => none

mutual

def statement (ps : List String) : Nat → Reader Statement
  | 0 => unexpected
  | fuel + 1 => do
    match ← peek? with
    | some (.op "\x7b") =>
      advance
      return .block (← statements ps fuel)
    | some (.op ";") =>
      advance
      return .block []
    | some (.keyword "if") =>
      advance
      let test ← head fuel
      let yes ← statement ps fuel
      let before ← get
      skipEnds before.rest.length
      if ← takes (.keyword "else") then
        skipNewlines
        return .branch test yes (some (← statement ps fuel))
      set before
      return .branch test yes none
    | some (.keyword "while") =>
      advance
      let test ← head fuel
      return .while test (← inLoop (statement ps fuel))
    | some (.keyword "do") =>
      advance
      skipNewlines
      let body ← inLoop (statement ps fuel)
      skipEnds (← get).rest.length
      if !(← takes (.keyword "while")) then unexpected
      expectOp "("
      let test ← term ps {} fuel
      expectOp ")"
      endStatement
      return .until body test
    | some (.keyword "for") =>
      advance
      expectOp "("
      forLoop ps fuel
    | _ =>
      let s ← plainStatement ps fuel
      endStatement
      return s
termination_by structural fuel => fuel
where
  /-- The test of a branch or a loop. -/
  head (fuel : Nat) : Reader Term := do
    expectOp "("
    let test ← term ps {} fuel
    expectOp ")"
    skipNewlines
    return test

/-- A loop behind its parenthesis. -/
def forLoop (ps : List String) : Nat → Reader Statement
  | 0 => unexpected
  | fuel + 1 => do
    match eachHead? ((← get).rest.map (·.token)) with
    | some (key, array) =>
      modify fun r => { r with rest := r.rest.drop 4 }
      skipNewlines
      return .each (.named (nameOf ps key)) (nameOf ps array) (← inLoop (statement ps fuel))
    | none =>
      let first ← if ← isAt (.op ";") then pure none else pure (some (← plainStatement ps fuel))
      expectOp ";"
      skipNewlines
      let test ← if ← isAt (.op ";") then pure none else pure (some (← term ps {} fuel))
      expectOp ";"
      skipNewlines
      let last ← if ← isAt (.op ")") then pure none else pure (some (← plainStatement ps fuel))
      expectOp ")"
      skipNewlines
      return .loop first test last (← inLoop (statement ps fuel))
termination_by structural fuel => fuel

/-- The statements up to a closing brace. -/
def statements (ps : List String) : Nat → Reader (List Statement)
  | 0 => unexpected
  | fuel + 1 => do
    skipEnds (← get).rest.length
    if ← takesOp "\x7d" then return []
    if (← peek?).isNone then
      throw ("line " ++ toString ((← get).line + 1) ++ ": missing \x7d near end of file")
    let s ← statement ps fuel
    return s :: (← statements ps fuel)
termination_by structural fuel => fuel

end

/-! ## Scripts -/

/-- The names of parameters up to a parenthesis. -/
def parameters : Nat → Reader (List String)
  | 0 => unexpected
  | fuel + 1 => do
    skipNewlines
    match ← peek? with
    | some (.op ")") =>
      advance
      return []
    | some (.name s) =>
      advance
      let _ ← takesOp ","
      return s :: (← parameters fuel)
    | _ => unexpected

/-- A block in braces. -/
def block (ps : List String) (fuel : Nat) : Reader Statement := do
  if !(← takesOp "\x7b") then unexpected
  return .block (← statements ps fuel)

/-- One part of a script behind the others. -/
def part (s : Script) (fuel : Nat) : Reader Script := do
  match ← peek? with
  | some (.keyword "BEGIN") =>
    advance
    return { s with begins := s.begins ++ [← inPlace .outside (block [] fuel)] }
  | some (.keyword "END") =>
    advance
    return { s with ends := s.ends ++ [← inPlace .outside (block [] fuel)] }
  | some (.keyword w) =>
    if w == "function" || w == "func" then
      advance
      let name ← match ← peek? with
        | some (.name n) => pure n
        | some (.calling n) => pure n
        | _ => unexpected
      advance
      expectOp "("
      let ps ← parameters fuel
      skipNewlines
      let body ← inPlace .function (block ps fuel)
      return { s with functions := s.functions ++ [{ name, parameters := ps, body }] }
    else if w == "getline" then rule s
    else unexpected
  | some (.op "\x7b") =>
    let action ← block [] fuel
    return { s with rules := s.rules ++ [{ choice := .all, action := some action }] }
  | some (.op "\x7d") => do
    throw ("line " ++ toString (← near).1 ++ ": extra '\x7d'")
  | some (.op ")") => do
    throw ("line " ++ toString (← near).1 ++ ": extra ')'")
  | _ => rule s
where
  /-- A rule with a pattern. -/
  rule (s : Script) : Reader Script := do
    let first ← term [] {} fuel
    let choice ← if ← takesOp "," then
        skipNewlines
        pure (Choice.range first (← term [] {} fuel))
      else pure (.those first)
    let action ← if ← isAt (.op "\x7b") then pure (some (← block [] fuel)) else pure none
    if action.isNone then
      match ← peek? with
      | none => pure ()
      | some .newline => pure ()
      | some (.op ";") => pure ()
      | some (.op ")") => throw ("line " ++ toString (← near).1 ++ ": extra ')'")
      | _ => unexpected
    return { s with rules := s.rules ++ [{ choice, action }] }

def parts (fuel : Nat) (s : Script) : Nat → Reader Script
  | 0 => return s
  | n + 1 => do
    skipEnds (← get).rest.length
    if (← peek?).isNone then return s
    parts fuel (← part s fuel) n

/-- What is wrong with the calls of functions. -/
def callFault? (s : Script) (r : Reading) (lastLine : Nat) : Option String :=
  let calls := r.calls.reverse
  let function? (name : String) : Option Function := s.functions.find? fun f => f.name == name
  match calls.find? fun c => (function? c.1).any fun f => f.parameters.length < c.2.1 with
  | some (name, _, line) =>
    some ("line " ++ toString line ++ ": too many arguments in call to " ++ name)
  | none =>
    (calls.find? fun c => (function? c.1).isNone).map fun c =>
      "line " ++ toString (lastLine + 1) ++ ": function " ++ c.1 ++ " never defined"

/-- What is wrong with a regular expression among some tokens. -/
def patternFault? (tokens : List Spot) : Option String :=
  tokens.findSome? fun t =>
    match t.token with
    | .pattern bs =>
      match readPattern bs with
      | .ok _ => none
      | .error f => some ("line " ++ toString t.line ++ ": " ++ patternFault bs f)
    | _ => none

/-- The functions that tokens define. -/
def functionNames : List Token → List String
  | .keyword w :: t :: rest =>
    let names := functionNames (t :: rest)
    match t with
    | .name n => if w == "function" || w == "func" then n :: names else names
    | .calling n => if w == "function" || w == "func" then n :: names else names
    | _ => names
  | _ :: rest => functionNames rest
  | [] => []

/-- A name of a function calls it, also with blanks before its parenthesis. -/
def markCalls (functions : List String) : List Spot → List Spot
  | s :: t :: rest =>
    match s.token, t.token with
    | .name n, .op "(" =>
      let token := if functions.contains n then .calling n else s.token
      { s with token } :: markCalls functions (t :: rest)
    | _, _ => s :: markCalls functions (t :: rest)
  | ss => ss

/-- A script from its text. -/
def readScript (script : Bytes) : Except String Script := do
  let tokens ← tokensOf script
  let tokens := markCalls (functionNames (tokens.map (·.token))) tokens
  if let some fault := patternFault? tokens then throw fault
  let fuel := 32 * tokens.length + 64
  let (s, r) ← (parts fuel {} (tokens.length + 1)).run { rest := tokens }
  match callFault? s r (script.count 10 + 1) with
  | some fault => throw fault
  | none => return s

end Records
end Rehearsal
end Parley
