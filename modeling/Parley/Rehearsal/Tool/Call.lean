import Parley.Rehearsal.Naming
import Parley.Rehearsal.Program

/-!
# Parley.Rehearsal.Tool.Call

How a tool is called, and what it makes of that at its start.

* `Call`: the words and the surroundings of a tool.
* `Call.options`: the options among its words.
* `Launch`: what a call comes to.
-/

namespace Parley
namespace Rehearsal

structure Call where
  /-- The name by which the tool is called. -/
  called : String
  arguments : List Bytes
  environment : Inherited
  disk : Disk
  directory : Path
  descriptors : Descriptors
  mask : Nat

/-- What a call comes to. -/
inductive Launch
  /-- A tool at work, with descriptors that are joined to files. -/
  | tool (t : Tool) (joints : List (Nat × Shell.Opening × String))
  /-- Another program in the place of the tool, which ignores some more signals; the complaint is
  for a program that cannot be run. -/
  | other (words : Words) (environment : Inherited) (directory : Path) (ignored : List Nat)
      (complaint : String)
  /-- A change of what stands on the disk. -/
  | change (disk : Disk) (o : Outcome)
  /-- A program beside the tool, which gets a signal at some moment, and one more later. -/
  | limited (words : Words) (time : Option Duration) (signal : Nat) (later : Option Duration)
      (keepsStatus : Bool) (complaint : String)

namespace Launch

/-- A tool that writes something and ends. -/
def print (output : Bytes) : Launch := .tool (.print output [] 0) []

/-- A tool that complains and ends. -/
def failure (text : String) (code : Nat) : Launch := .tool (.print [] (bytesOf text) code) []

/-- A tool that ends with what it has come to. -/
def outcome (o : Outcome) : Launch :=
  .tool (.copy (Supply.said o.errors ++ .bytes o.output :: o.rest) (o.code.getD 0)) []

/-- A tool that makes something of its input. -/
def filter (make : Filter) : Launch := .tool (.filter make none [] 0 0 .fresh) []

/-- A tool that makes something of the first bytes of its input. -/
def limitedFilter (limit : Nat) (make : Filter) : Launch :=
  .tool (.filter make (some limit) [] 0 0 .fresh) []

/-- A tool that makes something of its whole input. -/
def whole (make : Bytes → Outcome) : Launch :=
  filter fun bs ended => if ended then make bs else .waiting []

end Launch

namespace Call

/-- A complaint of a tool. -/
def complaint (c : Call) (text : String) : String := c.called ++ ": " ++ text ++ "\n"

/-- A hint at the help of a tool. -/
def hint (c : Call) : String :=
  "Try '" ++ c.called ++ " --help' for more information.\n"

/-- The last part of the name by which a tool is called. -/
def shortName (c : Call) : String := ((c.called.splitOn "/").getLast?).getD c.called

/-- A hint at the help of a tool by its last name. -/
def shortHint (c : Call) : String :=
  "Try '" ++ c.shortName ++ " --help' for more information.\n"

/-- A hint behind the name by which a tool is called. -/
def calledHint (c : Call) : String := c.called ++ ": " ++ c.hint

/-- Ends a tool because of its arguments. -/
def misuse (c : Call) (text : String) (code : Nat) : Launch :=
  .failure (c.complaint text ++ c.hint) code

def fail (c : Call) (text : String) (code : Nat) : Launch := .failure (c.complaint text) code

def valueOf? (c : Call) (name : String) : Option Bytes := c.environment.lookup (bytesOf name)

/-! ## Options -/

/-- Whether an option has a value. -/
inductive Arity
  | bare
  | valued
  /-- A value only if it stands in the same word. -/
  | maybe
deriving DecidableEq, Repr

/-- The options that a tool knows: letters, and long names with the letters or names for which they
stand. -/
structure Known where
  letters : List (Char × Arity) := []
  names : List (String × Arity × String) := []
  /-- Whether options may stand behind other words. -/
  mixed : Bool := true
  /-- What is said behind a complaint about options. -/
  hint : Call → String := Call.hint
  /-- The values between which options leave a choice; those in a row mean the same. -/
  choices : List (String × List (List String)) := []

/-- Options from letters; one colon follows an option that has a value, and two follow one that may
have one. -/
def lettersOf : List Char → List (Char × Arity)
  | c :: ':' :: ':' :: rest => (c, .maybe) :: lettersOf rest
  | c :: ':' :: rest => (c, .valued) :: lettersOf rest
  | c :: rest => (c, .bare) :: lettersOf rest
  | [] => []

/-- Options that every tool has. -/
def common : List (String × Arity × String) :=
  [("help", .bare, "help"), ("version", .bare, "version")]

/-- Options from letters and names, besides those that every tool has. -/
def known (letters : String) (names : List (String × Arity × String))
    (choices : List (String × List (List String)) := []) : Known :=
  { letters := lettersOf letters.toList, names := names ++ common, choices }

/-- An option with its value. -/
abbrev Given := String × Bytes

structure Parsed where
  given : List Given := []
  operands : List Bytes := []

namespace Parsed

def has (p : Parsed) (key : String) : Bool := p.given.any fun g => g.1 == key

/-- The last value of an option. -/
def value? (p : Parsed) (key : String) : Option Bytes :=
  ((p.given.filter fun g => g.1 == key).getLast?).map (·.2)

/-- The last of some options that exclude one another. -/
def last? (p : Parsed) (keys : List String) : Option String :=
  ((p.given.filter fun g => keys.contains g.1).getLast?).map (·.1)

end Parsed

/-- Why the options of a call are refused. -/
structure Refused where
  text : String
  /-- Whether only a value is wrong. -/
  byValue : Bool := false

/-- The row of a value between some others, of which the front is enough. -/
def chosen (option : String) (rows : List (List String)) (w : Bytes) : Except Refused Bytes :=
  let name := wordOf w
  let begins (row : List String) : Bool := row.any fun n => name.toList.isPrefixOf n.toList
  let rowText (row : List String) : String :=
    "\n  - " ++ ", ".intercalate (row.map fun n => cited (bytesOf n))
  let refuse (what : String) : Except Refused Bytes :=
    let lead := what ++ " argument " ++ cited w ++ " for " ++ cited (bytesOf option)
    let text := lead ++ "\nValid arguments are:" ++ String.join (rows.map rowText)
    .error { text, byValue := true }
  match rows.find? (·.contains name), rows.filter begins with
  | some row, _ => .ok (bytesOf (row.headD ""))
  | none, [row] => .ok (bytesOf (row.headD ""))
  | none, [] => refuse "invalid"
  | none, _ => refuse "ambiguous"

/-- An option with a value that is perhaps one between others. -/
def withValue (k : Known) (key : String) (w : Bytes) : Except Refused Given :=
  match k.choices.lookup key, k.names.find? fun n => n.2.2 == key with
  | some rows, some n => (chosen ("--" ++ n.1) rows w).map fun w => (key, w)
  | _, _ => .ok (key, w)

/-- The long options that a name may stand for. -/
def candidates (k : Known) (name : String) : List (String × Arity × String) :=
  match k.names.find? fun n => n.1 == name with
  | some n => [n]
  | none => k.names.filter fun n => name.toList.isPrefixOf n.1.toList

/-- Takes a long option. -/
def long (k : Known) (word : String) (rest : List Bytes) : Except Refused (Given × List Bytes) :=
  let cs := word.toList.drop 2
  let name := String.ofList (cs.takeWhile (· != '='))
  let value := (cs.drop name.length).drop 1
  let hasValue := decide (name.length < cs.length)
  let found := candidates k name
  let same := (found.map fun n => n.2).eraseDups.length ≤ 1
  match found with
  | [] => .error { text := "unrecognized option '" ++ word ++ "'" }
  | n :: others =>
    if !others.isEmpty && !same then
      let possibilities := String.join (found.map fun n => " '--" ++ n.1 ++ "'")
      .error { text := "option '" ++ word ++ "' is ambiguous; possibilities:" ++ possibilities }
    else
      let about := "option '--" ++ n.1 ++ "' "
      match n.2.1, hasValue, rest with
      | .bare, true, _ => .error { text := about ++ "doesn't allow an argument" }
      | .valued, false, w :: rest => do return (← withValue k n.2.2 w, rest)
      | .valued, false, [] => .error { text := about ++ "requires an argument" }
      | _, true, rest => do return (← withValue k n.2.2 (ofLetters value), rest)
      | _, false, rest => .ok ((n.2.2, []), rest)

/-- Takes options that stand in one word. -/
def cluster (k : Known) (acc : List Given) (rest : List Bytes) :
    List Char → Except Refused (List Given × List Bytes)
  | [] => .ok (acc, rest)
  | c :: cs =>
    let key := String.ofList [c]
    match k.letters.lookup c with
    | none => .error { text := "invalid option -- '" ++ key ++ "'" }
    | some .bare => cluster k ((key, []) :: acc) rest cs
    | some .maybe => .ok ((key, ofLetters cs) :: acc, rest)
    | some .valued =>
      if !cs.isEmpty then do return ((← withValue k key (ofLetters cs)) :: acc, rest)
      else
        match rest with
        | w :: rest => do return ((← withValue k key w) :: acc, rest)
        | [] => .error { text := "option requires an argument -- '" ++ key ++ "'" }

def parseFrom (k : Known) :
    Nat → List Given → List Bytes → List Bytes → Except Refused Parsed
  | 0, given, operands, _ => .ok { given := given.reverse, operands := operands.reverse }
  | _ + 1, given, operands, [] => .ok { given := given.reverse, operands := operands.reverse }
  | fuel + 1, given, operands, w :: rest =>
    match letters w with
    | ['-', '-'] => .ok { given := given.reverse, operands := operands.reverse ++ rest }
    | '-' :: '-' :: _ => do
      let (g, rest) ← long k (wordOf w) rest
      parseFrom k fuel (g :: given) operands rest
    | '-' :: c :: cs => do
      let (given, rest) ← cluster k given rest (c :: cs)
      parseFrom k fuel given operands rest
    | _ =>
      if k.mixed then parseFrom k fuel given (w :: operands) rest
      else .ok { given := given.reverse, operands := operands.reverse ++ w :: rest }

/-- The options and the other words of some words. -/
def parse (k : Known) (words : List Bytes) : Except Refused Parsed :=
  parseFrom k (words.length + 1) [] [] words

/-- What a tool makes of its options; `code` is the one for words that it cannot understand. -/
def options (c : Call) (k : Known) (code : Nat) (f : Parsed → Launch) : Launch :=
  match parse k c.arguments with
  | .ok p => f p
  | .error r => .failure (c.complaint r.text ++ k.hint c) (if r.byValue then 1 else code)

/-! ## Files -/

/-- What a file holds, as far as it is known at the start. -/
inductive Source
  | input
  | bytes (bs : Bytes)
  /-- Zero bytes without end. -/
  | zeros
  | failed (e : SystemError)
  /-- A directory, which can be opened but not read. -/
  | directory

/-- What stands at a path. -/
def source (c : Call) (path : Bytes) : Source :=
  match c.disk.find c.directory (wordOf path) with
  | .error e => .failed e
  | .ok spot =>
    match spot.entry with
    | none => .failed .noSuchFile
    | some .directory => .directory
    | some (.device .null) => .bytes []
    | some (.device .terminal) => .failed .noDevice
    | some (.device _) => .zeros
    | some (.stream 0) => .input
    | some (.file number _) => .bytes (c.disk.contentOf number)
    | some _ => .bytes []

/-- A text among those that a tool reads, by its name. -/
def sourceOf (c : Call) (word : Bytes) : Source :=
  if word == [45] then .input else c.source word

/-- The texts that a tool reads: its input if none is named. -/
def sources (c : Call) (operands : List Bytes) : List (Bytes × Source) :=
  (if operands.isEmpty then [[45]] else operands).map fun w => (w, c.sourceOf w)

/-- A text that a tool reads, once its input is known. -/
structure Text where
  name : Bytes
  content : Except SystemError Bytes

/-- The texts that a tool reads, of which its input has come so far. -/
def textsOf (sources : List (Bytes × Source)) (input : Bytes) : List Text :=
  (sources.foldl (fun (acc : List Text × Bool) (name, source) =>
    match source with
    | .input => ({ name, content := .ok (if acc.2 then [] else input) } :: acc.1, true)
    | .bytes bs => ({ name, content := .ok bs } :: acc.1, acc.2)
    | .zeros => ({ name, content := .ok [] } :: acc.1, acc.2)
    | .failed e => ({ name, content := .error e } :: acc.1, acc.2)
    | .directory =>
      ({ name, content := .error .isDirectory } :: acc.1, acc.2)) ([], false)).1.reverse

/-- Whether a tool reads its input at all. -/
def readsInput (sources : List (Bytes × Source)) : Bool :=
  sources.any fun s =>
    match s.2 with
    | .input => true
    | _ => false

/-- A tool that makes something of some texts, of which the last part of the input may be
missing. -/
def overTexts (c : Call) (operands : List Bytes) (make : List Text → Bool → Outcome) : Launch :=
  let sources := c.sources operands
  if readsInput sources then .filter fun bs ended => make (textsOf sources bs) ended
  else .outcome (make (textsOf sources []) true)

/-- A tool that makes something of whole texts. -/
def overWhole (c : Call) (operands : List Bytes) (make : List Text → Outcome) : Launch :=
  c.overTexts operands fun texts ended => if ended then make texts else .waiting []

/-- The contents of texts one after another, and complaints about those that cannot be read. -/
def joined (c : Call) (texts : List Text) : Bytes × Bytes :=
  (texts.flatMap fun t => t.content.toOption.getD [],
   texts.flatMap fun t =>
     match t.content with
     | .ok _ => []
     | .error e => bytesOf (c.complaint (asName t.name ++ ": " ++ e.reason)))

/-- A tool that goes through the lines of some texts as if they were one. With `code` it ends if a
text cannot be read. -/
def overLines (c : Call) (operands : List Bytes) (code : Nat) (make : Bytes → Bool → Outcome) :
    Launch :=
  c.overTexts operands fun texts ended =>
    let (content, errors) := c.joined texts
    let o := make content ended
    { o with errors := errors ++ o.errors
             code := o.code.map fun n => if errors.isEmpty then n else code }

end Call
end Rehearsal
end Parley
