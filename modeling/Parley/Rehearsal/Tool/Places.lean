import Parley.Rehearsal.Shell.Deed.Directory
import Parley.Rehearsal.Tool.Call

/-!
# Parley.Rehearsal.Tool.Places

Tools that change what stands on the disk, or tell of it.

* `Places.mkdir`, `rmdir`, `rm`, `touch`, `chmod`, `mktemp`: single places.
* `Places.cp`, `mv`, `ln`: from one place to another.
* `Places.ls`, `readlink`, `realpath`, `which`: what stands where.
-/

namespace Parley
namespace Rehearsal
namespace Places

open Call

/-! ## Work on a disk -/

/-- A disk that is worked on, and what has been said so far. -/
structure Work where
  disk : Disk
  output : Bytes := []
  errors : Bytes := []
  code : Nat := 0

def Work.fail (w : Work) (c : Call) (text : String) : Work :=
  { w with errors := w.errors ++ bytesOf (c.complaint text), code := max w.code 1 }

def Work.tell (w : Work) (text : String) : Work :=
  { w with output := w.output ++ bytesOf (text ++ "\n") }

def Work.finish (w : Work) : Launch :=
  .change w.disk { output := w.output, errors := w.errors, code := some w.code }

/-- Works on one word after another. -/
def overWords (c : Call) (words : List Bytes) (f : Work → String → Work) : Launch :=
  ((words.map wordOf).foldl f { disk := c.disk }).finish

def quoted (s : String) : String := asWord (bytesOf s)

/-- A path without slashes at its end. -/
def trimmed (path : String) : String :=
  let cs := (path.toList.reverse.dropWhile (· == '/')).reverse
  if cs.isEmpty && path != "" then "/" else String.ofList cs

/-- The last name of a path. -/
def lastName (path : String) : String := (((trimmed path).splitOn "/").getLast?).getD ""

/-- The path in front of the last name. -/
def front (path : String) : String :=
  let names := (trimmed path).splitOn "/"
  match names.dropLast with
  | [] => "."
  | [""] => "/"
  | names => "/".intercalate names

/-- The place with the last name of a path, where a link stands for itself. -/
def placeOf (c : Call) (d : Disk) (path : String) : Except SystemError Path := do
  let name := lastName path
  if path == "" then throw .noSuchFile
  if name == "" || name == "." || name == ".." then return (← d.find c.directory path).path
  let spot ← d.find c.directory (front path)
  match spot.entry with
  | some .directory => return spot.path ++ [name]
  | some _ => throw .notDirectory
  | none => throw .noSuchFile

/-- What stands at a path, where a link stands for itself. -/
def entryOf (c : Call) (d : Disk) (path : String) : Except SystemError (Path × Entry) := do
  let place ← placeOf c d path
  match d.entryAt? place with
  | some e => return (place, e)
  | none => throw .noSuchFile

def isDirectory (c : Call) (d : Disk) (path : String) : Bool :=
  match d.find c.directory path with
  | .ok ⟨_, some .directory⟩ => true
  | _ => false

/-! ## Directories -/

/-- All directories that a path goes through. -/
def fronts (path : String) : List String :=
  let names := (trimmed path).splitOn "/"
  ((List.range names.length).map fun i => "/".intercalate (names.take (i + 1))).filter (· != "")

def makeDirectory (c : Call) (p : Parsed) (w : Work) (path : String) : Work :=
  let failed (w : Work) (e : SystemError) : Work :=
    w.fail c ("cannot create directory " ++ quoted path ++ ": " ++ e.reason)
  let made (w : Work) (path : String) (place : Path) : Work :=
    let w := { w with disk := w.disk.put place (some .directory) }
    if p.has "v" then w.tell (c.called ++ ": created directory " ++ quoted path) else w
  if p.has "p" then
    (fronts path).foldl (fun w part =>
      match w.disk.find c.directory part with
      | .ok ⟨_, some .directory⟩ => w
      | .ok ⟨place, none⟩ => made w part place
      | .ok _ => failed w .fileExists
      | .error e => failed w e) w
  else
    match placeOf c w.disk path with
    | .error e => failed w e
    | .ok place =>
      if (w.disk.entryAt? place).isSome then failed w .fileExists else made w path place

def mkdir (c : Call) : Launch :=
  c.options (known "pm:vZ" [("parents", .bare, "p"), ("mode", .valued, "m"),
    ("verbose", .bare, "v"), ("context", .maybe, "Z")]) 1 fun p =>
    if p.operands.isEmpty then c.misuse "missing operand" 1
    else overWords c p.operands (makeDirectory c p)

/-- Takes an empty directory away. -/
def removeDirectory (c : Call) (w : Work) (path : String) : Work :=
  let failed (e : SystemError) : Work :=
    w.fail c ("failed to remove " ++ quoted path ++ ": " ++ e.reason)
  match entryOf c w.disk path with
  | .error e => failed e
  | .ok (place, .directory) =>
    if (w.disk.names place).isEmpty then { w with disk := w.disk.put place none }
    else failed .notEmpty
  | .ok _ => failed .notDirectory

def rmdir (c : Call) : Launch :=
  c.options (known "pv" [("parents", .bare, "p"), ("verbose", .bare, "v"),
    ("ignore-fail-on-non-empty", .bare, "ignore")]) 1 fun p =>
    if p.operands.isEmpty then c.misuse "missing operand" 1
    else
      overWords c p.operands fun w path =>
        if p.has "p" then (fronts path).reverse.foldl (removeDirectory c) w
        else removeDirectory c w path

/-! ## Removing -/

/-- How deep directories stand in one another at most. -/
def depth : Nat := 1000

/-- Takes a place away with all that stands below it. -/
def removeTree (told : Bool) : Nat → Work → Path → String → Work
  | 0, w, _, _ => w
  | fuel + 1, w, place, shown =>
    match w.disk.entryAt? place with
    | some .directory =>
      let w := (w.disk.names place).foldl (fun w name =>
        removeTree told fuel w (place ++ [name]) (shown ++ "/" ++ name)) w
      let w := { w with disk := w.disk.put place none }
      if told then w.tell ("removed directory " ++ quoted shown) else w
    | some _ =>
      let w := { w with disk := w.disk.put place none }
      if told then w.tell ("removed " ++ quoted shown) else w
    | none => w

def remove (c : Call) (p : Parsed) (w : Work) (path : String) : Work :=
  let failed (e : SystemError) : Work :=
    w.fail c ("cannot remove " ++ quoted path ++ ": " ++ e.reason)
  let name := lastName path
  if name == "." || name == ".." then
    w.fail c ("refusing to remove '.' or '..' directory: skipping " ++ quoted path)
  else
    match entryOf c w.disk path with
    | .error e => if p.has "f" && (e == .noSuchFile || e == .notDirectory) then w else failed e
    | .ok (place, .directory) =>
      if p.has "r" || p.has "R" then removeTree (p.has "v") depth w place (trimmed path)
      else if !p.has "d" then failed .isDirectory
      else if (w.disk.names place).isEmpty then removeTree (p.has "v") 1 w place (trimmed path)
      else failed .notEmpty
    | .ok (place, _) => removeTree (p.has "v") 1 w place path

def rm (c : Call) : Launch :=
  c.options (known "dfirvIR" [("force", .bare, "f"), ("interactive", .maybe, "i"),
    ("one-file-system", .bare, "one"), ("no-preserve-root", .bare, "root"),
    ("preserve-root", .maybe, "root"), ("recursive", .bare, "r"), ("dir", .bare, "d"),
    ("verbose", .bare, "v")]) 1 fun p =>
    if p.operands.isEmpty && !p.has "f" then c.misuse "missing operand" 1
    else overWords c p.operands (remove c p)

def unlink (c : Call) : Launch :=
  c.options (known "" []) 1 fun p =>
    match p.operands with
    | [] => c.misuse "missing operand" 1
    | _ :: w :: _ => c.misuse ("extra operand " ++ quoted (wordOf w)) 1
    | words =>
      overWords c words fun w path =>
        let failed (e : SystemError) : Work :=
          w.fail c ("cannot unlink " ++ quoted path ++ ": " ++ e.reason)
        match entryOf c w.disk path with
        | .error e => failed e
        | .ok (_, .directory) => failed .isDirectory
        | .ok (place, _) => { w with disk := w.disk.put place none }

/-! ## Single files -/

def touch (c : Call) : Launch :=
  c.options (known "acd:fhmr:t:" [("time", .valued, "time"), ("no-create", .bare, "c"),
    ("date", .valued, "d"), ("reference", .valued, "r"), ("no-dereference", .bare, "h")]) 1 fun p =>
    if p.operands.isEmpty then c.misuse "missing file operand" 1
    else
      overWords c p.operands fun w path =>
        match w.disk.find c.directory path with
        | .ok ⟨_, some _⟩ => w
        | .ok ⟨place, none⟩ =>
          if p.has "c" then w
          else { w with disk := (w.disk.create place (0o666 - (0o666 &&& c.mask))).2 }
        | .error e => w.fail c ("cannot touch " ++ quoted path ++ ": " ++ e.reason)

/-- What is allowed after a change: in octal digits, or by letters. -/
def modeAfter? (mask mode : Nat) (w : String) : Option Nat :=
  let cs := w.toList
  if !cs.isEmpty && cs.all fun d => '0' ≤ d && d ≤ '7' then
    let n := cs.foldl (fun n d => n * 8 + (d.toNat - 48)) 0
    if n < 4096 then some n else none
  else
    (w.splitOn ",").foldl (fun mode clause =>
      let isBare := clause.toList.head?.all fun d => (Shell.Deed.whoBits d).isNone
      mode.bind fun old =>
        (Shell.Deed.changed old clause.toList).map fun new =>
          if isBare then (new &&& (0o777 - mask)) ||| (old &&& mask) else new) (some mode)

/-- Four octal digits, and what is allowed by letters. -/
def modeText (mode : Nat) : String :=
  let digit (n : Nat) : String := toString (n % 8)
  let three (n : Nat) : String :=
    (if n / 4 % 2 == 1 then "r" else "-") ++ (if n / 2 % 2 == 1 then "w" else "-") ++
      (if n % 2 == 1 then "x" else "-")
  digit (mode / 512) ++ digit (mode / 64) ++ digit (mode / 8) ++ digit mode ++ " (" ++
    three (mode / 64) ++ three (mode / 8) ++ three mode ++ ")"

def changeMode (c : Call) (p : Parsed) (mode : String) (w : Work) (path : String) : Work :=
  match w.disk.find c.directory path with
  | .error e => w.fail c ("cannot access " ++ quoted path ++ ": " ++ e.reason)
  | .ok ⟨_, none⟩ =>
    w.fail c ("cannot access " ++ quoted path ++ ": " ++ SystemError.noSuchFile.reason)
  | .ok ⟨place, some (.file number old)⟩ =>
    let new := (modeAfter? c.mask old mode).getD old
    let w := { w with disk := w.disk.put place (some (.file number new)) }
    if old == new then
      if p.has "v" then w.tell ("mode of " ++ quoted path ++ " retained as " ++ modeText old) else w
    else if p.has "v" || p.has "c" then
      w.tell ("mode of " ++ quoted path ++ " changed from " ++ modeText old ++ " to " ++
        modeText new)
    else w
  | .ok _ => w

/-- Words in which a mode that begins with a sign is no option. -/
def modeWords (words : List Bytes) : List Bytes :=
  match words with
  | w :: rest =>
    match letters w with
    | '-' :: d :: _ => if "rwxXst".toList.contains d then [45, 45] :: w :: rest else words
    | _ => words
  | [] => []

def chmod (c : Call) : Launch :=
  let c := { c with arguments := modeWords c.arguments }
  c.options (known "Rcfv" [("changes", .bare, "c"), ("quiet", .bare, "f"), ("silent", .bare, "f"),
    ("recursive", .bare, "R"), ("reference", .valued, "reference"), ("verbose", .bare, "v"),
    ("preserve-root", .bare, "root"), ("no-preserve-root", .bare, "root")]) 1 fun p =>
    match p.operands.map wordOf with
    | [] => c.misuse "missing operand" 1
    | [w] => c.misuse ("missing operand after " ++ quoted w) 1
    | w :: _ =>
      if (modeAfter? c.mask 0 w).isNone then c.misuse ("invalid mode: " ++ quoted w) 1
      else overWords c (p.operands.drop 1) (changeMode c p w)

/-- A name in the place of a row of the letter `X` at the end of a template. -/
def freshName (number : Nat) (template : String) : Option String :=
  let cs := template.toList
  let count := (cs.reverse.takeWhile (· == 'X')).length
  if count < 3 then none
  else
    let letters := "abcdefghijklmnopqrstuvwxyz".toList
    let drawn := (List.range count).map fun i =>
      letters.getD ((number * 7 + i * i * 5 + i * 11) / (i % 3 + 1) % 26) 'a'
    some (String.ofList (cs.take (cs.length - count) ++ drawn))

def mktemp (c : Call) : Launch :=
  c.options (known "dp:qtuV" [("directory", .bare, "d"), ("dry-run", .bare, "u"),
    ("quiet", .bare, "q"), ("suffix", .valued, "suffix"), ("tmpdir", .maybe, "p")]) 1
    fun p =>
      let base := (((c.valueOf? "TMPDIR").map wordOf).filter (· != "")).getD "/tmp"
      let make (template : String) (path : String) : Launch :=
        let what := if p.has "d" then "directory" else "file"
        match c.disk.find c.directory path with
        | .error e =>
          c.fail ("failed to create " ++ what ++ " via template " ++ quoted template ++ ": " ++
            e.reason) 1
        | .ok ⟨place, _⟩ =>
          let disk := if p.has "u" then { c.disk with nextFile := c.disk.nextFile + 1 }
            else if p.has "d" then
              { c.disk.put place (some .directory) with nextFile := c.disk.nextFile + 1 }
            else (c.disk.create place 0o600).2
          .change disk { output := bytesOf (path ++ "\n") }
      let named (template : String) (inBase : Bool) : Launch :=
        match freshName c.disk.nextFile template with
        | none => c.fail ("too few X's in template " ++ quoted template) 1
        | some name =>
          let place := (((p.value? "p").map wordOf).filter (· != "")).getD base
          if inBase then make (place ++ "/" ++ template) (place ++ "/" ++ name)
          else make template name
      match p.operands with
      | [] => named "tmp.XXXXXXXXXX" true
      | [w] => named (wordOf w) (p.has "p" || p.has "t")
      | _ => c.misuse "too many templates" 1

/-! ## From one place to another -/

/-- Puts at a place what stands at another one, with all that stands below it. -/
def copyTree : Nat → Disk → Path → Path → Disk
  | 0, d, _, _ => d
  | fuel + 1, d, source, target =>
    match d.entryAt? source with
    | some .directory =>
      let d := if d.entryAt? target == some .directory then d
        else d.put target (some .directory)
      (d.names source).foldl (fun d name =>
        copyTree fuel d (source ++ [name]) (target ++ [name])) d
    | some (.file number mode) =>
      match d.entryAt? target with
      | some (.file old _) => d.setContent old (d.contentOf number)
      | _ =>
        let (new, e) := d.create target mode
        e.setContent new (d.contentOf number)
    | some (.device _) => (d.create target 0o644).2
    | some e => d.put target (some e)
    | none => d

/-- Moves what stands at a place to another one, with all that stands below it. -/
def moveTree : Nat → Disk → Path → Path → Disk
  | 0, d, _, _ => d
  | fuel + 1, d, source, target =>
    let e := d.entryAt? source
    let d := if e == some .directory then
        (d.names source).foldl (fun d name =>
          moveTree fuel d (source ++ [name]) (target ++ [name])) (d.put target e)
      else d.put target e
    d.put source none

/-- Goes through sources with the place to which each of them goes. -/
def toTarget (c : Call) (words : List Bytes) (move : Work → String → String → Work) : Launch :=
  match (words.map wordOf).reverse with
  | [] => c.misuse "missing file operand" 1
  | [w] => c.misuse ("missing destination file operand after " ++ quoted w) 1
  | target :: sources =>
    let into (source : String) : String := trimmed target ++ "/" ++ lastName source
    if isDirectory c c.disk target then
      overWords c (words.dropLast) fun w source => move w source (into source)
    else
      match sources with
      | [source] => (move { disk := c.disk } source target).finish
      | _ =>
        let reason := match c.disk.find c.directory target with
          | .ok ⟨_, some _⟩ => SystemError.notDirectory
          | .ok _ => .noSuchFile
          | .error e => e
        c.fail ("target " ++ quoted target ++ ": " ++ reason.reason) 1

def copy (c : Call) (p : Parsed) (w : Work) (source target : String) : Work :=
  match w.disk.find c.directory source with
  | .error e => w.fail c ("cannot stat " ++ quoted source ++ ": " ++ e.reason)
  | .ok ⟨_, none⟩ =>
    w.fail c ("cannot stat " ++ quoted source ++ ": " ++ SystemError.noSuchFile.reason)
  | .ok ⟨place, some e⟩ =>
    let isTree := e == .directory
    if isTree && !(p.has "r" || p.has "R" || p.has "a") then
      w.fail c ("-r not specified; omitting directory " ++ quoted source)
    else
      match w.disk.find c.directory target with
      | .error e =>
        let what := if isTree then "cannot create directory " else "cannot create regular file "
        w.fail c (what ++ quoted target ++ ": " ++ e.reason)
      | .ok ⟨goal, old⟩ =>
        if goal == place then
          w.fail c (quoted source ++ " and " ++ quoted target ++ " are the same file")
        else if !isTree && old == some .directory then
          w.fail c ("cannot overwrite directory " ++ quoted target ++ " with non-directory")
        else if p.has "n" && old.isSome then w
        else
          let w := { w with disk := copyTree depth w.disk place goal }
          if p.has "v" then w.tell (quoted source ++ " -> " ++ quoted target) else w

def cp (c : Call) : Launch :=
  c.options (known "abdfHilLnprst:uvxPRS:TZ" [("archive", .bare, "a"), ("force", .bare, "f"),
    ("interactive", .bare, "i"), ("link", .bare, "l"), ("no-clobber", .bare, "n"),
    ("no-target-directory", .bare, "T"), ("recursive", .bare, "r"), ("preserve", .maybe, "p"),
    ("symbolic-link", .bare, "s"), ("target-directory", .valued, "t"), ("update", .maybe, "u"),
    ("verbose", .bare, "v")]) 1 fun p =>
    toTarget c p.operands (copy c p)

def move (c : Call) (p : Parsed) (w : Work) (source target : String) : Work :=
  match entryOf c w.disk source with
  | .error e => w.fail c ("cannot stat " ++ quoted source ++ ": " ++ e.reason)
  | .ok (place, e) =>
    match placeOf c w.disk target with
    | .error e =>
      w.fail c ("cannot move " ++ quoted source ++ " to " ++ quoted target ++ ": " ++ e.reason)
    | .ok goal =>
      if goal == place then
        w.fail c (quoted source ++ " and " ++ quoted target ++ " are the same file")
      else if e == .directory && place.isPrefixOf goal then
        w.fail c ("cannot move " ++ quoted source ++ " to a subdirectory of itself, " ++
          quoted target)
      else if p.has "n" && (w.disk.entryAt? goal).isSome then w
      else
        let w := { w with disk := moveTree depth w.disk place goal }
        if p.has "v" then w.tell ("renamed " ++ quoted source ++ " -> " ++ quoted target) else w

def mv (c : Call) : Launch :=
  c.options (known "bfint:uvS:TZ" [("force", .bare, "f"), ("interactive", .bare, "i"),
    ("no-clobber", .bare, "n"), ("no-target-directory", .bare, "T"),
    ("target-directory", .valued, "t"), ("update", .maybe, "u"), ("verbose", .bare, "v")]) 1 fun p =>
    toTarget c p.operands (move c p)

def join (c : Call) (p : Parsed) (w : Work) (source target : String) : Work :=
  let symbolic := p.has "s"
  let failed (e : SystemError) : Work :=
    w.fail c ("failed to create " ++ (if symbolic then "symbolic link " else "hard link ") ++
      quoted target ++ ": " ++ e.reason)
  match placeOf c w.disk target with
  | .error e => failed e
  | .ok goal =>
    if (w.disk.entryAt? goal).isSome && !p.has "f" then failed .fileExists
    else if symbolic then
      let names := source.splitOn "/"
      let way := if source.toList.head? == some '/' then names else goal.dropLast ++ names
      { w with disk := w.disk.put goal (some (.link way)) }
    else
      match entryOf c w.disk source with
      | .error e => w.fail c ("failed to access " ++ quoted source ++ ": " ++ e.reason)
      | .ok (_, .directory) => w.fail c (source ++ ": hard link not allowed for directory")
      | .ok (_, e) => { w with disk := w.disk.put goal (some e) }

def ln (c : Call) : Launch :=
  c.options (known "bdfFiLnPrst:vS:T" [("force", .bare, "f"), ("interactive", .bare, "i"),
    ("no-dereference", .bare, "n"), ("relative", .bare, "r"), ("symbolic", .bare, "s"),
    ("target-directory", .valued, "t"), ("verbose", .bare, "v")]) 1 fun p =>
    match p.operands with
    | [w] =>
      (join c p { disk := c.disk } (wordOf w) (lastName (wordOf w))).finish
    | words => toTarget c words (join c p)

def link (c : Call) : Launch :=
  c.options (known "" []) 1 fun p =>
    match p.operands.map wordOf with
    | [] => c.misuse "missing operand" 1
    | [w] => c.misuse ("missing operand after " ++ quoted w) 1
    | [source, target] => (join c {} { disk := c.disk } source target).finish
    | _ :: _ :: w :: _ => c.misuse ("extra operand " ++ quoted w) 1

/-! ## Telling -/

/-- A name as it is listed. -/
def listed (p : Parsed) (e : Option Entry) (name : String) : String :=
  match e with
  | some .directory => if p.has "F" || p.has "p" then name ++ "/" else name
  | some (.link _) => if p.has "F" then name ++ "@" else name
  | some (.executable _) => if p.has "F" then name ++ "*" else name
  | some (.file _ mode) => if p.has "F" && Disk.mayRun mode then name ++ "*" else name
  | _ => name

def namesIn (p : Parsed) (d : Disk) (place : Path) : List String :=
  let isHidden (name : String) : Bool := name.toList.head? == some '.'
  let all := (d.names place).filter fun n => !isHidden n || p.has "a" || p.has "A"
  let all := if p.has "a" then "." :: ".." :: all else all
  let all := if p.has "r" then all.reverse else all
  all.map fun n =>
    listed p (if n == "." || n == ".." then some .directory else d.entryAt? (place ++ [n])) n

/-- Names as lines, or one after another. -/
def lay (p : Parsed) (names : List String) : String :=
  if p.has "m" then
    if names.isEmpty then "" else ", ".intercalate names ++ "\n"
  else String.join (names.map (· ++ "\n"))

/-- What is listed of directories, each with its name if there are more. -/
def listing (p : Parsed) (d : Disk) (titled : Bool) : List (String × Path) → List String
  | [] => []
  | (name, place) :: rest =>
    ((if titled then name ++ ":\n" else "") ++ lay p (namesIn p d place)) :: listing p d titled rest

/-- Directories with all that stand below them. -/
def deeper (p : Parsed) (d : Disk) : Nat → String × Path → List (String × Path)
  | 0, s => [s]
  | fuel + 1, (shown, place) =>
    let inner := (d.names place).filter fun n =>
      d.entryAt? (place ++ [n]) == some .directory &&
        (n.toList.head? != some '.' || p.has "a" || p.has "A")
    (shown, place) :: (if p.has "r" then inner.reverse else inner).flatMap fun n =>
      deeper p d fuel (shown ++ "/" ++ n, place ++ [n])

/-- When something is done. -/
def choicesOfTime : List (List String) :=
  [["always", "yes", "force"], ["never", "no", "none"], ["auto", "tty", "if-tty"]]

def choices : List (String × List (List String)) :=
  [("color", choicesOfTime), ("hyperlink", choicesOfTime),
   ("sort", [["none"], ["time"], ["size"], ["extension"], ["version"], ["width"]]),
   ("time", [["atime", "access", "use"], ["ctime", "status"], ["mtime", "modification"],
     ["birth", "creation"]]),
   ("format", [["verbose", "long"], ["commas"], ["horizontal", "across"], ["vertical"],
     ["single-column"]]),
   ("indicator", [["none"], ["slash"], ["file-type"], ["classify"]]),
   ("quoting", ["literal", "shell", "shell-always", "shell-escape", "shell-escape-always", "c",
     "c-maybe", "escape", "locale", "clocale"].map fun n => [n])]

def ls (c : Call) : Launch :=
  c.options (known "abcdfghiklmnopqrstuvw:xABCDFGHI:LNQRST:UXZ1" [("all", .bare, "a"),
    ("almost-all", .bare, "A"), ("classify", .maybe, "F"), ("color", .maybe, "color"),
    ("directory", .bare, "d"), ("human-readable", .bare, "h"), ("recursive", .bare, "R"),
    ("reverse", .bare, "r"), ("size", .bare, "s"), ("sort", .valued, "sort"),
    ("time", .valued, "time"), ("format", .valued, "format"), ("inode", .bare, "i"),
    ("hyperlink", .maybe, "hyperlink"), ("indicator-style", .valued, "indicator"),
    ("quoting-style", .valued, "quoting")] choices) 2 fun p =>
    let words := if p.operands.isEmpty then ["."] else p.operands.map wordOf
    let order (xs : List String) : List String :=
      let sorted := xs.mergeSort fun a b => decide (a ≤ b)
      if p.has "r" then sorted.reverse else sorted
    let found (w : String) : Except SystemError Disk.Spot := do
      let s ← c.disk.find c.directory w
      if s.entry.isNone then
        let (place, e) ← entryOf c c.disk w
        return ⟨place, some e⟩
      return s
    let errors := words.filterMap fun w =>
      match found w with
      | .error e => some (c.complaint ("cannot access " ++ quoted w ++ ": " ++ e.reason))
      | .ok _ => none
    let isPlace (w : String) : Bool :=
      match found w with
      | .ok s => s.entry == some .directory && !p.has "d"
      | .error _ => false
    let good := words.filter fun w => (found w).isOk
    let files := (order (good.filter fun w => !isPlace w)).map fun w =>
      listed p ((found w).toOption.bind (·.entry)) w
    let places := (order (good.filter isPlace)).filterMap fun w =>
      (found w).toOption.map fun s => (w, s.path)
    let places := if p.has "R" then places.flatMap (deeper p c.disk depth) else places
    let titled := p.has "R" || 1 < words.length
    let parts := (if files.isEmpty then [] else [lay p files]) ++ listing p c.disk titled places
    .tool (.print (bytesOf ("\n".intercalate parts)) (bytesOf (String.join errors))
      (if errors.isEmpty then 0 else 2)) []

/-- The place to which a path leads, of which the last name may be missing. -/
def fullPath (c : Call) (path : String) : Except SystemError String := do
  return Disk.written (← c.disk.find c.directory path).path

def realpath (c : Call) : Launch :=
  c.options (known "eLmPqsz" [("canonicalize-existing", .bare, "e"),
    ("canonicalize-missing", .bare, "m"), ("quiet", .bare, "q"), ("strip", .bare, "s"),
    ("no-symlinks", .bare, "s"), ("zero", .bare, "z")]) 1 fun p =>
    if p.operands.isEmpty then c.misuse "missing operand" 1
    else
      overWords c p.operands fun w path =>
        match fullPath c path with
        | .ok full => w.tell full
        | .error e =>
          if p.has "q" then { w with code := 1 }
          else w.fail c (asName (bytesOf path) ++ ": " ++ e.reason)

def readlink (c : Call) : Launch :=
  c.options (known "efmnqsvz" [("canonicalize", .bare, "f"),
    ("canonicalize-existing", .bare, "e"), ("canonicalize-missing", .bare, "m"),
    ("no-newline", .bare, "n"), ("quiet", .bare, "q"), ("silent", .bare, "s"),
    ("verbose", .bare, "v"), ("zero", .bare, "z")]) 1 fun p =>
    if p.operands.isEmpty then c.misuse "missing operand" 1
    else
      overWords c p.operands fun w path =>
        if p.has "f" || p.has "e" || p.has "m" then
          match fullPath c path with
          | .ok full => w.tell full
          | .error _ => { w with code := 1 }
        else
          match entryOf c w.disk path with
          | .ok (place, .link way) =>
            let home := place.dropLast
            let names := way.filter (· != "")
            if way.head? == some "" || !home.isPrefixOf names then w.tell (Disk.written names)
            else w.tell ("/".intercalate (names.drop home.length))
          | _ => { w with code := 1 }

def which (c : Call) : Launch :=
  let words := c.arguments.map wordOf
  let options := words.takeWhile fun w => w.toList.head? == some '-' && w != "--" && w != "-"
  let letters := options.flatMap fun w => w.toList.drop 1
  let path := ((c.valueOf? "PATH").map wordOf).getD Disk.defaultPath
  match letters.find? fun l => l != 'a' && l != 's' with
  | some l =>
    let tool := match c.disk.locate c.directory path c.called with
      | .ok (place, _) => place
      | .error _ => c.called
    .failure ("Illegal option -" ++ String.ofList [l] ++ "\nUsage: " ++ tool ++
      " [-as] args\n") 2
  | none =>
    let names := words.drop options.length
    let places (n : String) : List String :=
      let ways := if n.toList.contains '/' then [path] else path.splitOn ":"
      let found := ways.filterMap fun way =>
        (c.disk.locate c.directory way n).toOption.map (·.1)
      if letters.contains 'a' then found else found.take 1
    let lines := (names.flatMap places).map (· ++ "\n")
    let missing := names.isEmpty || names.any fun n => (places n).isEmpty
    .tool (.print (bytesOf (if letters.contains 's' then "" else String.join lines)) []
      (if missing then 1 else 0)) []

end Places
end Rehearsal
end Parley
