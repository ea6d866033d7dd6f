import Parley.Rehearsal.Digest.Base64
import Parley.Rehearsal.Digest.Checksum
import Parley.Rehearsal.Digest.Md5
import Parley.Rehearsal.Digest.Sha
import Parley.Rehearsal.Tool.Amount
import Parley.Rehearsal.Tool.Copying

/-!
# Parley.Rehearsal.Tool.Summing

Tools that make digests and checksums of texts, and texts of letters.

* `Summing.digest`: a tool for one digest, which also checks lists of digests.
* `Summing.cksum`, `sum`: checksums.
* `Summing.base64`: bytes as letters, and back.
-/

namespace Parley
namespace Rehearsal
namespace Summing

open Call

/-- A way to make a digest. -/
structure Kind where
  /-- The name of the digest where it stands in front of the name of a text. -/
  tag : String
  make : Bytes → Bytes

def md5 : Kind := ⟨"MD5", Digest.md5⟩

def sha1 : Kind := ⟨"SHA1", Digest.sha1⟩

def sha224 : Kind := ⟨"SHA224", Digest.sha224⟩

def sha256 : Kind := ⟨"SHA256", Digest.sha256⟩

def sha384 : Kind := ⟨"SHA384", Digest.sha384⟩

def sha512 : Kind := ⟨"SHA512", Digest.sha512⟩

/-- How a digest and the name of its text stand in a line. -/
structure Row where
  tagged : Bool := false
  binary : Bool := false
  ending : UInt8 := 10
  /-- How the bytes of a digest are written. -/
  spell : Bytes → Bytes := Digest.hexadecimal

/-- A name in which the ends of lines and backslashes are escaped. -/
def escapedName (name : Bytes) : Bytes :=
  name.flatMap fun b =>
    match b with
    | 92 => [92, 92]
    | 10 => [92, 110]
    | 13 => [92, 114]
    | b => [b]

def Row.write (r : Row) (k : Kind) (name content : Bytes) : Bytes :=
  let shown := if r.ending == 0 then name else escapedName name
  let lead : Bytes := if shown == name then [] else [92]
  let digest := r.spell (k.make content)
  let body := if r.tagged then bytesOf (k.tag ++ " (") ++ shown ++ bytesOf ") = " ++ digest
    else digest ++ [32, if r.binary then 42 else 32] ++ shown
  lead ++ body ++ [r.ending]

/-- What is written for each text that can be read, with complaints about the others. -/
def eachText (c : Call) (operands : List Bytes) (write : Bytes → Bytes → Bytes) : Launch :=
  c.overWhole operands fun texts =>
    let rest := texts.map fun t =>
      match t.content with
      | .ok bs => Supply.bytes (write t.name bs)
      | .error e => .missing (Copying.missing c t.name e)
    { rest, code := some (if rest.any Supply.isMissing then 1 else 0) }

/-! ## Lists that are checked -/

/-- What came of checking a list. The newest line stands in front. -/
structure Checked where
  said : List Supply := []
  right : Nat := 0
  wrong : Nat := 0
  unread : Nat := 0
  malformed : Nat := 0

def Checked.say (s : Checked) (text : Supply) : Checked := { s with said := text :: s.said }

def isHexadecimal (b : UInt8) : Bool :=
  (48 ≤ b && b ≤ 57) || (97 ≤ b && b ≤ 102) || (65 ≤ b && b ≤ 70)

def lower (b : UInt8) : UInt8 := if 65 ≤ b && b ≤ 90 then b + 32 else b

/-- The digest and the name in a line of a list. -/
def listed? (k : Kind) (line : Bytes) : Option (Bytes × Bytes) :=
  let size := 2 * (k.make []).length
  let digest := line.takeWhile isHexadecimal
  let lead := bytesOf (k.tag ++ " (")
  if digest.length == size then
    match line.drop size with
    | 32 :: mark :: name =>
      if (mark == 32 || mark == 42) && !name.isEmpty then some (digest.map lower, name) else none
    | _ => none
  else if lead.isPrefixOf line then
    let body := line.drop lead.length
    let name := body.take (body.length - size - 4)
    let digest := body.drop (body.length - size)
    if (body.drop name.length).take 4 == bytesOf ") = " && digest.all isHexadecimal &&
        digest.length == size then some (digest.map lower, name)
    else none
  else none

/-- Takes account of a name in a list. -/
def checkName (c : Call) (k : Kind) (p : Parsed) (digest name : Bytes) (s : Checked) : Checked :=
  let tell (s : Checked) (text : String) : Checked :=
    if p.has "status" then s else s.say (.bytes (name ++ bytesOf (": " ++ text ++ "\n")))
  match (textsOf [(name, c.source name)] [])[0]? with
  | none => s
  | some t =>
    match t.content with
    | .ok bs =>
      if Digest.hexadecimal (k.make bs) != digest then tell { s with wrong := s.wrong + 1 } "FAILED"
      else
        let s := { s with right := s.right + 1 }
        if p.has "quiet" then s else tell s "OK"
    | .error e =>
      if e == .noSuchFile && p.has "ignore" then s
      else
        let s := s.say (.missing (Copying.missing c name e))
        tell { s with unread := s.unread + 1 } "FAILED open or read"

/-- Checks one line of a list. -/
def checkLine (c : Call) (k : Kind) (p : Parsed) (s : Checked) (line : Bytes) : Checked :=
  match listed? k line with
  | none => { s with malformed := s.malformed + 1 }
  | some (digest, name) => checkName c k p digest name s

/-- What is said of the lines of a list that were not right. -/
def warnings (c : Call) (s : Checked) : List Supply :=
  let warn (n : Nat) (one many : String) : List Supply :=
    let text := "WARNING: " ++ toString n ++ " " ++ if n == 1 then one else many
    if n == 0 then [] else [.missing (bytesOf (c.complaint text))]
  warn s.malformed "line is improperly formatted" "lines are improperly formatted" ++
    warn s.unread "listed file could not be read" "listed files could not be read" ++
    warn s.wrong "computed checksum did NOT match" "computed checksums did NOT match"

/-- Checks a list of digests: what is said, and whether all is well. -/
def checkList (c : Call) (k : Kind) (p : Parsed) (t : Text) : List Supply × Bool :=
  let name := if t.name == [45] then "'standard input'" else asName t.name
  match t.content with
  | .error e => ([.missing (Copying.missing c t.name e)], false)
  | .ok bs =>
    let lines := ((linesOf bs).map bare).filter fun l => !l.isEmpty && l.head? != some 35
    let s := lines.foldl (checkLine c k p) {}
    if s.right + s.wrong + s.unread == 0 then
      let text := name ++ ": no properly formatted checksum lines found"
      (s.said.reverse ++ [.missing (bytesOf (c.complaint text))], false)
    else
      (s.said.reverse ++ (if p.has "status" then [] else warnings c s),
        s.wrong + s.unread == 0 && !(p.has "strict" && s.malformed != 0))

def check (c : Call) (k : Kind) (p : Parsed) : Launch :=
  c.overWhole p.operands fun texts =>
    let parts := texts.map (checkList c k p)
    { rest := parts.flatMap (·.1), code := some (if parts.all (·.2) then 0 else 1) }

/-- Options that have a meaning only where lists are checked. -/
def forChecks : List (String × String) :=
  [("ignore", "ignore-missing"), ("status", "status"), ("w", "warn"), ("quiet", "quiet"),
   ("strict", "strict")]

def digestKnown : Known :=
  known "bctwz" [("binary", .bare, "b"), ("check", .bare, "c"),
    ("ignore-missing", .bare, "ignore"), ("quiet", .bare, "quiet"), ("status", .bare, "status"),
    ("strict", .bare, "strict"), ("tag", .bare, "tag"), ("text", .bare, "t"),
    ("warn", .bare, "w"), ("zero", .bare, "z")]

/-- A tool for one digest. -/
def digest (k : Kind) (c : Call) : Launch :=
  c.options digestKnown 1 fun p =>
    if p.has "tag" && p.has "c" then
      c.misuse "the --tag option is meaningless when verifying checksums" 1
    else if p.has "c" then check c k p
    else
      match forChecks.find? fun o => p.has o.1 with
      | some o =>
        c.misuse ("the --" ++ o.2 ++ " option is meaningful only when verifying checksums") 1
      | none =>
        let row : Row :=
          { tagged := p.has "tag", binary := p.last? ["b", "t"] == some "b"
            ending := if p.has "z" then 0 else 10 }
        eachText c p.operands (row.write k)

/-! ## Checksums -/

/-- A name behind numbers, if one is given. -/
def behind (p : Parsed) (name : Bytes) : Bytes :=
  (if p.operands.isEmpty then [] else 32 :: name) ++ [10]

/-- How many blocks a text takes up. -/
def blocks (size : Nat) (bs : Bytes) : Bytes := digitsOf ((bs.length + size - 1) / size)

/-- The line of a sum that is turned, with five digits. -/
def turningRow (p : Parsed) (name bs : Bytes) : Bytes :=
  let digits := digitsOf (Digest.turning bs)
  List.replicate (5 - digits.length) 48 ++ digits ++ [32] ++ Copying.padLeft 5 (blocks 1024 bs) ++
    behind p name

def foldedRow (p : Parsed) (name bs : Bytes) : Bytes :=
  digitsOf (Digest.folded bs) ++ [32] ++ blocks 512 bs ++ behind p name

def sum (c : Call) : Launch :=
  c.options (known "rs" [("sysv", .bare, "s")]) 1 fun p =>
    eachText c p.operands
      (if p.last? ["r", "s"] == some "s" then foldedRow p else turningRow p)

/-- The kinds of digests by the names of their algorithms. -/
def kinds : List (String × Kind) :=
  [("md5", md5), ("sha1", sha1), ("sha224", sha224), ("sha256", sha256), ("sha384", sha384),
   ("sha512", sha512)]

def cksumKnown : Known :=
  known "a:l:cwz" [("algorithm", .valued, "a"), ("base64", .bare, "base64"),
      ("check", .bare, "c"), ("debug", .bare, "debug"), ("ignore-missing", .bare, "ignore"),
      ("length", .valued, "l"), ("quiet", .bare, "quiet"), ("raw", .bare, "raw"),
      ("status", .bare, "status"), ("strict", .bare, "strict"), ("tag", .bare, "tag"),
      ("untagged", .bare, "untagged"), ("warn", .bare, "w"), ("zero", .bare, "z")]
    [("a", ["bsd", "sysv", "crc", "md5", "sha1", "sha224", "sha256", "sha384", "sha512",
      "blake2b", "sm3"].map fun n => [n])]

def cksum (c : Call) : Launch :=
  c.options cksumKnown 1 fun p =>
    let algorithm := ((p.value? "a").map wordOf).getD "crc"
    match algorithm, kinds.lookup algorithm with
    | "bsd", _ => eachText c p.operands (turningRow p)
    | "sysv", _ => eachText c p.operands (foldedRow p)
    | "crc", _ =>
      eachText c p.operands fun name bs =>
        if p.has "raw" then Digest.crcBytes bs
        else digitsOf (Digest.crc bs) ++ [32] ++ digitsOf bs.length ++ behind p name
    | _, some k =>
      if p.has "c" then check c k p
      else
        let row : Row :=
          { tagged := p.last? ["tag", "untagged"] != some "untagged"
            ending := if p.has "z" then 0 else 10
            spell := if p.has "base64" then Digest.Base64.encode else Digest.hexadecimal }
        eachText c p.operands fun name bs =>
          if p.has "raw" then k.make bs else row.write k name bs
    | _, none => .failure "" 1

/-! ## Letters -/

/-- Letters in lines of some width; with no width they stand in one line without an end. -/
def wrapped (width : Nat) (bs : Bytes) : Bytes :=
  if width == 0 then bs
  else (List.range ((bs.length + width - 1) / width)).flatMap fun i =>
    (bs.drop (i * width)).take width ++ [10]

def base64 (c : Call) : Launch :=
  c.options (known "diw:" [("decode", .bare, "d"), ("ignore-garbage", .bare, "i"),
      ("wrap", .valued, "w")]) 1 fun p =>
    let given := (p.value? "w").getD (bytesOf "76")
    match Amount.plain? given, p.operands with
    | none, _ => c.fail ("invalid wrap size: " ++ cited given) 1
    | _, _ :: w :: _ => c.misuse ("extra operand " ++ cited w) 1
    | some width, words =>
      c.overWhole words fun texts =>
        match texts with
        | [t] =>
          match t.content with
          | .ok bs => letters p width bs
          | .error .isDirectory => .failure (c.complaint "read error: Is a directory") 1
          | .error e => .failure (c.complaint (asName t.name ++ ": " ++ e.reason)) 1
        | _ => { code := some 1 }
where
  /-- The letters of some bytes, or the bytes of some letters. -/
  letters (p : Parsed) (width : Nat) (bs : Bytes) : Outcome :=
    if p.has "d" then
      let isKept (b : UInt8) : Bool :=
        if p.has "i" then Digest.Base64.isLetter b || b == Digest.Base64.filler else b != 10
      let (output, good) := Digest.Base64.decode (bs.filter isKept)
      let said := if good then [] else bytesOf (c.complaint "invalid input")
      { rest := .bytes output :: Supply.said said, code := some (if good then 0 else 1) }
    else { output := wrapped width (Digest.Base64.encode bs) }

end Summing
end Rehearsal
end Parley
