import Parley.Rehearsal.Tool.Call

/-!
# Parley.Rehearsal.Tool.Refusal

Tools of which no more is known than how they refuse a long option.

* `Refusal.refusing`: such a tool.
* `Refusal.table`: the tools by their names.
-/

namespace Parley
namespace Rehearsal
namespace Refusal

open Call

/-- Where a tool points to that refuses an option. -/
inductive Pointer
  /-- To the help under the name by which it is called. -/
  | called
  /-- The same, behind the name once more. -/
  | calledTwice
  /-- To the help under its last name. -/
  | short
  /-- To the help under some name, between quotes that differ. -/
  | quoted (name : String)
  /-- To the help and to how it is used. -/
  | usage (name : String)

def Pointer.text (c : Call) : Pointer → String
  | called => c.hint
  | calledTwice => c.called ++ ": " ++ c.hint
  | short => c.shortHint
  | quoted name => "Try \x60" ++ name ++ " --help' for more information.\n"
  | usage name =>
    "Try \x60" ++ name ++ " --help' or \x60" ++ name ++ " --usage' for more information.\n"

/-- A long option among some words, up to where options end, with its value. -/
def longOption? : List Bytes → Option String
  | [] => none
  | w :: rest =>
    match letters w with
    | ['-', '-'] => none
    | '-' :: '-' :: name =>
      let front := String.ofList (name.takeWhile (· != '='))
      if front == "help" || front == "version" then longOption? rest
      else some (String.ofList name)
    | _ => longOption? rest

/-- A tool that refuses a long option, and else fails in silence. -/
def refusing (pointer : Pointer) (code : Nat) (c : Call) : Launch :=
  match longOption? c.arguments with
  | some name =>
    .failure (c.complaint ("unrecognized option '--" ++ name ++ "'") ++ pointer.text c) code
  | none => .failure "" 1

/-- A tool that says the same in any case. -/
def saying (output : String) (errors : Call → String) (code : Nat) (c : Call) : Launch :=
  .tool (.print (bytesOf output) (bytesOf (errors c)) code) []

def searching (c : Call) : Launch :=
  match longOption? c.arguments with
  | some name => .failure (c.complaint ("unknown predicate \x60--" ++ name ++ "'")) 1
  | none => .failure "" 1

/-- Settings of a terminal that may be asked for. -/
def settings : List String :=
  ["echo", "echoe", "echok", "echonl", "icanon", "isig", "iexten", "opost", "onlcr", "icrnl",
   "ixon", "ixoff", "raw", "sane", "cooked", "cbreak", "cs8", "parenb", "size", "rows", "cols",
   "columns", "speed", "min", "time", "hupcl", "clocal", "cread", "inlcr", "igncr", "tostop",
   "crtscts", "echoctl", "echoke", "litout", "pass8", "nl", "ek", "dec"]

def stty (c : Call) : Launch :=
  let isKnown (w : String) : Bool :=
    let cs := w.toList
    settings.contains w || settings.contains (String.ofList (cs.drop 1)) ||
      (!cs.isEmpty && cs.all Char.isDigit) || ["-a", "-g", "--all", "--save"].contains w
  match (c.arguments.map wordOf).find? fun w => !isKnown w with
  | some w => c.misuse ("invalid argument " ++ cited (bytesOf w)) 1
  | none => c.fail "'standard input': Inappropriate ioctl for device" 1

/-- Tools whose hints have their full names. -/
def plain : List String :=
  ["b2sum", "base32", "basenc", "chcon", "chgrp", "chown", "csplit", "date", "df", "dircolors",
   "du", "fmt", "hostid", "install", "mkfifo", "mknod", "numfmt", "pinky", "pr", "ptx", "shred",
   "shuf", "split", "stat", "truncate", "who"]

/-- Tools whose hints have their last names. -/
def shorter : List String :=
  ["fallocate", "lsblk", "lscpu", "mcookie", "more", "mountpoint", "namei"]

def table : List (String × (Call → Launch)) :=
  plain.map (fun n => (n, refusing .called 1)) ++ shorter.map (fun n => (n, refusing .short 1)) ++
  [("diff", refusing .calledTwice 2), ("diff3", refusing .calledTwice 2),
   ("dir", refusing .called 2), ("find", searching),
   ("getent", refusing (.usage "getent") 64), ("gzip", refusing (.quoted "gzip") 1),
   ("gunzip", fun c => refusing (.quoted "gzip") 1 { c with called := "gzip" }),
   ("iconv", refusing (.usage "iconv") 64), ("locale", refusing (.usage "locale") 64),
   ("logname", fun c =>
     if (longOption? c.arguments).isSome then refusing .called 1 c
     else if c.arguments.isEmpty then c.fail "no login name" 1
     else c.misuse ("extra operand " ++ cited (c.arguments.headD [])) 1),
   ("getconf", saying "" (fun _ => "Usage: getconf [-v specification] variable_name [pathname]\n" ++
     "       getconf -a [pathname]\n") 2),
   ("pathchk", saying "" (fun _ => "") 0), ("run-parts", refusing (.quoted "run-parts") 1),
   ("runcon", saying "" (fun c =>
     c.complaint (c.called ++ " may be used only on a SELinux kernel")) 125),
   ("sdiff", refusing .calledTwice 2), ("stty", stty),
   ("sync", fun c =>
     if (longOption? c.arguments).isSome then refusing .called 1 c else .print []),
   ("users", fun c =>
     if (longOption? c.arguments).isSome then refusing .called 1 c else .print []),
   ("vdir", refusing .called 2),
   ("zcat", fun c => refusing (.quoted "gzip") 1 { c with called := "gzip" })]

end Refusal
end Rehearsal
end Parley
