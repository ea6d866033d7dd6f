import Parley.Rehearsal.Bytes
import Parley.SystemError

/-!
# Parley.Rehearsal.Disk

What stands on the disk of a rehearsal: the usual directories with what can be run, a stand-in at a
path of its own, and the files that programs make. A path is resolved name by name, so that each
name but the last has to lead to a directory.

* `Disk.find`: what a path leads to.
* `Disk.locate`: what is run under a name or a path.
* `Disk.names`: what stands in a directory.
-/

namespace Parley
namespace Rehearsal

/-- The names on the way from the root of the disk. -/
abbrev Path := List String

inductive Device
  /-- Gives nothing and takes all. -/
  | null
  /-- Gives zero bytes without end. -/
  | zero
  /-- Gives zero bytes without end and takes nothing. -/
  | full
  /-- Cannot be opened. -/
  | terminal
deriving DecidableEq, Repr

/-- What can be run. -/
inductive Executable
  | shell
  | tool (name : String)
  | standIn
  /-- A file with a script in it. -/
  | script (file : Nat)
deriving DecidableEq, Repr

inductive Entry
  | directory
  /-- A name for another place. -/
  | link (target : Path)
  | device (d : Device)
  /-- A file by the number of its content, and who may do what with it. -/
  | file (number : Nat) (mode : Nat)
  /-- The stream of a program that has this number. -/
  | stream (descriptor : Nat)
  | executable (e : Executable)
deriving DecidableEq, Repr

structure Disk where
  /-- The path at which the stand-in is found. -/
  standIn : String := "v4-repl-sim"
  /-- What stands at a path instead of what was there; none if nothing is there any more. -/
  changed : List (Path × Option Entry) := []
  /-- The contents of files. -/
  contents : List (Nat × Bytes) := []
  nextFile : Nat := 100

namespace Disk

/-! ## What is there from the start -/

def directories : List Path :=
  [[], ["boot"], ["dev"], ["dev", "pts"], ["dev", "shm"], ["etc"], ["home"], ["media"], ["mnt"],
   ["opt"], ["proc"], ["root"], ["run"], ["srv"], ["sys"], ["tmp"], ["usr"], ["usr", "bin"],
   ["usr", "games"], ["usr", "include"], ["usr", "lib"], ["usr", "lib64"], ["usr", "libexec"],
   ["usr", "local"], ["usr", "local", "bin"], ["usr", "local", "etc"], ["usr", "local", "lib"],
   ["usr", "local", "sbin"], ["usr", "local", "share"], ["usr", "sbin"], ["usr", "share"],
   ["usr", "src"], ["var"], ["var", "backups"], ["var", "cache"], ["var", "lib"],
   ["var", "local"], ["var", "log"], ["var", "mail"], ["var", "opt"], ["var", "spool"],
   ["var", "tmp"]]

def others : List (Path × Entry) :=
  [(["bin"], .link ["usr", "bin"]), (["lib"], .link ["usr", "lib"]),
   (["lib64"], .link ["usr", "lib64"]), (["sbin"], .link ["usr", "sbin"]),
   (["var", "lock"], .link ["run"]), (["var", "run"], .link ["run"]),
   (["dev", "full"], .device .full), (["dev", "null"], .device .null),
   (["dev", "ptmx"], .device .terminal), (["dev", "random"], .device .zero),
   (["dev", "stdin"], .stream 0), (["dev", "stdout"], .stream 1), (["dev", "stderr"], .stream 2),
   (["dev", "tty"], .device .terminal), (["dev", "urandom"], .device .zero),
   (["dev", "zero"], .device .zero), (["etc", "debian_version"], .file 0 0o644),
   (["etc", "environment"], .file 0 0o644), (["etc", "fstab"], .file 0 0o644),
   (["etc", "group"], .file 2 0o644), (["etc", "host.conf"], .file 0 0o644),
   (["etc", "hostname"], .file 0 0o644), (["etc", "hosts"], .file 0 0o644),
   (["etc", "issue"], .file 0 0o644), (["etc", "nsswitch.conf"], .file 0 0o644),
   (["etc", "os-release"], .file 0 0o644), (["etc", "passwd"], .file 1 0o644),
   (["etc", "profile"], .file 0 0o644), (["etc", "resolv.conf"], .file 0 0o644),
   (["etc", "shadow"], .file 0 0o640), (["etc", "shells"], .file 0 0o644)]

/-- The users of the system: a name, a number, and the directory at home. -/
def users : List (String × Nat × String) :=
  [("root", 0, "/root"), ("daemon", 1, "/usr/sbin"), ("bin", 2, "/bin"), ("sys", 3, "/dev"),
   ("sync", 4, "/bin"), ("games", 5, "/usr/games"), ("man", 6, "/var/cache/man"),
   ("lp", 7, "/var/spool/lpd"), ("mail", 8, "/var/mail"), ("news", 9, "/var/spool/news"),
   ("uucp", 10, "/var/spool/uucp"), ("proxy", 13, "/bin"), ("www-data", 33, "/var/www"),
   ("backup", 34, "/var/backups"), ("list", 38, "/var/list"), ("irc", 39, "/run/ircd"),
   ("_apt", 42, "/nonexistent"), ("nobody", 65534, "/nonexistent")]

/-- The line of a user. -/
def userLine (u : String × Nat × String) : String :=
  let n := toString u.2.1
  let group := if u.1 == "sync" then "65534" else if u.1 == "games" then "60"
    else if u.1 == "man" then "12" else if u.1 == "_apt" then "65534" else n
  let shell := if u.1 == "root" then "/bin/bash" else if u.1 == "sync" then "/bin/sync"
    else "/usr/sbin/nologin"
  let title := match u.1 with
    | "www-data" => "www-data"
    | "list" => "Mailing List Manager"
    | "irc" => "ircd"
    | "_apt" => ""
    | name => name
  ":".intercalate [u.1, "x", n, group, title, u.2.2, shell] ++ "\n"

/-- The contents of the files that are there from the start. -/
def firstContents : List (Nat × Bytes) :=
  [(1, bytesOf (String.join (users.map userLine))), (2, bytesOf "root:x:0:\n")]

/-- Programs that are found by their names. -/
def programs : List String :=
  ["[", "arch", "awk", "b2sum", "base32", "base64", "basename", "basenc", "bash", "cat", "chcon",
   "chgrp", "chmod", "chown", "chrt", "cksum", "clear", "cmp", "comm", "cp", "csplit", "cut",
   "dash", "date", "dd", "df", "diff", "diff3", "dir", "dircolors", "dirname", "dmesg", "du",
   "echo", "egrep", "env", "expand", "expr", "factor", "fallocate", "false", "fgrep", "find",
   "flock", "fmt", "fold", "getconf", "getent", "getopt", "grep", "groups", "gunzip", "gzip",
   "head", "hostid", "hostname", "iconv", "id", "install", "ionice", "join", "kill", "ldd",
   "link", "ln", "locale", "logger", "login", "logname", "ls", "lsblk", "lscpu", "mawk",
   "mcookie", "md5sum", "mkdir", "mkfifo", "mknod", "mktemp", "more", "mount", "mountpoint", "mv",
   "namei", "nice", "nl", "nohup", "nproc", "nsenter", "numfmt", "od", "passwd", "paste",
   "pathchk", "perl", "pinky", "pr", "printenv", "printf", "prlimit", "ptx", "pwd", "rbash",
   "readlink", "realpath", "renice", "reset", "rev", "rgrep", "rm", "rmdir", "run-parts",
   "runcon", "script", "sdiff", "sed", "seq", "setarch", "setpriv", "setsid", "setterm", "sh",
   "sha1sum", "sha224sum", "sha256sum", "sha384sum", "sha512sum", "shred", "shuf", "sleep",
   "sort", "split", "stat", "stdbuf", "stty", "su", "sum", "sync", "tac", "tail", "tar",
   "taskset", "tee", "tempfile", "test", "timeout", "toe", "touch", "tput", "tr", "true",
   "truncate", "tset", "tsort", "tty", "tzselect", "umount", "uname", "unexpand", "uniq",
   "unlink", "unshare", "users", "vdir", "wc", "whereis", "which", "who", "whoami", "xargs",
   "yes", "zcat", "zgrep"]

/-- What is run under a name. -/
def named? (name : String) : Option Executable :=
  if name == "sh" || name == "dash" then some .shell
  else if programs.contains name then some (.tool name)
  else none

/-! ## Places -/

/-- What stands at a path. -/
def entryAt? (d : Disk) (path : Path) : Option Entry :=
  match d.changed.lookup path with
  | some e => e
  | none =>
    if directories.contains path then some .directory
    else
      match others.lookup path with
      | some e => some e
      | none =>
        match path with
        | ["usr", "bin", name] => (named? name).map .executable
        | _ => none

/-- What stands in a directory. -/
def names (d : Disk) (directory : Path) : List String :=
  let children (paths : List Path) : List String :=
    paths.filterMap fun p =>
      match p.getLast? with
      | some name => if p.dropLast == directory then some name else none
      | none => none
  let first := children (directories ++ others.map (·.1)) ++
    if directory == ["usr", "bin"] then programs else []
  let all := first ++ (children (d.changed.map (·.1))).filter fun n => !first.contains n
  (all.eraseDups.filter fun n => (d.entryAt? (directory ++ [n])).isSome).mergeSort fun a b =>
    decide (a ≤ b)

/-- Where a path leads: the names without detours, and what stands there if anything does. -/
structure Spot where
  path : Path
  entry : Option Entry

/-- The longest name, and the length that no path reaches. -/
def longestName : Nat := 255
def pathLimit : Nat := 4096

/-- Goes on from a place, name by name. Each turn takes a name; a link adds some. -/
def walk (d : Disk) : Nat → Path → List String → Except SystemError Spot
  | 0, _, _ => .error .tooManyLinks
  | _ + 1, here, [] => .ok ⟨here, d.entryAt? here⟩
  | fuel + 1, here, name :: rest =>
    match d.entryAt? here with
    | some .directory =>
      if name == "" || name == "." then walk d fuel here rest
      else if name == ".." then walk d fuel here.dropLast rest
      else if longestName < name.length then .error .nameTooLong
      else
        match d.entryAt? (here ++ [name]) with
        | some (.link target) => walk d fuel [] (target ++ rest)
        | some _ => walk d fuel (here ++ [name]) rest
        | none => if rest.isEmpty then .ok ⟨here ++ [name], none⟩ else .error .noSuchFile
    | some _ => .error .notDirectory
    | none => .error .noSuchFile

/-- Where a path leads from a directory. -/
def find (d : Disk) (directory : Path) (path : String) : Except SystemError Spot :=
  let names := path.splitOn "/"
  if path == "" then .error .noSuchFile
  else if pathLimit ≤ path.length then .error .nameTooLong
  else
    let start := if path.toList.head? == some '/' then [] else directory
    walk d (3 * names.length + 64) start names

/-- A path as it is written. -/
def written (path : Path) : String := "/" ++ "/".intercalate path

/-! ## Programs -/

/-- Whether somebody may run a file. -/
def mayRun (mode : Nat) : Bool := mode &&& 0o111 != 0

/-- What is run at a place. -/
def programAt (s : Spot) : Except SystemError Executable :=
  match s.entry with
  | some (.executable e) => .ok e
  | some (.file number mode) => if mayRun mode then .ok (.script number) else .error .accessDenied
  | some _ => .error .accessDenied
  | none => .error .noSuchFile

def findAt (d : Disk) (directory : Path) (path : String) : Except SystemError Executable :=
  (d.find directory path).bind programAt

/-- What is run under a name in one of some directories. A fault that is no mere absence is
remembered. -/
def search (d : Disk) (directory : Path) (name : String) (last : SystemError) :
    List String → Except SystemError (String × Executable)
  | [] => .error last
  | place :: rest =>
    let path := if place == "" then name else place ++ "/" ++ name
    match d.findAt directory path with
    | .ok e => .ok (path, e)
    | .error e =>
      search d directory name (if e == .noSuchFile || e == .notDirectory then last else e) rest

/-- The directories in which programs are looked for. -/
def defaultPath : String := "/usr/local/sbin:/usr/local/bin:/usr/sbin:/usr/bin:/sbin:/bin"

/-- Where a program is found under a name or a path, and what it is. -/
def locate (d : Disk) (directory : Path) (searchPath name : String) :
    Except SystemError (String × Executable) :=
  if name == d.standIn then .ok (name, .standIn)
  else if name.toList.contains '/' then (d.findAt directory name).map fun e => (name, e)
  else if name == "" then .error .noSuchFile
  else if longestName < name.length then .error .nameTooLong
  else d.search directory name .noSuchFile (searchPath.splitOn ":")

/-! ## Changes -/

def contentOf (d : Disk) (number : Nat) : Bytes :=
  match d.contents.lookup number with
  | some bs => bs
  | none => (firstContents.lookup number).getD []

def setContent (d : Disk) (number : Nat) (bs : Bytes) : Disk :=
  { d with contents := (number, bs) :: d.contents.filter fun c => c.1 != number }

def put (d : Disk) (path : Path) (e : Option Entry) : Disk :=
  { d with changed := (path, e) :: d.changed.filter fun c => c.1 != path }

/-- An empty file at a path. -/
def create (d : Disk) (path : Path) (mode : Nat) : Nat × Disk :=
  (d.nextFile, { d.put path (some (.file d.nextFile mode)) with nextFile := d.nextFile + 1 })

/-- Writes a text to a file, which is made if it is not there. -/
def writeText (d : Disk) (directory : Path) (mask : Nat) (path : String) (appends : Bool)
    (bs : Bytes) : Disk :=
  match d.find directory path with
  | .error _ => d
  | .ok spot =>
    match spot.entry with
    | some (.file number _) =>
      d.setContent number (if appends then d.contentOf number ++ bs else bs)
    | none =>
      let (number, d) := d.create spot.path (0o666 &&& (0o777 - mask))
      d.setContent number bs
    | _ => d

end Disk
end Rehearsal
end Parley
