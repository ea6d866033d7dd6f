import Parley.Duration
import Parley.Rehearsal.Disk
import Parley.Rehearsal.Shell.State
import Parley.StandIn

/-!
# Parley.Rehearsal.Program

The programs of a rehearsal as data that can be taken up again after every step: shells, the small
tools that scripts call, and stand-ins for a console.

* `Tool`: a tool with what it has read so far.
* `Actor`: a stand-in with what it has still to write.
-/

namespace Parley
namespace Rehearsal

/-! ## Tools -/

/-- A text that a tool copies. -/
inductive Supply
  /-- What the tool reads from its input. -/
  | input
  | bytes (content : Bytes)
  /-- Nothing, and a complaint. -/
  | missing (complaint : Bytes)

/-- A complaint, if there is one. -/
def Supply.said (complaint : Bytes) : List Supply :=
  if complaint.isEmpty then [] else [.missing complaint]

/-- Whether a text is missing. -/
def Supply.isMissing : Supply → Bool
  | missing _ => true
  | _ => false

/-- What a tool has come to. -/
structure Outcome where
  output : Bytes := []
  /-- How many bytes of the output do not wait for more. -/
  flushed : Nat := 0
  errors : Bytes := []
  /-- Texts and complaints that follow in their order. -/
  rest : List Supply := []
  /-- What is put into files at the end: their paths, whether it comes behind what is there, and the
  text. -/
  files : List (Bytes × Bool × Bytes) := []
  /-- The code with which it ends; none if it goes on. -/
  code : Option Nat := some 0

namespace Outcome

/-- Ends with a complaint. -/
def failure (text : String) (code : Nat) : Outcome := { errors := bytesOf text, code := some code }

/-- Goes on. -/
def waiting (output : Bytes) : Outcome := { output, code := none }

end Outcome

/-- A tool as what it makes of its input: of the bytes that have come, and of whether they are all.
What it writes of a part of its input is the front of what it writes of more. -/
abbrev Filter := Bytes → Bool → Outcome

/-- A command with its arguments. -/
abbrev Words := List Bytes

/-- What a tool does that makes something of its input. -/
inductive Tool.Stage
  /-- It has read nothing yet. -/
  | fresh
  | reading
  /-- It writes, and then it reads on, or goes on with some texts and ends with a code. -/
  | writing (output : Bytes) (next : Option (List Supply × Nat))

/-- Blocks that are copied, and what is told of them at the end. -/
structure Blocks where
  size : Nat
  /-- How many more blocks are copied. -/
  left : Option Nat := none
  /-- How many blocks are left out in front. -/
  skip : Nat := 0
  /-- How many bytes are left out in front of what is written. -/
  seek : Nat := 0
  /-- What is done to each byte. -/
  change : UInt8 → UInt8 := id
  full : Nat := 0
  partly : Nat := 0
  bytes : Nat := 0
  silent : Bool := false

/-- A tool at work. -/
inductive Tool
  /-- Writes texts one after another, each as it comes, and ends with a code. -/
  | copy (supplies : List Supply) (code : Nat)
  /-- Writes what it reads, and to some other descriptors as well, once it has complained. -/
  | share (descriptors : List Nat) (code : Nat) (complaint : Bytes)
  /-- Writes the first bytes or lines of what it reads. -/
  | first (lines : Bool) (left : Nat)
  /-- Makes something of its input, of which it takes at most `limit` bytes; so many bytes of what
  it makes have been written. -/
  | filter (make : Filter) (limit : Option Nat) (taken : Bytes) (sent errorsSent : Nat)
      (stage : Tool.Stage)
  | blocks (b : Blocks)
  | sleep (time : Duration) (wake : Option Duration)
  /-- Writes the same again and again. -/
  | repeated (bytes : Bytes)
  /-- Writes something and ends. -/
  | print (output errors : Bytes) (code : Nat)
  /-- Runs commands that are made from its whole input, and perhaps tells them. -/
  | batch (plan : Bytes → Except (Bytes × Nat) (List Words)) (told : Bool) (taken : Bytes)
  /-- Runs commands one after another; the running one is known by its process and its name. -/
  | series (commands : List Words) (told : Bool) (running : Option (Nat × Bytes)) (code : Nat)
  /-- Waits for a program, and sends it a signal at some moment. -/
  | limited (child : Nat) (wake : Option Duration) (signal : Nat) (later : Option Duration)
      (late keepsStatus : Bool)

/-! ## Stand-ins -/

/-- What a stand-in does once all is written. -/
inductive Actor.Plan
  | listen
  | leave (code : Nat)
  | stay
deriving DecidableEq, Repr

structure Actor where
  faults : Faults
  /-- What is still to be written, each text as one. -/
  writes : List Bytes
  /-- The moment before which nothing is written. -/
  wake : Option Duration := none
  /-- What has been read of the input. -/
  taken : Bytes := []
  plan : Actor.Plan := .listen
deriving DecidableEq, Repr

namespace Actor

/-- A stand-in that has just been started. -/
def fresh (faults : Faults) (port : String) : Actor where
  faults := faults
  writes := (StandIn.banner faults port ++ [StandIn.prompt]).map utf8

end Actor

inductive Program
  | shell (s : Shell.State)
  | tool (t : Tool)
  | actor (a : Actor)

end Rehearsal
end Parley
