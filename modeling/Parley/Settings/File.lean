import Parley.Settings
import Parley.Toml.Decode
import Parley.Utf8

/-!
# Parley.Settings.File

The layer of settings that stands in a file.

* `SettingsFile.ofText`: what a text sets.
* `SettingsFile.overlay`: sets it, key by key in a fixed order.
* `SettingsFile.ofBytes`: what a file sets, from its bytes.
-/

namespace Parley

/-- The part of a file about the end of a console. -/
structure TeardownSection where
  strategy : Option Strategy := none
  gracefulMillis : Option Nat := none
  terminateMillis : Option Nat := none
deriving DecidableEq, Repr

/-- What a file sets. -/
structure SettingsFile where
  binary : Option String := none
  subcommand : Option (List String) := none
  portFlag : Option String := none
  timeoutSeconds : Option Binary64 := none
  echo : Option Bool := none
  lineEnding : Option LineEnding := none
  capacity : Option Nat := none
  teardown : TeardownSection := {}
  environment : List (String × String) := []
deriving DecidableEq, Repr

namespace TeardownSection

def keys : List String := ["strategy", "graceful_ms", "terminate_ms"]

def setKey (s : TeardownSection) (key : String) (v : Toml.Value) :
    Toml.Decoded TeardownSection :=
  match key with
  | "strategy" => return { s with strategy := ← Toml.Decode.case Strategy.names v }
  | "graceful_ms" => return { s with gracefulMillis := ← Toml.Decode.count "u64" v }
  | "terminate_ms" => return { s with terminateMillis := ← Toml.Decode.count "u64" v }
  | _ => .ok s

def decode (v : Toml.Value) : Toml.Decoded TeardownSection :=
  Toml.Decode.record "struct ShutdownSection" keys setKey {} v

end TeardownSection

namespace SettingsFile

def keys : List String :=
  ["binary", "subcommand", "port_flag", "timeout_secs", "echo_output", "line_ending",
    "buffer_max_size", "shutdown", "env"]

def setKey (f : SettingsFile) (key : String) (v : Toml.Value) : Toml.Decoded SettingsFile :=
  match key with
  | "binary" => return { f with binary := ← Toml.Decode.path v }
  | "subcommand" => return { f with subcommand := ← Toml.Decode.list Toml.Decode.string v }
  | "port_flag" => return { f with portFlag := ← Toml.Decode.string v }
  | "timeout_secs" => return { f with timeoutSeconds := ← Toml.Decode.number v }
  | "echo_output" => return { f with echo := ← Toml.Decode.flag v }
  | "line_ending" => return { f with lineEnding := ← Toml.Decode.case LineEnding.names v }
  | "buffer_max_size" => return { f with capacity := ← Toml.Decode.count "usize" v }
  | "shutdown" => return { f with teardown := ← TeardownSection.decode v }
  | "env" => return { f with environment := ← Toml.Decode.strings v }
  | _ => .ok f

/-- What a text sets. -/
def ofText (text : String) : Except Toml.Fault SettingsFile :=
  match Toml.Document.parse text with
  | .error place => .error (.malformed place)
  | .ok v =>
    match Toml.Decode.record "struct FileConfig" keys setKey {} v with
    | .ok f => .ok f
    | .error m => .error (.mismatch m)

/-- The time that a file sets, which is more than none. -/
def timeout? (x : Binary64) : Except Failure Duration :=
  match Duration.positive? x with
  | some d => .ok d
  | none => .error (.settings ("timeout_secs must be positive, got " ++ x.text))

/-- The capacity that a file sets, which is more than none. -/
def capacity? (n : Nat) : Except Failure Nat :=
  if n == 0 then .error (.settings "buffer_max_size must be greater than zero") else .ok n

def overlay (f : SettingsFile) : Overlay := do
  Overlay.put f.binary fun b s => { s with binary := b }
  Overlay.put f.subcommand fun c s => { s with subcommand := c }
  Overlay.put f.portFlag fun p s => { s with portFlag := p }
  Overlay.put (← f.timeoutSeconds.mapM fun x => timeout? x) fun t s => { s with timeout := t }
  Overlay.put f.echo fun e s => { s with echo := e }
  Overlay.put f.lineEnding fun l s => { s with lineEnding := l }
  Overlay.put (← f.capacity.mapM fun n => capacity? n) fun n s => { s with capacity := n }
  Overlay.put f.teardown.strategy fun t s =>
    { s with teardown := { s.teardown with strategy := t } }
  Overlay.put f.teardown.gracefulMillis fun n s =>
    { s with teardown := { s.teardown with gracefulWait := .ofMillis n } }
  Overlay.put f.teardown.terminateMillis fun n s =>
    { s with teardown := { s.teardown with terminateWait := .ofMillis n } }
  modify fun s => { s with environment := s.environment.overlay (.ofList f.environment) }

end SettingsFile

/-- Why a file of settings sets nothing. -/
inductive SettingsFileFault
  | unreadable (error : SystemError)
  /-- The text of the file is not what it should be. -/
  | malformed (text : String) (fault : Toml.Fault)
deriving DecidableEq, Repr

namespace SettingsFileFault

/-- The failure that a fault in the file at `path` leads to. -/
def failure (path : String) : SettingsFileFault → Failure
  | unreadable e => .systemDuring ("reading config file " ++ path) e
  | malformed text fault => .settings (path ++ ": " ++ fault.report text)

end SettingsFileFault

namespace SettingsFile

/-- The fault of a file that is not text. -/
def notText : SystemError := .described .invalidData "stream did not contain valid UTF-8"

/-- What a file sets, from the attempt to read its bytes. -/
def ofBytes (content : Except SystemError (List UInt8)) : Except SettingsFileFault SettingsFile :=
  match content with
  | .error e => .error (.unreadable e)
  | .ok bytes =>
    if Utf8.isText bytes then
      let text := lossyString bytes
      match ofText text with
      | .ok f => .ok f
      | .error fault => .error (.malformed text fault)
    else .error (.unreadable notText)

end SettingsFile
end Parley
