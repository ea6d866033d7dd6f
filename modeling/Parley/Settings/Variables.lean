import Parley.Settings
import Parley.Text.Blank
import Parley.Unicode.Casing

/-!
# Parley.Settings.Variables

The layer of settings that stands in the environment, in variables whose names begin alike.

* `Variables.get?`, `Variables.flag?`, `Variables.seconds?`: the value of a variable.
* `Variables.overlay`: sets what the variables say.
-/

namespace Parley

/-- Variables that share the first part of their names. -/
structure Variables where
  /-- The part that the names share; it may be empty. -/
  scope : String := "V4_REPL_CHECK"
  environment : Environment
deriving DecidableEq, Repr

namespace Variables

/-- The whole name of a variable, in upper case behind the shared part. -/
def nameOf (v : Variables) (name : String) : String :=
  if v.scope.isEmpty then Unicode.upper name else v.scope ++ "_" ++ Unicode.upper name

def get? (v : Variables) (name : String) : Option String := v.environment.get? (v.nameOf name)

/-- The words that switch something on, in any case. -/
def onWords : List String := ["1", "true", "yes", "on", "enabled"]

def flag? (v : Variables) (name : String) : Option Bool :=
  (v.get? name).map fun s => onWords.contains (s.map Char.toLower)

/-- A span that is not empty, in seconds; anything else is a failure. -/
def seconds? (v : Variables) (name : String) : Except Failure (Option Duration) :=
  match v.get? name with
  | none => .ok none
  | some s =>
    match Duration.ofText? (Text.trimString s) with
    | some d => .ok (some d)
    | none =>
      .error (.settings
        (v.nameOf name ++ " must be a positive number of seconds, got '" ++ s ++ "'"))

/-- The line ending that a variable names. -/
def ending? (v : Variables) (name : String) : Except Failure (Option LineEnding) :=
  match v.get? name with
  | none => .ok none
  | some s =>
    match LineEnding.ofText s with
    | .ok e => .ok (some e)
    | .error reason => .error (.settings reason)

def overlay (v : Variables) : Overlay := do
  Overlay.put (v.get? "binary") fun b s => { s with binary := b }
  Overlay.put (← v.seconds? "timeout") fun t s => { s with timeout := t }
  Overlay.put (v.flag? "echo") fun e s => { s with echo := e }
  Overlay.put (← v.ending? "line_ending") fun l s => { s with lineEnding := l }

end Variables

end Parley
