import Parley.Settings.File
import Parley.Settings.Variables

/-!
# Parley.Settings.Load

Settings from all layers below the command line.

* `SettingsFile.readFrom`: what a file sets, by its path.
* `Settings.layered`: the defaults, with what a file sets, with what the environment sets.
* `Settings.load`: these, with the file read first.
-/

namespace Parley

/-- Reads the file at a path. -/
abbrev FileReader := String → Except SystemError (List UInt8)

/-- What the file at a path sets. -/
def SettingsFile.readFrom (read : FileReader) (path : String) : Except Failure SettingsFile :=
  match SettingsFile.ofBytes (read path) with
  | .ok f => .ok f
  | .error fault => .error (fault.failure path)

namespace Settings

/-- The defaults with what a file sets, if there is one, and with what the environment sets. -/
def layered (file : Option SettingsFile) (v : Variables) : Except Failure Settings :=
  match file with
  | none => v.overlay.settings {}
  | some f => (f.overlay.settings {}).bind v.overlay.settings

/-- The settings of all layers; a file need not be given. -/
def load (read : FileReader) (path : Option String) (v : Variables) : Except Failure Settings :=
  (path.mapM (SettingsFile.readFrom read)).bind fun file => layered file v

end Settings
end Parley
