import GoProbe.Exchange
import GoProbe.Settings.File

/-!
# Finding settings

Without a named settings file, the working directory and the directories above it are searched,
the nearest first. A settings file there that cannot be used is passed over. A settings file that
was named has to be in order.
-/

namespace GoProbe

/-- How many directories are searched. -/
def settingsDepth : Nat := 10

variable [Faults] [Toml.Dialect]

namespace Host

/-- The settings in a file, if there are any that can be used. -/
def settingsAt? (host : Host) (path : String) : Option Settings :=
  match host.readText path with
  | .ok text => (Settings.ofToml text).toOption
  | .error _ => none

/-- The settings for a directory: the nearest that can be used. -/
def discoverSettings (host : Host) (start : String) : Settings :=
  ((Path.ancestors settingsDepth start).findSome? fun dir =>
    host.settingsAt? (Path.join dir settingsFileName)).getD {}

end Host

namespace Run

/-- The settings in a named file. -/
def loadSettings (path : String) : Run Settings := do
  ofExcept .settings (Settings.ofToml (← readText path))

end Run

end GoProbe
