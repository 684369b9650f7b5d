import GoProbe.Failure
import GoProbe.Json.Decode
import GoProbe.Json.Writer

/-!
# Exchanged files

Requests are read from JSON files and reports are written to them, indented and with a line break
at the end. Directories that a report needs are made.
-/

namespace GoProbe.Run

open Json (Decoder)

variable [Faults]

/-- The text of a file. -/
def readText (path : String) : Run String := do
  ofExcept (.disk path) ((← get).readText path)

/-- What a JSON file decodes to. -/
def readJson {α : Type} (path : String) (decoder : Decoder α) : Run α := do
  ofExcept (fun _ => .exchange path) (decoder.ofText (← readText path))

/-- Writes a text to a file. -/
def writeText (path text : String) : Run Unit :=
  onDisk path (.write path text.toUTF8)

/-- Makes a directory unless something stands there. -/
def ensureDir (path : String) : Run Unit := do
  if !(← get).pathExists path then onDisk path (.makeDirs path)

/-- Writes a value to a JSON file, for which it makes the directory. -/
def writeJson (path : String) (value : Json) : Run Unit := do
  match Path.parent? path with
  | none => pure ()
  | some parent => if parent ≠ "" then ensureDir parent
  writeText path (value.pretty ++ "\n")

end GoProbe.Run
