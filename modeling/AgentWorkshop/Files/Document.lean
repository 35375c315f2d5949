import AgentWorkshop.Files.Access
import AgentWorkshop.Json.Printer

/-!
# Documents in files

`Files.saveJson` writes a value as JSON, with the directories that its path
needs; `Files.readLossy` reads a text whatever its bytes are.
-/

namespace AgentWorkshop

namespace Files

/-- Writes a value as JSON in UTF-8. -/
def saveJson (directory : Address) (p : Path) (v : Json) : FileAction Unit := do
  makeDirectories true directory p.parent
  writeText directory p v.print

/-- Reads a file as text, with U+FFFD for what is not UTF-8. -/
def readLossy (directory : Address) (p : Path) : FileAction Text := do
  return Utf8.decodeLossy (← read directory p)

end Files

end AgentWorkshop
