import AgentWorkshop.Json.Basic

/-!
# Writing JSON

`Json.print` writes a value on one line, a blank after each comma and colon.
Only quotes, backslashes and the controls below U+0020 are escaped; every other
code point stands as it is.
-/

namespace AgentWorkshop

namespace Json

/-- The written form of a code point inside a string. -/
def printPoint (c : CodePoint) : Text :=
  if c = '"' ∨ c = '\\' then ['\\', c]
  else if c = '\n' then AgentWorkshop.text "\\n"
  else if c = '\r' then AgentWorkshop.text "\\r"
  else if c = '\t' then AgentWorkshop.text "\\t"
  else if c.val = 0x08 then AgentWorkshop.text "\\b"
  else if c.val = 0x0C then AgentWorkshop.text "\\f"
  else if c.val < 0x20 then AgentWorkshop.text "\\u" ++ Text.ofHex 4 c.val
  else [c]

/-- The written form of a string. -/
def printString (t : Text) : Text :=
  AgentWorkshop.text "\"" ++ t.flatMap printPoint ++ AgentWorkshop.text "\""

/-- The written form of a real. -/
def printReal (x : Binary64) : Text :=
  x.display (AgentWorkshop.text "NaN") (AgentWorkshop.text "Infinity")

mutual

/-- The value as JSON text. -/
def print : Json → Text
  | null => AgentWorkshop.text "null"
  | boolean b => AgentWorkshop.text (if b then "true" else "false")
  | integer n => Text.ofInt n
  | real x => printReal x
  | string t => printString t
  | array vs => AgentWorkshop.text "[" ++ printElements vs ++ AgentWorkshop.text "]"
  | object ms => AgentWorkshop.text "\x7b" ++ printMembers ms ++ AgentWorkshop.text "\x7d"

/-- The elements, with a comma and a blank between each two. -/
def printElements : List Json → Text
  | [] => []
  | [v] => print v
  | v :: w :: rest => print v ++ AgentWorkshop.text ", " ++ printElements (w :: rest)

/-- The members, with a comma and a blank between each two. -/
def printMembers : List (Text × Json) → Text
  | [] => []
  | [(k, v)] => printString k ++ AgentWorkshop.text ": " ++ print v
  | (k, v) :: m :: rest =>
    printString k ++ AgentWorkshop.text ": " ++ print v ++ AgentWorkshop.text ", " ++
      printMembers (m :: rest)

end

end Json

end AgentWorkshop
