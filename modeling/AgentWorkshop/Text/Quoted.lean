import AgentWorkshop.Text.Printable

/-!
# Quoted texts

Names and paths are shown in messages between quotes, with everything that
cannot be seen escaped, so a message is one line of printable code points
whatever the name holds. `Text.quoted` chooses the quote and escapes.
-/

namespace AgentWorkshop

namespace CodePoint

/-- The written form of a code point between two `quote`s. -/
def escaped (quote c : CodePoint) : Text :=
  if c = quote ∨ c = '\\' then ['\\', c]
  else if c = '\t' then text "\\t"
  else if c = '\n' then text "\\n"
  else if c = '\r' then text "\\r"
  else if c.isPrintable then [c]
  else if c.val ≤ 0xFF then text "\\x" ++ Text.ofHex 2 c.val
  else if c.val ≤ 0xFFFF then text "\\u" ++ Text.ofHex 4 c.val
  else text "\\U" ++ Text.ofHex 8 c.val

end CodePoint

namespace Text

/-- The quote for a text: the single one, unless the text holds it and holds
no double one. -/
def quoteMark (t : Text) : CodePoint :=
  if t.contains '\'' && !t.contains '"' then '"' else '\''

/-- The text between quotes, escaped. -/
def quoted (t : Text) : Text :=
  t.quoteMark :: t.flatMap (CodePoint.escaped t.quoteMark) ++ [t.quoteMark]

end Text

end AgentWorkshop
