import AgentWorkshop.Text.Utf8

/-!
# Texts of bytes

Some programs take a text for the bytes that encode it. `Text.narrow` is such a
text: each of its code points is one byte. `Text.widen` leads back.
-/

namespace AgentWorkshop

namespace Text

/-- Each byte as the code point of its number. -/
def ofBytes (bs : Bytes) : Text :=
  bs.map fun b => Fin.ofNat 0x110000 b.val

/-- The bytes of a text of bytes. -/
def toBytes (t : Text) : Bytes :=
  t.map fun c => Fin.ofNat 256 c.val

/-- The bytes that encode a text. -/
def narrow (t : Text) : Text :=
  if t.all fun c => decide (c.val < 0x80) then t else ofBytes (Utf8.encodeEscaped t)

/-- The text that bytes encode; a byte that belongs to no code point is escaped. -/
def widen (t : Text) : Text :=
  if t.all fun c => decide (c.val < 0x80) then t else Utf8.decodeEscaped (toBytes t)

end Text

end AgentWorkshop
