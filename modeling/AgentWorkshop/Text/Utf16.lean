import AgentWorkshop.Text.Utf8

/-!
# UTF-16, UTF-32 and the encoding of a document

A JSON document may come in any of the Unicode encodings. Its first bytes tell
which: a byte order mark, or the zero bytes that an ASCII character leaves in
the wider encodings. `Document.decode?` reads the bytes accordingly; surrogates
that belong to no pair are kept.
-/

namespace AgentWorkshop

/-- The order of the bytes of a unit. -/
inductive ByteOrder where
  | big
  | little
  deriving DecidableEq, Repr

namespace Text

/-- Replaces each surrogate pair by the code point that it stands for. -/
def joinPairs : Text → Text
  | [] => []
  | [c] => [c]
  | c :: d :: rest =>
    if c.isHighSurrogate && d.isLowSurrogate then CodePoint.ofPair c d :: joinPairs rest
    else c :: joinPairs (d :: rest)

end Text

namespace Utf16

/-- The units of the bytes, if they come in pairs. -/
def units? (order : ByteOrder) : Bytes → Option Text
  | [] => some []
  | [_] => none
  | a :: b :: rest =>
    let unit : Nat := match order with
      | .big => a.val * 0x100 + b.val
      | .little => b.val * 0x100 + a.val
    (units? order rest).map (Fin.ofNat 0x110000 unit :: ·)

/-- The text of the bytes. -/
def decode? (order : ByteOrder) (bs : Bytes) : Option Text :=
  (units? order bs).map Text.joinPairs

end Utf16

namespace Utf32

/-- The text of the bytes, if they come in fours that are code points. -/
def decode? (order : ByteOrder) : Bytes → Option Text
  | [] => some []
  | a :: b :: c :: d :: rest =>
    let n : Nat := match order with
      | .big => ((a.val * 0x100 + b.val) * 0x100 + c.val) * 0x100 + d.val
      | .little => ((d.val * 0x100 + c.val) * 0x100 + b.val) * 0x100 + a.val
    if h : n < 0x110000 then (decode? order rest).map (⟨n, h⟩ :: ·) else none
  | _ => none

end Utf32

namespace Document

/-- The encodings a document may come in, with the length of the mark to skip. -/
inductive Encoding where
  | utf8 (mark : Nat)
  | utf16 (order : ByteOrder) (mark : Nat)
  | utf32 (order : ByteOrder) (mark : Nat)
  deriving DecidableEq, Repr

/-- The encoding told by a byte order mark. -/
def Encoding.ofMark? (bs : Bytes) : Option Encoding :=
  if List.isPrefixOf [0x00, 0x00, 0xFE, 0xFF] bs then some (.utf32 .big 4)
  else if List.isPrefixOf [0xFF, 0xFE, 0x00, 0x00] bs then some (.utf32 .little 4)
  else if List.isPrefixOf [0xFE, 0xFF] bs then some (.utf16 .big 2)
  else if List.isPrefixOf [0xFF, 0xFE] bs then some (.utf16 .little 2)
  else if List.isPrefixOf [0xEF, 0xBB, 0xBF] bs then some (.utf8 3)
  else none

/-- The encoding told by the places of the zeros among the first four bytes,
or in a document of two. -/
def Encoding.ofZeros : Bytes → Encoding
  | a :: b :: c :: d :: _ =>
    if a = 0 then (if b = 0 then .utf32 .big 0 else .utf16 .big 0)
    else if b = 0 then (if c = 0 ∧ d = 0 then .utf32 .little 0 else .utf16 .little 0)
    else .utf8 0
  | [a, b] =>
    if a = 0 then .utf16 .big 0 else if b = 0 then .utf16 .little 0 else .utf8 0
  | _ => .utf8 0

/-- The encoding of a document: by its mark, else by its zeros. -/
def encodingOf (bs : Bytes) : Encoding :=
  (Encoding.ofMark? bs).getD (Encoding.ofZeros bs)

/-- The text of a document in the encoding that its first bytes tell. -/
def decode? (bs : Bytes) : Option Text :=
  match encodingOf bs with
  | .utf8 mark => (Utf8.decodeWithSurrogates (bs.drop mark)).toOption
  | .utf16 order mark => Utf16.decode? order (bs.drop mark)
  | .utf32 order mark => Utf32.decode? order (bs.drop mark)

end Document

end AgentWorkshop
