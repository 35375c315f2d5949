import AgentWorkshop.Text.Basic

/-!
# UTF-8 — strict writing, strict and forgiving reading

`Utf8.encode` writes a text and refuses surrogates. Reading first cuts the
bytes into `Utf8.pieces`: well-formed code points, and between them the
maximal prefixes of code points that break off. `Utf8.decode` refuses the
first broken piece and `Utf8.decodeLossy` puts U+FFFD for each.
`Utf8.decodeEscaped` loses nothing: a byte of a broken piece becomes a
surrogate, which `Utf8.encodeEscaped` turns back.
-/

namespace AgentWorkshop

/-- One octet. -/
abbrev Byte := Fin 256

/-- There are octets, so numerals name them. -/
instance Byte.instNeZero : @NeZero Nat Zero.ofOfNat0 256 := ⟨by decide⟩

/-- The contents of a file or a stream. -/
abbrev Bytes := List Byte

namespace Utf8

/-! ## Writing -/

/-- The bytes of one code point; a surrogate is written by the same rule as
its neighbours. -/
def encodePoint (c : CodePoint) : Bytes :=
  if c.val < 0x80 then [Fin.ofNat 256 c.val]
  else if c.val < 0x800 then
    [Fin.ofNat 256 (0xC0 + c.val / 0x40), Fin.ofNat 256 (0x80 + c.val % 0x40)]
  else if c.val < 0x10000 then
    [Fin.ofNat 256 (0xE0 + c.val / 0x1000), Fin.ofNat 256 (0x80 + c.val / 0x40 % 0x40),
      Fin.ofNat 256 (0x80 + c.val % 0x40)]
  else
    [Fin.ofNat 256 (0xF0 + c.val / 0x40000), Fin.ofNat 256 (0x80 + c.val / 0x1000 % 0x40),
      Fin.ofNat 256 (0x80 + c.val / 0x40 % 0x40), Fin.ofNat 256 (0x80 + c.val % 0x40)]

/-- The first run of surrogates in a text: what keeps it from being written. -/
structure Unencodable where
  /-- The first surrogate of the run. -/
  point : CodePoint
  /-- How many code points stand before the run. -/
  start : Nat
  /-- How many surrogates the run has. -/
  count : Nat
  deriving DecidableEq, Repr

/-- The first run of surrogates, if the text has any. -/
def unencodable? (t : Text) : Option Unencodable :=
  match t.dropWhile fun c => !c.isSurrogate with
  | [] => none
  | c :: rest => some {
      point := c
      start := (t.takeWhile fun c => !c.isSurrogate).length
      count := (rest.takeWhile CodePoint.isSurrogate).length + 1 }

/-- The bytes of a text that has no surrogate. -/
def encode (t : Text) : Except Unencodable Bytes :=
  match unencodable? t with
  | some run => .error run
  | none => .ok (t.flatMap encodePoint)

/-- The least of the surrogates that stand for the bytes from 0x80 on. -/
def leastEscape : Nat := 0xDC80

/-- The surrogate stands for a byte that is not part of well-formed UTF-8. -/
def isEscape (c : CodePoint) : Bool :=
  leastEscape ≤ c.val && c.val < leastEscape + 0x80

/-- The bytes of a text in which some surrogates stand for single bytes. -/
def encodeEscaped (t : Text) : Bytes :=
  t.flatMap fun c =>
    if isEscape c then [Fin.ofNat 256 (c.val - leastEscape + 0x80)] else encodePoint c

/-- The first run of surrogates of which not all stand for bytes, from the first
that does not. -/
def unencodableEscaped? : (start : Nat) → Text → Option Unencodable
  | _, [] => none
  | start, c :: rest =>
    if c.isSurrogate && !isEscape c then
      some { point := c, start, count := (rest.takeWhile CodePoint.isSurrogate).length + 1 }
    else unencodableEscaped? (start + 1) rest

/-! ## Reading -/

/-- Why a piece is not a code point. -/
inductive Flaw where
  /-- No code point starts with this byte. -/
  | start
  /-- The code point breaks off at a byte that cannot continue it. -/
  | continuation
  /-- The code point breaks off at the end of the bytes. -/
  | ending
  deriving DecidableEq, Repr

/-- How the leading byte of a code point of several bytes is continued. -/
structure Lead where
  /-- The number of bytes that follow. -/
  extra : Nat
  /-- The payload of the leading byte. -/
  payload : Nat
  /-- The least byte that may come second. -/
  low : Nat := 0x80
  /-- The greatest byte that may come second. -/
  high : Nat := 0xBF

/-- The continuation that a leading byte asks for. Overlong forms, numbers
above U+10FFFF and, unless they are let pass, surrogates are excluded by the
range of the second byte. -/
def lead? (passSurrogates : Bool) (b : Byte) : Option Lead :=
  if b.val < 0x80 then some { extra := 0, payload := b.val }
  else if b.val < 0xC2 then none
  else if b.val < 0xE0 then some { extra := 1, payload := b.val - 0xC0 }
  else if b.val = 0xE0 then some { extra := 2, payload := 0, low := 0xA0 }
  else if b.val = 0xED then
    some { extra := 2, payload := 0xD, high := if passSurrogates then 0xBF else 0x9F }
  else if b.val < 0xF0 then some { extra := 2, payload := b.val - 0xE0 }
  else if b.val = 0xF0 then some { extra := 3, payload := 0, low := 0x90 }
  else if b.val < 0xF4 then some { extra := 3, payload := b.val - 0xF0 }
  else if b.val = 0xF4 then some { extra := 3, payload := 4, high := 0x8F }
  else none

/-- The bytes, at most `extra`, that continue a code point. -/
def continuation (low high : Nat) : (extra : Nat) → Bytes → Bytes
  | 0, _ => []
  | _ + 1, [] => []
  | extra + 1, b :: rest =>
    if low ≤ b.val ∧ b.val ≤ high then b :: continuation 0x80 0xBF extra rest else []

/-- A run of bytes that is read as one: a code point or a flaw. -/
structure Piece where
  /-- What the bytes are read as. -/
  reading : Except Flaw CodePoint
  /-- How many bytes follow the first one. -/
  extra : Nat

/-- The piece that starts with a byte, before the bytes that follow. -/
def piece (passSurrogates : Bool) (b : Byte) (rest : Bytes) : Piece :=
  match lead? passSurrogates b with
  | none => { reading := .error .start, extra := 0 }
  | some lead =>
    let tail := continuation lead.low lead.high lead.extra rest
    if tail.length = lead.extra then
      { reading := .ok (Fin.ofNat 0x110000
          (tail.foldl (fun n b => n * 0x40 + b.val % 0x40) lead.payload))
        extra := lead.extra }
    else if tail.length = rest.length then { reading := .error .ending, extra := tail.length }
    else { reading := .error .continuation, extra := tail.length }

/-- The pieces of the bytes after the first `skip`. -/
def piecesFrom (passSurrogates : Bool) : (skip : Nat) → Bytes → List Piece
  | _, [] => []
  | skip + 1, _ :: rest => piecesFrom passSurrogates skip rest
  | 0, b :: rest =>
    let p := piece passSurrogates b rest
    p :: piecesFrom passSurrogates p.extra rest

/-- The pieces that the bytes are cut into, first to last. -/
def pieces (passSurrogates : Bool) (bs : Bytes) : List Piece :=
  piecesFrom passSurrogates 0 bs

/-- The code point put in the place of a flaw. -/
def replacement : CodePoint := 0xFFFD

/-- The text of the bytes, with U+FFFD in the place of each broken piece. -/
def decodeLossy (bs : Bytes) : Text :=
  (pieces false bs).map fun p =>
    match p.reading with
    | .ok c => c
    | .error _ => replacement

/-- The text of the bytes after the first `skip`; each byte of a broken piece is
a surrogate of its own. -/
def decodeEscapedFrom : (skip : Nat) → Bytes → Text
  | _, [] => []
  | skip + 1, _ :: rest => decodeEscapedFrom skip rest
  | 0, b :: rest =>
    let p := piece false b rest
    match p.reading with
    | .ok c => c :: decodeEscapedFrom p.extra rest
    | .error _ => Fin.ofNat 0x110000 (leastEscape + b.val - 0x80) :: decodeEscapedFrom 0 rest

/-- The text that `encodeEscaped` writes as these bytes. -/
def decodeEscaped (bs : Bytes) : Text :=
  decodeEscapedFrom 0 bs

/-- The first broken piece of some bytes. -/
structure Undecodable where
  /-- Why the piece is no code point. -/
  flaw : Flaw
  /-- The first byte of the piece. -/
  byte : Byte
  /-- How many bytes stand before the piece. -/
  start : Nat
  /-- How many bytes the piece has. -/
  count : Nat
  deriving DecidableEq, Repr

/-- The text of the bytes, `at_` bytes into a whole of which `skip` are still
to be passed over. -/
def decodeFrom (passSurrogates : Bool) :
    (at_ skip : Nat) → Bytes → Except Undecodable Text
  | _, _, [] => .ok []
  | at_, skip + 1, _ :: rest => decodeFrom passSurrogates (at_ + 1) skip rest
  | at_, 0, b :: rest =>
    let p := piece passSurrogates b rest
    match p.reading with
    | .error flaw => .error { flaw, byte := b, start := at_, count := p.extra + 1 }
    | .ok c => (decodeFrom passSurrogates (at_ + 1) p.extra rest).map (c :: ·)

/-- The text of the bytes, if every piece is a code point. -/
def decode (bs : Bytes) : Except Undecodable Text :=
  decodeFrom false 0 0 bs

/-- As `decode`, but surrogates are code points like any other. -/
def decodeWithSurrogates (bs : Bytes) : Except Undecodable Text :=
  decodeFrom true 0 0 bs

end Utf8

end AgentWorkshop
