import AgentWorkshop.Text.Utf8

/-!
# Digests

Short values that hang on all bytes of a text. `md5`, `sha1` and the `Sha2` family
pad the bytes to whole blocks and mix each block into a few words; `crc` is the
remainder of a division of polynomials.
-/

namespace AgentWorkshop

namespace Digest

/-! ## Constants -/

/-- The whole part of a root, bit by bit from the `bits`th one on. -/
def rootFrom (degree n : Nat) : (bits : Nat) → (found : Nat) → Nat
  | 0, found => found
  | bits + 1, found =>
    let more := found + Nat.pow 2 bits
    rootFrom degree n bits (if Nat.pow more degree ≤ n then more else found)

/-- The first bits after the point of a root. -/
def rootFraction (degree width n : Nat) : Nat :=
  rootFrom degree (n * Nat.pow 2 (degree * width)) (width + 10) 0 % Nat.pow 2 width

/-- The first primes. -/
def primes (count : Nat) : List Nat :=
  let isPrime (n : Nat) : Bool :=
    decide (2 ≤ n) && (List.range n).all fun d => decide (d < 2) || n % d ≠ 0
  ((List.range 420).filter isPrime).take count

/-! ## Blocks -/

/-- The bytes of a number, the least one first. -/
def bytesOf : (count : Nat) → Nat → Bytes
  | 0, _ => []
  | count + 1, n => Fin.ofNat 256 n :: bytesOf count (n / 256)

/-- The number whose bytes are given, the least one first. -/
def ofBytes (bs : Bytes) : Nat :=
  bs.foldr (fun b n => b.val + 256 * n) 0

/-- Bytes, a one after them, and their number of bits at the end of the last block. -/
def padded (blockSize lengthSize : Nat) (leastFirst : Bool) (bs : Bytes) : Bytes :=
  let used := (bs.length + 1 + lengthSize) % blockSize
  let zeros := if used = 0 then 0 else blockSize - used
  let length := bytesOf lengthSize (8 * bs.length)
  bs ++ 0x80 :: List.replicate zeros 0 ++ if leastFirst then length else length.reverse

/-- Bytes in pieces. -/
def pieces (size : Nat) : (fuel : Nat) → Bytes → List Bytes
  | 0, _ => []
  | fuel + 1, bs => if bs.isEmpty then [] else bs.take size :: pieces size fuel (bs.drop size)

/-- The words of a block. -/
def words (width : Nat) (leastFirst : Bool) (block : Bytes) : Array (BitVec width) :=
  ((pieces (width / 8) block.length block).map fun bs =>
    BitVec.ofNat width (ofBytes (if leastFirst then bs else bs.reverse))).toArray

/-- The bytes of words. -/
def bytesOfWords {width : Nat} (leastFirst : Bool) (ws : List (BitVec width)) : Bytes :=
  ws.flatMap fun w =>
    let bs := bytesOf (width / 8) w.toNat
    if leastFirst then bs else bs.reverse

/-- Mixes all blocks into words. -/
def digest {width : Nat} (lengthSize : Nat) (leastFirst : Bool)
    (mix : List (BitVec width) → Array (BitVec width) → List (BitVec width))
    (start : List (BitVec width)) (bs : Bytes) : Bytes :=
  let all := padded (2 * width) lengthSize leastFirst bs
  bytesOfWords leastFirst ((pieces (2 * width) all.length all).foldl (fun state block =>
    List.zipWith (· + ·) state (mix state (words width leastFirst block))) start)

/-! ## Five words and less -/

/-- The words that the older digests begin with. -/
def firstWords : List (BitVec 32) :=
  [0x67452301, 0xEFCDAB89, 0x98BADCFE, 0x10325476, 0xC3D2E1F0]

/-- How far the steps of a round of `md5` turn. -/
def turns : List (List Nat) :=
  [[7, 12, 17, 22], [5, 9, 14, 20], [4, 11, 16, 23], [6, 10, 15, 21]]

/-- The constant of a step of `md5`. -/
def sineWord (i : Nat) : BitVec 32 :=
  BitVec.ofNat 32 ((Float.sin (Float.ofNat (i + 1))).abs * 4294967296.0).toUInt64.toNat

/-- Mixes a block into four words. -/
def mixFour (state : List (BitVec 32)) (block : Array (BitVec 32)) : List (BitVec 32) :=
  (List.range 64).foldl (fun state i =>
    match state with
    | [a, b, c, d] =>
      let (f, k) : BitVec 32 × Nat :=
        if i < 16 then ((b &&& c) ||| (~~~b &&& d), i)
        else if i < 32 then ((d &&& b) ||| (~~~d &&& c), (5 * i + 1) % 16)
        else if i < 48 then (b ^^^ c ^^^ d, (3 * i + 5) % 16)
        else (c ^^^ (b ||| ~~~d), (7 * i) % 16)
      let turn := ((turns.getD (i / 16) []).getD (i % 4) 0)
      [d, b + (a + f + sineWord i + block.getD k 0).rotateLeft turn, b, c]
    | _ => state) state

/-- The digest of 16 bytes. -/
def md5 (bs : Bytes) : Bytes :=
  digest 8 true mixFour (firstWords.take 4) bs

/-- The words of a block and those that follow from them. -/
def schedule {width : Nat} (next : Array (BitVec width) → BitVec width) :
    (count : Nat) → Array (BitVec width) → Array (BitVec width)
  | 0, ws => ws
  | count + 1, ws => schedule next count (ws.push (next ws))

/-- A word that stands so far from the end. -/
def backward {width : Nat} (ws : Array (BitVec width)) (n : Nat) : BitVec width :=
  ws.getD (ws.size - n) 0

/-- Mixes a block into five words. -/
def mixFive (state : List (BitVec 32)) (block : Array (BitVec 32)) : List (BitVec 32) :=
  let next (ws : Array (BitVec 32)) : BitVec 32 :=
    (backward ws 3 ^^^ backward ws 8 ^^^ backward ws 14 ^^^ backward ws 16).rotateLeft 1
  let ws := schedule next 64 block
  (List.range 80).foldl (fun state i =>
    match state with
    | [a, b, c, d, e] =>
      let (f, n) : BitVec 32 × Nat :=
        if i < 20 then ((b &&& c) ||| (~~~b &&& d), 2)
        else if i < 40 then (b ^^^ c ^^^ d, 3)
        else if i < 60 then ((b &&& c) ||| (b &&& d) ||| (c &&& d), 5)
        else (b ^^^ c ^^^ d, 10)
      let constant := BitVec.ofNat 32 (rootFrom 2 (n * Nat.pow 2 60) 33 0)
      [a.rotateLeft 5 + f + e + constant + ws.getD i 0, a, b.rotateLeft 30, c, d]
    | _ => state) state

/-- The digest of 20 bytes. -/
def sha1 (bs : Bytes) : Bytes :=
  digest 8 false mixFive firstWords bs

/-! ## Eight words -/

/-- A digest of eight words. -/
structure Sha2 (width : Nat) where
  rounds : Nat
  /-- How far words of the state are turned, and words of the block, whose last
  number is a shift. -/
  turns : List (Nat × Nat × Nat)
  start : List (BitVec width)
  /-- How many bytes are kept. -/
  size : Nat

/-- Turns a word in three ways, the last of which may lose bits. -/
def turned {width : Nat} (isShift : Bool) (t : Nat × Nat × Nat) (w : BitVec width) :
    BitVec width :=
  w.rotateRight t.1 ^^^ w.rotateRight t.2.1 ^^^
    if isShift then w >>> t.2.2 else w.rotateRight t.2.2

namespace Sha2

variable {width : Nat}

/-- Mixes a block into eight words. -/
def mix (s : Sha2 width) (constants : List (BitVec width)) (state : List (BitVec width))
    (block : Array (BitVec width)) : List (BitVec width) :=
  let turn (i : Nat) : Nat × Nat × Nat := s.turns.getD i (0, 0, 0)
  let next (ws : Array (BitVec width)) : BitVec width :=
    backward ws 16 + turned true (turn 2) (backward ws 15) + backward ws 7 +
      turned true (turn 3) (backward ws 2)
  let ws := schedule next (s.rounds - 16) block
  (constants.zip ws.toList).foldl (fun state (constant, w) =>
    match state with
    | [a, b, c, d, e, f, g, h] =>
      let chosen := (e &&& f) ^^^ (~~~e &&& g)
      let most := (a &&& b) ^^^ (a &&& c) ^^^ (b &&& c)
      let first := h + turned false (turn 1) e + chosen + constant + w
      [first + turned false (turn 0) a + most, a, b, c, d + first, e, f, g]
    | _ => state) state

/-- The digest of bytes. -/
def run (s : Sha2 width) (bs : Bytes) : Bytes :=
  let constants := (primes s.rounds).map fun p => BitVec.ofNat width (rootFraction 3 width p)
  (digest (width / 4) false (s.mix constants) s.start bs).take s.size

end Sha2

/-- The words that follow the points of square roots, without the first bits of them. -/
def squareWords (width skipped : Nat) (ps : List Nat) : List (BitVec width) :=
  ps.map fun p => BitVec.ofNat width (rootFraction 2 (skipped + width) p)

/-- How words of 32 bits are turned. -/
def shortTurns : List (Nat × Nat × Nat) :=
  [(2, 13, 22), (6, 11, 25), (7, 18, 3), (17, 19, 10)]

/-- How words of 64 bits are turned. -/
def longTurns : List (Nat × Nat × Nat) :=
  [(28, 34, 39), (14, 18, 41), (1, 8, 7), (19, 61, 6)]

/-- The digest of 32 bytes. -/
def sha256 : Sha2 32 := ⟨64, shortTurns, squareWords 32 0 (primes 8), 32⟩

/-- The digest of 28 bytes. -/
def sha224 : Sha2 32 := ⟨64, shortTurns, squareWords 32 32 ((primes 16).drop 8), 28⟩

/-- The digest of 64 bytes. -/
def sha512 : Sha2 64 := ⟨80, longTurns, squareWords 64 0 (primes 8), 64⟩

/-- The digest of 48 bytes. -/
def sha384 : Sha2 64 := ⟨80, longTurns, squareWords 64 0 ((primes 16).drop 8), 48⟩

/-! ## Remainders -/

/-- Bits are shifted into a remainder. -/
def shiftIn : (bits : Nat) → BitVec 32 → BitVec 32
  | 0, r => r
  | bits + 1, r =>
    shiftIn bits (if r.msb then (r <<< (1 : Nat)) ^^^ 0x04C11DB7 else r <<< (1 : Nat))

/-- The bytes of a number up to its greatest one, the least one first. -/
def shortBytes : (fuel : Nat) → Nat → Bytes
  | 0, _ => []
  | fuel + 1, n => if n = 0 then [] else Fin.ofNat 256 n :: shortBytes fuel (n / 256)

/-- The checksum of bytes and their number. -/
def crc (bs : Bytes) : Nat :=
  let all := bs ++ shortBytes bs.length.succ bs.length
  (~~~(all.foldl (fun r b => shiftIn 8 (r ^^^ BitVec.ofNat 32 (b.val * 16777216))) 0)).toNat

end Digest

end AgentWorkshop
