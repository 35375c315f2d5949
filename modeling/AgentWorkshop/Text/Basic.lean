/-!
# Texts — sequences of code points

A `Text` is a list of code points, and a code point may be a surrogate: a
JSON string such as `"\ud800"` denotes a text that no `String` holds. Every
text the tools read, keep or print is of this type; `text` embeds the
literals of the program.
-/

namespace AgentWorkshop

/-- A Unicode code point, surrogates included. -/
abbrev CodePoint := Fin 0x110000

/-- There are code points, so numerals name them. -/
instance CodePoint.instNeZero : @NeZero Nat Zero.ofOfNat0 0x110000 := ⟨by decide⟩

/-- A sequence of code points. -/
abbrev Text := List CodePoint

namespace CodePoint

/-- The code point of a character. -/
def ofChar (c : Char) : CodePoint :=
  ⟨c.toNat, by
    rcases c.valid with h | ⟨_, h⟩
    · exact Nat.lt_trans h (by decide)
    · exact h⟩

instance : Coe Char CodePoint := ⟨ofChar⟩

/-- The code points that stand for no character by themselves. -/
def isSurrogate (c : CodePoint) : Bool :=
  decide (0xD800 ≤ c.val) && decide (c.val < 0xE000)

/-- The surrogates that open a pair. -/
def isHighSurrogate (c : CodePoint) : Bool :=
  decide (0xD800 ≤ c.val) && decide (c.val < 0xDC00)

/-- The surrogates that close a pair. -/
def isLowSurrogate (c : CodePoint) : Bool :=
  decide (0xDC00 ≤ c.val) && decide (c.val < 0xE000)

/-- The code point above the basic plane that a surrogate pair stands for. -/
def ofPair (high low : CodePoint) : CodePoint :=
  ⟨0x10000 + (high.val - 0xD800) % 0x400 * 0x400 + (low.val - 0xDC00) % 0x400, by omega⟩

/-- The character of a code point, if it is one. -/
def toChar? (c : CodePoint) : Option Char :=
  if h : c.val.isValidChar then some (Char.ofNatAux c.val h) else none

/-- Folds the ASCII capitals to small letters and keeps every other code point. -/
def asciiLower (c : CodePoint) : CodePoint :=
  if h : 0x41 ≤ c.val ∧ c.val ≤ 0x5A then ⟨c.val + 0x20, by omega⟩ else c

/-- `0` to `9`. -/
def isAsciiDigit (c : CodePoint) : Bool :=
  decide (0x30 ≤ c.val) && decide (c.val ≤ 0x39)

/-- `a` to `z`. -/
def isAsciiSmall (c : CodePoint) : Bool :=
  decide (0x61 ≤ c.val) && decide (c.val ≤ 0x7A)

/-- `A` to `Z`. -/
def isAsciiCapital (c : CodePoint) : Bool :=
  decide (0x41 ≤ c.val) && decide (c.val ≤ 0x5A)

/-- `A` to `Z` and `a` to `z`. -/
def isAsciiLetter (c : CodePoint) : Bool :=
  c.isAsciiSmall || c.isAsciiCapital

/-- The value of a hexadecimal digit. -/
def hexValue? (c : CodePoint) : Option Nat :=
  if 0x30 ≤ c.val ∧ c.val ≤ 0x39 then some (c.val - 0x30)
  else if 0x61 ≤ c.val ∧ c.val ≤ 0x66 then some (c.val - 0x61 + 10)
  else if 0x41 ≤ c.val ∧ c.val ≤ 0x46 then some (c.val - 0x41 + 10)
  else none

end CodePoint

/-- The code points of a string. -/
def text (s : String) : Text :=
  s.toList.map CodePoint.ofChar

namespace Text

/-- `part` occurs in `whole` as a run of adjacent code points. -/
def occursIn (part : Text) : (whole : Text) → Bool
  | [] => part.isEmpty
  | c :: whole => part.isPrefixOf (c :: whole) || part.occursIn whole

/-- What follows the leftmost occurrence of `part`. -/
def afterFirst? (part : Text) : (whole : Text) → Option Text
  | [] => if part.isEmpty then some [] else none
  | c :: whole =>
    match part.isPrefixOf? (c :: whole) with
    | some after => some after
    | none => part.afterFirst? whole

/-- The pieces between line feeds; `n` line feeds make `n + 1` pieces. -/
def lines (t : Text) : List Text :=
  t.splitOn '\n'

/-- The pieces with a line feed between each two. -/
def unlines (ls : List Text) : Text :=
  List.intercalate (text "\n") ls

/-- Replaces the leftmost occurrence of `old`, if there is one, by `new`. -/
def replaceFirst (old new : Text) : Text → Text
  | [] => if old.isEmpty then new else []
  | c :: rest =>
    match old.isPrefixOf? (c :: rest) with
    | some after => new ++ after
    | none => c :: replaceFirst old new rest

/-- Drops the longest blank run at both ends, for a given notion of blank. -/
def trimBy (blank : CodePoint → Bool) (t : Text) : Text :=
  ((t.dropWhile blank).reverse.dropWhile blank).reverse

/-- The text with its ASCII capitals folded to small letters. -/
def asciiLower (t : Text) : Text :=
  t.map CodePoint.asciiLower

/-- The decimal digits of a natural number. -/
def ofNat (n : Nat) : Text :=
  (Nat.toDigits 10 n).map CodePoint.ofChar

/-- The decimal digits of an integer, after a minus sign if it is negative. -/
def ofInt : Int → Text
  | .ofNat n => ofNat n
  | .negSucc n => ('-' : CodePoint) :: ofNat (n + 1)

/-- The digits of a natural number in base sixteen, padded with zeros to a width. -/
def ofHex (width n : Nat) : Text :=
  let digits := (Nat.toDigits 16 n).map CodePoint.ofChar
  List.replicate (width - digits.length) ('0' : CodePoint) ++ digits

/-- Universal line endings: a carriage return, with the line feed after it if
there is one, becomes a line feed. -/
def normalizeNewlines : Text → Text
  | [] => []
  | [c] => if c = '\r' then ['\n'] else [c]
  | c :: d :: rest =>
    if c = '\r' then
      if d = '\n' then '\n' :: normalizeNewlines rest
      else '\n' :: normalizeNewlines (d :: rest)
    else c :: normalizeNewlines (d :: rest)

/-- The order of texts by their code points, a beginning before the whole. -/
def precedes : Text → Text → Bool
  | [], _ => true
  | _ :: _, [] => false
  | a :: as, b :: bs => decide (a.val < b.val) || (a = b && precedes as bs)

end Text

end AgentWorkshop
