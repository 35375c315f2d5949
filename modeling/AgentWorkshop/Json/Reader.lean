import AgentWorkshop.Json.Basic
import AgentWorkshop.Text.Utf16

/-!
# Reading JSON

`Json.read` reads a whole text as one value. Next to the JSON grammar it takes
the words `NaN`, `Infinity` and `-Infinity`; it refuses integers of more than
`Json.digitLimit` digits and gives up on values nested deeper than
`Json.nestingLimit`. The two failures are told apart: text that is no JSON is
an everyday answer, and running out of nesting is not.
-/

namespace AgentWorkshop

namespace Json

/-- The kinds of value that hold values. -/
inductive Container where
  | array
  | object
  deriving DecidableEq, Repr

/-- Why a text is not read. -/
inductive ReadError where
  /-- The text is not JSON. -/
  | malformed
  /-- A container opens deeper than the nesting limit. -/
  | tooDeep (container : Container)
  deriving DecidableEq, Repr

/-- The greatest number of digits of an integer that is read. -/
def digitLimit : Nat := 4300

/-- How many containers may stand one inside the other. -/
def nestingLimit : Nat := 980

/-- A function that reads a value at the start of a text and gives what follows it. -/
abbrev Scanner := Text → Except ReadError (Json × Text)

/-- The blanks that may stand between the parts of a value. -/
def isSpace (c : CodePoint) : Bool :=
  c = ' ' || c = '\t' || c = '\n' || c = '\r'

/-- The text after its leading blanks. -/
def skipSpace (s : Text) : Text :=
  s.dropWhile isSpace

/-! ## Strings -/

/-- One code point of a string, with how it is written. -/
inductive Sign where
  /-- The code point itself, or an escape by one letter. -/
  | plain (c : CodePoint)
  /-- An escape by four hexadecimal digits. -/
  | numbered (c : CodePoint)

/-- The code point that an escape by one letter stands for. -/
def letterEscape? (c : CodePoint) : Option CodePoint :=
  if c = '"' ∨ c = '\\' ∨ c = '/' then some c
  else if c = 'b' then some 0x08
  else if c = 'f' then some 0x0C
  else if c = 'n' then some 0x0A
  else if c = 'r' then some 0x0D
  else if c = 't' then some 0x09
  else none

/-- The code point of four hexadecimal digits. -/
def hexPoint? (a b c d : CodePoint) : Option CodePoint := do
  let a ← a.hexValue?
  let b ← b.hexValue?
  let c ← c.hexValue?
  let d ← d.hexValue?
  some (Fin.ofNat 0x110000 (((a * 16 + b) * 16 + c) * 16 + d))

/-- The signs of a string up to its closing quote, and what follows the quote. -/
def scanSigns : Text → Option (List Sign × Text)
  | [] => none
  | c :: s =>
    if c = '"' then some ([], s)
    else if c = '\\' then
      match s with
      | [] => none
      | e :: s =>
        if e = 'u' then
          match s with
          | h₁ :: h₂ :: h₃ :: h₄ :: s => do
            let c ← hexPoint? h₁ h₂ h₃ h₄
            let (signs, after) ← scanSigns s
            some (.numbered c :: signs, after)
          | _ => none
        else do
          let c ← letterEscape? e
          let (signs, after) ← scanSigns s
          some (.plain c :: signs, after)
    else if c.val < 0x20 then none
    else do
      let (signs, after) ← scanSigns s
      some (.plain c :: signs, after)

/-- The text of the signs. Two neighbouring numbered surrogates that make a
pair stand for one code point. -/
def joinSigns : List Sign → Text
  | [] => []
  | .plain c :: rest => c :: joinSigns rest
  | [.numbered c] => [c]
  | .numbered c :: .plain d :: rest => c :: d :: joinSigns rest
  | .numbered c :: .numbered d :: rest =>
    if c.isHighSurrogate && d.isLowSurrogate then CodePoint.ofPair c d :: joinSigns rest
    else c :: joinSigns (.numbered d :: rest)

/-- The string after an opening quote, and what follows it. -/
def scanString (s : Text) : Option (Text × Text) :=
  (scanSigns s).map fun (signs, after) => (joinSigns signs, after)

/-! ## Numbers -/

/-- The number that ASCII digits write, most significant first. -/
def digitsValue (digits : Text) : Nat :=
  digits.foldl (fun n c => 10 * n + (c.val - 0x30)) 0

/-- The digits at the start of a text, and what follows them. -/
def scanDigits (s : Text) : Text × Text :=
  (s.takeWhile CodePoint.isAsciiDigit, s.dropWhile CodePoint.isAsciiDigit)

/-- The digits of an integer part: a lone zero, or digits that start with another. -/
def scanIntegerPart (s : Text) : Text × Text :=
  match s with
  | c :: rest => if c = '0' then ([c], rest) else scanDigits s
  | [] => ([], [])

/-- The digits after a point, none if no digit follows the point. -/
def scanFraction : Text → Text × Text
  | [] => ([], [])
  | c :: rest =>
    if c = '.' then
      match scanDigits rest with
      | ([], _) => ([], c :: rest)
      | found => found
    else ([], c :: rest)

/-- A decimal exponent, if the text starts with a whole one. -/
def scanExponent : Text → Option Int × Text
  | [] => (none, [])
  | c :: rest =>
    if c = 'e' ∨ c = 'E' then
      let (negative, digits) := match rest with
        | s :: after =>
          if s = '-' then (true, after) else if s = '+' then (false, after) else (false, rest)
        | [] => (false, [])
      match scanDigits digits with
      | ([], _) => (none, c :: rest)
      | (digits, after) =>
        let n : Int := digitsValue digits
        (some (if negative then -n else n), after)
    else (none, c :: rest)

/-- The number after an optional minus sign, and what follows it. A number
with neither a fraction nor an exponent is an integer. -/
def scanMagnitude (negative : Bool) (s : Text) : Option (Json × Text) :=
  match scanIntegerPart s with
  | ([], _) => none
  | (whole, s) =>
    let (fraction, s) := scanFraction s
    let (exponent, s) := scanExponent s
    match fraction, exponent with
    | [], none =>
      if digitLimit < whole.length then none
      else
        let n : Int := digitsValue whole
        some (.integer (if negative then -n else n), s)
    | _, _ =>
      some (.real (Binary64.ofDecimal negative (digitsValue (whole ++ fraction))
        (exponent.getD 0 - fraction.length)), s)

/-- The number at the start of a text. -/
def scanNumber (s : Text) : Option (Json × Text) :=
  match s with
  | c :: rest => if c = '-' then scanMagnitude true rest else scanMagnitude false s
  | [] => none

/-! ## Values -/

/-- The words that are values. -/
def words : List (Text × Json) :=
  [(AgentWorkshop.text "null", null),
    (AgentWorkshop.text "true", boolean true),
    (AgentWorkshop.text "false", boolean false),
    (AgentWorkshop.text "NaN", real .nan),
    (AgentWorkshop.text "Infinity", real (.infinite false)),
    (AgentWorkshop.text "-Infinity", real (.infinite true))]

/-- The word at the start of a text. -/
def scanWord (s : Text) : Option (Json × Text) :=
  words.findSome? fun (word, value) => (word.isPrefixOf? s).map (value, ·)

/-- A word or a number. -/
def scanAtom (s : Text) : Except ReadError (Json × Text) :=
  match scanWord s <|> scanNumber s with
  | some found => .ok found
  | none => .error .malformed

/-- The elements from the start of one to the bracket that closes the array.
Each takes at least one code point, so the length of the text is enough fuel. -/
def scanElements (value : Scanner) :
    (fuel : Nat) → Text → Except ReadError (List Json × Text)
  | 0, _ => .error .malformed
  | fuel + 1, s => do
    let (v, s) ← value s
    match skipSpace s with
    | [] => .error .malformed
    | c :: s =>
      if c = ']' then .ok ([v], s)
      else if c = ',' then do
        let (vs, s) ← scanElements value fuel (skipSpace s)
        .ok (v :: vs, s)
      else .error .malformed

/-- The key of a member up to the start of its value. -/
def scanKey : Text → Except ReadError (Text × Text)
  | [] => .error .malformed
  | c :: s =>
    if c = '"' then
      match scanString s with
      | none => .error .malformed
      | some (key, s) =>
        match skipSpace s with
        | [] => .error .malformed
        | c :: s => if c = ':' then .ok (key, skipSpace s) else .error .malformed
    else .error .malformed

/-- The members from the start of one to the brace that closes the object. -/
def scanMembers (value : Scanner) :
    (fuel : Nat) → Text → Except ReadError (List (Text × Json) × Text)
  | 0, _ => .error .malformed
  | fuel + 1, s => do
    let (key, s) ← scanKey s
    let (v, s) ← value s
    match skipSpace s with
    | [] => .error .malformed
    | c :: s =>
      if c = '}' then .ok ([(key, v)], s)
      else if c = ',' then do
        let (ms, s) ← scanMembers value fuel (skipSpace s)
        .ok ((key, v) :: ms, s)
      else .error .malformed

/-- The array after its opening bracket. -/
def scanArray (value : Scanner) (fuel : Nat) (s : Text) : Except ReadError (Json × Text) :=
  match skipSpace s with
  | [] => .error .malformed
  | c :: rest =>
    if c = ']' then .ok (array [], rest)
    else (scanElements value fuel (c :: rest)).map fun (vs, after) => (array vs, after)

/-- The object after its opening brace. -/
def scanObject (value : Scanner) (fuel : Nat) (s : Text) : Except ReadError (Json × Text) :=
  match skipSpace s with
  | [] => .error .malformed
  | c :: rest =>
    if c = '}' then .ok (object [], rest)
    else (scanMembers value fuel (c :: rest)).map fun (ms, after) => (ofMembers ms, after)

/-- A value whose containers are read by `inner?`; without it none may open. -/
def scanWith (inner? : Option Scanner) (fuel : Nat) (s : Text) :
    Except ReadError (Json × Text) :=
  match s with
  | [] => .error .malformed
  | c :: rest =>
    if c = '"' then
      match scanString rest with
      | some (t, after) => .ok (string t, after)
      | none => .error .malformed
    else if c = '[' then
      match inner? with
      | some inner => scanArray inner fuel rest
      | none => .error (.tooDeep .array)
    else if c = '{' then
      match inner? with
      | some inner => scanObject inner fuel rest
      | none => .error (.tooDeep .object)
    else scanAtom s

/-- A value with at most `depth` containers one inside the other. -/
def scanValue (fuel : Nat) : (depth : Nat) → Scanner
  | 0 => scanWith none fuel
  | depth + 1 => scanWith (some (scanValue fuel depth)) fuel

/-- The value that a whole text writes. -/
def read (s : Text) : Except ReadError Json :=
  match scanValue s.length nestingLimit (skipSpace s) with
  | .error e => .error e
  | .ok (v, after) => if (skipSpace after).isEmpty then .ok v else .error .malformed

/-- The value that a document of bytes writes, in the encoding that its first
bytes tell. -/
def readDocument (bs : Bytes) : Except ReadError Json :=
  match Document.decode? bs with
  | some s => read s
  | none => .error .malformed

end Json

end AgentWorkshop
