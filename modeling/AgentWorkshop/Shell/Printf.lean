import AgentWorkshop.Number.Places
import AgentWorkshop.Shell.Arithmetic

/-!
# Escapes and formats

`Printf.escapes` reads the backslash escapes of a text, and `Printf.format`
fills the directives of a format with arguments, again and again as long as
arguments are left. All texts are texts of bytes.
-/

namespace AgentWorkshop

namespace Shell

namespace Printf

/-- Which escapes and directives are known. -/
inductive Dialect where
  /-- Those of the shell's built-in command. -/
  | builtIn
  /-- Those of the program. -/
  | program
  deriving DecidableEq, Repr

/-- The value of an octal digit. -/
def octal? (c : CodePoint) : Option Nat :=
  if 0x30 ≤ c.val ∧ c.val ≤ 0x37 then some (c.val - 0x30) else none

/-- The number of at most `count` digits at the start of a text, and what follows. -/
def digitsWithin (digit? : CodePoint → Option Nat) (base n : Nat) : (count : Nat) → Text →
    Nat × Text
  | 0, s => (n, s)
  | _, [] => (n, [])
  | count + 1, c :: rest =>
    match digit? c with
    | some d => digitsWithin digit? base (base * n + d) count rest
    | none => (n, c :: rest)

/-- The byte of a number. -/
def byte (n : Nat) : CodePoint := Fin.ofNat _ (n % 256)

/-- The sign of an escape by one letter. -/
def letter? (dialect : Dialect) (c : CodePoint) : Option CodePoint :=
  if c = 'a' then some 7
  else if c = 'b' then some 8
  else if c = 'e' then some 27
  else if c = 'f' then some 12
  else if c = 'n' then some 10
  else if c = 'r' then some 13
  else if c = 't' then some 9
  else if c = 'v' then some 11
  else if c = '\\' then some c
  else if dialect = .program && c = '"' then some c
  else none

/-- What an escape stands for: some bytes, or the end of all output. -/
inductive Escaped where
  | bytes (t : Text)
  | stop

/-- The bytes of the code point that so many hexadecimal digits write. -/
def unicodeAt? (count : Nat) (s : Text) : Option (Text × Text) :=
  let digits := s.take count
  if digits.length = count && digits.all fun c => c.hexValue?.isSome then
    let (n, after) := digitsWithin CodePoint.hexValue? 16 0 count s
    if h : n < 0x110000 then some (Text.narrow [⟨n, h⟩], after) else none
  else none

/-- The escape after a backslash, and what follows it. In an argument an octal
escape may have a zero in front. -/
def escapeAt (dialect : Dialect) (inArgument : Bool) (s : Text) : Escaped × Text :=
  match s with
  | [] => (.bytes (text "\\"), [])
  | c :: rest =>
    let isProgram : Bool := dialect = .program
    if c = 'c' && (inArgument || isProgram) then (.stop, [])
    else
      match letter? dialect c with
      | some b => (.bytes [b], rest)
      | none =>
        if (octal? c).isSome then
          let skipsZero := inArgument && c = '0' && (rest.head?.bind octal?).isSome
          let (n, after) := digitsWithin octal? 8 0 3 (if skipsZero then rest else s)
          (.bytes [byte n], after)
        else
          let plain := (Escaped.bytes ['\\', c], rest)
          if !isProgram then plain
          else if c = 'x' && (rest.head?.bind CodePoint.hexValue?).isSome then
            let (n, after) := digitsWithin CodePoint.hexValue? 16 0 2 rest
            (.bytes [byte n], after)
          else if c = 'u' || c = 'U' then
            match unicodeAt? (if c = 'u' then 4 else 8) rest with
            | some (t, after) => (.bytes t, after)
            | none => plain
          else plain

/-- A text with its escapes read, and whether an escape ended it. -/
def escapes (dialect : Dialect) (inArgument : Bool) : (fuel : Nat) → Text → Text × Bool
  | 0, _ => ([], false)
  | _, [] => ([], false)
  | fuel + 1, c :: rest =>
    if c = '\\' then
      match escapeAt dialect inArgument rest with
      | (.stop, _) => ([], true)
      | (.bytes bs, after) =>
        let (more, stopped) := escapes dialect inArgument fuel after
        (bs ++ more, stopped)
    else
      let (more, stopped) := escapes dialect inArgument fuel rest
      (c :: more, stopped)

/-! ## Numbers in arguments -/

/-- What is wrong with a number. -/
inductive Doubt where
  | notNumber
  | trailing
  | tooLarge
  deriving DecidableEq, Repr

/-- The doubt about a number before which and after which a text goes on. -/
def doubtOf (whole after : Text) (isTooLarge : Bool) : Option Doubt :=
  if !after.isEmpty then some (if after.length = whole.length then .notNumber else .trailing)
  else if isTooLarge then some .tooLarge
  else none

/-- A sign at the start of a text, and what follows. -/
def signAt (t : Text) : Bool × Text :=
  match t with
  | c :: rest =>
    if c = '-' then (true, rest) else if c = '+' then (false, rest) else (false, t)
  | [] => (false, [])

/-- The code of the sign after a quote, if the text begins with one. -/
def quoted? (t : Text) : Option Nat :=
  match t with
  | c :: rest => if c = '"' || c = apostrophe then some ((rest.head?.map (·.val)).getD 0) else none
  | [] => none

/-- The integer that an argument writes, as far as it does. -/
def integerOf (isSigned : Bool) (t : Text) : Int × Option Doubt :=
  match quoted? t with
  | some n => (n, none)
  | none =>
    let (isNegative, digits) := signAt (t.dropWhile Arithmetic.isSpace)
    let (n, rest) := Arithmetic.naturalAt digits
    let after := if digits.head?.any CodePoint.isAsciiDigit then rest else t
    let value : Int := if isNegative then -n else n
    if isSigned then
      let clamped := Arithmetic.clamp value
      (clamped, doubtOf t after (clamped ≠ value))
    else
      let isTooLarge : Bool := decide (Arithmetic.wordSize ≤ n)
      (if isTooLarge then Arithmetic.wordSize - 1 else value, doubtOf t after isTooLarge)

/-- A real number of an argument. -/
inductive Real where
  | finite (r : Ratio)
  | infinite
  | nan
  deriving DecidableEq, Repr

/-- An exponent after one of some letters, and what follows. -/
def exponentAt (letters : Text) (s : Text) : Int × Text :=
  match s with
  | c :: rest =>
    if letters.contains c then
      let (isNegative, digits) := signAt rest
      if digits.head?.any CodePoint.isAsciiDigit then
        let n : Nat := (digits.takeWhile CodePoint.isAsciiDigit).foldl
          (fun n c => 10 * n + (c.val - 0x30)) 0
        (if isNegative then -(n : Int) else n, digits.dropWhile CodePoint.isAsciiDigit)
      else (0, s)
    else (0, s)
  | [] => (0, [])

/-- Digits with a point among them: their number, how many stand after the
point, and what follows. -/
def pointedAt? (base : Nat) (s : Text) : Option (Nat × Nat × Text) :=
  let isDigit (c : CodePoint) : Bool := c.hexValue?.any fun d => decide (d < base)
  let whole := s.takeWhile isDigit
  let rest := s.dropWhile isDigit
  let (fraction, after) := match rest with
    | c :: more => if c = '.' then (more.takeWhile isDigit, more.dropWhile isDigit) else ([], rest)
    | [] => ([], [])
  let digits := whole ++ fraction
  if digits.isEmpty then none
  else
    some (digits.foldl (fun n c => base * n + c.hexValue?.getD 0) 0, fraction.length,
      if fraction.isEmpty && whole.isEmpty then rest else after)

/-- An exponent of ten from which on numbers are infinite. -/
def farExponent : Int := 5000

/-- The magnitude that a text starts with, and what follows. -/
def realAt? (s : Text) : Option (Real × Text) :=
  let lower := s.asciiLower
  match (text "infinity").isPrefixOf? lower <|> (text "inf").isPrefixOf? lower with
  | some after => some (.infinite, s.drop (s.length - after.length))
  | none =>
    match (text "nan").isPrefixOf? lower with
    | some after => some (.nan, s.drop (s.length - after.length))
    | none =>
      let hexadecimal := ((text "0x").isPrefixOf? lower).bind fun _ => pointedAt? 16 (s.drop 2)
      match hexadecimal with
      | some (digits, places, after) =>
        let (exponent, after) := exponentAt (text "pP") after
        let q := exponent - 4 * places
        if digits ≠ 0 ∧ 4 * farExponent < q then some (.infinite, after)
        else if q < -4 * farExponent then some (.finite ⟨0, 1⟩, after)
        else some (.finite (Ratio.ofBinary digits q), after)
      | none =>
        match pointedAt? 10 s with
        | none => none
        | some (digits, places, after) =>
          let (exponent, after) := exponentAt (text "eE") after
          let e := exponent - places
          if digits ≠ 0 ∧ farExponent < e then some (.infinite, after)
          else if e < -farExponent - digits.log2 then some (.finite ⟨0, 1⟩, after)
          else some (.finite (Ratio.ofDecimal digits e), after)

/-- The real number that an argument writes, as far as it does. -/
def realOf (t : Text) : Bool × Real × Option Doubt :=
  match quoted? t with
  | some n => (false, .finite ⟨n, 1⟩, none)
  | none =>
    let (isNegative, s) := signAt (t.dropWhile Arithmetic.isSpace)
    match realAt? s with
    | some (r, after) => (isNegative, r, doubtOf t after false)
    | none => (false, .finite ⟨0, 1⟩, doubtOf t t false)

/-! ## Directives -/

/-- How a value is laid out. -/
structure Layout where
  left : Bool := false
  zeros : Bool := false
  plus : Bool := false
  blank : Bool := false
  alternate : Bool := false
  width : Nat := 0
  precision : Option Nat := none
  /-- A precision was given, perhaps one that does not count. -/
  hasPoint : Bool := false

/-- A text padded with blanks to the width. -/
def pad (l : Layout) (t : Text) : Text :=
  let gap := List.replicate (l.width - t.length) (' ' : CodePoint)
  if l.left then t ++ gap else gap ++ t

/-- The sign in front of a number. -/
def signText (l : Layout) (isNegative : Bool) : Text :=
  if isNegative then text "-" else if l.plus then text "+" else if l.blank then text " " else []

/-- The digits of a natural number in a base. -/
def inBase (base n : Nat) : Text :=
  (Nat.toDigits base n).map CodePoint.ofChar

/-- The text with its small ASCII letters as capitals. -/
def upper (t : Text) : Text :=
  t.map fun c => if c.isAsciiSmall then Fin.ofNat _ (c.val - 0x20) else c

/-- An integer, as a sign and digits, padded to the width and precision. -/
def padInteger (l : Layout) (sign digits : Text) : Text :=
  let digits := match l.precision with
    | some p => if p = 0 && digits = text "0" then [] else Text.padZeros p digits
    | none => if l.zeros && !l.left then Text.padZeros (l.width - sign.length) digits else digits
  pad l (sign ++ digits)

/-- A directive that writes an integer. -/
def integerDirective (l : Layout) (conversion : CodePoint) (n : Int) : Text :=
  if conversion = 'd' || conversion = 'i' then
    padInteger l (signText l (n < 0)) (Text.ofNat n.natAbs)
  else
    let word := Arithmetic.bits n
    let marked (t : String) : Text := if l.alternate && word ≠ 0 then text t else []
    if conversion = 'o' then
      let digits := inBase 8 word
      let wanted := if l.alternate && word ≠ 0 then max (digits.length + 1) (l.precision.getD 0)
        else l.precision.getD 0
      padInteger (if l.precision.isSome || (l.alternate && !l.zeros) then
          { l with precision := some (max wanted (if l.alternate then 1 else 0)) } else l)
        [] (Text.padZeros wanted digits)
    else if conversion = 'x' then padInteger l (marked "0x") (inBase 16 word)
    else if conversion = 'X' then padInteger l (marked "0X") (upper (inBase 16 word))
    else padInteger l [] (Text.ofNat word)

/-- A binary number near to a magnitude: of 53 bits for the built-in command, of
64 for the program. Without a number the magnitude is too large. -/
def binaryOf (dialect : Dialect) (r : Ratio) : Option (Nat × Int) :=
  match dialect with
  | .program => some (r.toBits 64)
  | .builtIn =>
    match Binary64.ofRatio false r.num r.den with
    | .finite _ m q => some (m, q)
    | _ => none

/-- The first of 16 digits and so many after it, rounded to the nearest, a tie to the
even one, with the exponent that they then have. -/
def hexadecimalPlaces (lifted places : Nat) (exponent : Int) : Text × Text × Int :=
  let unit := Nat.pow 16 (15 - places)
  let kept := lifted / unit
  let above := 2 * (lifted % unit)
  let rounded := if unit < above || (above = unit && kept % 2 = 1) then kept + 1 else kept
  let isWider : Bool := Nat.pow 16 (min places 15 + 1) ≤ rounded
  let digits := Text.ofHex (min places 15 + 1) (if isWider then rounded / 16 else rounded)
  (digits.take 1, digits.drop 1 ++ List.replicate (places - 15) ('0' : CodePoint),
    if isWider then exponent + 4 else exponent)

/-- A directive that writes a real number, and whether the number was too large. -/
def realDirective (dialect : Dialect) (l : Layout) (conversion : CodePoint) (isNegative : Bool)
    (x : Real) : Text × Bool :=
  let small := conversion.asciiLower
  let binary : Option (Nat × Int) := match x with
    | .finite r => binaryOf dialect r
    | _ => none
  let body : Text := match x, binary with
    | .nan, _ => text "nan"
    | _, none => text "inf"
    | _, some (m, q) =>
      let r := Ratio.ofBinary m q
      if small = 'a' then
        if dialect = .program && m ≠ 0 then
          /- The first digit holds four bits. -/
          let lifted := m * Nat.pow 2 (63 - m.log2)
          let exponent : Int := q - (63 - m.log2 : Nat) + 60
          let (digits, fraction, exponent) := match l.precision with
            | none =>
              let digits := Text.ofHex 16 lifted
              (digits.take 1,
                ((digits.drop 1).reverse.dropWhile fun c : CodePoint => c = '0').reverse, exponent)
            | some places => hexadecimalPlaces lifted places exponent
          text "0x" ++ Ratio.withPoint l.alternate digits fraction ++
            text (if exponent < 0 then "p-" else "p+") ++ Text.ofNat exponent.natAbs
        else Ratio.hexadecimal m q l.precision l.alternate
      else if small = 'e' then r.scientific (l.precision.getD 6) l.alternate
      else if small = 'g' then r.general (l.precision.getD 6) l.alternate
      else r.fixed (l.precision.getD 6) l.alternate
  let sign := signText l isNegative
  let body := if l.zeros && !l.left && binary.isSome then
      let gap := List.replicate (l.width - sign.length - body.length) ('0' : CodePoint)
      if small = 'a' then body.take 2 ++ gap ++ body.drop 2 else gap ++ body
    else body
  let t := pad l (sign ++ body)
  (if conversion.isAsciiCapital then upper t else t,
    binary.isNone && match x with
      | .finite _ => true
      | _ => false)

/-- What became of a format. -/
structure Result where
  output : Text
  /-- Complaints about arguments. -/
  doubts : List (Text × Doubt) := []
  /-- An escape ended all output. -/
  stopped : Bool := false
  /-- A directive that is not known; an empty one is not whole. -/
  unknown : Option Text := none
  /-- The arguments that are left. -/
  left : List Text

/-- The flags at the start of a directive, and what follows them. -/
def flagsAt (l : Layout) : Text → Layout × Text
  | [] => (l, [])
  | c :: rest =>
    if c = '-' then flagsAt { l with left := true } rest
    else if c = '0' then flagsAt { l with zeros := true } rest
    else if c = '+' then flagsAt { l with plus := true } rest
    else if c = ' ' then flagsAt { l with blank := true } rest
    else if c = '#' then flagsAt { l with alternate := true } rest
    else (l, c :: rest)

/-- A count of a directive, with what was read for it. -/
structure Count where
  value : Int
  doubts : List (Text × Doubt) := []
  /-- The arguments that are left. -/
  arguments : List Text
  /-- What follows in the format. -/
  rest : Text

/-- A count of a directive: digits, or an argument for an asterisk. -/
def countAt (s : Text) (arguments : List Text) : Count :=
  let isAsterisk : Bool := s.head? = some '*'
  match isAsterisk, arguments with
  | true, argument :: others =>
    let (n, doubt) := integerOf true argument
    ⟨n, (doubt.map (argument, ·)).toList, others, s.drop 1⟩
  | true, [] => ⟨0, [], [], s.drop 1⟩
  | false, arguments =>
    ⟨(s.takeWhile CodePoint.isAsciiDigit).foldl
      (fun (n : Int) c => 10 * n + (c.val - 0x30 : Nat)) 0, [], arguments,
      s.dropWhile CodePoint.isAsciiDigit⟩

/-- The layout of a directive, and a count with what follows. -/
def layoutAt (s : Text) (arguments : List Text) : Layout × Count :=
  let (l, s) := flagsAt {} s
  let width := countAt s arguments
  let n := width.value
  let l := { l with width := n.natAbs, left := l.left || decide (n < 0) }
  match width.rest with
  | c :: rest =>
    if c = '.' then
      let places := countAt rest width.arguments
      let n := places.value
      ({ l with precision := if n < 0 then none else some n.toNat, hasPoint := true },
        { places with doubts := width.doubts ++ places.doubts })
    else (l, width)
  | [] => (l, width)

/-- The program knows sizes of numbers, which mean nothing, and refuses layouts that
do not suit a conversion. -/
def isRefused (dialect : Dialect) (l : Layout) (isPlain : Bool) (conversion : CodePoint) : Bool :=
  match dialect with
  | .builtIn => false
  | .program =>
    (conversion = 'b' && !isPlain) ||
      (l.alternate && (text "cdisu").contains conversion) ||
      (l.zeros && (text "cs").contains conversion) || (l.hasPoint && conversion = 'c')

/-- What follows the sizes in a directive. -/
def afterSizes (dialect : Dialect) (s : Text) : Text :=
  match dialect with
  | .builtIn => s
  | .program => s.dropWhile fun c => (text "lLhjtz").contains c

/-- Fills a format once. -/
def fill (dialect : Dialect) : (fuel : Nat) → Text → List Text → Result
  | 0, _, arguments => { output := [], left := arguments }
  | _, [], arguments => { output := [], left := arguments }
  | fuel + 1, c :: rest, arguments =>
    let goOn (t : Text) (doubt : Option (Text × Doubt)) (s : Text) (arguments : List Text) :
        Result :=
      let r := fill dialect fuel s arguments
      { r with output := t ++ r.output, doubts := doubt.toList ++ r.doubts }
    if c = '\\' then
      match escapeAt dialect false rest with
      | (.stop, _) => { output := [], stopped := true, left := arguments }
      | (.bytes t, after) => goOn t none after arguments
    else if c = '%' then
      if rest.head? = some ('%' : CodePoint) then goOn [c] none (rest.drop 1) arguments
      else
        let (l, count) := layoutAt rest arguments
        let arguments := count.arguments
        let goOn (t : Text) (doubt : Option (Text × Doubt)) (s : Text) (left : List Text) :
            Result :=
          let r := goOn t doubt s left
          { r with doubts := count.doubts ++ r.doubts }
        match afterSizes dialect count.rest with
        | [] => { output := [], doubts := count.doubts, unknown := some [], left := arguments }
        | conversion :: s =>
          let argument := arguments.headD []
          let others := arguments.drop 1
          let refused : Result :=
            let directive := c :: rest.take (rest.length - s.length)
            { output := [], doubts := count.doubts, unknown := some directive, left := arguments }
          if isRefused dialect l (rest.head? = some conversion) conversion then refused
          else if conversion = 's' then
            goOn (pad l ((l.precision.map argument.take).getD argument)) none s others
          else if conversion = 'c' then
            goOn (pad l [argument.headD 0]) none s others
          else if conversion = 'b' then
            let (t, stopped) := escapes dialect true (argument.length + 1) argument
            let t := pad l ((l.precision.map t.take).getD t)
            if stopped then
              { output := t, doubts := count.doubts, stopped := true, left := [] }
            else goOn t none s others
          else if (text "diouxX").contains conversion then
            let (n, doubt) := integerOf (conversion = 'd' || conversion = 'i') argument
            goOn (integerDirective l conversion n) (doubt.map (argument, ·)) s others
          else if (text "aAeEfFgG").contains conversion then
            let (isNegative, x, doubt) := realOf argument
            let (t, isTooLarge) := realDirective dialect l conversion isNegative x
            let doubt := doubt <|> if isTooLarge then some .tooLarge else none
            goOn t (doubt.map (argument, ·)) s others
          else refused
    else goOn [c] none rest arguments

/-- Fills a format until no arguments are left; one without directives for
them is filled once. -/
def format (dialect : Dialect) (form : Text) : (fuel : Nat) → List Text → Result
  | 0, arguments => { output := [], left := arguments }
  | fuel + 1, arguments =>
    let r := fill dialect (form.length + 1) form arguments
    if r.stopped || r.unknown.isSome || r.left.isEmpty || r.left.length = arguments.length then r
    else
      let next := format dialect form fuel r.left
      { next with output := r.output ++ next.output, doubts := r.doubts ++ next.doubts }

end Printf

end Shell

end AgentWorkshop
