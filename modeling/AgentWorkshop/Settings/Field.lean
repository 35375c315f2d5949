import AgentWorkshop.Failure

/-!
# Reading the fields of settings

Fields are lenient: an integer may be given as a text or a boolean, a boolean
as a number or one of a few words, a path as a text. What no reading fits is
refused with a `FieldFault`.
-/

namespace AgentWorkshop

namespace Field

/-- A text. -/
def toText : Json → Except FieldFault Text
  | .string t => .ok t
  | _ => .error .notText

/-- A path, given as a text. -/
def toPath : Json → Except FieldFault Path
  | .string t => .ok (.ofText t)
  | _ => .error .notPath

/-! ## Integers -/

/-- The blanks that may stand around an integer. -/
def isPadding (c : CodePoint) : Bool :=
  c.isBlank && !(decide (0x1C ≤ c.val) && decide (c.val ≤ 0x1F))

/-- The zeros at the start of a number, perhaps with underscores, are passed
over. One that is alone or stands before a point is kept; a minus sign may
follow them. -/
def withoutZeros (before : CodePoint) : Text → Option Text
  | [] => some [before]
  | c :: rest =>
    if c = '0' || c = '_' then withoutZeros c rest
    else if c.isAsciiDigit || c = '-' then some (c :: rest)
    else if c = '.' then some (before :: c :: rest)
    else none

/-- A number from its first digit that counts. -/
def significant? : Text → Option Text
  | [] => none
  | c :: rest =>
    if c = '0' then withoutZeros c rest else if c.isAsciiDigit then some (c :: rest) else none

/-- The text without a point that only zeros, at least one, follow. -/
def dropZeroFraction (t : Text) : Text :=
  match t.dropWhile fun c : CodePoint => c ≠ '.' with
  | _ :: zero :: zeros =>
    if (zero :: zeros).all fun c => c = '0' then t.takeWhile fun c : CodePoint => c ≠ '.' else t
  | _ => t

/-- The text without underscores, if each of them stands between other points. -/
def dropUnderscores (t : Text) : Text :=
  let underscore : CodePoint := '_'
  if t.head? = some underscore || t.getLast? = some underscore
      || Text.occursIn [underscore, underscore] t then t
  else t.filter fun c => c ≠ underscore

/-- The greatest number of digits and sign of an integer that is given as a text. -/
def lengthLimit : Nat := 4300

/-- The integer of decimal digits, perhaps with a minus sign, of which there is
at least one and no zero before others. -/
def plainInteger (t : Text) : Except FieldFault Int :=
  let (negative, digits) := match t with
    | c :: rest => if c = '-' then (true, rest) else (false, t)
    | [] => (false, [])
  let count := (digits.takeWhile CodePoint.isAsciiDigit).length
  let startsWithZero := digits.head? = some '0'
  if !startsWithZero && lengthLimit < count + (if negative then 1 else 0) then .error .outOfRange
  else if count = 0 || count < digits.length || (startsWithZero && 1 < count) then
    .error .unreadableInteger
  else
    let n : Nat := digits.foldl (fun n c => 10 * n + (c.val - 0x30)) 0
    .ok (if negative then -(n : Int) else n)

/-- The digits of an integer that is not written plainly: blanks may surround it,
a sign and zeros may stand before it, single underscores between its digits, and
a point and zeros after it. -/
def plainDigits? (t : Text) : Option Text :=
  let bare (digits : Text) : Option Text :=
    (significant? digits).map fun ds => dropUnderscores (dropZeroFraction ds)
  match t.trimBy isPadding with
  | [] => none
  | c :: rest =>
    if c = '-' then (bare rest).map (c :: ·)
    else bare (if c = '+' then rest else c :: rest)

/-- The integer that a text writes, plainly or not. Only a plain one is known to
be too long; any other that is too long cannot be read. -/
def integerOfText (t : Text) : Except FieldFault Int :=
  match plainInteger t with
  | .error .unreadableInteger =>
    match (plainDigits? t).map plainInteger with
    | some (.ok n) => .ok n
    | _ => .error .unreadableInteger
  | answer => answer

/-- The least natural number too great for a word with a sign. -/
def wordLimit : Int := 0x8000000000000000

/-- The integer fits a word of the machine. -/
def fitsWord (n : Int) : Bool :=
  -wordLimit ≤ n && n < wordLimit

/-- An integer that was given as a real number. -/
def wholeReal (x : Binary64) : Except FieldFault Int :=
  if !x.isFinite then .error .notFinite
  else
    match x.toInt? with
    | some n => if -wordLimit < n && n < wordLimit then .ok n else .error .outOfRange
    | none => .error .fractional

/-- An integer. -/
def toInteger : Json → Except FieldFault Int
  | .integer n => .ok n
  | .boolean b => .ok (if b then 1 else 0)
  | .real x => wholeReal x
  | .string t => integerOfText t
  | _ => .error .notInteger

/-- An integer of at least `least`. -/
def toIntegerFrom (least : Int) (v : Json) : Except FieldFault Int := do
  let n ← toInteger v
  if n < least then .error .tooSmall else .ok n

/-! ## Booleans -/

/-- The words for no. -/
def noWords : List Text :=
  [text "0", text "off", text "f", text "false", text "n", text "no"]

/-- The words for yes. -/
def yesWords : List Text :=
  [text "1", text "on", text "t", text "true", text "y", text "yes"]

/-- The boolean of a number. -/
def booleanOfInteger (n : Int) : Except FieldFault Bool :=
  if n = 0 then .ok false else if n = 1 then .ok true else .error .unreadableBoolean

/-- A boolean. -/
def toBoolean : Json → Except FieldFault Bool
  | .boolean b => .ok b
  | .integer n => if fitsWord n then booleanOfInteger n else .error .notBoolean
  | .real x =>
    match wholeReal x with
    | .ok n => booleanOfInteger n
    | .error _ => .error .notBoolean
  | .string t =>
    if noWords.contains t.asciiLower then .ok false
    else if yesWords.contains t.asciiLower then .ok true
    else .error .unreadableBoolean
  | _ => .error .notBoolean

/-! ## Several fields -/

/-- The value of a field, its usual one if the field is not given. -/
def read {α : Type} (fields : Json) (name : Text) (usual : α)
    (reader : Json → Except FieldFault α) : Except (Text × FieldFault) α :=
  match fields.member? name with
  | none => .ok usual
  | some v =>
    match reader v with
    | .ok a => .ok a
    | .error fault => .error (name, fault)

/-- The fault of a field, if it has one. -/
def fault? {α : Type} : Except (Text × FieldFault) α → List (Text × FieldFault)
  | .ok _ => []
  | .error fault => [fault]

end Field

end AgentWorkshop
