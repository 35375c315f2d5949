import AgentWorkshop.Shell.Source
import AgentWorkshop.Shell.Machine

/-!
# Arithmetic of the shell

`Exec.calculate` gives the value of an integer expression, which may set
variables. Operators bind as in most languages; a comparison is worth 1 or 0,
division rounds toward zero, and numbers have 64 bits.
-/

namespace AgentWorkshop

namespace Shell

namespace Arithmetic

/-! ## Numbers -/

/-- How many numbers there are. -/
def wordSize : Nat := 0x10000000000000000

/-- The greatest number. -/
def greatest : Int := 0x7FFFFFFFFFFFFFFF

/-- The least number. -/
def least : Int := -0x8000000000000000

/-- The number with the same 64 lowest bits that has a sign. -/
def wrap (n : Int) : Int := Int.bmod n wordSize

/-- The bits of a number. -/
def bits (n : Int) : Nat := (n % wordSize).toNat

/-- The nearest number to a number that may be too large. -/
def clamp (n : Int) : Int := max least (min greatest n)

/-- The decimal, octal or hexadecimal digits at the start of a text, and what follows. -/
def naturalAt (s : Text) : Nat × Text :=
  let isHex (c : CodePoint) : Bool := c.hexValue?.isSome
  let (base, s) : Nat × Text := match s with
    | z :: x :: d :: rest =>
      if z = '0' && (x = 'x' || x = 'X') && isHex d then (16, d :: rest)
      else if z = '0' then (8, s) else (10, s)
    | z :: _ => if z = '0' then (8, s) else (10, s)
    | [] => (10, s)
  let isDigit (c : CodePoint) : Bool := c.hexValue?.any fun d => decide (d < base)
  ((s.takeWhile isDigit).foldl (fun n c => base * n + c.hexValue?.getD 0) 0, s.dropWhile isDigit)

/-- A blank around a number. -/
def isSpace (c : CodePoint) : Bool :=
  c = ' ' || (decide (9 ≤ c.val) && decide (c.val ≤ 13))

/-- The number that a text writes, if it is not too large. Without `isStrict`,
a blank text is worth 0. -/
def integer? (isDecimal isStrict : Bool) (t : Text) : Option Int :=
  let t := t.dropWhile isSpace
  let (isNegative, digits) := match t with
    | c :: rest =>
      if c = '-' then (true, rest) else if c = '+' then (false, rest) else (false, t)
    | [] => (false, [])
  let startsWell := digits.head?.any CodePoint.isAsciiDigit
  if !startsWell then if t.isEmpty && !isStrict then some 0 else none
  else
    let (n, rest) := if isDecimal then
        let isDigit := CodePoint.isAsciiDigit
        ((digits.takeWhile isDigit).foldl (fun n c => 10 * n + (c.val - 0x30)) 0,
          digits.dropWhile isDigit)
      else naturalAt digits
    let value : Int := if isNegative then -n else n
    if !(rest.dropWhile isSpace).isEmpty || clamp value ≠ value then none else some value

/-! ## Operators -/

/-- 1 for true and 0 for false. -/
def truth (b : Bool) : Int := if b then 1 else 0

/-- The operators between two operands, with how tightly they bind. -/
def operators : List (Text × Nat) :=
  [("*", 8), ("/", 8), ("%", 8), ("+", 7), ("-", 7), ("<<", 6), (">>", 6), ("<", 5), ("<=", 5),
    (">", 5), (">=", 5), ("==", 4), ("!=", 4), ("&", 3), ("^", 2), ("|", 1)].map
    fun (t, n) => (text t, n)

/-- The signs of expressions, longer ones before those they start with. -/
def signs : List Text :=
  ["<<=", ">>=", "<=", ">=", "<<", ">>", "==", "!=", "&&", "||", "+=", "-=", "*=", "/=", "%=",
    "&=", "|=", "^=", "<", ">", "=", "!", "&", "|", "+", "-", "*", "/", "%", "^", "~", "?", ":",
    "(", ")"].map text

/-- The signs that set a variable, with what they do to the old value. -/
def settingSigns : List (Text × Text) :=
  [("=", ""), ("<<=", "<<"), (">>=", ">>"), ("+=", "+"), ("-=", "-"), ("*=", "*"), ("/=", "/"),
    ("%=", "%"), ("&=", "&"), ("|=", "|"), ("^=", "^")].map fun (s, t) => (text s, text t)

/-- The value of an operator; a division by zero has none. -/
def operate? (op : Text) (a b : Int) : Option Int :=
  if op = text "==" then some (truth (a = b))
  else if op = text "!=" then some (truth (a ≠ b))
  else if op = text "<=" then some (truth (a ≤ b))
  else if op = text ">=" then some (truth (b ≤ a))
  else if op = text "<" then some (truth (a < b))
  else if op = text ">" then some (truth (b < a))
  else if op = text "<<" then some (wrap (a * Nat.pow 2 (bits b % 64)))
  else if op = text ">>" then some (Int.fdiv a (Nat.pow 2 (bits b % 64)))
  else if op = text "|" then some (wrap (bits a ||| bits b : Nat))
  else if op = text "^" then some (wrap (bits a ^^^ bits b : Nat))
  else if op = text "&" then some (wrap (bits a &&& bits b : Nat))
  else if op = text "+" then some (wrap (a + b))
  else if op = text "-" then some (wrap (a - b))
  else if op = text "*" then some (wrap (a * b))
  else if b = 0 then none
  else if op = text "/" then some (wrap (Int.tdiv a b))
  else some (Int.tmod a b)

/-! ## Reading -/

/-- A part of an expression. -/
inductive Term where
  | number (n : Int)
  | name (t : Text)
  | sign (t : Text)
  | unknown
  deriving DecidableEq, Repr

/-- The parts of an expression. -/
def terms : (fuel : Nat) → Text → List Term
  | 0, _ => []
  | _, [] => []
  | fuel + 1, c :: rest =>
    let s : Text := c :: rest
    if isGap c || c = '\n' then terms fuel rest
    else if c.isAsciiDigit then
      let (n, after) := naturalAt s
      .number (clamp n) :: terms fuel after
    else if isNameStart c then .name (s.takeWhile isNamePart) :: terms fuel (s.dropWhile isNamePart)
    else
      match signs.findSome? fun sign => (sign.isPrefixOf? s).map (sign, ·) with
      | some (sign, after) => .sign sign :: terms fuel after
      | none => [.unknown]

end Arithmetic

namespace Exec

open Arithmetic

/-- Stops at a fault of an expression. -/
def failToCalculate {α : Type} (whole : Text) (what : String) : Exec α :=
  fail (text "arithmetic expression: " ++ text what ++ text ": \"" ++ whole ++ text "\"")

/-- The number in a variable. -/
def numberIn (name : Text) : Exec Int := do
  let t ← lookup name
  match integer? false false t with
  | some n => return n
  | none => fail (text "Illegal number: " ++ t)

/-- The signal that ends a process at a quotient that is too large. -/
def quotientSignal : Nat := 8

/-- The value of an operator between two operands. The least integer cannot be divided
by -1. -/
def operate (whole : Text) (op : Text) (a b : Int) : Exec Int :=
  match operate? op a b with
  | some n =>
    if (op = text "/" || op = text "%") && b = -1 && a = -((Nat.pow 2 63 : Nat) : Int) then
      throw (.killed quotientSignal)
    else pure n
  | none => failToCalculate whole "division by zero"

mutual

/-- A setting of a variable, or a choice. Without `counts` no variable is read
or set. -/
def settingAt (whole : Text) : (fuel : Nat) → (counts : Bool) → List Term → Exec (Int × List Term)
  | 0, _, _ => failToCalculate whole "expecting primary"
  | fuel + 1, counts, ts => do
    match ts with
    | .name name :: .sign sign :: rest =>
      match settingSigns.lookup sign with
      | some op =>
        let (n, after) ← settingAt whole fuel counts rest
        if !counts then return (n, after)
        let value ← if op.isEmpty then pure n else do operate whole op (← numberIn name) n
        assign name (Text.ofInt value)
        return (value, after)
      | none => choiceAt whole fuel counts ts
    | _ => choiceAt whole fuel counts ts

/-- A choice between two expressions, or a test. -/
def choiceAt (whole : Text) : (fuel : Nat) → (counts : Bool) → List Term → Exec (Int × List Term)
  | 0, _, _ => failToCalculate whole "expecting primary"
  | fuel + 1, counts, ts => do
    let (test, after) ← eitherAt whole fuel counts ts
    if after.head? ≠ some (.sign (text "?")) then return (test, after)
    let (yes, after) ← settingAt whole fuel (counts && test ≠ 0) (after.drop 1)
    if after.head? ≠ some (.sign (text ":")) then failToCalculate whole "expecting ':'"
    let (no, after) ← choiceAt whole fuel (counts && test = 0) (after.drop 1)
    return (if test ≠ 0 then yes else no, after)

/-- Tests of which one has to hold. -/
def eitherAt (whole : Text) : (fuel : Nat) → (counts : Bool) → List Term → Exec (Int × List Term)
  | 0, _, _ => failToCalculate whole "expecting primary"
  | fuel + 1, counts, ts => do
    let (a, after) ← bothAt whole fuel counts ts
    if after.head? ≠ some (.sign (text "||")) then return (a, after)
    let (b, after) ← eitherAt whole fuel (counts && a = 0) (after.drop 1)
    return (truth (a ≠ 0 || b ≠ 0), after)

/-- Tests that all have to hold. -/
def bothAt (whole : Text) : (fuel : Nat) → (counts : Bool) → List Term → Exec (Int × List Term)
  | 0, _, _ => failToCalculate whole "expecting primary"
  | fuel + 1, counts, ts => do
    let (first, after) ← operandAt whole fuel counts ts
    let (a, after) ← operationAt whole fuel counts 0 first after
    if after.head? ≠ some (.sign (text "&&")) then return (a, after)
    let (b, after) ← bothAt whole fuel (counts && a ≠ 0) (after.drop 1)
    return (truth (a ≠ 0 && b ≠ 0), after)

/-- Goes on after an operand with the operators that bind more tightly than `level`. -/
def operationAt (whole : Text) :
    (fuel : Nat) → (counts : Bool) → (level : Nat) → Int → List Term → Exec (Int × List Term)
  | 0, _, _, _, _ => failToCalculate whole "expecting primary"
  | fuel + 1, counts, level, a, ts => do
    let next := match ts with
      | .sign op :: rest => (operators.lookup op).map (op, ·, rest)
      | _ => none
    match next with
    | none => return (a, ts)
    | some (op, tight, rest) =>
      if tight ≤ level then return (a, ts)
      let (second, after) ← operandAt whole fuel counts rest
      let (b, after) ← operationAt whole fuel counts tight second after
      let value ← if counts then operate whole op a b else pure b
      operationAt whole fuel counts level value after

/-- A number, a variable, or an expression in parentheses or after a sign. -/
def operandAt (whole : Text) : (fuel : Nat) → (counts : Bool) → List Term → Exec (Int × List Term)
  | 0, _, _ => failToCalculate whole "expecting primary"
  | fuel + 1, counts, ts => do
    match ts with
    | .number n :: rest => return (n, rest)
    | .name t :: rest => return (← if counts then numberIn t else pure 1, rest)
    | .sign t :: rest =>
      let signed (f : Int → Int) : Exec (Int × List Term) := do
        let (n, after) ← operandAt whole fuel counts rest
        return (f n, after)
      if t = text "(" then
        let (n, after) ← settingAt whole fuel counts rest
        if after.head? ≠ some (.sign (text ")")) then failToCalculate whole "expecting ')'"
        return (n, after.drop 1)
      else if t = text "-" then signed fun n => wrap (-n)
      else if t = text "+" then signed id
      else if t = text "!" then signed fun n => truth (n = 0)
      else if t = text "~" then signed fun n => -n - 1
      else failToCalculate whole "expecting primary"
    | _ => failToCalculate whole "expecting primary"

end

/-- The value of an expression. -/
def calculate (whole : Text) : Exec Int := do
  let ts := terms (whole.length + 1) whole
  let (n, after) ← settingAt whole (8 * ts.length + 8) true ts
  if !after.isEmpty then failToCalculate whole "expecting EOF"
  return n

end Exec

end Shell

end AgentWorkshop
