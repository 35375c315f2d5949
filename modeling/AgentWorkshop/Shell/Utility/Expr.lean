import AgentWorkshop.Shell.Regex
import AgentWorkshop.Shell.Utility.Basic

/-!
# Values of words

`expr` takes each of its words for a sign or a value, and prints the value of all.
-/

namespace AgentWorkshop

namespace Shell

namespace Utility

namespace Expr

/-- A text is an integer. -/
def integer? (t : Text) : Option Int :=
  let number (digits : Text) : Option Int :=
    if digits.isEmpty || !digits.all CodePoint.isAsciiDigit then none
    else some (digits.foldl (fun n c => 10 * n + (c.val - 0x30 : Nat)) 0)
  match t with
  | c :: rest => if c = '-' then (number rest).map fun n => -n else number t
  | [] => none

/-- The text of an integer. -/
def written (n : Int) : Text :=
  if n < 0 then text "-" ++ Text.ofNat n.natAbs else Text.ofNat n.natAbs

/-- A value counts as none. -/
def isNull (t : Text) : Bool :=
  let digits := match t with
    | c :: rest => if c = '-' then rest else t
    | [] => []
  t.isEmpty || (!digits.isEmpty && digits.all fun c : CodePoint => c = '0')

/-- The words that are left, and the one before them. -/
structure Reading where
  before : Text
  rest : List Text

/-- A step of the reader. -/
abbrev Reader := StateT Reading (Except Text)

/-- Takes a word, if it is next. -/
def takes (t : String) : Reader Bool := do
  match (← get).rest with
  | word :: rest =>
    if word = text t then set (⟨word, rest⟩ : Reading)
    return word = text t
  | [] => return false

/-- Takes any word. -/
def word : Reader Text := do
  match (← get).rest with
  | w :: rest => set (⟨w, rest⟩ : Reading); return w
  | [] => throw (text "syntax error: missing argument after " ++ cited (← get).before)

/-- What an expression matches at the start of a text: the first group, if there
is one, or else the number of bytes. -/
def matched (t pattern : Text) : Reader Text := do
  match Regex.ofText { isExtended := false } pattern with
  | .error e => throw e
  | .ok (r, _) =>
    let found := r.matchAt? false { index := 0, before := none, rest := t, groups := [] }
    if r.groupCount = 0 then
      return Text.ofNat ((found.map fun f => f.part.length).getD 0)
    else return (found.bind fun f => f.groups.lookup 1).getD []

/-- The part of a text from a position on, so long at most. -/
def partOf (t first length : Text) : Text :=
  match integer? first, integer? length with
  | some i, some n =>
    if i ≤ 0 || n ≤ 0 then [] else (t.drop (i.toNat - 1)).take n.toNat
  | _, _ => []

/-- The first position in a text of one of some bytes. -/
def positionIn (t bytes : Text) : Nat :=
  match t.findIdx? bytes.contains with
  | some i => i + 1
  | none => 0

/-- The operators that compare. -/
def comparisons : List (String × (Ordering → Bool)) :=
  [("<", fun o => o = .lt), ("<=", fun o => o ≠ .gt), ("=", fun o => o = .eq),
    ("==", fun o => o = .eq), ("!=", fun o => o ≠ .eq), (">=", fun o => o ≠ .lt),
    (">", fun o => o = .gt)]

/-- Two values are compared as integers if they are, or else as texts. -/
def compared (a b : Text) : Ordering :=
  match integer? a, integer? b with
  | some m, some n => compare m n
  | _, _ => if a = b then .eq else if Text.precedes a b then .lt else .gt

/-- The operators that calculate, with how strongly they bind. -/
def operations : List (String × Nat × (Int → Int → Option Int)) :=
  [("+", 0, fun a b => some (a + b)), ("-", 0, fun a b => some (a - b)),
    ("*", 1, fun a b => some (a * b)), ("/", 1, fun a b => if b = 0 then none else some (a.tdiv b)),
    ("%", 1, fun a b => if b = 0 then none else some (a.tmod b))]

/-- The first operator that is next. -/
def operator? {α : Type} : List (String × α) → Reader (Option α)
  | [] => return none
  | (sign, a) :: rest => do
    if ← takes sign then return some a else operator? rest

mutual

/-- One value out of two, or of a bracket. -/
def either : (fuel : Nat) → (isNeeded : Bool) → Reader Text
  | 0, _ => throw (text "syntax error")
  | fuel + 1, isNeeded => do
    let first ← both fuel isNeeded
    eitherRest fuel isNeeded first

/-- What follows the first of some alternatives. -/
def eitherRest : (fuel : Nat) → (isNeeded : Bool) → Text → Reader Text
  | 0, _, _ => throw (text "syntax error")
  | fuel + 1, isNeeded, a => do
    if ← takes "|" then
      let b ← both fuel (isNeeded && isNull a)
      eitherRest fuel isNeeded
        (if !isNull a then a else if isNull b then text "0" else b)
    else return a

/-- The first one of values none of which may be missing. -/
def both : (fuel : Nat) → (isNeeded : Bool) → Reader Text
  | 0, _ => throw (text "syntax error")
  | fuel + 1, isNeeded => do
    let first ← comparison fuel isNeeded
    bothRest fuel isNeeded first

/-- What follows the first of some values. -/
def bothRest : (fuel : Nat) → (isNeeded : Bool) → Text → Reader Text
  | 0, _, _ => throw (text "syntax error")
  | fuel + 1, isNeeded, a => do
    if ← takes "&" then
      let b ← comparison fuel (isNeeded && !isNull a)
      bothRest fuel isNeeded (if isNull a || isNull b then text "0" else a)
    else return a

/-- Compares values. -/
def comparison : (fuel : Nat) → (isNeeded : Bool) → Reader Text
  | 0, _ => throw (text "syntax error")
  | fuel + 1, isNeeded => do
    let first ← calculation fuel isNeeded 0
    comparisonRest fuel isNeeded first

/-- What follows a value that is compared. -/
def comparisonRest : (fuel : Nat) → (isNeeded : Bool) → Text → Reader Text
  | 0, _, _ => throw (text "syntax error")
  | fuel + 1, isNeeded, a => do
    match ← operator? comparisons with
    | some holds =>
      let b ← calculation fuel isNeeded 0
      comparisonRest fuel isNeeded (if holds (compared a b) then text "1" else text "0")
    | none => return a

/-- Calculates with operators that bind so strongly. -/
def calculation : (fuel : Nat) → (isNeeded : Bool) → (level : Nat) → Reader Text
  | 0, _, _ => throw (text "syntax error")
  | fuel + 1, isNeeded, level => do
    let first ← if level = 0 then calculation fuel isNeeded 1 else matching fuel isNeeded
    calculationRest fuel isNeeded level first

/-- What follows a value that is calculated with. -/
def calculationRest : (fuel : Nat) → (isNeeded : Bool) → (level : Nat) → Text → Reader Text
  | 0, _, _, _ => throw (text "syntax error")
  | fuel + 1, isNeeded, level, a => do
    let here := operations.filter fun o => o.2.1 = level
    match ← operator? here with
    | some (_, f) =>
      let b ← if level = 0 then calculation fuel isNeeded 1 else matching fuel isNeeded
      if !isNeeded then calculationRest fuel isNeeded level []
      else
        match integer? a, integer? b with
        | some m, some n =>
          match f m n with
          | some r => calculationRest fuel isNeeded level (written r)
          | none => throw (text "division by zero")
        | _, _ => throw (text "non-integer argument")
    | none => return a

/-- Matches values. -/
def matching : (fuel : Nat) → (isNeeded : Bool) → Reader Text
  | 0, _ => throw (text "syntax error")
  | fuel + 1, isNeeded => do
    let first ← simple fuel isNeeded
    matchingRest fuel isNeeded first

/-- What follows a value that is matched. -/
def matchingRest : (fuel : Nat) → (isNeeded : Bool) → Text → Reader Text
  | 0, _, _ => throw (text "syntax error")
  | fuel + 1, isNeeded, a => do
    if ← takes ":" then
      let b ← simple fuel isNeeded
      matchingRest fuel isNeeded (← if isNeeded then matched a b else pure a)
    else return a

/-- A value that is a word, in brackets, or made by a function. -/
def simple : (fuel : Nat) → (isNeeded : Bool) → Reader Text
  | 0, _ => throw (text "syntax error")
  | fuel + 1, isNeeded => do
    if ← takes "+" then word
    else if ← takes "length" then return Text.ofNat (← simple fuel isNeeded).length
    else if ← takes "match" then
      let t ← simple fuel isNeeded
      let pattern ← simple fuel isNeeded
      if isNeeded then matched t pattern else return []
    else if ← takes "index" then
      let t ← simple fuel isNeeded
      return Text.ofNat (positionIn t (← simple fuel isNeeded))
    else if ← takes "substr" then
      let t ← simple fuel isNeeded
      let first ← simple fuel isNeeded
      return partOf t first (← simple fuel isNeeded)
    else if (← get).rest.isEmpty then word
    else if ← takes "(" then
      let a ← either fuel isNeeded
      let s ← get
      match s.rest with
      | [] => throw (text "syntax error: expecting ')' after " ++ cited s.before)
      | next :: _ =>
        if ← takes ")" then return a
        else throw (text "syntax error: expecting ')' instead of " ++ cited next)
    else if ← takes ")" then throw (text "syntax error: unexpected ')'")
    else word

end

/-- The value of some words. -/
def value (words : List Text) : Except Text Text := do
  let (a, s) ← (either (16 * words.length + 16) true).run ⟨[], words⟩
  match s.rest with
  | [] => return a
  | w :: _ => throw (text "syntax error: unexpected argument " ++ cited w)

end Expr

/-- Prints the value of its words. -/
def expr : Utility := fun words => do
  let words := if words.head? = some (text "--") then words.drop 1 else words
  if words.isEmpty then misused (text "missing operand") 2
  else
    match Expr.value words with
    | .error e => complain e; return 2
    | .ok t =>
      Exec.print (t ++ text "\n")
      return if Expr.isNull t then 1 else 0

end Utility

end Shell

end AgentWorkshop
