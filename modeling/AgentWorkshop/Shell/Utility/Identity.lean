import AgentWorkshop.Shell.Utility.Part

/-!
# The user and the system

Programs that tell who is at work, and on what.
-/

namespace AgentWorkshop

namespace Shell

namespace Utility

/-- Refuses operands. -/
def withoutOperands (a : Arguments) (act : Exec Nat) : Exec Nat :=
  match a.operands with
  | [] => act
  | extra :: _ => misused (text "extra operand " ++ cited extra)

/-- Prints the name of the user. -/
def whoami : Utility := fun words => do
  let table : OptionTable := { letters := "" }
  table.run words fun a => withoutOperands a do
    Exec.print (text "root\n")
    return 0

/-- Prints who the user is. -/
def identity : Utility := fun words => do
  let table : OptionTable := { letters := "agGnruzZ", names := [
    ("user", .flag, 'u'), ("group", .flag, 'g'), ("groups", .flag, 'G'), ("name", .flag, 'n'),
    ("real", .flag, 'r'), ("zero", .flag, 'z')] }
  table.run words fun a => do
    match a.operands.find? fun t => t ≠ text "root" && t ≠ text "0" with
    | some t => complain (cited t ++ text ": no such user"); return 1
    | none =>
      let isShort := a.has 'u' || a.has 'g' || a.has 'G'
      if !isShort && (a.has 'n' || a.has 'r') then
        complain (text "printing only names or real IDs requires -u, -g, or -G")
        return 1
      if isShort then Exec.print (if a.has 'n' then text "root\n" else text "0\n")
      else Exec.print (text "uid=0(root) gid=0(root) groups=0(root)\n")
      return 0

/-- Prints what system this is. -/
def uname : Utility := fun words => do
  let table : OptionTable := { letters := "mosp", names := [
    ("kernel-name", .flag, 's'), ("machine", .flag, 'm'), ("operating-system", .flag, 'o'),
    ("processor", .flag, 'p')] }
  table.run words fun a => withoutOperands a do
    let isPlain := a.options.isEmpty
    let parts := (if isPlain || a.has 's' then ["Linux"] else []) ++
      (if a.has 'm' then ["x86_64"] else []) ++ (if a.has 'p' then ["unknown"] else []) ++
      if a.has 'o' then ["GNU/Linux"] else []
    Exec.print (text (String.intercalate " " parts) ++ text "\n")
    return 0

/-- Prints the terminal, which there is none of. -/
def tty : Utility := fun words => do
  let table : OptionTable := { letters := "s", status := 2, names := [
    ("silent", .flag, 's'), ("quiet", .flag, 's')] }
  table.run words fun a => do
    match a.operands with
    | [] =>
      if !a.has 's' then Exec.print (text "not a tty\n")
      return 1
    | extra :: _ => misused (text "extra operand " ++ cited extra) 2

/-- The prime factors of a number from a divisor on, the least ones first. -/
def factorsFrom : (fuel : Nat) → (divisor n : Nat) → List Nat
  | 0, _, n => [n]
  | fuel + 1, divisor, n =>
    if n ≤ 1 then []
    else if n < divisor * divisor then [n]
    else if n % divisor = 0 then divisor :: factorsFrom fuel divisor (n / divisor)
    else factorsFrom fuel (divisor + 1) n

/-- Prints the prime factors of numbers. -/
def factor : Utility := fun words => do
  let table : OptionTable := { letters := "h", names := [("exponents", .flag, 'h')] }
  table.run words fun a => do
    let given ← if a.operands.isEmpty then do
        match ← contentsOf (text "-") with
        | .ok bs =>
          let isGap (c : CodePoint) : Bool := (text " \t\n").contains c
          pure (((Text.ofBytes bs).splitOnP isGap).filter fun t => !t.isEmpty)
        | .error _ => pure []
      else pure a.operands
    forEach given fun t => do
      let digits := if t.head? = some ('+' : CodePoint) then t.drop 1 else t
      if digits.isEmpty || !digits.all CodePoint.isAsciiDigit then
        complain (cited t ++ text " is not a valid positive integer")
        return false
      let n := digits.foldl (fun n c => 10 * n + (c.val - 0x30)) 0
      let found := factorsFrom 10000000 2 n
      Exec.print (Text.ofNat n ++ text ":" ++
        found.flatMap (fun p => text " " ++ Text.ofNat p) ++ text "\n")
      return true

/-- Waits until all is written, which it is. -/
def sync : Utility := fun _ => return 0

end Utility

end Shell

end AgentWorkshop
