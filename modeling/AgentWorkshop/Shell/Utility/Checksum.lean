import AgentWorkshop.Shell.Digest
import AgentWorkshop.Shell.Utility.Part

/-!
# Checksums of files

`md5sum` and its kin print the digests of files, or check them.
-/

namespace AgentWorkshop

namespace Shell

namespace Utility

/-- Bytes with two digits each. -/
def hexadecimals (bs : Bytes) : Text :=
  bs.flatMap fun b => [digit (b.val / 16), digit (b.val % 16)]
where
  /-- The sign of a digit. -/
  digit (n : Nat) : CodePoint := (text "0123456789abcdef").getD n '0'

/-- A line that names a digest: the digest and the file. -/
def checkLine? (digits : Nat) (l : Text) : Option (Text × Text) :=
  let found := l.take digits
  match l.drop digits with
  | a :: b :: file =>
    if found.length = digits && found.all (text "0123456789abcdefABCDEF").contains && a = ' ' &&
        (b = ' ' || b = '*') && !file.isEmpty then some (Text.asciiLower found, file) else none
  | _ => none

/-- A count of things that are wrong, in words. -/
def warnings (n : Nat) (one several : String) : List Text :=
  if n = 0 then []
  else if n = 1 then [text "WARNING: 1 " ++ text one]
  else [text "WARNING: " ++ Text.ofNat n ++ text " " ++ text several]

/-- Checks the files that a list of digests names. -/
def checkList (digits : Nat) (digest : Bytes → Bytes) (a : Arguments) (file : Text) :
    Exec Bool := do
  match ← contentsOf file with
  | .error e =>
    complain (named file ++ text ": " ++ e.reason)
    return false
  | .ok bs =>
    let lines := (linesOf (Text.ofBytes bs)).map chomped
    let found := lines.filterMap (checkLine? digits)
    if found.isEmpty then
      complain (named file ++ text ": no properly formatted checksum lines found")
      return false
    let mut missing := 0
    let mut wrong := 0
    for (expected, name) in found do
      match ← contentsOf name with
      | .error e =>
        complain (named name ++ text ": " ++ e.reason)
        if !a.has 's' then Exec.print (name ++ text ": FAILED open or read\n")
        missing := missing + 1
      | .ok bs =>
        let isRight : Bool := hexadecimals (digest bs) = expected
        if !isRight then wrong := wrong + 1
        if !a.has 's' && !(isRight && a.has 'q') then
          Exec.print (name ++ text (if isRight then ": OK\n" else ": FAILED\n"))
    let remarks :=
      warnings (lines.length - found.length) "line is improperly formatted"
        "lines are improperly formatted" ++
      warnings missing "listed file could not be read" "listed files could not be read" ++
      warnings wrong "computed checksum did NOT match" "computed checksums did NOT match"
    if !a.has 's' then remarks.forM complain
    return missing = 0 && wrong = 0

/-- Prints the digests of files, or checks them. -/
def digestSum (kind : String) (size : Nat) (digest : Bytes → Bytes) : Utility := fun words => do
  let table : OptionTable := { letters := "bctwz", names := [
    ("binary", .flag, 'b'), ("check", .flag, 'c'), ("text", .flag, 't'), ("tag", .flag, 'T'),
    ("quiet", .flag, 'q'), ("status", .flag, 's'), ("warn", .flag, 'w'), ("zero", .flag, 'z')] }
  table.run words fun a => do
    if a.has 'c' then
      forEach (orInput a.operands) (checkList (2 * size) digest a)
    else
      forEach (orInput a.operands) fun file => do
        match ← contentsOf file with
        | .error e =>
          complain (named file ++ text ": " ++ e.reason)
          return false
        | .ok bs =>
          let found := hexadecimals (digest bs)
          let isEscaped : Bool := !a.has 'z' && file.any fun c => (text "\\\n\r").contains c
          let shown := if !isEscaped then file else file.flatMap fun c : CodePoint =>
            if c = '\\' then text "\\\\" else if c = '\n' then text "\\n"
            else if c = '\r' then text "\\r" else [c]
          let stop : Text := if a.has 'z' then [0] else text "\n"
          Exec.print ((if isEscaped then text "\\" else []) ++
            (if a.has 'T' then text kind ++ text " (" ++ shown ++ text ") = " ++ found
             else found ++ (if a.has 'b' then text " *" else text "  ") ++ shown) ++ stop)
          return true

/-- Prints checksums and sizes of files. -/
def cksum : Utility := fun words => do
  let table : OptionTable := { letters := "" }
  table.run words fun a =>
    forEach (orInput a.operands) fun file => do
      match ← contentsOf file with
      | .error e =>
        complain (named file ++ text ": " ++ e.reason)
        return false
      | .ok bs =>
        let name := if a.operands.isEmpty then [] else text " " ++ file
        Exec.print (Text.ofNat (Digest.crc bs) ++ text " " ++ Text.ofNat bs.length ++ name ++
          text "\n")
        return true

end Utility

end Shell

end AgentWorkshop
