import AgentWorkshop.Shell.Pattern
import AgentWorkshop.Shell.Utility.Part

/-!
# Counting and replacing bytes

Programs that count, replace, compare and show the bytes of what they read.
-/

namespace AgentWorkshop

namespace Shell

namespace Utility

/-! ## Counts -/

/-- What is counted in a text. -/
structure Counts where
  lines : Nat
  words : Nat
  bytes : Nat
  /-- The width of the widest line. -/
  width : Nat

/-- How many words a text has. -/
def wordCount (t : Text) : Nat :=
  (t.foldl (fun (n, inWord) c =>
    if Arithmetic.isSpace c then (n, false)
    else if inWord || !isShown c then (n, inWord || decide (0x20 < c.val && c.val ≠ 0x7F))
    else (n + 1, true)) ((0, false) : Nat × Bool)).1

/-- The counts of a text. -/
def countsOf (t : Text) : Counts where
  lines := t.count ('\n' : CodePoint)
  words := wordCount t
  bytes := t.length
  width := ((linesOf t).map fun l =>
    (chomped l).foldl (fun n c => if isShown c || c = '\t' then columnAfter false n c else n) 0).foldl
      max 0

/-- What a descriptor stands for has a size. -/
def sizeHere? (m : Machine) (descriptor : Nat) : Option Nat :=
  match (m.process.streams.lookup descriptor).bind (m.channels[·]?) with
  | some (.file address _ _ _ _) => some (m.contentsAt address).length
  | some (.detached contents _) => some contents.length
  | none => some 0
  | _ => none

/-- Counts lines, words and bytes. -/
def wc : Utility := fun words => do
  let table : OptionTable := { letters := "clLmw", names := [
    ("bytes", .flag, 'c'), ("chars", .flag, 'm'), ("lines", .flag, 'l'),
    ("max-line-length", .flag, 'L'), ("words", .flag, 'w'), ("total", .value, 't')] }
  table.run words fun a => do
    let all := a.options.isEmpty
    let columns (c : Counts) : List Nat :=
      (if all || a.has 'l' then [c.lines] else []) ++
      (if all || a.has 'w' then [c.words] else []) ++
      (if a.has 'm' then [c.bytes] else []) ++
      (if all || a.has 'c' then [c.bytes] else []) ++
      (if a.has 'L' then [c.width] else [])
    let files := orInput a.operands
    let none_ : Counts := ⟨0, 0, 0, 0⟩
    let m ← get
    let sizes := files.map fun file =>
      if file = text "-" then (sizeHere? m 0, true)
      else
        match m.resolveFrom m.process.directory true file with
        | .ok (.taken address .file) =>
          if devices.contains address then (none, true) else (some (m.contentsAt address).length, true)
        | .ok (.taken _ _) => (none, true)
        | _ => (none, false)
    let total := (sizes.filterMap (·.1)).foldl (· + ·) 0
    let isOdd := sizes.any fun (size, isThere) => isThere && size.isNone
    let width := if files.length = 1 && (columns none_).length = 1 then 1
      else max (Text.ofNat total).length (if isOdd then 7 else 1)
    let report (c : Counts) (name : Text) : Exec Unit := do
      let shown := (columns c).map fun n =>
        let digits := Text.ofNat n
        List.replicate (width - digits.length) (' ' : CodePoint) ++ digits
      Exec.print (List.intercalate (text " ") shown ++ name ++ text "\n")
    let mut sum := none_
    let mut status := 0
    for file in files do
      let shown := if file.contains ('\n' : CodePoint) then named file else file
      let name := if a.operands.isEmpty then [] else text " " ++ shown
      /- The bytes of a file are known without reading it. -/
      let known ← if file = text "-" && a.options.all (fun o => o.1 = 'c') && !all then bytesLeft
        else pure none
      let found ← match known with
        | some n => pure (Except.ok { none_ with bytes := n })
        | none => pure ((← contentsOf file).map fun bs => countsOf (Text.ofBytes bs))
      match found with
      | .ok c =>
        report c name
        sum := ⟨sum.lines + c.lines, sum.words + c.words, sum.bytes + c.bytes, max sum.width c.width⟩
      | .error e =>
        let shown := if a.operands.isEmpty then text "'standard input'" else named file
        complain (shown ++ text ": " ++ e.reason)
        if e = .isDirectory || file = text "-" then report none_ name
        status := 1
    if 1 < files.length then report sum (text " total")
    if files.contains (text "-") && (← Exec.channel? 0).isNone then
      complain (text "-: " ++ Errno.badDescriptor.reason)
      status := 1
    return status
where
  /-- How many bytes are left of the file on the standard input, if it cannot be read. -/
  bytesLeft : Exec (Option Nat) := do
    match ← Exec.channel? 0 with
    | some (_, .file address offset false _ _) =>
      let size := ((← get).contentsAt address).length
      return if size = 0 then none else some (size - offset)
    | _ => return none

/-! ## Sets of bytes -/

/-- A member of a set that is written out. -/
inductive SetPart where
  /-- It stands for itself, whatever it means elsewhere. -/
  | byte (c : CodePoint) (escaped : Bool)
  | ofClass (k : ByteClass)
  /-- The bytes that count as equal to one, of which there are no others. -/
  | equal (c : CodePoint)
  /-- A byte so often; 0 times is as often as needed. -/
  | repeated (c : CodePoint) (count : Nat)
  deriving DecidableEq, Repr

/-- An escape of a set after its backslash: the byte, the rest, and a warning. -/
def setEscape : Text → CodePoint × Text × Option Text
  | [] =>
    ('\\', [], some (text "warning: an unescaped backslash at end of string is not portable"))
  | d :: more =>
    if (Printf.octal? d).isSome then
      let (n, after) := Printf.digitsWithin Printf.octal? 8 0 3 (d :: more)
      if n < 256 then (Printf.byte n, after, none)
      else
        let (n, after) := Printf.digitsWithin Printf.octal? 8 0 2 (d :: more)
        let digits := d :: more.take 1
        (Printf.byte n, after, some (text "warning: the ambiguous octal escape \\" ++ digits ++
          after.take 1 ++ text " is being\n\tinterpreted as the 2-byte sequence \\0" ++ digits ++
          text ", " ++ after.take 1))
    else
      let letter := ((text "abfnrtv").zip [(7 : CodePoint), 8, 12, 10, 13, 9, 11]).lookup d
      (letter.getD d, more, none)

/-- The bytes of a set with its escapes read; the mark tells which were escapes. -/
def setSigns : (fuel : Nat) → Text → List (CodePoint × Bool)
  | 0, _ => []
  | _, [] => []
  | fuel + 1, c :: rest =>
    if c = '\\' then
      let (d, after, _) := setEscape rest
      (d, true) :: setSigns fuel after
    else (c, false) :: setSigns fuel rest

/-- What the escapes of a set give rise to. -/
def setWarnings : (fuel : Nat) → Text → List Text
  | 0, _ => []
  | _, [] => []
  | fuel + 1, c :: rest =>
    if c = '\\' then
      let (_, after, warning) := setEscape rest
      warning.toList ++ setWarnings fuel after
    else setWarnings fuel rest

/-- The bytes without their marks. -/
def bare (signs : List (CodePoint × Bool)) : Text := signs.map (·.1)

/-- The bytes from one to another. -/
def bytesFrom (first last : CodePoint) : List SetPart :=
  (List.range (last.val + 1 - first.val)).map fun n => .byte (Printf.byte (first.val + n)) true

/-- The parts of a set, or what is wrong with it. -/
def setParts : (fuel : Nat) → List (CodePoint × Bool) →
    Except Text (List SetPart)
  | 0, _ => .ok []
  | _, [] => .ok []
  | fuel + 1, (c, escaped) :: rest =>
    let goOn (ps : List SetPart) (rest : List (CodePoint × Bool)) : Except Text (List SetPart) :=
      (setParts fuel rest).map (ps ++ ·)
    let single : Except Text (List SetPart) :=
      match rest with
      | (dash, false) :: (d, _) :: after =>
        if dash = '-' then
          if d.val < c.val then
            .error (text "range-endpoints of '" ++ [c, '-', d] ++
              text "' are in reverse collating sequence order")
          else goOn (bytesFrom c d) after
        else goOn [.byte c escaped] rest
      | _ => goOn [.byte c escaped] rest
    if c ≠ '[' || escaped then single
    else
      match rest with
      | (mark, isEscaped) :: inside =>
        let word := bare inside
        if !isEscaped && (mark = ':' || mark = '=') then
          let isEnd (t : Text) : Bool := [mark, ']'].isPrefixOf t
          match (List.range word.length).find? fun i => isEnd (word.drop i) with
          | none => single
          | some n =>
            let name := word.take n
            let after := inside.drop (n + 2)
            if mark = '=' then
              match name with
              | [d] => goOn [.equal d] after
              | [] => .error (text "missing equivalence class character '[==]'")
              | _ => .error (name ++ text ": equivalence class operand must be a single character")
            else if name.isEmpty then .error (text "missing character class name '[::]'")
            else
              match ByteClass.named? (name ++ text ":]") with
              | some (k, _) => goOn [.ofClass k] after
              | none => .error (text "invalid character class " ++ cited name)
        else
          match inside with
          | (star, false) :: more =>
            if star = '*' then
              let isInside (s : CodePoint × Bool) : Bool := s.1 ≠ ']' || s.2
              let digits := bare (more.takeWhile isInside)
              let base := if digits.head? = some ('0' : CodePoint) then 8 else 10
              let count := digits.foldl (fun n c => base * n + (c.val - 0x30)) 0
              let isCount : Bool := digits.all fun c : CodePoint =>
                c.isAsciiDigit && decide (c.val - 0x30 < base)
              match more.dropWhile isInside with
              | [] => single
              | _ :: after =>
                if isCount && count < Nat.pow 2 63 then goOn [.repeated mark count] after
                else .error (text "invalid repeat count " ++ cited digits ++
                  text " in [c*n] construct")
            else single
          | _ => single
      | _ => single

/-- The bytes of a part; `needed` is how many are missing. -/
def SetPart.members (needed : Nat) : SetPart → Text
  | byte c _ | equal c => [c]
  | ofClass k => ((List.range 256).map Printf.byte).filter k.contains
  | repeated c n => List.replicate (if n = 0 then needed else n) c

/-- The bytes of a set that is filled up to a length. -/
def membersOf (length : Nat) (ps : List SetPart) : Text :=
  let fixed := (ps.map fun p => (p.members 0).length).foldl (· + ·) 0
  ps.flatMap (SetPart.members (length - fixed))

/-- Pairs of small and capital letters where two sets have these at one place. -/
def casePairs (first second : List SetPart) : List (CodePoint × CodePoint) :=
  let place (ps : List SetPart) (i : Nat) : Nat :=
    ((ps.take i).map fun p => (p.members 0).length).foldl (· + ·) 0
  let casesIn (ps : List SetPart) : List (Nat × ByteClass) :=
    ps.zipIdx.filterMap fun (p, i) => match p with
      | .ofClass .lower => some (place ps i, .lower)
      | .ofClass .upper => some (place ps i, .upper)
      | _ => none
  (casesIn first).flatMap fun (i, k) =>
    match (casesIn second).lookup i with
    | some other =>
      let letters := SetPart.members 0 (.ofClass k)
      let goals := if other = k then letters else SetPart.members 0 (.ofClass other)
      letters.zip goals
    | none => []

/-- The elements of a set: true for a case class, false for a byte. -/
def SetPart.elements : SetPart → List Bool
  | .ofClass .lower | .ofClass .upper => [true]
  | p => (p.members 0).map fun _ => false

/-- The places of a set: true where a case class begins. -/
def SetPart.places : SetPart → List Bool
  | .ofClass .lower | .ofClass .upper => true :: List.replicate 25 false
  | p => p.elements

/-- Where the second set begins a case class, the first one does so too. -/
def areAligned : (places elements : List Bool) → Bool
  | _, [] => true
  | [], isClass :: _ => !isClass
  | here :: places, true :: elements => here && areAligned (places.drop 25) elements
  | _ :: places, false :: elements => areAligned places elements

/-- What is wrong with two sets of which the first one is replaced by the second one. -/
def replacementFault (isInverse cuts : Bool) (length : Nat) (goals : Text)
    (first second : List SetPart) : Option Text :=
  let isOther (p : SetPart) : Bool := match p with
    | .ofClass k => k ≠ .lower && k ≠ .upper
    | _ => false
  let isCase (p : SetPart) : Bool := p.elements = [true]
  let isEqual (p : SetPart) : Bool := match p with
    | .equal _ => true
    | _ => false
  let isLonger := decide (goals.length < length) && !cuts
  if second.any isEqual then
    some (text "[=c=] expressions may not appear in string2 when translating")
  else if second.any isOther then
    some (text "when translating, the only character classes that may appear in\n" ++
      text "string2 are 'upper' and 'lower'")
  else if !isInverse && second.any isCase &&
      !areAligned (first.flatMap SetPart.places) (second.flatMap SetPart.elements) then
    some (text "misaligned [:upper:] and/or [:lower:] construct")
  else if isLonger && goals.isEmpty then
    some (text "when not truncating set1, string2 must be non-empty")
  else if isLonger && second.getLast?.any isCase then
    some (text "when translating with string1 longer than string2,\n" ++
      text "the latter string must not end with a character class")
  else if isInverse && first.any (fun p => isCase p || isOther p) &&
      !((goals.length = length || isLonger) && goals.all fun c => goals.head? = some c) then
    some (text "when translating with complemented character classes,\n" ++
      text "string2 must map all characters in the domain to one")
  else none

/-- What is wrong with two sets. -/
def setFault (translates isInverse cuts : Bool) (length : Nat) (goals : Text)
    (first second : List SetPart) : Option Text :=
  let isOpen (p : SetPart) : Bool := match p with
    | .repeated _ 0 => true
    | _ => false
  if first.any isOpen then some (text "the [c*] repeat construct may not appear in string1")
  else if 1 < (second.filter isOpen).length then
    some (text "only one [c*] repeat construct may appear in string2")
  else if translates then replacementFault isInverse cuts length goals first second
  else if second.any isOpen then
    some (text "the [c*] construct may appear in string2 only when translating")
  else none

/-- Drops each byte of a set that follows an equal one. -/
def squeeze (isMember : CodePoint → Bool) : Text → Text
  | a :: b :: rest =>
    if a = b && isMember a then squeeze isMember (b :: rest) else a :: squeeze isMember (b :: rest)
  | t => t

/-- Replaces or deletes bytes of the input. -/
def tr : Utility := fun words => do
  let table : OptionTable := { letters := "AcCdst", isStrict := true, names := [
    ("complement", .flag, 'c'), ("delete", .flag, 'd'), ("squeeze-repeats", .flag, 's'),
    ("truncate-set1", .flag, 't')] }
  table.run words fun a => do
    let deletes := a.has 'd'
    let squeezes := a.has 's'
    let isInverse := a.has 'c' || a.has 'C'
    let hint (t why : Text) : Exec Nat := do
      complain t
      if !why.isEmpty then Exec.complain why
      Exec.complain (text "Try '" ++ (← ownName) ++ text " --help' for more information.")
      return 1
    let least := if deletes = squeezes then 2 else 1
    let most := if deletes && !squeezes then 1 else 2
    match a.operands with
    | [] => return ← hint (text "missing operand") []
    | [one] =>
      if least = 2 then
        return ← hint (text "missing operand after " ++ cited one)
          (text (if deletes then
            "Two strings must be given when both deleting and squeezing repeats."
          else "Two strings must be given when translating."))
    | _ :: _ :: _ =>
      match a.operands.drop most with
      | extra :: others =>
        return ← hint (text "extra operand " ++ cited extra)
          (if others.isEmpty && most = 1 then
            text "Only one string may be given when deleting without squeezing repeats."
          else [])
      | [] => pure ()
    let signs (t : Text) : List (CodePoint × Bool) := setSigns (t.length + 1) t
    let warn (t : Text) : Exec Unit := (setWarnings (t.length + 1) t).forM complain
    let first := signs (a.operands.headD [])
    warn (a.operands.headD [])
    let ps ← match setParts (first.length + 1) first with
      | .error e => complain e; return 1
      | .ok ps => pure ps
    let second := signs (a.operands.getD 1 [])
    warn (a.operands.getD 1 [])
    match setParts (second.length + 1) second with
    | .error e => complain e; return 1
    | .ok qs =>
      let listed := membersOf 0 ps
      let chosen := if isInverse then ((List.range 256).map Printf.byte).filter fun c =>
          !listed.contains c
        else listed
      let hasSecond := 1 < a.operands.length
      let translates := hasSecond && !deletes
      let goals := membersOf chosen.length qs
      if let some fault := setFault translates isInverse (a.has 't') chosen.length goals ps qs then
        complain fault
        return 1
      let length := if a.has 't' then min chosen.length goals.length else chosen.length
      let filled := goals ++ List.replicate (length - goals.length) (goals.getLast?.getD 0)
      let pairs := if isInverse then chosen.zip filled
        else casePairs ps qs ++ ((chosen.take length).zip filled).reverse
      let replace (c : CodePoint) : CodePoint := (pairs.lookup c).getD c
      let change (t : Text) : Text :=
        if deletes then t.filter fun c => !chosen.contains c
        else if translates then t.map replace
        else t
      let squeezed (t : Text) : Text :=
        if !squeezes then t
        else if hasSecond then squeeze goals.contains t
        else squeeze chosen.contains t
      match ← Exec.readAll 0 with
      | .ok bs =>
        Exec.print (squeezed (change (Text.ofBytes bs)))
        return 0
      | .error e =>
        complain (text "read error: " ++ e.reason)
        return 1

/-! ## Differences -/

/-- Compares two files byte by byte. -/
def cmp : Utility := fun words => do
  let table : OptionTable := { letters := "bi:ln:s", status := 2, names := [
    ("verbose", .flag, 'l'), ("quiet", .flag, 's'), ("silent", .flag, 's'), ("bytes", .value, 'n'),
    ("print-bytes", .flag, 'b'), ("ignore-initial", .value, 'i')] }
  table.run words fun a => do
    let limit := (a.value? 'n').bind count?
    let skipped := ((a.value? 'i').bind count?).getD 0
    let contents (file : Text) : Exec (Option Text) := do
      match ← contentsOf file with
      | .ok bs =>
        let t := (Text.ofBytes bs).drop skipped
        return some ((limit.map t.take).getD t)
      | .error e =>
        if !a.has 's' || e ≠ .noEntry then complain (file ++ text ": " ++ e.reason)
        return none
    match a.operands with
    | [] =>
      complain (text "missing operand after " ++ inQuotes (words.getLast?.getD (← ownName)))
      complain (text "Try '" ++ (← ownName) ++ text " --help' for more information.")
      return 2
    | first :: rest =>
      let second := rest.headD (text "-")
      match ← contents first with
      | none => return 2
      | some xs =>
        match ← contents second with
        | none => return 2
        | some ys =>
          let wrong := (xs.zip ys).zipIdx.filter fun ((x, y), _) => x ≠ y
          let octal (c : CodePoint) : Text :=
            let digits := (Nat.toDigits 8 c.val).map CodePoint.ofChar
            List.replicate (3 - digits.length) (' ' : CodePoint) ++ digits
          if a.has 'l' && !a.has 's' then
            let width := (Text.ofNat (min xs.length ys.length)).length
            for ((x, y), i) in wrong do
              let place := Text.ofNat (i + 1)
              Exec.print (List.replicate (width - place.length) (' ' : CodePoint) ++ place ++
                text " " ++ octal x ++ text " " ++ octal y ++ text "\n")
          else
            match wrong, a.has 's' with
            | ((_, i)) :: _, false =>
              Exec.print (first ++ text " " ++ second ++ text " differ: char " ++
                Text.ofNat (i + 1) ++ text ", line " ++
                Text.ofNat ((xs.take i).count ('\n' : CodePoint) + 1) ++ text "\n")
            | _, _ => pure ()
          if xs.length ≠ ys.length && (wrong.isEmpty || a.has 'l') && !a.has 's' then
            let (name, shorter) := if xs.length < ys.length then (first, xs) else (second, ys)
            if shorter.isEmpty then complain (text "EOF on " ++ name ++ text " which is empty")
            else
              let lines := shorter.count ('\n' : CodePoint)
              complain (text "EOF on " ++ name ++ text " after byte " ++
                Text.ofNat shorter.length ++
                (if a.has 'l' then [] else text ", " ++
                  if shorter.getLast? = some ('\n' : CodePoint) then text "line " ++ Text.ofNat lines
                  else text "in line " ++ Text.ofNat (lines + 1)))
          return if wrong.isEmpty && xs.length = ys.length then 0 else 1

/-! ## Bytes as numbers -/

/-- How bytes are shown: how many make a number, and how that is written. -/
structure Format where
  size : Nat
  width : Nat
  render : Text → Text

/-- Digits in a base, padded with zeros. -/
def paddedDigits (base width n : Nat) : Text :=
  let digits := (Nat.toDigits base n).map CodePoint.ofChar
  List.replicate (width - digits.length) ('0' : CodePoint) ++ digits

/-- The number of bytes, the least one first. -/
def littleEndian (t : Text) : Nat :=
  t.foldr (fun c n => c.val + 256 * n) 0

/-- The names of the bytes that are not shown. -/
def controlNames : List String :=
  ["nul", "soh", "stx", "etx", "eot", "enq", "ack", "bel", "bs", "ht", "nl", "vt", "ff", "cr", "so",
    "si", "dle", "dc1", "dc2", "dc3", "dc4", "nak", "syn", "etb", "can", "em", "sub", "esc", "fs",
    "gs", "rs", "us", "sp"]

/-- The format that a letter and a size name. -/
def format? (letter : CodePoint) (size : Nat) : Option Format :=
  let number (t : Text) : Nat := littleEndian t
  if letter = 'c' then
    some ⟨1, 3, fun t =>
      let c := t.headD 0
      if c.val = 0 then text "\\0"
      else
        match escapeLetter? c with
        | some l => if isShown c then [c] else ['\\', CodePoint.ofChar l]
        | none => if isShown c then [c] else paddedDigits 8 3 c.val⟩
  else if letter = 'a' then
    some ⟨1, 3, fun t =>
      let n := (t.headD 0).val % 128
      match controlNames[n]? with
      | some name => text name
      | none => if n = 127 then text "del" else [Printf.byte n]⟩
  else if ([1, 2, 4, 8] : List Nat).all (· ≠ size) then none
  else if letter = 'x' then some ⟨size, 2 * size, fun t => paddedDigits 16 (2 * size) (number t)⟩
  else if letter = 'o' then
    let width := (8 * size + 2) / 3
    some ⟨size, width, fun t => paddedDigits 8 width (number t)⟩
  else if letter = 'u' then
    some ⟨size, (Text.ofNat (Nat.pow 256 size - 1)).length, fun t => Text.ofNat (number t)⟩
  else if letter = 'd' then
    some ⟨size, (Text.ofNat (Nat.pow 256 size / 2)).length + 1, fun t =>
      let n := number t
      Text.ofInt (if Nat.pow 256 size / 2 ≤ n then (n : Int) - Nat.pow 256 size else n)⟩
  else none

/-- The formats that a text names. -/
def formatsIn : (fuel : Nat) → Text → Option (List Format)
  | _, [] => some []
  | 0, _ => none
  | fuel + 1, letter :: rest =>
    let digits := rest.takeWhile CodePoint.isAsciiDigit
    let after := rest.drop digits.length
    let size := if digits.isEmpty then
        match after with
        | c :: _ => if c = 'C' then 1 else if c = 'S' then 2 else if c = 'L' then 8 else 4
        | [] => 4
      else (Arithmetic.naturalAt digits).1
    (format? letter size).bind fun f =>
      (formatsIn fuel (after.dropWhile fun c : CodePoint => (text "CSILz").contains c)).map (f :: ·)

/-- A text in parts of a length. -/
def chunks (length : Nat) : (fuel : Nat) → Text → List Text
  | 0, _ => []
  | _, [] => []
  | fuel + 1, t => t.take length :: chunks length fuel (t.drop length)

/-- Shows bytes as numbers. -/
def od : Utility := fun words => do
  let table : OptionTable := { letters := "A:abcdfiIj:lN:oOsS::t:vw::xXz", names := [
    ("address-radix", .value, 'A'), ("format", .value, 't'), ("skip-bytes", .value, 'j'),
    ("read-bytes", .value, 'N'), ("output-duplicates", .flag, 'v')] }
  table.run words fun a => do
    let short := [('a', "a"), ('b', "o1"), ('c', "c"), ('d', "u2"), ('o', "o2"), ('s', "d2"),
      ('x', "x2"), ('i', "d4"), ('l', "d8")]
    let mut formats : List Format := []
    for (letter, value) in a.options do
      let form : Option Text := if letter = 't' then some value
        else (short.find? fun s => (s.1 : CodePoint) = letter).map fun s => text s.2
      match form with
      | some t =>
        match formatsIn (t.length + 1) t with
        | some fs => formats := formats ++ fs
        | none =>
          complain (text "invalid type string " ++ cited t)
          return 1
      | none => pure ()
    if formats.isEmpty then formats := (format? 'o' 2).toList
    let radix := ((a.value? 'A').bind List.head?).getD 'o'
    let address (n : Nat) : Text :=
      if radix = 'n' then []
      else if radix = 'd' then paddedDigits 10 7 n
      else if radix = 'x' then paddedDigits 16 6 n
      else paddedDigits 8 7 n
    let mut all : Text := []
    let mut status := 0
    for file in orInput a.operands do
      match ← contentsOf file with
      | .ok bs => all := all ++ Text.ofBytes bs
      | .error e =>
        complain (named file ++ text ": " ++ e.reason)
        status := 1
    let start := ((a.value? 'j').bind count?).getD 0
    let t := all.drop start
    let t := (((a.value? 'N').bind count?).map t.take).getD t
    /- Each column of all formats is as wide as the widest one needs it. -/
    let perByte (f : Format) : Nat := ((f.width + 1) * 8 + f.size - 1) / f.size
    let widest := (formats.map perByte).foldl max 0
    let line (f : Format) (bs : Text) : Text :=
      let width := widest * f.size / 8
      (chunks f.size 16 bs).flatMap fun part =>
        let shown := f.render part
        List.replicate (width - shown.length) (' ' : CodePoint) ++ shown
    let mut previous : Option Text := none
    let mut isStarred := false
    let rows := chunks 16 (t.length + 1) t
    for (bs, i) in rows.zipIdx do
      if previous = some bs && bs.length = 16 && !a.has 'v' then
        if !isStarred then Exec.print (text "*\n")
        isStarred := true
      else
        isStarred := false
        for (f, j) in formats.zipIdx do
          let label := address (start + 16 * i)
          Exec.print ((if j = 0 then label else label.map fun _ => (' ' : CodePoint)) ++
            line f bs ++ text "\n")
      previous := some bs
    if status = 0 || !all.isEmpty then
      if radix ≠ 'n' then Exec.print (address (start + t.length) ++ text "\n")
    return status

/-! ## Sixty-four signs -/

/-- The signs that stand for six bits. -/
def sixBits : Text :=
  text "ABCDEFGHIJKLMNOPQRSTUVWXYZabcdefghijklmnopqrstuvwxyz0123456789+/"

/-- Bytes, written with six bits to a sign. -/
def encode64 : Text → Text
  | a :: b :: c :: rest =>
    let n := a.val * 65536 + b.val * 256 + c.val
    sign (n / 262144) :: sign (n / 4096) :: sign (n / 64) :: sign n :: encode64 rest
  | [a, b] =>
    let n := a.val * 1024 + b.val * 4
    [sign (n / 4096), sign (n / 64), sign n, '=']
  | [a] => [sign (a.val / 4), sign (a.val * 16), '=', '=']
  | [] => []
where
  /-- The sign for six bits. -/
  sign (n : Nat) : CodePoint := sixBits.getD (n % 64) '='

/-- The bytes that signs stand for, and whether all of it was right. -/
def decode64 : (fuel : Nat) → Text → Text × Bool
  | 0, _ => ([], false)
  | _, [] => ([], true)
  | fuel + 1, t =>
    let group := t.take 4
    let values := (group.takeWhile fun c => sixBits.contains c).map sixBits.idxOf
    let isPadding (c : CodePoint) : Bool := c = '='
    let padded := (group.drop values.length).all isPadding && group.length = 4
    match values with
    | [a, b, c, d] =>
      let n := a * 262144 + b * 4096 + c * 64 + d
      let (more, isRight) := decode64 fuel (t.drop 4)
      (Printf.byte (n / 65536) :: Printf.byte (n / 256) :: Printf.byte n :: more, isRight)
    | [a, b, c] =>
      let n := a * 4096 + b * 64 + c
      let (more, isRight) := if padded then decode64 fuel (t.drop 4) else ([], false)
      (Printf.byte (n / 1024) :: Printf.byte (n / 4) :: more, isRight)
    | [a, b] =>
      let (more, isRight) := if padded then decode64 fuel (t.drop 4) else ([], false)
      (Printf.byte ((a * 64 + b) / 16) :: more, isRight)
    | _ => ([], false)

/-- Writes bytes with signs that can be printed, or reads them. -/
def base64 : Utility := fun words => do
  let table : OptionTable := { letters := "diw:", names := [
    ("decode", .flag, 'd'), ("ignore-garbage", .flag, 'i'), ("wrap", .value, 'w')] }
  table.run words fun a => do
    match a.operands with
    | _ :: extra :: _ => misused (text "extra operand " ++ cited extra)
    | operands =>
      match ← contentsOf (operands.headD (text "-")) with
      | .error e =>
        complain (named (operands.headD []) ++ text ": " ++ e.reason)
        return 1
      | .ok bs =>
        let t := Text.ofBytes bs
        if a.has 'd' then
          let kept := t.filter fun c : CodePoint =>
            if a.has 'i' then sixBits.contains c || c = '=' else c ≠ '\n'
          let (found, isRight) := decode64 (kept.length + 1) kept
          Exec.print found
          if isRight then return 0
          complain (text "invalid input")
          return 1
        else
          let signs := encode64 t
          let width := ((a.value? 'w').bind count?).getD 76
          if width = 0 then Exec.print signs
          else Exec.print ((chunks width (signs.length + 1) signs).flatMap (· ++ text "\n"))
          return 0

end Utility

end Shell

end AgentWorkshop
