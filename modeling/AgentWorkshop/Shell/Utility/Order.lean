import AgentWorkshop.Shell.Utility.Part

/-!
# Sorted lines

`sort` puts lines in an order, which may hang on parts of them; `uniq` and `comm`
work on lines that are in order.
-/

namespace AgentWorkshop

namespace Shell

namespace Utility

/-! ## Keys -/

/-- The letters that say how keys are compared. -/
def styleLetters : Text := text "bdfghiMnrV"

/-- A place in a line: a field, and a sign in it; without one, the end of the field. -/
structure KeyPlace where
  field : Nat
  sign : Nat
  ignoresBlanks : Bool

/-- A part of lines that they are compared by. -/
structure Key where
  start : KeyPlace
  ending : Option KeyPlace
  /-- The letters of `sort` that say how parts are compared. -/
  style : Text

/-- The offset after a field and the blanks before it. -/
def afterField (separator : Option CodePoint) (l : Text) : Nat :=
  let isBlank (c : CodePoint) : Bool := c = ' ' || c = '\t' || c = '\n'
  match separator with
  | some s => (l.takeWhile fun c => c ≠ s).length
  | none =>
    let blanks := l.takeWhile isBlank
    blanks.length + ((l.drop blanks.length).takeWhile fun c => !isBlank c).length

/-- The offset where a field begins. -/
def fieldStart (separator : Option CodePoint) : (fields : Nat) → Text → Nat
  | 0, _ => 0
  | n + 1, l =>
    let here := afterField separator l
    let here := if separator.isSome then min l.length (here + 1) else here
    if l.isEmpty then 0 else here + fieldStart separator n (l.drop here)

/-- How many blanks stand at the start. -/
def blanksAt (l : Text) : Nat :=
  (l.takeWhile fun c : CodePoint => c = ' ' || c = '\t').length

/-- The part of a line that a key stands for. -/
def Key.part (k : Key) (separator : Option CodePoint) (l : Text) : Text :=
  let start := fieldStart separator k.start.field l
  let start := if k.start.ignoresBlanks then start + blanksAt (l.drop start) else start
  let start := min l.length (start + k.start.sign)
  let ending := match k.ending with
    | none => l.length
    | some e =>
      if e.sign = 0 then
        let here := fieldStart separator e.field l
        here + afterField separator (l.drop here)
      else
        let here := fieldStart separator e.field l
        let here := if e.ignoresBlanks then here + blanksAt (l.drop here) else here
        min l.length (here + e.sign)
  (l.drop start).take (ending - start)

/-! ## Comparing -/

/-- The decimal number at the start of a text: its digits with a sign, and how many
of them stand after the point. -/
def decimalAt (t : Text) : Int × Nat :=
  let t := t.drop (blanksAt t)
  let (isNegative, t) := match t with
    | c :: rest => if c = '-' then (true, rest) else (false, t)
    | [] => (false, [])
  let whole := t.takeWhile CodePoint.isAsciiDigit
  let after := t.drop whole.length
  let places := match after with
    | c :: rest => if c = '.' then rest.takeWhile CodePoint.isAsciiDigit else []
    | [] => []
  let n : Int := ((whole ++ places).foldl (fun n c => 10 * n + (c.val - 0x30)) 0 : Nat)
  (if isNegative then -n else n, places.length)

/-- The order of decimal numbers. -/
def compareDecimals (a b : Int × Nat) : Ordering :=
  compare (a.1 * (Nat.pow 10 b.2 : Nat)) (b.1 * (Nat.pow 10 a.2 : Nat))

/-- The power of a unit after a number. -/
def unitPower (t : Text) : Nat :=
  let isPart (c : CodePoint) : Bool := c.isAsciiDigit || c = '.'
  let t := t.drop (blanksAt t)
  let t := if t.head? = some ('-' : CodePoint) then t.drop 1 else t
  match (t.dropWhile isPart).head? with
  | some c =>
    ([('k', 1), ('K', 1), ('M', 2), ('G', 3), ('T', 4), ('P', 5), ('E', 6)].lookup
      (Char.ofNat c.val)).getD 0
  | none => 0

/-- The place of the month that a text begins with. -/
def monthAt (t : Text) : Nat :=
  let name := Text.asciiLower (t.drop (blanksAt t))
  ((["jan", "feb", "mar", "apr", "may", "jun", "jul", "aug", "sep", "oct", "nov",
    "dec"].findIdx? fun m => (text m).isPrefixOf name).map (· + 1)).getD 0

/-- The order of texts by their bytes. -/
def compareBytes (a b : Text) : Ordering :=
  if a = b then .eq else if a.precedes b then .lt else .gt

/-- The order of texts in which runs of digits count as numbers. -/
def compareVersions : (fuel : Nat) → Text → Text → Ordering
  | 0, a, b => compareBytes a b
  | fuel + 1, a, b =>
    if a.isEmpty && b.isEmpty then .eq
    else
      let isOther (c : CodePoint) : Bool := !c.isAsciiDigit
      let rank (c : CodePoint) : Nat :=
        if c = '~' then 0 else if c.isAsciiLetter then c.val + 1 else c.val + 0x100
      let others (t : Text) : List Nat := (t.takeWhile isOther).map rank ++ [1]
      let x := others a
      let y := others b
      if x ≠ y then
        match (x.zip y).find? fun p => p.1 ≠ p.2 with
        | some (c, d) => compare c d
        | none => compare x.length y.length
      else
        let a := a.dropWhile isOther
        let b := b.dropWhile isOther
        let number (t : Text) : Nat :=
          (t.takeWhile CodePoint.isAsciiDigit).foldl (fun n c => 10 * n + (c.val - 0x30)) 0
        match compare (number a) (number b) with
        | .eq => compareVersions fuel (a.dropWhile CodePoint.isAsciiDigit)
            (b.dropWhile CodePoint.isAsciiDigit)
        | order => order

/-- The general number at the start of a text, with its rank: what is no number
comes before what is not a number, and that before all numbers. -/
def generalAt (t : Text) : Nat × Ratio :=
  let s := t.drop (blanksAt t)
  let (isNegative, s) := match s with
    | c :: rest => if c = '-' then (true, rest) else if c = '+' then (false, rest) else (false, s)
    | [] => (false, [])
  match Printf.realAt? s with
  | none => (0, Ratio.ofDecimal 0 0)
  | some (.nan, _) => (1, Ratio.ofDecimal 0 0)
  | some (.infinite, _) => (if isNegative then 2 else 5, Ratio.ofDecimal 0 0)
  | some (.finite r, _) => (if isNegative then 3 else 4, r)

/-- The order of general numbers. -/
def compareGeneral (a b : Text) : Ordering :=
  let (i, x) := generalAt a
  let (j, y) := generalAt b
  let sizes := compare (x.num * y.den) (y.num * x.den)
  if i = 3 && j = 3 then sizes.swap
  else if i = 4 && j = 4 then sizes
  else if (i = 3 || i = 4) && (j = 3 || j = 4) && x.num = 0 && y.num = 0 then .eq
  else compare i j

/-- The order of parts of lines in a style. -/
def compareParts (style a b : Text) : Ordering :=
  let has (c : Char) : Bool := style.contains (c : CodePoint)
  let order :=
    if has 'n' then compareDecimals (decimalAt a) (decimalAt b)
    else if has 'g' then compareGeneral a b
    else if has 'h' then
      let (x, y) := (decimalAt a, decimalAt b)
      let sign (n : Int) : Int := if n < 0 then -1 else if n = 0 then 0 else 1
      let rank (t : Text) (n : Int) : Int := sign n * (unitPower t + 1)
      (compare (rank a x.1) (rank b y.1)).then (compareDecimals x y)
    else if has 'M' then compare (monthAt a) (monthAt b)
    else if has 'V' then compareVersions (a.length + b.length + 1) a b
    else
      let kept (t : Text) : Text :=
        let t := if has 'b' then t.drop (blanksAt t) else t
        let t := if has 'd' then t.filter fun c : CodePoint =>
            c = ' ' || c = '\t' || c.isAsciiLetter || c.isAsciiDigit
          else if has 'i' then t.filter Utility.isShown else t
        if has 'f' then (Text.asciiLower t).map fun c => if c.isAsciiSmall then c - 0x20 else c else t
      compareBytes (kept a) (kept b)
  if has 'r' then order.swap else order

/-- The order of lines by keys, one after the other. -/
def compareByKeys (separator : Option CodePoint) (keys : List Key) (a b : Text) : Ordering :=
  keys.foldl (fun order k =>
    order.then (compareParts k.style (k.part separator a) (k.part separator b))) .eq

/-! ## Sorting -/

/-- The place that a key names, its letters, and what follows. -/
def keyPlaceAt (t : Text) : Option (Nat × Option Nat × Text × Text) :=
  let number (t : Text) : Nat := t.foldl (fun n c => 10 * n + (c.val - 0x30)) 0
  let isLetter (c : CodePoint) : Bool := styleLetters.contains c
  let field := t.takeWhile CodePoint.isAsciiDigit
  let rest := t.drop field.length
  let (sign, rest) : Option Nat × Text := match rest with
    | c :: more =>
      if c = '.' then
        let digits := more.takeWhile CodePoint.isAsciiDigit
        (some (number digits), more.drop digits.length)
      else (none, rest)
    | [] => (none, [])
  if field.isEmpty then none
  else some (number field, sign, rest.takeWhile isLetter, rest.dropWhile isLetter)

/-- The key that a text describes, or what is wrong with it. Without letters of its
own, it is compared as all lines are. -/
def key (standard t : Text) : Except Text Key :=
  match keyPlaceAt t with
  | none => .error (text "invalid number at field start: invalid count at start of " ++ cited t)
  | some (field, sign, letters, rest) =>
    if field = 0 then
      .error (text "field number is zero: invalid field specification " ++ cited t)
    else if sign = some 0 then
      .error (text "character offset is zero: invalid field specification " ++ cited t)
    else
      let build (ending : Option (Nat × Option Nat × Text)) : Key :=
        let own := letters ++ (ending.map (·.2.2)).getD []
        let style := if own.isEmpty then standard else own
        let skips (letters : Text) : Bool :=
          (if own.isEmpty then standard else letters).contains ('b' : CodePoint)
        { start := {
            field := field - 1, sign := sign.getD 1 - 1
            ignoresBlanks := skips letters }
          ending := ending.map fun (field, sign, letters) =>
            { field := field - 1, sign := sign.getD 0, ignoresBlanks := skips letters }
          style := style.filter fun c : CodePoint => c ≠ 'b' }
      match rest with
      | [] => .ok (build none)
      | c :: more =>
        if c ≠ ',' then .error (text "stray character in field spec: invalid field specification " ++
          cited t)
        else
          match keyPlaceAt more with
          | none =>
            .error (text "invalid number after ',': invalid count at start of " ++ cited more)
          | some (field, sign, letters, rest) =>
            if !rest.isEmpty then
              .error (text "stray character in field spec: invalid field specification " ++ cited t)
            else if field = 0 then
              .error (text "field number is zero: invalid field specification " ++ cited t)
            else .ok (build (some (field, sign, letters)))

/-- The first line of each run of equal ones. -/
def firstOfEach (same : Text → Text → Bool) : List Text → List Text
  | [] => []
  | l :: rest =>
    l :: (firstOfEach same rest).dropWhile fun next => same l next

/-- The letters of a style that cannot go together. -/
def clashOf (style : Text) : Text :=
  let kinds := ((text "ghMn").filter fun c => style.contains c).length +
    if (text "diRV").any fun c => style.contains c then 1 else 0
  if kinds ≤ 1 then []
  else (text "dfghiMnRV").filter fun c =>
    style.contains c && !(c = 'i' && style.contains ('d' : CodePoint))

/-- Sorts lines. -/
def sort : Utility := fun words => do
  let table : OptionTable := {
    letters := "bcCdfghik:mMno:rRsS:t:T:uVz", status := 2, names := [
      ("ignore-leading-blanks", .flag, 'b'), ("dictionary-order", .flag, 'd'),
      ("ignore-case", .flag, 'f'), ("general-numeric-sort", .flag, 'g'),
      ("human-numeric-sort", .flag, 'h'), ("key", .value, 'k'), ("merge", .flag, 'm'),
      ("month-sort", .flag, 'M'), ("numeric-sort", .flag, 'n'), ("output", .value, 'o'),
      ("reverse", .flag, 'r'), ("stable", .flag, 's'), ("field-separator", .value, 't'),
      ("unique", .flag, 'u'), ("version-sort", .flag, 'V'), ("zero-terminated", .flag, 'z'),
      ("check", .maybe, 'c')] }
  table.run words fun a => do
    let standard := (a.options.map (·.1)).filter styleLetters.contains
    let refuse (t : Text) : Exec Nat := do
      complain t
      return 2
    let separator : Option CodePoint ← match a.value? 't' with
      | none => pure none
      | some [] => return ← refuse (text "empty tab")
      | some [c] => pure (some c)
      | some t =>
        if t = text "\\0" then pure (some 0)
        else return ← refuse (text "multi-character tab " ++ cited t)
    let mut keys : List Key := []
    for (letter, t) in a.options do
      if letter = 'k' then
        match key standard t with
        | .ok k => keys := keys ++ [k]
        | .error e => return ← refuse e
    let all : List Key := if keys.isEmpty then
        [{ start := { field := 0, sign := 0, ignoresBlanks := standard.contains ('b' : CodePoint) }
           ending := none, style := standard }]
      else keys
    let stop : CodePoint := if a.has 'z' then 0 else '\n'
    match all.find? fun k => !(clashOf k.style).isEmpty with
    | some k => return ← refuse (text "options '-" ++ clashOf k.style ++ text "' are incompatible")
    | none => pure ()
    let check : Option CodePoint := a.last? "cC"
    match check, a.operands with
    | some c, _ :: extra :: _ =>
      return ← refuse (text "extra operand " ++ inQuotes extra ++ text " not allowed with -" ++ [c])
    | _, _ => pure ()
    let checks := a.has 'c' || a.has 'C'
    if checks && a.has 'o' then
      return ← refuse (text "options '-" ++ check.toList ++ text "o' are incompatible")
    for file in orInput a.operands do
      if file ≠ text "-" then
        match ← Exec.openFile .read file with
        | .ok _ => pure ()
        | .error e =>
          let failed := if checks then "open failed: " else "cannot read: "
          return ← refuse (text failed ++ named file ++ text ": " ++ e.reason)
    let isClosed := (← Exec.channel? 0).isNone
    if isClosed && (orInput a.operands).head? = some (text "-") then
      return ← refuse (text "stat failed: -: " ++ Errno.badDescriptor.reason)
    let mut lines : List Text := []
    for file in orInput a.operands do
      match ← contentsOf file with
      | .ok bs =>
        lines := lines ++ (piecesOf stop (Text.ofBytes bs)).map fun l =>
          if l.getLast? = some stop then l.dropLast else l
      | .error e =>
        /- The first file has taken the place of the input. -/
        if isClosed && file = text "-" then continue
        return ← refuse (text "read failed: " ++ named file ++ text ": " ++ e.reason)
    let byKeys := compareByKeys separator all
    let isPlain := all.all fun k => k.style.all fun c : CodePoint => c = 'r'
    let order (x y : Text) : Ordering :=
      let first := byKeys x y
      if a.has 'u' || a.has 's' || (keys.isEmpty && isPlain) then first
      else
        let last := compareBytes x y
        first.then (if standard.contains ('r' : CodePoint) then last.swap else last)
    if checks then
      let wrong := ((lines.zip (lines.drop 1)).zipIdx).find? fun ((x, y), _) =>
        if a.has 'u' then order x y ≠ .lt else order x y = .gt
      match wrong with
      | none => return 0
      | some ((_, y), i) =>
        if a.has 'c' then
          complain ((orInput a.operands).headD [] ++ text ":" ++ Text.ofNat (i + 2) ++
            text ": disorder: " ++ y)
        return 1
    let sorted := lines.mergeSort fun x y => (order x y).isLE
    let kept := if a.has 'u' then firstOfEach (fun x y => byKeys x y = .eq) sorted else sorted
    let t := kept.flatMap (· ++ [stop])
    match a.value? 'o' with
    | none => Exec.print t
    | some file =>
      match ← writeFile file (Text.toBytes t) with
      | none => pure ()
      | some e => return ← refuse (text "open failed: " ++ named file ++ text ": " ++ e.reason)
    return 0

/-! ## Neighbours -/

/-- Runs of lines that are the same. -/
def runsOf (same : Text → Text → Bool) (ls : List Text) : List (List Text) :=
  ls.foldr (fun l runs =>
    match runs with
    | (next :: run) :: rest => if same l next then (l :: next :: run) :: rest
        else [l] :: (next :: run) :: rest
    | _ => [[l]]) []

/-- Prints one of neighbouring lines that are the same. -/
def uniq : Utility := fun words => do
  let table : OptionTable := { letters := "cdDf:is:uw:z", names := [
    ("count", .flag, 'c'), ("repeated", .flag, 'd'), ("unique", .flag, 'u'),
    ("ignore-case", .flag, 'i'), ("skip-fields", .value, 'f'), ("skip-chars", .value, 's'),
    ("check-chars", .value, 'w')] }
  table.run words fun a => do
    match a.operands with
    | _ :: _ :: extra :: _ => misused (text "extra operand " ++ cited extra)
    | operands =>
      if a.has 'c' && a.has 'D' then
        return ← misused (text "printing all duplicated lines and repeat counts is meaningless")
      let count (letter : Char) : Option Nat := (a.value? letter).bind count?
      let part (l : Text) : Text :=
        let isBlank (c : CodePoint) : Bool := c = ' ' || c = '\t'
        let skip (l : Text) : Text :=
          (l.dropWhile isBlank).dropWhile fun c => !isBlank c
        let l := (List.range ((count 'f').getD 0)).foldl (fun l _ => skip l) l
        let l := l.drop ((count 's').getD 0)
        let l := ((count 'w').map l.take).getD l
        if a.has 'i' then Text.asciiLower l else l
      match ← contentsOf (operands.headD (text "-")) with
      | .error e =>
        complain (named (operands.headD []) ++ text ": " ++ e.reason)
        return 1
      | .ok bs =>
        let ls := (linesOf (Text.ofBytes bs)).map chomped
        let runs := runsOf (fun x y => part x = part y) ls
        let shown (run : List Text) : Text :=
          let l := run.headD []
          let label := if a.has 'c' then
              let digits := Text.ofNat run.length
              List.replicate (7 - digits.length) (' ' : CodePoint) ++ digits ++ text " "
            else []
          if a.has 'D' then if 1 < run.length then run.flatMap (· ++ text "\n") else []
          else if a.has 'd' && a.has 'u' then []
          else if (a.has 'd' && run.length = 1) || (a.has 'u' && 1 < run.length) then []
          else label ++ l ++ text "\n"
        let t := runs.flatMap shown
        match operands with
        | [_, output] =>
          match ← writeFile output (Text.toBytes t) with
          | none => return 0
          | some e =>
            complain (named output ++ text ": " ++ e.reason)
            return 1
        | _ =>
          Exec.print t
          return 0

/-- What `comm` finds. -/
inductive Pairing where
  /-- A line that stands in the first file only, in the second one only, or in both. -/
  | line (column : Nat) (l : Text)
  /-- A file is not in order. -/
  | disorder (file : Nat)
  deriving DecidableEq, Repr

/-- A file as it is compared: the line before the next one, and the rest. -/
structure Progress where
  before : Option Text
  rest : List Text

/-- The file after its next line. -/
def Progress.next (p : Progress) : Progress :=
  match p.rest with
  | [] => p
  | l :: rest => { before := some l, rest }

/-- Going on to the next line shows that the file is not in order. -/
def Progress.isWrong (p : Progress) : Bool :=
  match p.before, p.rest with
  | _, l :: l' :: _ => compareBytes l l' = .gt
  | some l, [l'] => compareBytes l l' = .gt
  | _, _ => false

/-- What two files hold. Disorder counts once a line was unpaired, or always. -/
def pairings (always : Bool) : (fuel : Nat) → (isUnpaired : Bool) → (told : List Nat) →
    Progress → Progress → List Pairing
  | 0, _, _, _, _ => []
  | fuel + 1, isUnpaired, told, p, q =>
    let goOn (column : Nat) (l : Text) : List Pairing :=
      let isUnpaired := isUnpaired || column ≠ 3
      let counts (n : Nat) (file : Progress) : Bool :=
        (always || isUnpaired) && !told.contains n && column ≠ 3 - n && file.isWrong
      let wrong := (if counts 1 p then [1] else []) ++ if counts 2 q then [2] else []
      .line column l :: (wrong.map .disorder ++ pairings always fuel isUnpaired (told ++ wrong)
        (if column = 2 then p else p.next) (if column = 1 then q else q.next))
    match p.rest, q.rest with
    | [], [] => []
    | [], l :: _ => goOn 2 l
    | l :: _, [] => goOn 1 l
    | l :: _, l' :: _ =>
      match compareBytes l l' with
      | .lt => goOn 1 l
      | .gt => goOn 2 l'
      | .eq => goOn 3 l

/-- Compares two files that are in order, line by line. -/
def comm : Utility := fun words => do
  let table : OptionTable := { letters := "123z", names := [
    ("check-order", .flag, 'o'), ("nocheck-order", .flag, 'n'), ("total", .flag, 't')] }
  table.run words fun a => do
    match a.operands with
    | [] => missingOperand "operand"
    | [one] => misused (text "missing operand after " ++ cited one)
    | _ :: _ :: extra :: _ => misused (text "extra operand " ++ cited extra)
    | [first, second] =>
      let readLines (file : Text) : Exec (Option (List Text)) := do
        match ← contentsOf file with
        | .ok bs => return some ((linesOf (Text.ofBytes bs)).map chomped)
        | .error e => complain (named file ++ text ": " ++ e.reason); return none
      match ← readLines first with
      | none => return 1
      | some xs =>
        match ← readLines second with
        | none => return 1
        | some ys =>
          let hides (n : Nat) : Bool := a.has (Char.ofNat (0x30 + n))
          let indent (n : Nat) : Text :=
            ((List.range (n - 1)).filter fun i => !hides (i + 1)).map fun _ => ('\t' : CodePoint)
          let mut status := 0
          for found in pairings (a.has 'o') (xs.length + ys.length + 1) false [] ⟨none, xs⟩
              ⟨none, ys⟩ do
            match found with
            | .line n l => if !hides n then Exec.print (indent n ++ l ++ text "\n")
            | .disorder n =>
              if !a.has 'n' then
                complain (text "file " ++ Text.ofNat n ++ text " is not in sorted order")
                status := 1
                if a.has 'o' then return status
          if status ≠ 0 then complain (text "input is not in sorted order")
          return status

end Utility

end Shell

end AgentWorkshop
