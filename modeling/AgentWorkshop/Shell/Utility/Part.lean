import AgentWorkshop.Shell.Utility.Print

/-!
# Parts of what is read

Programs that print the beginning, the end or a column of files, or put files
side by side.
-/

namespace AgentWorkshop

namespace Shell

namespace Utility

/-! ## Counts -/

/-- The number of bytes that a suffix stands for. -/
def unitOf? (t : Text) : Option Nat :=
  [("", 1), ("b", 512), ("kB", 1000), ("KB", 1000), ("k", 1024), ("K", 1024), ("KiB", 1024),
    ("MB", 1000000), ("M", 1048576), ("MiB", 1048576), ("GB", 1000000000), ("G", 1073741824),
    ("GiB", 1073741824)].findSome? fun (name, n) => if text name = t then some n else none

/-- The count that a text writes, with a unit. -/
def count? (t : Text) : Option Nat :=
  let digits := t.takeWhile CodePoint.isAsciiDigit
  if digits.isEmpty then none
  else
    (unitOf? (t.dropWhile CodePoint.isAsciiDigit)).map fun unit =>
      digits.foldl (fun n c => 10 * n + (c.val - 0x30)) 0 * unit

/-- The lines that end by a sign, each with it. -/
def piecesOf (stop : CodePoint) (t : Text) : List Text :=
  t.foldr (fun (c : CodePoint) ls =>
    match ls with
    | l :: rest => if c = stop then [c] :: l :: rest else (c :: l) :: rest
    | [] => [[c]]) []

/-- What is wanted of a file: lines or bytes, how many, and how the count is meant. -/
structure Extent where
  inBytes : Bool
  /-- The sign before the count. -/
  sign : Option CodePoint
  count : Nat

/-- A count with a sign. -/
def extent? (inBytes : Bool) (t : Text) : Option Extent :=
  let (sign, number) : Option CodePoint × Text := match t with
    | c :: rest => if c = '-' || c = '+' then (some c, rest) else (none, t)
    | [] => (none, [])
  (count? number).map fun count => { inBytes, sign, count }

/-- Words whose old way to write a count, as in `-5`, is a new one. -/
def renewCount (isTail : Bool) : List Text → List Text
  | (c :: d :: rest) :: words =>
    if c = '-' && d.isAsciiDigit then
      let more := rest.dropWhile CodePoint.isAsciiDigit
      let count := d :: rest.takeWhile CodePoint.isAsciiDigit
      let letter : CodePoint := if more.contains ('c' : CodePoint) then 'c' else 'n'
      let flags := more.filter fun l : CodePoint => !(text "cnlkbm").contains l
      (if flags.isEmpty then [] else [('-' : CodePoint) :: flags]) ++
        (('-' : CodePoint) :: letter :: count) :: words
    else if isTail && c = '+' && d.isAsciiDigit && words.length ≤ 1 then
      (('-' : CodePoint) :: 'n' :: c :: d :: rest) :: words
    else (c :: d :: rest) :: words
  | words => words

/-! ## Beginnings and ends -/

/-- The first part of a text. -/
def Extent.first (e : Extent) (stop : CodePoint) (t : Text) : Text :=
  let cut {α : Type} (xs : List α) : List α :=
    if e.sign = some ('-' : CodePoint) then xs.take (xs.length - e.count) else xs.take e.count
  if e.inBytes then cut t else (cut (piecesOf stop t)).flatten

/-- The last part of a text. -/
def Extent.last (e : Extent) (stop : CodePoint) (t : Text) : Text :=
  let cut {α : Type} (xs : List α) : List α :=
    if e.sign = some ('+' : CodePoint) then xs.drop (e.count - 1)
    else xs.drop (xs.length - e.count)
  if e.inBytes then cut t else (cut (piecesOf stop t)).flatten

/-- Reads until a first part is there, and gives back the rest. -/
def readFirst (descriptor : Nat) (e : Extent) (stop : CodePoint) :
    (fuel : Nat) → Text → Exec (Except Errno Text)
  | 0, t => return .ok (e.first stop t)
  | fuel + 1, t => do
    let has := if e.inBytes then t.length else t.count stop
    if e.count ≤ has then
      let part := e.first stop t
      Exec.unread descriptor (t.length - part.length)
      return .ok part
    match ← Exec.read descriptor 8192 with
    | .error e => return .error e
    | .ok [] => return .ok (e.first stop t)
    | .ok bs => readFirst descriptor e stop fuel (t ++ Text.ofBytes bs)

/-- How often a file is read for its first part. -/
def readLimit : Nat := 100000

/-- The first part of a file. -/
def firstOf (e : Extent) (stop : CodePoint) (file : Text) : Exec (Except Errno Text) := do
  if e.sign = some ('-' : CodePoint) then
    return (← contentsOf file).map fun bs => e.first stop (Text.ofBytes bs)
  else if file = text "-" then readFirst 0 e stop readLimit []
  else
    match ← Exec.openFile .read file with
    | .error fault => return .error fault
    | .ok id =>
      Exec.attach spareDescriptor id
      let found ← readFirst spareDescriptor e stop readLimit []
      Exec.close spareDescriptor
      return found

/-- The name under which a file is shown. -/
def shownName (file : Text) : Text :=
  if file = text "-" then text "standard input" else file

/-- Prints parts of files, with their names above if there are several. -/
def printParts (a : Arguments) (part : Text → Exec (Except Errno Text)) : Exec Nat := do
  let files := orInput a.operands
  let isHeaded : Bool := match a.last? "qv" with
    | some c => c = 'v'
    | none => decide (1 < files.length)
  let mut status := 0
  let mut isFirst := true
  for file in files do
    let opened ← if file = text "-" then pure (.ok 0) else Exec.openFile .read file
    match opened with
    | .error e =>
      complain (text "cannot open " ++ inQuotes file ++ text " for reading: " ++ e.reason)
      status := 1
    | .ok _ =>
      if isHeaded then
        Exec.print ((if isFirst then [] else text "\n") ++ text "==> " ++ shownName file ++
          text " <==\n")
      isFirst := false
      match ← part file with
      | .ok t => Exec.print t
      | .error e =>
        complain (text "error reading " ++ inQuotes (shownName file) ++ text ": " ++ e.reason)
        status := 1
  return status

/-- The extent that options ask for. -/
def extentOf (a : Arguments) : Except Text Extent :=
  let standard : Extent := { inBytes := false, sign := none, count := 10 }
  match a.last? "nc" with
  | none => .ok standard
  | some c =>
    let inBytes : Bool := c = 'c'
    let t := (a.value? (if inBytes then 'c' else 'n')).getD []
    match extent? inBytes t with
    | some e => .ok e
    | none =>
      .error (text (if inBytes then "invalid number of bytes: " else "invalid number of lines: ") ++
        cited t)

/-- Prints the beginnings of files. -/
def head : Utility := fun words => do
  let table : OptionTable := { letters := "c:n:qvz", names := [
    ("bytes", .value, 'c'), ("lines", .value, 'n'), ("quiet", .flag, 'q'), ("silent", .flag, 'q'),
    ("verbose", .flag, 'v'), ("zero-terminated", .flag, 'z')] }
  table.run (renewCount false words) fun a => do
    match extentOf a with
    | .error t => complain t; return 1
    | .ok e =>
      let stop : CodePoint := if a.has 'z' then 0 else '\n'
      printParts a (firstOf e stop)

/-- Prints the ends of files. -/
def tail : Utility := fun words => do
  let table : OptionTable := { letters := "c:fFn:qs:vz", names := [
    ("bytes", .value, 'c'), ("lines", .value, 'n'), ("quiet", .flag, 'q'), ("silent", .flag, 'q'),
    ("verbose", .flag, 'v'), ("zero-terminated", .flag, 'z'), ("follow", .maybe, 'f')] }
  let renewed := renewCount true words
  let isOld : Bool := renewed ≠ words && 3 ≤ words.length && !words.contains (text "--")
  if isOld then
    let sign := ((words.headD []).getD 1 0)
    complain (text "option used in invalid context -- " ++ [sign])
    return 1
  table.run renewed fun a => do
    match extentOf a with
    | .error t => complain t; return 1
    | .ok e =>
      let follows := a.has 'f' || a.has 'F'
      if e.count = 0 && e.sign ≠ some ('+' : CodePoint) && !follows then return 0
      let stop : CodePoint := if a.has 'z' then 0 else '\n'
      let status ← printParts a fun file => do
        return (← contentsOf file).map fun bs => e.last stop (Text.ofBytes bs)
      if follows then throw .endless
      return status

/-! ## Whole files -/

/-- Does something with the contents of each file; complains about others. -/
def eachContents (files : List Text) (act : Text → Exec Unit)
    (complaint : Text → Errno → Text := fun file e => named file ++ text ": " ++ e.reason) :
    Exec Nat :=
  forEach files fun file => do
    match ← contentsOf file with
    | .ok bs => act (Text.ofBytes bs); return true
    | .error e => complain (complaint file e); return false

/-- Prints the lines of files, the last one first. -/
def tac : Utility := fun words => do
  let table : OptionTable := { letters := "brs:" }
  table.run words fun a =>
    eachContents (orInput a.operands)
      (fun t => Exec.print (linesOf t).reverse.flatten)
      fun file e => text "failed to open " ++ inQuotes file ++ text " for reading: " ++ e.reason

/-- Prints the lines of files backwards. -/
def rev : Utility := fun words => do
  let table : OptionTable := { letters := "" }
  table.run words fun a =>
    eachContents (orInput a.operands)
      (fun t => Exec.print ((linesOf t).flatMap fun l =>
        (chomped l).reverse ++ l.drop (chomped l).length))
      fun file e => text "cannot open " ++ file ++ text ": " ++ e.reason

/-! ## Columns -/

/-- A range of positions, the last of which may be open. -/
structure Range where
  first : Nat
  last : Option Nat

/-- A position belongs to one of some ranges. -/
def inRanges (ranges : List Range) (n : Nat) : Bool :=
  ranges.any fun r => decide (r.first ≤ n) && r.last.all fun last => decide (n ≤ last)

/-- The ranges that a list writes, or what is wrong with it. -/
def ranges (isField : Bool) (list : Text) : Except Text (List Range) :=
  let number (t : Text) : Nat := t.foldl (fun n c => 10 * n + (c.val - 0x30)) 0
  let what := if isField then text "field" else text "byte/character position"
  let isBreak (c : CodePoint) : Bool := c = ',' || c = ' ' || c = '\t'
  let parts := list.splitOnP isBreak
  parts.mapM fun part =>
    let isDash (c : CodePoint) : Bool := c = '-'
    let first := part.takeWhile fun c => !isDash c
    let rest := part.drop first.length
    let last := rest.drop 1
    if !first.all CodePoint.isAsciiDigit || !last.all CodePoint.isAsciiDigit then
      let isRange := (rest.drop 1).any isDash
      if isRange then .error (text "invalid " ++ (if isField then text "field" else
        text "byte or character") ++ text " range")
      else .error (text "invalid " ++ what ++ (if isField then text " value " else text " ") ++
        cited (part.dropWhile CodePoint.isAsciiDigit))
    else if rest.isEmpty then
      if first.isEmpty || number first = 0 then
        .error ((if isField then text "fields" else text "byte/character positions") ++
          text " are numbered from 1")
      else .ok { first := number first, last := some (number first) }
    else if first.isEmpty && last.isEmpty then .error (text "invalid range with no endpoint: -")
    else if !first.isEmpty && number first = 0 then
      .error ((if isField then text "fields" else text "byte/character positions") ++
        text " are numbered from 1")
    else if !last.isEmpty && number last < (if first.isEmpty then 1 else number first) then
      .error (text "invalid decreasing range")
    else .ok {
      first := if first.isEmpty then 1 else number first
      last := if last.isEmpty then none else some (number last) }

/-- Members at wanted positions in runs of neighbours. -/
def wantedRuns {α : Type} (wants : Nat → Bool) (xs : List α) : List (List α) :=
  ((xs.zipIdx.splitBy fun a b => wants (a.2 + 1) && wants (b.2 + 1)).map fun run =>
    (run.filter fun x => wants (x.2 + 1)).map (·.1)).filter fun run => !run.isEmpty

/-- Prints columns of files. -/
def cut : Utility := fun words => do
  let table : OptionTable := { letters := "b:c:d:f:nsz", names := [
    ("bytes", .value, 'b'), ("characters", .value, 'c'), ("delimiter", .value, 'd'),
    ("fields", .value, 'f'), ("complement", .flag, 'C'), ("only-delimited", .flag, 's'),
    ("output-delimiter", .value, 'o'), ("zero-terminated", .flag, 'z')] }
  table.run words fun a => do
    let lists := a.options.filter fun o => (text "bcf").contains o.1
    match lists with
    | [] => misused (text "you must specify a list of bytes, characters, or fields")
    | (kind, list) :: others =>
      if !others.isEmpty then return ← misused (text "only one type of list may be specified")
      let isField : Bool := kind = 'f'
      let delimiter := a.value? 'd'
      match delimiter with
      | some (_ :: _ :: _) => return ← misused (text "the delimiter must be a single character")
      | some _ =>
        if !isField then
          return ← misused
            (text "an input delimiter may be specified only when operating on fields")
      | none => pure ()
      if a.has 's' && !isField then
        return ← misused (text "suppressing non-delimited lines makes sense\n\tonly when operating on fields")
      match ranges isField list with
      | .error t => misused t
      | .ok rs =>
        let wants (n : Nat) : Bool := inRanges rs n != a.has 'C'
        let sign : CodePoint := match delimiter with
          | some (c :: _) => c
          | some [] => 0
          | none => '\t'
        let stop : CodePoint := if a.has 'z' then 0 else '\n'
        let render (l : Text) : Option Text :=
          if isField then
            let fields := l.splitOn sign
            if fields.length = 1 then if a.has 's' then none else some l
            else
              let kept := (fields.zipIdx.filter fun f => wants (f.2 + 1)).map (·.1)
              some (List.intercalate ((a.value? 'o').getD [sign]) kept)
          else
            match a.value? 'o' with
            | some between => some (List.intercalate between (wantedRuns wants l))
            | none => some ((l.zipIdx.filter fun c => wants (c.2 + 1)).map (·.1))
        eachContents (orInput a.operands) fun t =>
          Exec.print ((piecesOf stop t).flatMap fun l =>
            let l := if l.getLast? = some stop then l.dropLast else l
            match render l with
            | some shown => shown ++ [stop]
            | none => [])

/-- The signs between columns; none stands for nothing. -/
def delimiters : Text → List Text
  | [] => []
  | [c] => [[c]]
  | c :: d :: rest =>
    if c = '\\' then
      (if d = 'n' then text "\n" else if d = 't' then text "\t" else if d = '0' then [] else [d]) ::
        delimiters rest
    else [c] :: delimiters (d :: rest)

/-- Texts with the signs of a list between them, over and over. -/
def joinBy (between : List Text) : (fuel : Nat) → List Text → List Text → Text
  | 0, _, _ => []
  | _, _, [] => []
  | _, _, [t] => t
  | fuel + 1, [], ts => if between.isEmpty then ts.flatten else joinBy between fuel between ts
  | fuel + 1, d :: ds, t :: rest => t ++ d ++ joinBy between fuel ds rest

/-- Puts the lines of files side by side. -/
def paste : Utility := fun words => do
  let table : OptionTable := { letters := "d:sz", names := [
    ("delimiters", .value, 'd'), ("serial", .flag, 's'), ("zero-terminated", .flag, 'z')] }
  table.run words fun a => do
    let between := ((a.value? 'd').map delimiters).getD [text "\t"]
    let files := orInput a.operands
    let input := text "-"
    /- Several columns may take turns with the lines of the input. -/
    let turns := if a.has 's' then 1 else files.count input
    let inputLines ← if files.contains input then do
        match ← contentsOf input with
        | .ok bs => pure ((linesOf (Text.ofBytes bs)).map chomped)
        | .error _ => pure []
      else pure []
    if !a.has 's' then
      for file in files do
        if file ≠ input then
          match ← Exec.openFile .read file with
          | .ok _ => pure ()
          | .error e =>
            complain (named file ++ text ": " ++ e.reason)
            return 1
    let mut columns : List (List Text) := []
    let mut status := 0
    for (file, i) in files.zipIdx do
      if file = input then
        let turn := (files.take i).count input
        columns := columns ++ [(inputLines.zipIdx.filter fun l => l.2 % turns = turn).map (·.1)]
      else
        match ← contentsOf file with
        | .error e =>
          /- A directory can be opened, and has no lines. -/
          if e = .isDirectory then columns := columns ++ [[]]
          complain (named file ++ text ": " ++ e.reason)
          status := 1
        | .ok bs => columns := columns ++ [(linesOf (Text.ofBytes bs)).map chomped]
    if a.has 's' then
      for c in columns do
        Exec.print (joinBy between (2 * c.length + 2) between c ++ text "\n")
    else
      let height := (columns.map List.length).foldl max 0
      for i in List.range height do
        let row := columns.map fun c => c.getD i []
        Exec.print (joinBy between (2 * row.length + 2) between row ++ text "\n")
    return status

/-! ## Line numbers and widths -/

/-- Numbers the lines of files. -/
def nl : Utility := fun words => do
  let table : OptionTable := { letters := "b:d:f:h:i:l:n:ps:v:w:", names := [
    ("body-numbering", .value, 'b'), ("line-increment", .value, 'i'), ("number-format", .value, 'n'),
    ("number-separator", .value, 's'), ("starting-line-number", .value, 'v'),
    ("number-width", .value, 'w')] }
  table.run words fun a => do
    let number (letter : Char) (n : Int) : Int :=
      ((a.value? letter).bind (Arithmetic.integer? true true)).getD n
    let style := (a.value? 'b').getD (text "t")
    let form := (a.value? 'n').getD (text "rn")
    let width := (number 'w' 6).toNat
    let between := (a.value? 's').getD (text "\t")
    let pad (n : Int) : Text :=
      let digits := Text.ofInt n
      if form = text "ln" then digits ++ List.replicate (width - digits.length) (' ' : CodePoint)
      else if form = text "rz" then
        if n < 0 then text "-" ++ Text.padZeros (width - 1) (digits.drop 1)
        else Text.padZeros width digits
      else List.replicate (width - digits.length) (' ' : CodePoint) ++ digits
    let mut n := number 'v' 1
    let mut status := 0
    for file in orInput a.operands do
      match ← contentsOf file with
      | .error e =>
        complain (named file ++ text ": " ++ e.reason)
        status := 1
      | .ok bs =>
        for l in linesOf (Text.ofBytes bs) do
          let l := chomped l
          if style = text "a" || (style = text "t" && !l.isEmpty) then
            Exec.print (pad n ++ between ++ l ++ text "\n")
            n := n + number 'i' 1
          else
            Exec.print (List.replicate (width + between.length) (' ' : CodePoint) ++ l ++ text "\n")
    return status

/-- The column after a sign. -/
def columnAfter (inBytes : Bool) (column : Nat) (c : CodePoint) : Nat :=
  if inBytes then column + 1
  else if c.val = 8 then column - 1
  else if c = '\r' then 0
  else if c = '\t' then column + 8 - column % 8
  else column + 1

/-- A line folded to a width; `taken` holds the last signs, the latest first. -/
def foldLine (inBytes atBlanks : Bool) (width : Nat) :
    (fuel : Nat) → (column : Nat) → (taken : Text) → Text → Text
  | 0, _, taken, rest => taken.reverse ++ rest
  | _, _, taken, [] => taken.reverse
  | fuel + 1, column, taken, c :: rest =>
    if c = '\n' then taken.reverse ++ c :: foldLine inBytes atBlanks width fuel 0 [] rest
    else
      let after := columnAfter inBytes column c
      if after ≤ width || taken.isEmpty then
        foldLine inBytes atBlanks width fuel after (c :: taken) rest
      else
        let isBlank (d : CodePoint) : Bool := d = ' ' || d = '\t'
        let tailPart := taken.takeWhile fun d => !isBlank d
        if atBlanks && tailPart.length < taken.length then
          (taken.drop tailPart.length).reverse ++ text "\n" ++
            foldLine inBytes atBlanks width fuel 0 [] (tailPart.reverse ++ c :: rest)
        else
          taken.reverse ++ text "\n" ++ foldLine inBytes atBlanks width fuel 0 [] (c :: rest)

/-- Breaks lines at a width. -/
def fold : Utility := fun words => do
  let table : OptionTable := { letters := "bsw:", names := [
    ("bytes", .flag, 'b'), ("spaces", .flag, 's'), ("width", .value, 'w')] }
  let words := match words with
    | (c :: d :: more) :: rest =>
      if c = '-' && d.isAsciiDigit then (c :: 'w' :: d :: more) :: rest else words
    | _ => words
  table.run words fun a => do
    let width := (a.value? 'w').map fun t => (t, count? t)
    match width with
    | some (t, none) => complain (text "invalid number of columns: " ++ cited t); return 1
    | some (t, some 0) => complain (text "invalid number of columns: " ++ cited t); return 1
    | _ =>
      let n := (width.bind (·.2)).getD 80
      eachContents (orInput a.operands) fun t =>
        Exec.print (foldLine (a.has 'b') (a.has 's') n (3 * t.length + 10) 0 [] t)

/-- A text with its tabs as blanks. -/
def withoutTabs (width : Nat) : (column : Nat) → Text → Text
  | _, [] => []
  | column, c :: rest =>
    if c = '\n' then c :: withoutTabs width 0 rest
    else if c = '\t' then
      let n := width - column % width
      List.replicate n (' ' : CodePoint) ++ withoutTabs width (column + n) rest
    else c :: withoutTabs width (column + 1) rest

/-- Replaces tabs by blanks. -/
def expand : Utility := fun words => do
  let table : OptionTable := { letters := "it:", names := [
    ("initial", .flag, 'i'), ("tabs", .value, 't')] }
  table.run words fun a => do
    let width := max 1 (((a.value? 't').bind count?).getD 8)
    let mut t : Text := []
    let mut status := 0
    for file in orInput a.operands do
      match ← contentsOf file with
      | .ok bs => t := t ++ Text.ofBytes bs
      | .error e =>
        complain (named file ++ text ": " ++ e.reason)
        status := 1
    Exec.print (withoutTabs width 0 t)
    return status

end Utility

end Shell

end AgentWorkshop
