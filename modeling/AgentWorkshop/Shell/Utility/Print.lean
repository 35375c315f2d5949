import AgentWorkshop.Shell.Printf
import AgentWorkshop.Shell.Utility.Basic

/-!
# Programs that print

Files, arguments, sequences of numbers and parts of paths; and the program that
only lets time pass.
-/

namespace AgentWorkshop

namespace Shell

namespace Utility

/-! ## Files -/

/-- How `cat` shows what it reads. -/
structure CatStyle where
  numbers : Bool
  numbersText : Bool
  squeezes : Bool
  showsEnds : Bool
  showsTabs : Bool
  showsControls : Bool

/-- A byte made visible. -/
def visible (c : CodePoint) : Text :=
  let low (n : Nat) : Text :=
    if n < 0x20 then ['^', Fin.ofNat _ (n + 0x40)] else if n = 0x7F then text "^?"
    else [Fin.ofNat _ n]
  if c.val < 0x80 then low c.val else text "M-" ++ low (c.val - 0x80)

/-- A line in a style. -/
def CatStyle.show (s : CatStyle) (l : Text) : Text :=
  let sign (c : CodePoint) : Text :=
    if c = '\n' then (if s.showsEnds then text "$\n" else text "\n")
    else if c = '\t' then (if s.showsTabs then text "^I" else [c])
    else if s.showsControls then visible c else [c]
  l.flatMap sign

/-- The lines in a style, from a line number on. -/
def CatStyle.render (s : CatStyle) : (number : Nat) → (afterEmpty : Bool) → List Text → Text
  | _, _, [] => []
  | number, afterEmpty, l :: rest =>
    let isEmpty : Bool := l = text "\n"
    if s.squeezes && isEmpty && afterEmpty then s.render number true rest
    else
      let counts := if s.numbersText then !isEmpty else s.numbers
      let label := if counts then
          let digits := Text.ofNat number
          List.replicate (6 - digits.length) (' ' : CodePoint) ++ digits ++ text "\t"
        else []
      label ++ s.show l ++ s.render (if counts then number + 1 else number) isEmpty rest

/-- Prints the input as it comes. -/
def passOn : Exec (Option Errno) := do
  match ← Exec.channel? 0 with
  | some (id, .supply pieces ends isEndless) =>
    modify fun m => { m with channels := m.channels.setIfInBounds id (.supply [] ends isEndless) }
    pieces.forM fun (time, bs) => do
      Exec.waitUntil time
      Exec.print (Text.ofBytes bs)
    Exec.waitUntil ends
    if isEndless then throw .endless
    return none
  | _ =>
    match ← Exec.readAll 0 with
    | .ok bs => Exec.print (Text.ofBytes bs); return none
    | .error e => return some e

/-- The output goes to the end of a file that is read. -/
def isOutput (file : Text) : Exec Bool := do
  let m ← get
  let goal : Option Channel := (← Exec.channel? 1).map (·.2)
  if file = text "-" then
    let here : Option Channel := (← Exec.channel? 0).map (·.2)
    match here, goal with
    | some (.file source offset _ _ _), some (.file address _ _ _ _) =>
      return address = source && decide (offset < (m.contentsAt source).length)
    | _, _ => return false
  else
    match goal, m.resolveFrom m.process.directory true file with
    | some (.file address _ _ _ _), .ok (.taken source _) =>
      return address = source && !(m.contentsAt source).isEmpty
    | _, _ => return false

/-- Prints files one after the other. -/
def cat : Utility := fun words => do
  let table : OptionTable := { letters := "AbeEnstTuv", names := [
    ("number-nonblank", .flag, 'b'), ("number", .flag, 'n'), ("squeeze-blank", .flag, 's'),
    ("show-nonprinting", .flag, 'v'), ("show-ends", .flag, 'E'), ("show-tabs", .flag, 'T'),
    ("show-all", .flag, 'A')] }
  table.run words fun a => do
    let has (letters : String) : Bool := (a.last? letters).isSome
    let style : CatStyle := {
      numbers := has "n", numbersText := has "b", squeezes := has "s"
      showsEnds := has "AeE", showsTabs := has "AtT", showsControls := has "Aetv" }
    let isPlain := a.options.all fun o => o.1 = 'u'
    let complainAbout (file : Text) (e : Errno) : Exec Bool := do
      complain (named file ++ text ": " ++ e.reason)
      if file = text "-" && (← Exec.channel? 0).isNone then
        complain (text "closing standard input: " ++ e.reason)
      return false
    if (← Exec.channel? 1).isNone then
      complain (text "standard output: " ++ Errno.badDescriptor.reason)
      return 1
    if isPlain then
      forEach (orInput a.operands) fun file => do
        if file = text "-" then
          if ← isOutput file then
            complain (text "-: input file is output file")
            return false
          match ← passOn with
          | none => return true
          | some e => complainAbout file e
        else
          match ← contentsOf file with
          | .ok bs =>
            if ← isOutput file then
              complain (named file ++ text ": input file is output file")
              return false
            Exec.print (Text.ofBytes bs)
            return true
          | .error e => complainAbout file e
    else
      let found ← (orInput a.operands).mapM fun file => do
        match ← contentsOf file with
        | .ok bs => return some (Text.ofBytes bs)
        | .error e => let _ ← complainAbout file e; return none
      Exec.print (style.render 1 false (linesOf (found.flatMap (·.getD []))))
      return if found.all Option.isSome then 0 else 1

/-- Copies the input to the output and to files. -/
def tee : Utility := fun words => do
  let table : OptionTable := { letters := "aip", names := [
    ("append", .flag, 'a'), ("ignore-interrupts", .flag, 'i')] }
  table.run words fun a => do
    let opened ← a.operands.mapM fun file => do
      match ← Exec.openFile (if a.has 'a' then .append else .write) file with
      | .ok id => return some id
      | .error e => complain (named file ++ text ": " ++ e.reason); return none
    let input ← Exec.readAll 0
    let bs := match input with
      | .ok bs => bs
      | .error _ => []
    Exec.print (Text.ofBytes bs)
    opened.forM fun id => do
      match id with
      | some id =>
        Exec.attach spareDescriptor id
        let _ ← Exec.write? spareDescriptor bs
        Exec.close spareDescriptor
      | none => pure ()
    return if opened.all Option.isSome then 0 else 1

/-! ## Arguments -/

/-- Prints its arguments with blanks between them. -/
def echo : Utility := fun arguments => do
  let isFlag (t : Text) : Bool := match t with
    | c :: flags@(_ :: _) => c = '-' && flags.all fun c => (text "neE").contains c
    | _ => false
  let flags := (arguments.takeWhile isFlag).flatten
  let words := arguments.dropWhile isFlag
  let line := List.intercalate (text " ") words
  let isMode (c : CodePoint) : Bool := c = 'e' || c = 'E'
  let readsEscapes : Bool := flags.reverse.find? isMode = some ('e' : CodePoint)
  let (t, stopped) :=
    if readsEscapes then Printf.escapes .program true (line.length + 1) line else (line, false)
  let isShort := stopped || flags.contains ('n' : CodePoint)
  Exec.print (t ++ if isShort then [] else text "\n")
  return 0

/-- How many bytes are written of what has no end. -/
def endlessSize : Nat := 0x20000

/-- Prints its arguments, or a `y`, on line after line. -/
def yes : Utility := fun arguments => do
  let words := if arguments.isEmpty then [text "y"] else arguments
  let line := List.intercalate (text " ") words ++ text "\n"
  Exec.print (List.replicate (endlessSize / line.length + 1) line).flatten
  match (← Exec.process).writeFault with
  | none => throw .endless
  | some e =>
    Exec.update fun p => { p with writeFault := none }
    complain (text "standard output: " ++ e.reason)
    return 1

/-- The words for a doubt about a number. -/
def doubtText : Printf.Doubt → Text
  | .notNumber => text "expected a numeric value"
  | .trailing => text "value not completely converted"
  | .tooLarge => text "Numerical result out of range"

/-- Prints arguments by a format. -/
def printf : Utility := fun arguments =>
  match if arguments.head? = some (text "--") then arguments.drop 1 else arguments with
  | [] => missingOperand "operand"
  | form :: rest => do
    let r := Printf.format .program form (rest.length + 1) rest
    Exec.print r.output
    r.doubts.forM fun (t, doubt) =>
      complain (cited t ++ text ": " ++ doubtText doubt)
    match r.unknown with
    | some directive =>
      complain (directive ++ text ": invalid conversion specification")
      return 1
    | none =>
      match r.left with
      | extra :: _ =>
        if !r.stopped then
          complain (text "warning: ignoring excess arguments, starting with " ++ cited extra)
      | [] => pure ()
      return if r.doubts.isEmpty then 0 else 1

/-! ## Time -/

/-- The time that a text writes, in nanoseconds; without one there is no end to it. -/
def span? (t : Text) : Option (Option Nat) :=
  let t := t.dropWhile Arithmetic.isSpace
  let t := if t.head? = some ('+' : CodePoint) then t.drop 1 else t
  match Printf.realAt? t with
  | none => none
  | some (x, unit) =>
    let seconds : Option Nat :=
      if unit.isEmpty || unit = text "s" then some 1
      else if unit = text "m" then some 60
      else if unit = text "h" then some 3600
      else if unit = text "d" then some 86400
      else none
    match seconds, x with
    | some n, .finite r => some (some ((r.num * n * 1000000000 + r.den - 1) / r.den))
    | some _, .infinite => some none
    | _, _ => none

/-- Lets time pass. -/
def sleep : Utility := fun arguments => do
  let words := if arguments.head? = some (text "--") then arguments.drop 1 else arguments
  match words with
  | [] => return ← missingOperand "operand"
  | (c :: d :: more) :: _ =>
    if c = '-' then
      return ← (({ letters := "" } : OptionTable).run [c :: d :: more] fun _ =>
        pure 1)
  | _ => pure ()
  let wrong := words.filter fun t => (span? t).isNone
  if !wrong.isEmpty then
    wrong.forM fun t => complain (text "invalid time interval " ++ cited t)
    Exec.complain (text "Try 'sleep --help' for more information.")
    return 1
  words.forM fun t => do
    match span? t with
    | some (some n) => Exec.spend n
    | _ => throw .endless
  return 0

/-! ## Sequences -/

/-- A decimal number: its digits with a sign, how many of them stand after the
point, and how long it was written. -/
structure Written where
  digits : Int
  places : Nat
  width : Nat

/-- The decimal number that a text writes. -/
def written? (t : Text) : Option Written :=
  let t := t.dropWhile Arithmetic.isSpace
  let t := if t.head? = some ('+' : CodePoint) then t.drop 1 else t
  let (isNegative, s) := Printf.signAt t
  match Printf.pointedAt? 10 s with
  | none => none
  | some (digits, places, after) =>
    let (exponent, after) := Printf.exponentAt (text "eE") after
    if !after.isEmpty || !s.all (fun c => c.isAsciiDigit || (text ".eE+-").contains c) then none
    else
      let n : Int := if isNegative then -digits else digits
      let startsWithPoint : Bool := s.head? = some ('.' : CodePoint)
      let width := t.length + if startsWithPoint then 1 else 0
      let shift := exponent - places
      if shift < 0 then some ⟨n, shift.natAbs, width⟩
      else some ⟨n * Nat.pow 10 shift.toNat, 0, width⟩

/-- A number with `places` digits after the point, given in units of the last one. -/
def decimalText (places : Nat) (n : Int) : Text :=
  let t := (Ratio.ofDecimal n.natAbs (-(places : Int))).fixed places false
  if n < 0 then ('-' : CodePoint) :: t else t

/-- A number in a width, filled with zeros after its sign. -/
def zeroFilled (width : Nat) (t : Text) : Text :=
  let (isNegative, digits) := Printf.signAt t
  if isNegative then text "-" ++ Text.padZeros (width - 1) digits else Text.padZeros width t

/-- The options of `seq` and its other words; negative numbers are no options. -/
def seqOptions : (fuel : Nat) → (between : Text) → (filled : Bool) → (form : Option Text) →
    List Text → Except Text ((Text × Bool × Option Text) × List Text)
  | 0, between, filled, form, words => .ok ((between, filled, form), words)
  | _, between, filled, form, [] => .ok ((between, filled, form), [])
  | fuel + 1, between, filled, form, word :: rest =>
    let value (inline : Text) : Option (Text × List Text) :=
      if inline.isEmpty then rest.head?.map (·, rest.drop 1) else some (inline, rest)
    match word with
    | dash :: c :: more =>
      if dash ≠ '-' || c.isAsciiDigit || c = '.' then .ok ((between, filled, form), word :: rest)
      else if word = text "--" then .ok ((between, filled, form), rest)
      else if c = 'w' || word = text "--equal-width" then
        seqOptions fuel between true form (if more.isEmpty || c = '-' then rest
          else (('-' : CodePoint) :: more) :: rest)
      else if c = 's' || c = 'f' then
        match value more with
        | none => .error (text "option requires an argument -- '" ++ [c] ++ text "'")
        | some (v, others) =>
          if c = 's' then seqOptions fuel v filled form others
          else seqOptions fuel between filled (some v) others
      else
        match (text "--separator=").isPrefixOf? word, (text "--format=").isPrefixOf? word with
        | some v, _ => seqOptions fuel v filled form rest
        | _, some v => seqOptions fuel between filled (some v) rest
        | none, none =>
          if c = '-' then .error (text "unrecognized option '" ++ word ++ text "'")
          else .error (text "invalid option -- '" ++ [c] ++ text "'")
    | _ => .ok ((between, filled, form), word :: rest)

/-- Prints a sequence of numbers. -/
def seq : Utility := fun words => do
  match seqOptions (words.length + 1) (text "\n") false none words with
  | .error e => misused e
  | .ok ((between, filled, form), operands) =>
    if operands.isEmpty then return ← missingOperand "operand"
    if 3 < operands.length then
      return ← misused (text "extra operand " ++ cited (operands.getD 3 []))
    match operands.find? fun t => (written? t).isNone with
    | some t => misused (text "invalid floating point argument: " ++ cited t)
    | none =>
      let one : Written := ⟨1, 0, 1⟩
      let (first, step, last) := match operands.filterMap written? with
        | [last] => (one, one, last)
        | [first, last] => (first, one, last)
        | first :: step :: last :: _ => (first, step, last)
        | [] => (one, one, one)
      if step.digits = 0 then
        return ← misused (text "invalid Zero increment value: " ++ cited (operands.getD 1 []))
      let places := max first.places step.places
      let unit := max places last.places
      let scaled (w : Written) : Int := w.digits * Nat.pow 10 (unit - w.places)
      let (a, d, b) := (scaled first, scaled step, scaled last)
      let count := if 0 < d then if b < a then 0 else ((b - a) / d + 1).toNat
        else if a < b then 0 else ((a - b) / (-d) + 1).toNat
      let widthOf (w : Written) : Nat :=
        w.width + (places - w.places) + (if w.places = 0 && places ≠ 0 then 1 else 0)
      let lastWidth := if places = 0 && last.places ≠ 0 then last.width - last.places - 1
        else widthOf { last with places := min last.places places }
      let width := if filled then max (widthOf first) lastWidth else 0
      let lines := (List.range count).map fun (i : Nat) =>
        let n := (a + d * i) / (Nat.pow 10 (unit - places) : Nat)
        let t := decimalText places n
        match form with
        | some f => (Printf.fill .program (f.length + 1) f [t]).output
        | none => zeroFilled width t
      if count ≠ 0 then Exec.print (List.intercalate between lines ++ text "\n")
      return 0

/-! ## Paths -/

/-- A path without the slashes at its end. -/
def withoutSlashes (t : Text) : Text :=
  (t.reverse.dropWhile fun c : CodePoint => c = '/').reverse

/-- The last name of a path. -/
def lastName (t : Text) : Text :=
  let kept := withoutSlashes t
  if kept.isEmpty then if t.isEmpty then [] else text "/"
  else (kept.reverse.takeWhile fun c : CodePoint => c ≠ '/').reverse

/-- A path without its last name. -/
def directoryName (t : Text) : Text :=
  let kept := withoutSlashes t
  if kept.isEmpty then if t.isEmpty then text "." else text "/"
  else if !kept.contains ('/' : CodePoint) then text "."
  else
    let above := withoutSlashes (kept.reverse.dropWhile fun c : CodePoint => c ≠ '/').reverse
    if above.isEmpty then text "/" else above

/-- Prints the last names of paths, without an ending. -/
def basename : Utility := fun words => do
  let table : OptionTable := { letters := "as:z", isStrict := true, names := [
    ("multiple", .flag, 'a'), ("suffix", .value, 's'), ("zero", .flag, 'z')] }
  table.run words fun a => do
    let isMany := a.has 'a' || a.has 's'
    let stop := if a.has 'z' then [(0 : CodePoint)] else text "\n"
    let show_ (ending t : Text) : Exec Unit := do
      let name := lastName t
      let cut := !ending.isEmpty && ending.isSuffixOf name && name ≠ ending
      Exec.print ((if cut then name.take (name.length - ending.length) else name) ++ stop)
    match a.operands with
    | [] => missingOperand "operand"
    | t :: rest =>
      if isMany then
        (t :: rest).forM (show_ ((a.value? 's').getD []))
        return 0
      else if 1 < rest.length then
        misused (text "extra operand " ++ cited (rest.getD 1 []))
      else
        show_ (rest.headD []) t
        return 0

/-- Prints paths without their last names. -/
def dirname : Utility := fun words => do
  let table : OptionTable := { letters := "z", names := [("zero", .flag, 'z')] }
  table.run words fun a => do
    if a.operands.isEmpty then return ← missingOperand "operand"
    let stop := if a.has 'z' then [(0 : CodePoint)] else text "\n"
    a.operands.forM fun t => Exec.print (directoryName t ++ stop)
    return 0

/-- The path of an address. -/
def pathOf (address : Address) : Text :=
  (Path.mk .top address).toText.narrow

/-- Prints the working directory. -/
def pwd : Utility := fun _ => do
  Exec.print (pathOf (← Exec.process).directory ++ text "\n")
  return 0

/-- Prints exported variables. -/
def printenv : Utility := fun words => do
  let table : OptionTable :=
    { letters := "0", isStrict := true, status := 2,
      names := [("null", .flag, '0')] }
  table.run words fun a => do
    let stop := if a.has '0' then [(0 : CodePoint)] else text "\n"
    let vs ← Exec.exportedVariables
    if a.operands.isEmpty then
      vs.forM fun (name, value) => Exec.print (name ++ text "=" ++ value ++ stop)
      return 0
    forEach a.operands fun name => do
      match vs.lookup name with
      | some value => Exec.print (value ++ stop); return true
      | none => return false

end Utility

end Shell

end AgentWorkshop
