import AgentWorkshop.Shell.Utility.Print

/-!
# Listing files

`ls` shows names, `stat` facts about files, `readlink` and `realpath` where paths
lead.
-/

namespace AgentWorkshop

namespace Shell

namespace Utility

/-! ## Names -/

/-- How names are listed. -/
structure ListStyle where
  all : Bool
  almostAll : Bool
  backwards : Bool
  unsorted : Bool
  bySize : Bool
  /-- Signs after names tell what they stand for. -/
  marks : Bool
  marksDirectories : Bool
  inQuotes : Bool
  onOneLine : Bool
  /-- Names stand side by side, in rows or in columns. -/
  inColumns : Option Bool
  /-- With permissions, owner, size and time. -/
  isLong : Bool
  ownerHidden : Bool
  groupHidden : Bool
  /-- Users are numbers. -/
  numeric : Bool
  /-- Sizes have units. -/
  isHuman : Bool
  /-- How much room files take is shown. -/
  showsRoom : Bool

/-- The sign after a name. -/
def ListStyle.markOf (s : ListStyle) (m : Machine) (address : Address) : Text :=
  match m.kind? address with
  | some .directory => if s.marks || s.marksDirectories then text "/" else []
  | some (.link _) => if s.marks then text "@" else []
  | some .file => if s.marks && m.isRunnable address then text "*" else []
  | none => []

/-- The size of what stands at an address. -/
def sizeOf (m : Machine) (address : Address) : Nat :=
  match m.kind? address with
  | some .file => (m.contentsAt address).length
  | some (.link target) => target.length
  | _ => 4096

/-- Names with their addresses in the order of a listing. -/
def ListStyle.arrange (s : ListStyle) (m : Machine) (names : List (Text × Address)) :
    List (Text × Address) :=
  if s.unsorted then names
  else
    let byName := names.mergeSort fun a b => a.1.precedes b.1
    let sorted := if s.bySize then
        byName.mergeSort fun a b => sizeOf m b.2 ≤ sizeOf m a.2
      else byName
    if s.backwards then sorted.reverse else sorted

/-- The room that a file takes, in blocks of 1024 bytes. -/
def roomOf (m : Machine) (address : Address) : Nat :=
  match m.kind? address with
  | some .file => (sizeOf m address + 4095) / 4096 * 4
  | some .directory => 4
  | _ => 0

/-- A size with a unit, rounded up. -/
def humanSize (n : Nat) : Text :=
  let rec go (units : List Char) (scale : Nat) : Text :=
    match units with
    | [] => Text.ofNat n
    | unit :: rest =>
      if n < 1024 * scale then
        let tenths := (10 * n + scale - 1) / scale
        (if tenths < 100 then
            Text.ofNat (tenths / 10) ++ text "." ++ Text.ofNat (tenths % 10)
          else Text.ofNat ((n + scale - 1) / scale)) ++ [CodePoint.ofChar unit]
      else go rest (1024 * scale)
  if n < 1024 then Text.ofNat n else go ['K', 'M', 'G', 'T'] 1024

/-- A size as a listing shows it. -/
def ListStyle.sizeText (s : ListStyle) (n : Nat) : Text :=
  if s.isHuman then humanSize n else Text.ofNat n

/-- The letters of permissions. -/
def modeLetters (mode : Nat) : Text :=
  let bit (n : Nat) (c : Char) : CodePoint := if mode &&& n ≠ 0 then c else '-'
  let special (n run : Nat) (both alone none_ : Char) : CodePoint :=
    if mode &&& n ≠ 0 then if mode &&& run ≠ 0 then both else alone
    else if mode &&& run ≠ 0 then none_ else '-'
  [bit 0o400 'r', bit 0o200 'w', special 0o4000 0o100 's' 'S' 'x',
    bit 0o40 'r', bit 0o20 'w', special 0o2000 0o10 's' 'S' 'x',
    bit 0o4 'r', bit 0o2 'w', special 0o1000 0o1 't' 'T' 'x']

/-- The letters of what stands at an address: its kind and its permissions. -/
def lettersOf (m : Machine) (address : Address) : Text :=
  match m.kind? address with
  | some .directory => text "d" ++ modeLetters (m.modeOf address)
  | some (.link _) => text "lrwxrwxrwx"
  | _ => text "-" ++ modeLetters (m.modeOf address)

/-- How many names an address has; a directory is named by those in it, too. -/
def nameCount (m : Machine) (address : Address) : Nat :=
  if m.kind? address = some .directory then
    2 + ((m.namesIn address).filter fun name =>
      m.kind? (address ++ [name.widen]) = some .directory).length
  else 1

/-- The time that is shown for a file. -/
def listedTime : Text := text "Jan  1  1970"

/-- Texts with blanks before them, all of one length. -/
def alignRight (ts : List Text) : List Text :=
  let width := (ts.map List.length).foldl max 0
  ts.map fun t => List.replicate (width - t.length) (' ' : CodePoint) ++ t

/-- Names with all that is known of them. -/
def ListStyle.longLines (s : ListStyle) (m : Machine) (names : List (Text × Address))
    (shown : List Text) : List Text :=
  let links := alignRight (names.map fun n => Text.ofNat (nameCount m n.2))
  let sizes := alignRight (names.map fun n => s.sizeText (sizeOf m n.2))
  let user := if s.numeric then text "0" else text "root"
  let users := (if s.ownerHidden then [] else user ++ text " ") ++
    if s.groupHidden then [] else user ++ text " "
  (names.zip (shown.zip (links.zip sizes))).map fun ((_, address), name, count, size) =>
    let target := match m.kind? address with
      | some (.link target) => text " -> " ++ target
      | _ => []
    lettersOf m address ++ text " " ++ count ++ text " " ++ users ++ size ++ text " " ++
      listedTime ++ text " " ++ name ++ target

/-- Blanks and tabs from one column to another. -/
def indentation : (fuel : Nat) → (start stop : Nat) → Text
  | 0, _, _ => []
  | fuel + 1, start, stop =>
    if stop ≤ start then []
    else if (start + 1) / 8 < stop / 8 then
      ('\t' : CodePoint) :: indentation fuel (start + (8 - start % 8)) stop
    else (' ' : CodePoint) :: indentation fuel (start + 1) stop

/-- The width of a listing. -/
def listWidth : Nat := 80

/-- The place of a name among columns: its row and its column. -/
def cellOf (byRows : Bool) (columns rows i : Nat) : Nat × Nat :=
  if byRows then (i / columns, i % columns) else (i % rows, i / rows)

/-- The widths of columns. -/
def columnWidths (byRows : Bool) (columns : Nat) (ts : List Text) : List Nat :=
  let rows := (ts.length + columns - 1) / columns
  (List.range columns).map fun c =>
    let mine := ts.zipIdx.filter fun (_, i) => (cellOf byRows columns rows i).2 = c
    let isLast : Bool := if byRows then c + 1 = columns else columns * rows ≤ (c + 1) * rows
    (mine.map fun (t, _) => t.length + if isLast then 0 else 2).foldl max 0

/-- The greatest number of columns for which there is room. -/
def columnsFor (byRows : Bool) (ts : List Text) : (columns : Nat) → Nat
  | 0 => 1
  | columns + 1 =>
    if (columnWidths byRows (columns + 1) ts).foldl (· + ·) 0 < listWidth then columns + 1
    else columnsFor byRows ts columns

/-- Names side by side. -/
def columned (byRows : Bool) (ts : List Text) : Text :=
  let columns := columnsFor byRows ts (min ts.length 27)
  let rows := (ts.length + columns - 1) / columns
  let widths := columnWidths byRows columns ts
  let starts := (List.range columns).map fun c => (widths.take c).foldl (· + ·) 0
  (List.range rows).flatMap fun r =>
    let here := ts.zipIdx.filterMap fun (t, i) =>
      let (row, column) := cellOf byRows columns rows i
      if row = r then some (t, starts.getD column 0) else none
    (here.foldl (fun ((line, at_) : Text × Nat) (t, start) =>
      (line ++ indentation (start + 1) at_ start ++ t, start + t.length)) ([], 0)).1 ++ text "\n"

/-- Names as they are printed. -/
def ListStyle.render (s : ListStyle) (m : Machine) (names : List (Text × Address)) : Text :=
  let shown := names.map fun (name, address) =>
    let isPlainLink : Bool := s.isLong && (match m.kind? address with
      | some (.link _) => true
      | _ => false)
    (if s.inQuotes then text "\"" ++ name ++ text "\"" else name) ++
      if isPlainLink then [] else s.markOf m address
  let lines := if s.isLong then s.longLines m names shown else shown
  let lines := if s.showsRoom then
      ((alignRight (names.map fun n => roomText s m n.2)).zip lines).map fun (room, l) =>
        room ++ text " " ++ l
    else lines
  if lines.isEmpty then []
  else if s.isLong then lines.flatMap (· ++ text "\n")
  else if s.onOneLine then List.intercalate (text ", ") lines ++ text "\n"
  else
    match s.inColumns with
    | some byRows => columned byRows lines
    | none => lines.flatMap (· ++ text "\n")
where
  /-- The room that a file takes, as it is shown. -/
  roomText (s : ListStyle) (m : Machine) (address : Address) : Text :=
    s.sizeText (if s.isHuman then 1024 * roomOf m address else roomOf m address)

/-- How much room all files of a directory take. -/
def ListStyle.total (s : ListStyle) (m : Machine) (names : List (Text × Address)) : Text :=
  if s.isLong || s.showsRoom then
    let room := (names.map fun n => roomOf m n.2).foldl (· + ·) 0
    text "total " ++ s.sizeText (if s.isHuman then 1024 * room else room) ++ text "\n"
  else []

/-- The names in a directory that are listed. -/
def ListStyle.namesIn (s : ListStyle) (m : Machine) (directory : Address) :
    List (Text × Address) :=
  let names := m.namesIn directory
  let kept := if s.all || s.almostAll then names
    else names.filter fun name => name.head? ≠ some ('.' : CodePoint)
  let dots := if s.all then [(text ".", directory), (text "..", directory.dropLast)] else []
  s.arrange m (dots ++ kept.map fun name => (name, directory ++ [name.widen]))

/-- A directory and those below it, with the paths that lead to them. -/
def ListStyle.below (s : ListStyle) (m : Machine) : (fuel : Nat) → Text × Address →
    List (Text × Address)
  | 0, top => [top]
  | fuel + 1, (path, address) =>
    (path, address) :: (({ s with all := false, almostAll := s.all || s.almostAll }).namesIn m
      address).flatMap fun (name, below) =>
        if m.kind? below = some Kind.directory then
          s.below m fuel (path ++ (if path.getLast? = some ('/' : CodePoint) then [] else text "/") ++
            name, below)
        else []

/-- Lists files and directories. -/
def ls : Utility := fun words => do
  let table : OptionTable := {
    letters := "abcdfghiklmnopqrstuvw:xABCDFGHI:LNQRST:UXZ1", status := 2, names := [
      ("all", .flag, 'a'), ("almost-all", .flag, 'A'), ("directory", .flag, 'd'),
      ("reverse", .flag, 'r'), ("recursive", .flag, 'R'), ("classify", .flag, 'F'),
      ("quote-name", .flag, 'Q'), ("color", .maybe, 'k'), ("file-type", .flag, 'p'),
      ("no-group", .flag, 'G'), ("numeric-uid-gid", .flag, 'n'), ("size", .flag, 's'),
      ("human-readable", .flag, 'h')] }
  table.run words fun a => do
    let m ← get
    /- Asking for one name a line does not undo the long form. -/
    let form := if a.last? "lgonmCx1" = some ('1' : CodePoint) then a.last? "lgon"
      else a.last? "lgonmCx"
    let style : ListStyle := {
      all := a.last? "aA" = some ('a' : CodePoint) || a.has 'f', almostAll := a.has 'A'
      backwards := a.has 'r', unsorted := a.has 'U' || a.has 'f', bySize := a.has 'S'
      marks := a.has 'F', marksDirectories := a.has 'p', inQuotes := a.has 'Q'
      onOneLine := form = some ('m' : CodePoint)
      inColumns := if form = some ('C' : CodePoint) then some false
        else if form = some ('x' : CodePoint) then some true else none
      isLong := form.any fun c => (text "lgon").contains c
      ownerHidden := a.has 'g', groupHidden := a.has 'o' || a.has 'G', numeric := a.has 'n'
      isHuman := a.has 'h', showsRoom := a.has 's' }
    let mut status := 0
    let mut plain : List (Text × Address) := []
    let mut directories : List (Text × Address) := []
    for t in if a.operands.isEmpty then [text "."] else a.operands do
      let follows := !(a.has 'd' || a.has 'F' || style.isLong) || a.has 'L'
      let spot := match m.resolveFrom m.process.directory follows t with
        | .error .noEntry => m.resolveFrom m.process.directory false t
        | .ok (.free _ _) => m.resolveFrom m.process.directory false t
        | found => found
      match spot with
      | .ok (.taken address .directory) =>
        if a.has 'd' then plain := plain ++ [(t, address)]
        else directories := directories ++ [(t, address)]
      | .ok (.taken address _) => plain := plain ++ [(t, address)]
      | other =>
        let e := match other with
          | .error e => e
          | .ok _ => .noEntry
        complain (text "cannot access " ++ inQuotes t ++ text ": " ++ e.reason)
        status := 2
    Exec.print (style.render m (style.arrange m plain))
    let listed := (style.arrange m directories).flatMap fun top =>
      if a.has 'R' then style.below m 1000 top else [top]
    let isHeaded := 1 < a.operands.length || a.has 'R'
    let mut first := plain.isEmpty
    for (path, address) in listed do
      let header := if style.inQuotes then text "\"" ++ path ++ text "\"" else path
      if isHeaded then Exec.print ((if first then [] else text "\n") ++ header ++ text ":\n")
      first := false
      let names := style.namesIn m address
      Exec.print (style.total m names ++ style.render m names)
    return status

/-! ## Facts -/

/-- A fact about a file, by the letter that asks for it. -/
def factOf (m : Machine) (path : Text) (address : Address) (kind : Kind) (letter : CodePoint) :
    Text :=
  let mode := m.modeOf address
  if letter = 'n' then path
  else if letter = 's' then Text.ofNat (sizeOf m address)
  else if letter = 'a' then (Nat.toDigits 8 mode).map CodePoint.ofChar
  else if letter = 'A' then
    (match kind with
      | .directory => text "d"
      | .link _ => text "l"
      | .file => text "-") ++ modeLetters mode
  else if letter = 'F' then
    match kind with
    | .directory => text "directory"
    | .link _ => text "symbolic link"
    | .file => text (if (m.contentsAt address).isEmpty then "regular empty file" else "regular file")
  else if letter = 'N' then
    match kind with
    | .link target => inQuotes path ++ text " -> " ++ inQuotes target
    | _ => inQuotes path
  else if letter = 'u' || letter = 'g' then text "0"
  else if letter = 'U' || letter = 'G' then text "root"
  else if letter = 'h' then text "1"
  else if letter = '%' then text "%"
  else text "?"

/-- A format with its letters replaced by facts. -/
def factsIn (m : Machine) (path : Text) (address : Address) (kind : Kind) : Text → Text
  | [] => []
  | [c] => [c]
  | c :: d :: rest =>
    if c = '%' then factOf m path address kind d ++ factsIn m path address kind rest
    else c :: factsIn m path address kind (d :: rest)

/-- Shows facts about files by a format. -/
def stat : Utility := fun words => do
  let table : OptionTable := { letters := "Lc:ft", names := [
    ("format", .value, 'c'), ("printf", .value, 'p'), ("dereference", .flag, 'L')] }
  table.run words fun a => do
    if a.operands.isEmpty then return ← missingOperand "operand"
    let m ← get
    forEach a.operands fun t => do
      match m.resolveFrom m.process.directory (a.has 'L') t with
      | .ok (.taken address kind) =>
        match a.value? 'c', a.value? 'p' with
        | _, some form =>
          let (form, _) := Printf.escapes .program false (form.length + 1) form
          Exec.print (factsIn m t address kind form)
        | some form, none => Exec.print (factsIn m t address kind form ++ text "\n")
        | none, none => Exec.print (text "  File: " ++ t ++ text "\n")
        return true
      | found =>
        let e := match found with
          | .error e => e
          | .ok _ => .noEntry
        complain (text "cannot statx " ++ inQuotes t ++ text ": " ++ e.reason)
        return false

/-! ## Where paths lead -/

/-- How much of a path has to exist. -/
inductive Demand where
  | all
  | butLast
  | nothing
  deriving DecidableEq, Repr

/-- The address of a path whose end may be missing. -/
def addressFrom (m : Machine) : (fuel : Nat) → (directory : Address) → List Text → Address
  | 0, directory, _ => directory
  | _, directory, [] => directory
  | fuel + 1, directory, name :: rest =>
    if name = text "." then addressFrom m fuel directory rest
    else if name = text ".." then addressFrom m fuel directory.dropLast rest
    else
      let address := directory ++ [name.widen]
      match m.kind? address with
      | some (.link target) =>
        addressFrom m fuel (if target.head? = some ('/' : CodePoint) then [] else directory)
          (Machine.namesOf target ++ rest)
      | _ => addressFrom m fuel address rest

/-- The path without links that a path leads to. -/
def canonical (m : Machine) (demand : Demand) (t : Text) : Except Errno Text :=
  match m.resolveFrom m.process.directory true t, demand with
  | .ok (.taken address _), _ => .ok (pathOf address)
  | .ok (.free address _), .butLast => .ok (pathOf address)
  | .ok (.free _ _), .all => .error .noEntry
  | _, .nothing =>
    if t.isEmpty then .error .noEntry
    else
      let start := if t.head? = some ('/' : CodePoint) then [] else m.process.directory
      .ok (pathOf (addressFrom m 1000 start (Machine.namesOf t)))
  | .error e, _ => .error e

/-- Shows what links stand for, or where paths lead. -/
def readlink : Utility := fun words => do
  let table : OptionTable := { letters := "efmnqsvz", names := [
    ("canonicalize", .flag, 'f'), ("canonicalize-existing", .flag, 'e'),
    ("canonicalize-missing", .flag, 'm'), ("no-newline", .flag, 'n'), ("verbose", .flag, 'v')] }
  table.run words fun a => do
    if a.operands.isEmpty then return ← missingOperand "operand"
    let m ← get
    let stop := if a.has 'n' && a.operands.length = 1 then [] else text "\n"
    forEach a.operands fun t => do
      let found : Except Errno Text := match a.last? "efm" with
        | some c => canonical m (if c = 'e' then .all else if c = 'f' then .butLast else .nothing) t
        | none =>
          match m.resolveFrom m.process.directory false t with
          | .ok (.taken _ (.link target)) => .ok target
          | .ok (.taken _ _) => .error .invalid
          | .ok (.free _ _) => .error .noEntry
          | .error e => .error e
      match found with
      | .ok path => Exec.print (path ++ stop); return true
      | .error e =>
        if a.has 'v' then complain (named t ++ text ": " ++ e.reason)
        return false

/-- The path from one address to another. -/
def pathBetween (source goal : List Text) : Text :=
  match source, goal with
  | a :: as, b :: bs => if a = b then pathBetween as bs else far (a :: as) (b :: bs)
  | as, bs => far as bs
where
  /-- The path between addresses that have nothing in common. -/
  far (source goal : List Text) : Text :=
    match source.map (fun _ => text "..") ++ goal with
    | [] => text "."
    | names => List.intercalate (text "/") names

/-- Shows where paths lead. -/
def realpath : Utility := fun words => do
  let table : OptionTable := { letters := "eLmPqsz", names := [
    ("canonicalize-existing", .flag, 'e'), ("canonicalize-missing", .flag, 'm'),
    ("no-symlinks", .flag, 's'), ("strip", .flag, 's'), ("quiet", .flag, 'q'),
    ("relative-to", .value, 't'), ("zero", .flag, 'z')] }
  table.run words fun a => do
    if a.operands.isEmpty then return ← missingOperand "operand"
    let m ← get
    let demand := match a.last? "em" with
      | some c => if c = 'e' then Demand.all else .nothing
      | none => .butLast
    forEach a.operands fun t => do
      match canonical m demand t with
      | .ok path =>
        let shown := match a.value? 't' with
          | some base =>
            match canonical m .nothing base with
            | .ok base => pathBetween (Machine.namesOf base) (Machine.namesOf path)
            | .error _ => path
          | none => path
        Exec.print (shown ++ text "\n")
        return true
      | .error e =>
        if !a.has 'q' then complain (named t ++ text ": " ++ e.reason)
        return false

end Utility

end Shell

end AgentWorkshop
