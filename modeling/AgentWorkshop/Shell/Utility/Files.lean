import AgentWorkshop.Shell.Utility.Listing

/-!
# Programs that change files

They make, remove, copy, move and link files and directories and set their
permissions.
-/

namespace AgentWorkshop

namespace Shell

namespace Utility

/-- Asks a question on the error stream. Answers whether the next line of the
input says yes. -/
def confirm (question : Text) : Exec Bool := do
  let _ ← Exec.write? 2 question.toBytes
  let line ← answer 1000
  return line.head?.any fun c : CodePoint => c = 'y' || c = 'Y'
where
  /-- The next line of the input. -/
  answer : (fuel : Nat) → Exec Text
    | 0 => pure []
    | fuel + 1 => do
      match ← Exec.read 0 1 with
      | .ok (b :: _) =>
        if b = 10 then return []
        else return Text.ofBytes [b] ++ (← answer fuel)
      | _ => return []

/-- Where a path leads, with a free name as a failure. -/
def entryAt (t : Text) (follows : Bool := true) : Exec (Except Errno (Address × Kind)) := do
  return match ← Exec.resolve t follows with
    | .ok (.taken address kind) => .ok (address, kind)
    | .ok (.free _ _) => .error .noEntry
    | .error e => .error e

/-! ## Permissions -/

/-- The bits of permissions that one letter stands for, of one class of users. -/
def bitOf (mode : Nat) (isDirectory : Bool) (c : CodePoint) : Nat :=
  if c = 'r' then 0o444 else if c = 'w' then 0o222 else if c = 'x' then 0o111
  else if c = 'X' then if isDirectory || mode &&& 0o111 ≠ 0 then 0o111 else 0
  else if c = 's' then 0o6000 else if c = 't' then 0o1000
  else if c = 'u' then (mode / 64 % 8) * 0o111
  else if c = 'g' then (mode / 8 % 8) * 0o111
  else if c = 'o' then (mode % 8) * 0o111
  else 0

/-- The operations after the classes of users in a clause of a mode. -/
def applyOperations (mask who : Nat) (isOpen isDirectory : Bool) : (fuel : Nat) → Nat → Text →
    Option Nat
  | 0, _, _ => none
  | _, mode, [] => some mode
  | fuel + 1, mode, op :: rest =>
    let isLetter (c : CodePoint) : Bool := (text "rwxXstugo").contains c
    let letters := rest.takeWhile isLetter
    let all := (letters.map (bitOf mode isDirectory)).foldl (· ||| ·) 0
    let bits := all &&& who
    let bits := if isOpen then bits - (bits &&& mask) else bits
    let after := rest.dropWhile isLetter
    let goOn (mode : Nat) : Option Nat :=
      applyOperations mask who isOpen isDirectory fuel mode after
    if op = '+' then goOn (mode ||| bits)
    else if op = '-' then goOn (mode - (mode &&& bits))
    else if op = '=' then
      let kept := if isDirectory then who &&& 0o777 else who
      goOn ((mode - (mode &&& kept)) ||| bits)
    else none

/-- A mode changed by a clause. -/
def applyClause (mask : Nat) (isDirectory : Bool) (mode : Nat) (clause : Text) : Option Nat :=
  let isClass (c : CodePoint) : Bool := (text "ugoa").contains c
  let classes := clause.takeWhile isClass
  let bitsOf (c : CodePoint) : Nat :=
    if c = 'u' then 0o4700 else if c = 'g' then 0o2070 else if c = 'o' then 0o1007 else 0o7777
  let who := if classes.isEmpty then 0o7777 else (classes.map bitsOf).foldl (· ||| ·) 0
  let rest := clause.dropWhile isClass
  if rest.isEmpty then none
  else applyOperations mask who classes.isEmpty isDirectory (rest.length + 1) mode rest

/-- Permissions changed by a text, if it is one that says how. -/
def changedMode? (mask : Nat) (isDirectory : Bool) (mode : Nat) (t : Text) : Option Nat :=
  if !t.isEmpty && t.all fun c => (Printf.octal? c).isSome then
    let (n, _) := Printf.digitsWithin Printf.octal? 8 0 t.length t
    if n < 0o10000 then some n else none
  else
    (t.splitOn (',' : CodePoint)).foldl (fun found clause =>
      found.bind fun mode => applyClause mask isDirectory mode clause) (some mode)

/-- An address and all below it. -/
def withBelow (m : Machine) (address : Address) : List Address :=
  let below := (m.files.entries.map (·.1) ++ m.links.map (·.1)).filter fun a =>
    address.isPrefixOf a && a ≠ address
  address :: below.mergeSort fun a b => (pathOf a).precedes (pathOf b)

/-- Sets permissions. -/
def chmod : Utility := fun words => do
  /- A mode may begin with a hyphen. -/
  let isMode (t : Text) : Bool := match t with
    | c :: d :: _ => c = '-' && (text "rwxXst").contains d
    | _ => false
  let mode? := words.find? isMode
  let rest := match mode? with
    | some t => t :: words.filter (· ≠ t)
    | none => words
  let table : OptionTable := { letters := "Rcfv", names := [
    ("recursive", .flag, 'R'), ("silent", .flag, 'f'), ("quiet", .flag, 'f'),
    ("verbose", .flag, 'v'), ("changes", .flag, 'c')] }
  table.run (if mode?.isSome then rest.drop 1 else rest) fun a => do
    let report (t : Text) (before after : Nat) : Exec Unit := do
      let shown (n : Nat) : Text :=
        Text.padZeros 4 ((Nat.toDigits 8 n).map CodePoint.ofChar) ++ text " (" ++ modeLetters n ++ text ")"
      if before ≠ after && (a.has 'c' || a.has 'v') then
        Exec.print (text "mode of " ++ inQuotes t ++ text " changed from " ++ shown before ++
          text " to " ++ shown after ++ text "\n")
      else if a.has 'v' then
        Exec.print (text "mode of " ++ inQuotes t ++ text " retained as " ++ shown after ++ text "\n")
    if mode?.isSome && a.operands.isEmpty then return ← missingOperand "operand"
    match mode?.toList ++ a.operands with
    | [] => missingOperand "operand"
    | [mode] => misused (text "missing operand after " ++ cited mode)
    | mode :: files =>
      let mask := (← Exec.process).mask
      if (changedMode? mask false 0 mode).isNone then
        return ← misused (text "invalid mode: " ++ cited mode)
      forEach files fun t => do
        match ← entryAt t with
        | .ok (top, _) =>
          let m ← get
          let addresses := if a.has 'R' then withBelow m top else [top]
          addresses.forM fun address => do
            let isDirectory := m.kind? address = some .directory
            match changedMode? mask isDirectory (m.modeOf address) mode with
            | some n =>
              let below := address.drop top.length
              let name := below.foldl (fun path name => path ++ text "/" ++ name.narrow) t
              report name (m.modeOf address) n
              Exec.setMode address n
            | none => pure ()
          return true
        | .error e =>
          if a.has 'v' then
            Exec.print (text "failed to change mode of " ++ inQuotes t ++ text " from 0000 (---------) to 0000 (---------)\n")
          if !a.has 'f' then
            complain (text "cannot access " ++ inQuotes t ++ text ": " ++ e.reason)
          return false

/-! ## Making -/

/-- Makes one directory. -/
def makeDirectory (t : Text) : Exec (Option Errno) := do
  match ← Exec.resolve t false with
  | .ok (.free address _) =>
    Exec.putDirectory address
    return none
  | .ok (.taken _ _) => return some .exists
  | .error e => return some e

/-- Makes directories. -/
def mkdir : Utility := fun words => do
  let table : OptionTable := { letters := "m:pvZ", names := [
    ("mode", .value, 'm'), ("parents", .flag, 'p'), ("verbose", .flag, 'v')] }
  table.run words fun a => do
    if a.operands.isEmpty then return ← missingOperand "operand"
    match a.value? 'm' with
    | some mode =>
      if (changedMode? 0 true 0o777 mode).isNone then
        complain (text "invalid mode " ++ cited mode)
        return 1
    | none => pure ()
    let report (t : Text) : Exec Unit :=
      if a.has 'v' then
        Exec.print (text "mkdir: created directory " ++ inQuotes t ++ text "\n")
      else pure ()
    let refuse (t : Text) (e : Errno) : Exec Bool := do
      complain (text "cannot create directory " ++ inQuotes t ++ text ": " ++ e.reason)
      return false
    let finish (t : Text) : Exec Unit := do
      match a.value? 'm', ← entryAt t with
      | some mode, .ok (address, _) =>
        match changedMode? 0 true 0o777 mode with
        | some n => Exec.setMode address n
        | none => pure ()
      | _, _ => pure ()
    forEach a.operands fun t => do
      if a.has 'p' then
        let starts := startsOf t
        match ← makeStarts report starts with
        | some (path, e) => refuse path e
        | none => return true
      else
        match ← makeDirectory t with
        | none => report t; finish t; return true
        | some e => refuse t e
where
  /-- The paths to the directories on the way of a path. -/
  startsOf (t : Text) : List Text :=
    let isSlash (c : CodePoint) : Bool := c = '/'
    let ends := (List.range t.length).filter fun i =>
      isSlash (t.getD (i + 1) '/') && !isSlash (t.getD i '/')
    if t.isEmpty then [[]] else ends.map fun i => t.take (i + 1)
  /-- Makes each of some directories that is missing. -/
  makeStarts (report : Text → Exec Unit) : List Text → Exec (Option (Text × Errno))
    | [] => return none
    | t :: rest => do
      match ← makeDirectory t with
      | none => report t; makeStarts report rest
      | some .exists =>
        if ← Exec.isDirectory t then makeStarts report rest
        else return some (t, if rest.isEmpty then .exists else .notDirectory)
      | some e => return some (t, e)

/-- Makes empty files where there are none. -/
def touch : Utility := fun words => do
  let table : OptionTable := { letters := "acd:fhmr:t:", names := [
    ("no-create", .flag, 'c'), ("date", .value, 'd'), ("reference", .value, 'r'),
    ("time", .value, 'T'), ("no-dereference", .flag, 'h')] }
  table.run words fun a => do
    if a.operands.isEmpty then return ← missingOperand "file operand"
    forEach a.operands fun t => do
      let refuse (what : String) (e : Errno) : Exec Bool := do
        complain (text what ++ inQuotes t ++ text ": " ++ e.reason)
        return false
      match ← Exec.resolve t with
      | .ok (.taken _ _) => return true
      | .ok (.free address asDirectory) =>
        if a.has 'c' then return true
        if asDirectory then refuse "setting times of " .noEntry
        else
          Exec.putFile address []
          return true
      | .error e => if a.has 'c' && e = .noEntry then return true else refuse "cannot touch " e

/-- Sets the lengths of files. -/
def truncate : Utility := fun words => do
  let table : OptionTable := { letters := "cor:s:", names := [
    ("no-create", .flag, 'c'), ("reference", .value, 'r'), ("size", .value, 's')] }
  table.run words fun a => do
    match a.value? 's' with
    | none => misused (text "you must specify either '--size' or '--reference'")
    | some size =>
      let (sign, number) : Option CodePoint × Text := match size with
        | c :: rest => if (text "+-<>/%").contains c then (some c, rest) else (none, size)
        | [] => (none, [])
      match sizeOf? number with
      | none =>
        complain (text "Invalid number: " ++ cited size)
        return 1
      | some n =>
        if a.operands.isEmpty then return ← missingOperand "file operand"
        forEach a.operands fun t => do
          if a.has 'c' && (← Exec.kindOf? t).isNone then return true
          match ← Exec.fileToWrite t with
          | .error e =>
            complain (text "cannot open " ++ inQuotes t ++ text " for writing: " ++ e.reason)
            return false
          | .ok address =>
            let before := (← get).contentsAt address
            let length := match sign with
              | some c =>
                if c = '+' then before.length + n else if c = '-' then before.length - n
                else if c = '<' then min before.length n else if c = '>' then max before.length n
                else if n = 0 then 0
                else if c = '/' then before.length / n * n else (before.length + n - 1) / n * n
              | none => n
            Exec.putFile address (before.take length ++ List.replicate (length - before.length) 0)
            return true
where
  /-- The number of bytes that a text writes. -/
  sizeOf? (t : Text) : Option Nat :=
    let digits := t.takeWhile CodePoint.isAsciiDigit
    let n := digits.foldl (fun n c => 10 * n + (c.val - 0x30)) 0
    let unit := t.dropWhile CodePoint.isAsciiDigit
    if digits.isEmpty then none
    else if unit.isEmpty then some n
    else if unit = text "K" || unit = text "KiB" then some (n * 1024)
    else if unit = text "M" || unit = text "MiB" then some (n * 1048576)
    else if unit = text "KB" then some (n * 1000)
    else none

/-- Makes a file or directory with a new name and prints it. -/
def mktemp : Utility := fun words => do
  let table : OptionTable := { letters := "dp::qtu", names := [
    ("directory", .flag, 'd'), ("tmpdir", .maybe, 'p'), ("dry-run", .flag, 'u'),
    ("quiet", .flag, 'q')] }
  table.run words fun a => do
    let form := a.operands.headD (text "tmp.XXXXXXXXXX")
    let isMark (c : CodePoint) : Bool := c = 'X'
    let marks := (form.reverse.takeWhile isMark).length
    if marks < 3 then
      complain (text "too few X's in template " ++ cited form)
      return 1
    let inTemporary := a.operands.isEmpty || a.has 'p' || a.has 't'
    let directory := match a.value? 'p' with
      | some (c :: d) => c :: d
      | _ => text "/tmp"
    let n := (← get).nextProcess
    modify fun m => { m with nextProcess := n + 1 }
    let name := form.take (form.length - marks) ++ Text.padZeros marks (Text.ofNat n)
    let path := if inTemporary then directory ++ text "/" ++ name else name
    match ← Exec.resolve path with
    | .ok (.free address _) =>
      if !a.has 'u' then
        if a.has 'd' then
          Exec.putDirectory address
          Exec.setMode address 0o700
        else
          Exec.putFile address []
          Exec.setMode address 0o600
      Exec.print (path ++ text "\n")
      return 0
    | found =>
      let e := match found with
        | .error e => e
        | .ok _ => .exists
      complain (text "failed to create file via template " ++ cited form ++ text ": " ++
        e.reason)
      return 1

/-! ## Removing -/

/-- A path whose last name is a dot or two. -/
def endsInDots (t : Text) : Bool :=
  [text ".", text ".."].contains (lastName t)

/-- Removes files, and with `-r` directories. -/
def rm : Utility := fun words => do
  let table : OptionTable := { letters := "dfiIrRv", names := [
    ("dir", .flag, 'd'), ("force", .flag, 'f'), ("interactive", .maybe, 'i'),
    ("recursive", .flag, 'r'), ("verbose", .flag, 'v'), ("no-preserve-root", .flag, 'N'),
    ("preserve-root", .maybe, 'P'), ("one-file-system", .flag, 'O')] }
  table.run words fun a => do
    let isDeep := a.has 'r' || a.has 'R'
    let isForced := a.last? "fi" = some ('f' : CodePoint)
    let asks := a.last? "fi" = some ('i' : CodePoint)
    if a.operands.isEmpty then
      return ← if a.has 'f' then pure 0 else missingOperand "operand"
    let refuse (t : Text) (e : Errno) : Exec Bool := do
      complain (text "cannot remove " ++ inQuotes t ++ text ": " ++ e.reason)
      return false
    let report (what : String) (t : Text) : Exec Unit :=
      if a.has 'v' then Exec.print (text what ++ inQuotes t ++ text "\n") else pure ()
    forEach a.operands fun t => do
      if isDeep && endsInDots t then
        complain (text "refusing to remove '.' or '..' directory: skipping " ++ inQuotes t)
        return false
      match ← entryAt t false with
      | .error e =>
        if a.has 'f' && (e = .noEntry || e = .notDirectory) then return true else refuse t e
      | .ok (address, .directory) =>
        let m ← get
        if !isDeep && !a.has 'd' then refuse t .isDirectory
        else if address.isEmpty then
          complain (text "it is dangerous to operate recursively on '/'")
          complain (text "use --no-preserve-root to override this failsafe")
          return false
        else if !isDeep && !(m.namesIn address).isEmpty then refuse t .notEmpty
        else
          let isEmpty := (m.namesIn address).isEmpty
          if asks && !isEmpty then
            if !(← confirm ((← ownName) ++ text ": descend into directory " ++ inQuotes t ++ text "? ")) then
              return true
          else if asks then
            if !(← confirm ((← ownName) ++ text ": remove directory " ++ inQuotes t ++ text "? ")) then
              return true
          (withBelow m address).reverse.forM fun below => do
            let name := List.intercalate (text "/")
              (withoutSlashes t :: (below.drop address.length).map Text.narrow)
            report (if m.kind? below = some .directory then "removed directory " else "removed ") name
          Exec.remove address
          return true
      | .ok (address, kind) =>
        if asks && !isForced then
          let m ← get
          let what := match kind with
            | .link _ => "symbolic link "
            | _ => if (m.contentsAt address).isEmpty then "regular empty file " else "regular file "
          if !(← confirm ((← ownName) ++ text ": remove " ++ text what ++ inQuotes t ++ text "? ")) then
            return true
        Exec.remove address
        report "removed " t
        return true

/-- Removes empty directories. -/
def rmdir : Utility := fun words => do
  let table : OptionTable := { letters := "pv", names := [
    ("parents", .flag, 'p'), ("verbose", .flag, 'v'),
    ("ignore-fail-on-non-empty", .flag, 'I')] }
  table.run words fun a => do
    if a.operands.isEmpty then return ← missingOperand "operand"
    let removeOne (t : Text) : Exec (Option Errno) := do
      if a.has 'v' then Exec.print (text "rmdir: removing directory, " ++ inQuotes t ++ text "\n")
      if lastName t = text "." then return some .invalid
      match ← entryAt t false with
      | .ok (address, .directory) =>
        if ((← get).namesIn address).isEmpty then
          Exec.remove address
          return none
        else return some .notEmpty
      | .ok (_, _) => return some .notDirectory
      | .error e => return some e
    forEach a.operands fun t => do
      match ← removeOne t with
      | some e =>
        if a.has 'I' && e = .notEmpty then return true
        complain (text "failed to remove " ++ inQuotes t ++ text ": " ++ e.reason)
        return false
      | none =>
        if a.has 'p' then above removeOne (a.has 'I') (t.length + 1) t else return true
where
  /-- Removes the directories above a path. -/
  above (removeOne : Text → Exec (Option Errno)) (isForgiving : Bool) : (fuel : Nat) → Text →
      Exec Bool
    | 0, _ => return true
    | fuel + 1, t => do
      let t := withoutSlashes t
      if !t.contains ('/' : CodePoint) then return true
      let parent := withoutSlashes (t.reverse.dropWhile fun c : CodePoint => c ≠ '/').reverse
      if parent.isEmpty then return true
      match ← removeOne parent with
      | none => above removeOne isForgiving fuel parent
      | some e =>
        if isForgiving && e = .notEmpty then return true
        complain (text "failed to remove directory " ++ inQuotes parent ++ text ": " ++
          e.reason)
        return false

/-- Removes one name. -/
def unlink : Utility := fun words => do
  match words with
  | [] => missingOperand "operand"
  | [t] =>
    match ← entryAt t false with
    | .ok (_, .directory) =>
      complain (text "cannot unlink " ++ inQuotes t ++ text ": " ++ Errno.reason .isDirectory)
      return 1
    | .ok (address, _) => Exec.remove address; return 0
    | .error e =>
      complain (text "cannot unlink " ++ inQuotes t ++ text ": " ++ e.reason)
      return 1
  | _ :: extra :: _ => misused (text "extra operand " ++ cited extra)

/-! ## Copying, moving and linking -/

/-- What is done with sources and goals. -/
structure Transfer where
  moves : Bool
  isDeep : Bool
  /-- Links are copied as links. -/
  keepsLinks : Bool
  isForced : Bool
  asks : Bool
  keepsGoal : Bool
  keepsModes : Bool
  isLoud : Bool

/-- Joins a directory and a name. -/
def inside (directory name : Text) : Text :=
  if directory.getLast? = some ('/' : CodePoint) then directory ++ name
  else directory ++ text "/" ++ name

/-- Complains and fails. -/
def refuse (t : Text) : Exec Bool := do
  complain t
  return false

namespace Transfer

/-- Reports what was done. -/
def report (r : Transfer) (source goal : Text) : Exec Unit :=
  if r.isLoud then
    Exec.print ((if r.moves then text "renamed " else []) ++ inQuotes source ++ text " -> " ++
      inQuotes goal ++ text "\n")
  else pure ()

/-- Copies an entry and all below it to a free address. -/
def copyTree (r : Transfer) (source goal : Address) : Exec Unit := do
  let m ← get
  (withBelow m source).forM fun address => do
    if goal.isPrefixOf address then return
    let target := goal ++ address.drop source.length
    match m.kind? address with
    | some .directory =>
      if (← get).kind? target ≠ some .directory then Exec.putDirectory target
      if r.keepsModes then Exec.setMode target (m.modeOf address)
    | some (.link path) =>
      Exec.remove target
      Exec.putLink target path
    | some .file =>
      let isNew := ((← get).kind? target).isNone
      Exec.putFile target (m.contentsAt address)
      if r.keepsModes then Exec.setMode target (m.modeOf address)
      else if isNew then Exec.setNewMode target (m.modeOf address)
    | none => pure ()

/-- Copies a file or directory. -/
def copyOne (r : Transfer) (source goal : Text) : Exec Bool := do
  match ← entryAt source (!r.keepsLinks) with
  | .error e => refuse (text "cannot stat " ++ inQuotes source ++ text ": " ++ e.reason)
  | .ok (address, kind) =>
    let isDirectory := kind = .directory
    if isDirectory && !r.isDeep then
      return ← refuse (text "-r not specified; omitting directory " ++ inQuotes source)
    let create (target : Address) : Exec Bool := do
      r.report source goal
      r.copyTree address target
      if isDirectory && address.isPrefixOf target then
        refuse (text "cannot copy a directory, " ++ inQuotes source ++ text ", into itself, " ++
          inQuotes goal)
      else return true
    let cannot (e : Errno) : Exec Bool :=
      refuse (text "cannot create " ++ text (if isDirectory then "directory " else
        "regular file ") ++ inQuotes goal ++ text ": " ++ e.reason)
    match ← Exec.resolve goal (!r.keepsLinks || kind = .file) with
    | .error e => cannot e
    | .ok (.free target asDirectory) =>
      match ← entryAt goal false with
      | .ok (_, .link _) =>
        return ← refuse (text "not writing through dangling symlink " ++ inQuotes goal)
      | _ => pure ()
      if asDirectory && !isDirectory then cannot .notDirectory else create target
    | .ok (.taken target goalKind) =>
      if target = address then
        refuse (inQuotes source ++ text " and " ++ inQuotes goal ++ text " are the same file")
      else if goalKind = .directory && !isDirectory then
        refuse (text "cannot overwrite directory " ++ inQuotes goal ++ text " with non-directory")
      else if isDirectory && goalKind ≠ .directory then
        refuse (text "cannot overwrite non-directory " ++ inQuotes goal ++ text " with directory " ++
          inQuotes source)
      else if !isDirectory && r.keepsGoal then return true
      else if !isDirectory && r.asks then
        if ← confirm ((← ownName) ++ text ": overwrite " ++ inQuotes goal ++ text "? ") then
          create target
        else return false
      else create target

/-- Moves a file or directory. -/
def moveOne (r : Transfer) (source goal : Text) : Exec Bool := do
  match ← entryAt source false with
  | .error e => refuse (text "cannot stat " ++ inQuotes source ++ text ": " ++ e.reason)
  | .ok (address, kind) =>
    let isDirectory := kind = .directory
    let cannot (e : Errno) : Exec Bool :=
      refuse (text "cannot move " ++ inQuotes source ++ text " to " ++ inQuotes goal ++ text ": " ++
        e.reason)
    let perform (target : Address) : Exec Bool := do
      if isDirectory && address.isPrefixOf target then
        refuse (text "cannot move " ++ inQuotes source ++ text " to a subdirectory of itself, " ++
          inQuotes goal)
      else if address.isEmpty || endsInDots source then cannot .busy
      else
        Exec.remove target
        Exec.move address target
        r.report source goal
        return true
    match ← Exec.resolve goal false with
    | .error e => cannot e
    | .ok (.free target asDirectory) =>
      if asDirectory && !isDirectory then cannot .notDirectory else perform target
    | .ok (.taken target goalKind) =>
      if target = address then
        refuse (inQuotes source ++ text " and " ++ inQuotes goal ++ text " are the same file")
      else if goalKind = .directory && !isDirectory then
        refuse (text "cannot overwrite directory " ++ inQuotes goal ++ text " with non-directory")
      else if isDirectory && goalKind ≠ .directory then
        refuse (text "cannot overwrite non-directory " ++ inQuotes goal ++ text " with directory " ++
          inQuotes source)
      else if r.keepsGoal then return true
      else if isDirectory && !((← get).namesIn target).isEmpty then
        if address.isPrefixOf target then perform target
        else refuse (text "cannot overwrite " ++ inQuotes goal ++ text ": " ++ Errno.reason .notEmpty)
      else if r.asks then
        if ← confirm ((← ownName) ++ text ": overwrite " ++ inQuotes goal ++ text "? ") then perform target
        else return false
      else perform target

end Transfer

/-- Runs a program on sources and a goal, the last operand, which may be a
directory to work in. -/
def eachInto (directory : Option Text) (isPlain : Bool)
    (operands : List Text) (act : Text → Text → Exec Bool) : Exec Nat := do
  let into (directory : Text) (sources : List Text) : Exec Nat :=
    forEach sources fun t => act t (inside directory (lastName (withoutSlashes t)))
  match directory, operands with
  | some d, sources =>
    if sources.isEmpty then return ← missingOperand "file operand"
    if ← Exec.isDirectory d then into d sources
    else
      let e := match ← entryAt d with
        | .ok _ => Errno.notDirectory
        | .error e => e
      complain (text "target directory " ++ inQuotes d ++ text ": " ++ e.reason)
      return 1
  | none, [] => missingOperand "file operand"
  | none, [one] => misused (text "missing destination file operand after " ++ inQuotes one)
  | none, first :: second :: rest =>
    let goal := (second :: rest).getLast?.getD []
    let sources := first :: (second :: rest).dropLast
    if isPlain then
      match rest with
      | [] => forEach sources fun t => act t goal
      | _ => misused (text "extra operand " ++ inQuotes goal)
    else if ← Exec.isDirectory goal then into goal sources
    else if sources.length = 1 then forEach sources fun t => act t goal
    else
      let e := match ← entryAt goal with
        | .ok _ => Errno.notDirectory
        | .error e => e
      complain (text "target " ++ inQuotes goal ++ text ": " ++ e.reason)
      return 1

/-- Copies files and directories. -/
def cp : Utility := fun words => do
  let table : OptionTable := { letters := "abdfHilLnprst:uvxPRS:TZ", names := [
    ("archive", .flag, 'a'), ("force", .flag, 'f'), ("interactive", .flag, 'i'),
    ("no-clobber", .flag, 'n'), ("recursive", .flag, 'r'), ("verbose", .flag, 'v'),
    ("preserve", .maybe, 'p'), ("target-directory", .value, 't'),
    ("no-target-directory", .flag, 'T'), ("update", .maybe, 'u'),
    ("dereference", .flag, 'L'), ("no-dereference", .flag, 'P')] }
  table.run words fun a => do
    let isDeep := (a.last? "arR").isSome
    let r : Transfer := {
      moves := false, isDeep
      keepsLinks := (isDeep || (a.last? "dP").isSome) && !a.has 'L'
      isForced := a.has 'f', asks := a.last? "ni" = some ('i' : CodePoint)
      keepsGoal := a.last? "ni" = some ('n' : CodePoint)
      keepsModes := (a.last? "ap").isSome, isLoud := a.has 'v' }
    eachInto (a.value? 't') (a.has 'T') a.operands r.copyOne

/-- Moves files and directories. -/
def mv : Utility := fun words => do
  let table : OptionTable := { letters := "bfint:uvS:TZ", names := [
    ("force", .flag, 'f'), ("interactive", .flag, 'i'), ("no-clobber", .flag, 'n'),
    ("verbose", .flag, 'v'), ("target-directory", .value, 't'),
    ("no-target-directory", .flag, 'T'), ("update", .maybe, 'u')] }
  table.run words fun a => do
    let r : Transfer := {
      moves := true, isDeep := true, keepsLinks := true, keepsModes := true
      isForced := a.has 'f', asks := a.last? "fni" = some ('i' : CodePoint)
      keepsGoal := a.last? "fni" = some ('n' : CodePoint), isLoud := a.has 'v' }
    eachInto (a.value? 't') (a.has 'T') a.operands r.moveOne

/-- Makes links and further names. -/
def ln : Utility := fun words => do
  let table : OptionTable := { letters := "bdfiLnPrst:vFS:T", names := [
    ("symbolic", .flag, 's'), ("force", .flag, 'f'), ("no-dereference", .flag, 'n'),
    ("verbose", .flag, 'v'), ("target-directory", .value, 't'),
    ("no-target-directory", .flag, 'T')] }
  table.run words fun a => do
    let isSoft := a.has 's'
    if a.has 'r' && !isSoft && !a.operands.isEmpty then
      complain (text "cannot do --relative without --symbolic")
      return 1
    let link (source goal : Text) : Exec Bool := do
      let refuse (t : Text) : Exec Bool := do
        complain t
        return false
      let what := if isSoft then "symbolic link " else "hard link "
      let cannot (e : Errno) : Exec Bool :=
        refuse (text "failed to create " ++ text what ++ inQuotes goal ++
          (if isSoft || e = .exists then [] else text " => " ++ inQuotes source) ++
          text ": " ++ e.reason)
      let perform (target : Address) : Exec Bool := do
        if isSoft then
          Exec.putLink target source
        else
          match ← entryAt source false with
          | .ok (address, .link path) => let _ := address; Exec.putLink target path
          | .ok (address, _) => Exec.putFile target ((← get).contentsAt address)
          | .error _ => pure ()
        if a.has 'v' then
          Exec.print (inQuotes goal ++ text (if isSoft then " -> " else " => ") ++ inQuotes source ++
            text "\n")
        return true
      if !isSoft then
        match ← entryAt source false with
        | .error e => return ← refuse (text "failed to access " ++ inQuotes source ++ text ": " ++ e.reason)
        | .ok (_, .directory) =>
          return ← refuse (named source ++ text ": hard link not allowed for directory")
        | .ok _ => pure ()
      match ← Exec.resolve goal false with
      | .error e => cannot e
      | .ok (.free target asDirectory) => if asDirectory then cannot .noEntry else perform target
      | .ok (.taken target kind) =>
        if !a.has 'f' then cannot .exists
        else if kind = .directory then
          refuse (named goal ++ text ": cannot overwrite directory")
        else
          match ← entryAt source false with
          | .ok (address, _) =>
            if address = target then
              return ← refuse (inQuotes source ++ text " and " ++ inQuotes goal ++
                text " are the same file")
          | .error _ => pure ()
          Exec.remove target
          perform target
    match a.value? 't', a.operands with
    | none, [] => missingOperand "file operand"
    | none, [one] =>
      if a.has 'T' then misused (text "missing destination file operand after " ++ inQuotes one)
      else forEach [one] fun t => link t (inside (text ".") (lastName (withoutSlashes t)))
    | directory, operands =>
      let goal := operands.getLast?.getD []
      let isLink := match ← Exec.kindOf? goal false with
        | some (.link _) => true
        | _ => false
      eachInto directory (a.has 'T' || (a.has 'n' && isLink && operands.length = 2)) operands link

end Utility

end Shell

end AgentWorkshop
