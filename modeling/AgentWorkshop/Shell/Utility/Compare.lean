import AgentWorkshop.Shell.Difference
import AgentWorkshop.Shell.Utility.Part

/-!
# Comparing files

`diff` prints how files or directories differ.
-/

namespace AgentWorkshop

namespace Shell

namespace Utility

/-- How differences are shown. -/
inductive DiffForm where
  | plain
  /-- With so many lines around them. -/
  | unified (context : Nat)
  | context (context : Nat)
  /-- Only that there are some. -/
  | brief

/-- How files are compared. -/
structure DiffStyle where
  form : DiffForm
  ignoresCase : Bool
  /-- Runs of blanks are alike. -/
  joinsBlanks : Bool
  dropsBlanks : Bool
  /-- Blanks at the ends of lines do not count. -/
  dropsLastBlanks : Bool
  takesAll : Bool
  isDeep : Bool
  /-- Files that are not there are empty. -/
  takesMissing : Bool
  tellsSame : Bool
  labels : List Text
  /-- The options as they were given. -/
  options : List Text

namespace DiffStyle

/-- A line as it is compared. -/
def key (s : DiffStyle) (l : Text) : Text :=
  let isBlank (c : CodePoint) : Bool := (text " \t\n\r\x0b\x0c").contains c
  let trimmed (t : Text) : Text := (t.reverse.dropWhile isBlank).reverse
  let l := if s.ignoresCase then Text.asciiLower l else l
  if s.dropsBlanks then l.filter fun c => !isBlank c
  else if s.joinsBlanks then
    (trimmed l).foldr (fun c t =>
      if !isBlank c then c :: t
      else if t.head? = some (' ' : CodePoint) then t else (' ' : CodePoint) :: t) []
  else if s.dropsLastBlanks then trimmed l
  else l

/-- Lines after a mark each. -/
def marked (mark : String) (ls : List Text) : Text :=
  ls.flatMap fun l =>
    text mark ++ l ++
      if l.getLast? = some ('\n' : CodePoint) then [] else text "\n\\ No newline at end of file\n"

/-- The numbers of a run of lines; an empty one is shown by the line before it. -/
def plainRange (start count : Nat) : Text :=
  if count ≤ 1 then Text.ofNat (start + count)
  else Text.ofNat (start + 1) ++ text "," ++ Text.ofNat (start + count)

/-- A hunk with its lines. -/
def plainHunk (as bs : Array Text) (h : Difference.Hunk) : Text :=
  let letter := if h.firstCount = 0 then text "a" else if h.secondCount = 0 then text "d"
    else text "c"
  plainRange h.first h.firstCount ++ letter ++ plainRange h.second h.secondCount ++ text "\n" ++
    marked "< " (as.toList.drop h.first |>.take h.firstCount) ++
    (if h.firstCount = 0 || h.secondCount = 0 then [] else text "---\n") ++
    marked "> " (bs.toList.drop h.second |>.take h.secondCount)

/-- The numbers of a run of lines: its first line and how many there are. -/
def unifiedRange (start count : Nat) : Text :=
  if count = 1 then Text.ofNat (start + 1)
  else Text.ofNat (if count = 0 then start else start + 1) ++ text "," ++ Text.ofNat count

/-- The lines of hunks and those between them. -/
def unifiedLines (as bs : Array Text) : (at_ : Nat) → (stop : Nat) → List Difference.Hunk → Text
  | at_, stop, [] => marked " " (as.toList.drop at_ |>.take (stop - at_))
  | at_, stop, h :: rest =>
    marked " " (as.toList.drop at_ |>.take (h.first - at_)) ++
      marked "-" (as.toList.drop h.first |>.take h.firstCount) ++
      marked "+" (bs.toList.drop h.second |>.take h.secondCount) ++
      unifiedLines as bs h.firstEnd stop rest

/-- Where a group of hunks begins and ends in a list, with lines around them. -/
def around (context size first last : Nat) : Nat × Nat :=
  (first - context, min size (last + context))

/-- A group of hunks with the lines around them. -/
def unifiedGroup (context : Nat) (as bs : Array Text) : List Difference.Hunk → Text
  | [] => []
  | h :: rest =>
    let last := rest.getLast?.getD h
    let (start, stop) := around context as.size h.first last.firstEnd
    let (otherStart, otherStop) := around context bs.size h.second last.secondEnd
    text "@@ -" ++ unifiedRange start (stop - start) ++ text " +" ++
      unifiedRange otherStart (otherStop - otherStart) ++ text " @@\n" ++
      unifiedLines as bs start stop (h :: rest)

/-- The numbers of a run of lines: its first and its last line. -/
def contextRange (start stop : Nat) : Text :=
  if stop ≤ start + 1 then Text.ofNat stop
  else Text.ofNat (start + 1) ++ text "," ++ Text.ofNat stop

/-- The lines of one list in a group; those of `runs` are changed by a mark. -/
def contextLines (ls : Array Text) (start stop : Nat) (runs : List (Nat × Nat × String)) : Text :=
  (List.range (stop - start)).flatMap fun k =>
    let i := start + k
    let mark := match runs.find? fun r => decide (r.1 ≤ i) && decide (i < r.2.1) with
      | some r => r.2.2
      | none => "  "
    marked mark ((ls[i]?).toList)

/-- A group of hunks, first as it was and then as it is. -/
def contextGroup (context : Nat) (as bs : Array Text) : List Difference.Hunk → Text
  | [] => []
  | h :: rest =>
    let all := h :: rest
    let last := rest.getLast?.getD h
    let (start, stop) := around context as.size h.first last.firstEnd
    let (otherStart, otherStop) := around context bs.size h.second last.secondEnd
    let removed := all.map fun h => (h.first, h.firstEnd, if h.secondCount = 0 then "- " else "! ")
    let added := all.map fun h => (h.second, h.secondEnd, if h.firstCount = 0 then "+ " else "! ")
    text "***************\n*** " ++ contextRange start stop ++ text " ****\n" ++
      (if all.any fun h => h.firstCount ≠ 0 then contextLines as start stop removed else []) ++
      text "--- " ++ contextRange otherStart otherStop ++ text " ----\n" ++
      if all.any fun h => h.secondCount ≠ 0 then contextLines bs otherStart otherStop added else []

/-- The time that is shown for a file. -/
def shownTime : Text := text "1970-01-01 00:00:00.000000000 +0000"

/-- How two texts differ, with the names of their files. -/
def render (s : DiffStyle) (first second : Text) (hunks : List Difference.Hunk)
    (as bs : Array Text) : Text :=
  let title (i : Nat) (name : Text) : Text := match s.labels[i]? with
    | some label => label
    | none => name ++ text "\t" ++ shownTime
  match s.form with
  | .plain => hunks.flatMap (plainHunk as bs)
  | .unified n =>
    text "--- " ++ title 0 first ++ text "\n+++ " ++ title 1 second ++ text "\n" ++
      (Difference.grouped (2 * n) hunks).flatMap (unifiedGroup n as bs)
  | .context n =>
    text "*** " ++ title 0 first ++ text "\n--- " ++ title 1 second ++ text "\n" ++
      (Difference.grouped (2 * n) hunks).flatMap (contextGroup n as bs)
  | .brief => text "Files " ++ first ++ text " and " ++ second ++ text " differ\n"

end DiffStyle

/-- The contents of a file that may have to be there. -/
def contentsFor (s : DiffStyle) (file : Text) : Exec (Except Errno Bytes) := do
  match ← contentsOf file with
  | .error e => return if s.takesMissing && e = .noEntry then .ok [] else .error e
  | .ok bs => return .ok bs

/-- Compares two files; `heading` is printed above what is found. -/
def diffFiles (s : DiffStyle) (heading first second : Text) : Exec Nat := do
  match ← contentsFor s first, ← contentsFor s second with
  | .ok xs, .ok ys =>
    if xs = ys then
      if s.tellsSame then
        Exec.print (text "Files " ++ first ++ text " and " ++ second ++ text " are identical\n")
      return 0
    let isBrief : Bool := match s.form with
      | .brief => true
      | _ => false
    if !s.takesAll && !isBrief && (xs.contains 0 || ys.contains 0) then
      Exec.print (text "Binary files " ++ first ++ text " and " ++ second ++ text " differ\n")
      return 1
    let as := linesOf (Text.ofBytes xs)
    let bs := linesOf (Text.ofBytes ys)
    let horizon := match s.form with
      | .unified n | .context n => n
      | _ => 0
    let hunks := Difference.hunks horizon (as.map s.key) (bs.map s.key)
    if hunks.isEmpty then return 0
    Exec.print (heading ++ s.render first second hunks as.toArray bs.toArray)
    return 1
  | a, b =>
    for (file, found) in [(first, a), (second, b)] do
      match found with
      | .error e => complain (file ++ text ": " ++ e.reason)
      | .ok _ => pure ()
    return 2

/-- A name in a directory. -/
def within (directory name : Text) : Text :=
  if directory.getLast? = some ('/' : CodePoint) then directory ++ name
  else directory ++ text "/" ++ name

/-- What stands at a path, if anything. -/
def kindOf (path : Text) : Exec (Option (Address × Kind)) := do
  match ← Exec.resolve path with
  | .ok (.taken address kind) => return some (address, kind)
  | _ => return none

/-- Compares two directories. -/
def diffFolders (s : DiffStyle) : (fuel : Nat) → Text → Text → Exec Nat
  | 0, _, _ => return 2
  | fuel + 1, first, second => do
    let namesIn (path : Text) : Exec (List Text) := do
      match ← kindOf path with
      | some (address, .directory) => return (← get).namesIn address
      | _ => return []
    let theirs ← namesIn second
    let ours ← namesIn first
    let all := ((ours ++ theirs).eraseDups).mergeSort fun a b => Text.precedes a b
    let mut status := 0
    for name in all do
      let a := within first name
      let b := within second name
      let found ← match ← kindOf a, ← kindOf b with
        | none, some (_, k) =>
          if s.takesMissing && k = .file then diffFiles s [] a b
          else
            Exec.print (text "Only in " ++ second ++ text ": " ++ name ++ text "\n")
            pure 1
        | some (_, k), none =>
          if s.takesMissing && k = .file then diffFiles s [] a b
          else
            Exec.print (text "Only in " ++ first ++ text ": " ++ name ++ text "\n")
            pure 1
        | some (here, .directory), some (there, .directory) =>
          if here = there then pure 0
          else if s.isDeep then diffFolders s fuel a b
          else
            Exec.print (text "Common subdirectories: " ++ a ++ text " and " ++ b ++ text "\n")
            pure 0
        | some (_, .directory), some _ =>
          Exec.print (text "File " ++ a ++ text " is a directory while file " ++ b ++
            text " is a regular file\n")
          pure 1
        | some _, some (_, .directory) =>
          Exec.print (text "File " ++ a ++ text " is a regular file while file " ++ b ++
            text " is a directory\n")
          pure 1
        | _, _ =>
          let heading := text "diff" ++ s.options.flatMap (text " " ++ ·) ++ text " " ++ a ++
            text " " ++ b ++ text "\n"
          let isBrief : Bool := match s.form with
            | .brief => true
            | _ => false
          diffFiles s (if isBrief then [] else heading) a b
      status := max status found
    return status

/-- Prints how files or directories differ. -/
def diff : Utility := fun words => do
  let table : OptionTable := {
    letters := "0123456789abBC:cdeEHiL:nNpqrsTtuU:wyZ", status := 2, names := [
      ("brief", .flag, 'q'), ("report-identical-files", .flag, 's'), ("unified", .maybe, 'U'),
      ("context", .maybe, 'C'), ("normal", .flag, 'O'), ("recursive", .flag, 'r'),
      ("ignore-case", .flag, 'i'), ("ignore-all-space", .flag, 'w'),
      ("ignore-space-change", .flag, 'b'), ("ignore-trailing-space", .flag, 'Z'),
      ("ignore-blank-lines", .flag, 'B'), ("new-file", .flag, 'N'), ("text", .flag, 'a'),
      ("label", .value, 'L')] }
  match table.read words with
  | .error e => misusedBy e
  | .ok a =>
    let isOption (w : Text) : Bool := (text "-").isPrefixOf w && w ≠ text "-"
    let digits := (a.options.map (·.1)).filter CodePoint.isAsciiDigit
    let given := if digits.isEmpty then none else count? digits
    let number (letter : Char) : Nat := (((a.value? letter).bind count?) <|> given).getD 3
    let form : DiffForm :=
      if a.has 'q' then .brief
      else if a.has 'u' || a.has 'U' then .unified (number 'U')
      else if a.has 'c' || a.has 'C' then .context (number 'C')
      else .plain
    let style : DiffStyle := {
      form, ignoresCase := a.has 'i', joinsBlanks := a.has 'b', dropsBlanks := a.has 'w'
      dropsLastBlanks := a.has 'Z', takesAll := a.has 'a', isDeep := a.has 'r'
      takesMissing := a.has 'N', tellsSame := a.has 's'
      labels := (a.options.filter fun o => (text "L").contains o.1).map (·.2)
      options := words.filter isOption }
    match a.operands with
    | [] => misusedBy (text "missing operand after " ++ cited (words.getLast?.getD (← ownName)))
    | [file] => misusedBy (text "missing operand after " ++ cited file)
    | [first, second] =>
      match ← kindOf first, ← kindOf second with
      | some (here, .directory), some (there, .directory) =>
        if here = there then return 0
        diffFolders style 1000 first second
      | some (_, .directory), some _ => diffFiles style [] (within first (lastName second)) second
      | some _, some (_, .directory) => diffFiles style [] first (within second (lastName first))
      | _, _ => diffFiles style [] first second
    | _ :: _ :: extra :: _ => misusedBy (text "extra operand " ++ cited extra)
where
  /-- Complains about the arguments. -/
  misusedBy (t : Text) : Exec Nat := do
    complain t
    complain (text "Try '" ++ (← ownName) ++ text " --help' for more information.")
    return 2

end Utility

end Shell

end AgentWorkshop
