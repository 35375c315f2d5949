import AgentWorkshop.Text.Basic

/-!
# Differences

Two lists of lines differ in `Hunk`s: runs of lines of the first list that stand
for runs of the second one. Between them the lists agree, for as many lines as
possible.
-/

namespace AgentWorkshop

namespace Difference

/-- A run of lines that is replaced by another one; either may be empty. -/
structure Hunk where
  /-- How many lines stand before the runs. -/
  first : Nat
  second : Nat
  firstCount : Nat
  secondCount : Nat
  deriving DecidableEq, Repr

namespace Hunk

/-- The end of the run in the first list. -/
def firstEnd (h : Hunk) : Nat := h.first + h.firstCount

/-- The end of the run in the second list. -/
def secondEnd (h : Hunk) : Nat := h.second + h.secondCount

end Hunk

/-! ## Common lines -/

/-- The row before one of a table of how many lines the ends of two lists have in
common; `later` is that row, for the ends of the first list without `a`. -/
def rowBefore {α : Type} [DecidableEq α] (a : α) : List α → (later : List Nat) → List Nat
  | b :: bs, n :: rest =>
    let row := rowBefore a bs rest
    (if a = b then rest.headD 0 + 1 else max n (row.headD 0)) :: row
  | _, _ => [0]

/-- The table of how many lines the ends of two lists have in common. -/
def table {α : Type} [DecidableEq α] (bs : List α) : List α → List (List Nat)
  | [] => [List.replicate (bs.length + 1) 0]
  | a :: as =>
    let rows := table bs as
    rowBefore a bs (rows.headD []) :: rows

/-- Which lines of two lists are not common. A line of the first list goes first if
that costs no common line. -/
def changes {α : Type} [DecidableEq α] (common : Array (Array Nat)) :
    (fuel : Nat) → (i j : Nat) → List α → List α → List Bool × List Bool
  | 0, _, _, as, bs => (as.map fun _ => true, bs.map fun _ => true)
  | _, _, _, [], bs => ([], bs.map fun _ => true)
  | _, _, _, as, [] => (as.map fun _ => true, [])
  | fuel + 1, i, j, a :: as, b :: bs =>
    let left (i j : Nat) : Nat := (common.getD i #[]).getD j 0
    if a = b then
      let (xs, ys) := changes common fuel (i + 1) (j + 1) as bs
      (false :: xs, false :: ys)
    else if left i (j + 1) ≤ left (i + 1) j then
      let (xs, ys) := changes common fuel (i + 1) j as (b :: bs)
      (true :: xs, ys)
    else
      let (xs, ys) := changes common fuel i (j + 1) (a :: as) bs
      (xs, true :: ys)

/-! ## Moving runs

A run of changed lines may stand at several places if the lines around it are
alike. It is moved back to meet the run before it, and then on as far as possible,
unless it can stand beside a run of the other list. -/

/-- Where a run and its place in the other list stand. -/
structure Run where
  start : Nat
  stop : Nat
  other : Nat

/-- A line is marked as changed. -/
def isChanged (marks : Array Bool) (i : Nat) : Bool := marks.getD i false

/-- The place before the changed lines before a place. -/
def skipBack (marks : Array Bool) : (fuel : Nat) → Nat → Nat
  | 0, i => i
  | fuel + 1, i => if i ≠ 0 && isChanged marks (i - 1) then skipBack marks fuel (i - 1) else i

/-- The unchanged line before a place. -/
def unchangedBefore (marks : Array Bool) : (fuel : Nat) → Nat → Nat
  | 0, i => i
  | fuel + 1, i =>
    if i ≠ 0 && isChanged marks (i - 1) then unchangedBefore marks fuel (i - 1) else i - 1

/-- The place after the changed lines from a place on. -/
def skipOn (marks : Array Bool) : (fuel : Nat) → Nat → Nat
  | 0, i => i
  | fuel + 1, i => if isChanged marks i then skipOn marks fuel (i + 1) else i

/-- The run moves back as long as the line before it is like its last one. -/
def moveBack {α : Type} [DecidableEq α] (lines : Array α) (others : Array Bool) :
    (fuel : Nat) → Array Bool → Run → Array Bool × Run
  | 0, marks, r => (marks, r)
  | fuel + 1, marks, r =>
    if r.start ≠ 0 && lines[r.start - 1]? = lines[r.stop - 1]? then
      let marks := (marks.setIfInBounds (r.start - 1) true).setIfInBounds (r.stop - 1) false
      moveBack lines others fuel marks {
        start := skipBack marks marks.size (r.start - 1), stop := r.stop - 1
        other := unchangedBefore others (others.size + 1) r.other }
    else (marks, r)

/-- The run moves on as long as the line after it is like its first one. The answer
tells, too, the last end at which it stands beside a run of the other list. -/
def moveOn {α : Type} [DecidableEq α] (lines : Array α) (others : Array Bool) :
    (fuel : Nat) → Array Bool → Run → (beside : Nat) → Array Bool × Run × Nat
  | 0, marks, r, beside => (marks, r, beside)
  | fuel + 1, marks, r, beside =>
    if r.stop < lines.size && lines[r.start]? = lines[r.stop]? then
      let marks := (marks.setIfInBounds r.start false).setIfInBounds r.stop true
      let stop := skipOn marks marks.size (r.stop + 1)
      let next := r.other + 1
      let other := skipOn others others.size next
      moveOn lines others fuel marks { start := r.start + 1, stop, other }
        (if isChanged others next then stop else beside)
    else (marks, r, beside)

/-- The run moves back to where it stands beside a run of the other list. -/
def moveBeside (others : Array Bool) (beside : Nat) :
    (fuel : Nat) → Array Bool → Run → Array Bool × Run
  | 0, marks, r => (marks, r)
  | fuel + 1, marks, r =>
    if beside < r.stop then
      let marks := (marks.setIfInBounds (r.start - 1) true).setIfInBounds (r.stop - 1) false
      moveBeside others beside fuel marks {
        start := r.start - 1, stop := r.stop - 1
        other := unchangedBefore others (others.size + 1) r.other }
    else (marks, r)

/-- Moves a run until it does not grow. -/
def settleRun {α : Type} [DecidableEq α] (lines : Array α) (others : Array Bool) :
    (fuel : Nat) → Array Bool → Run → Array Bool × Run
  | 0, marks, r => (marks, r)
  | fuel + 1, marks, r =>
    let length := r.stop - r.start
    let (marks, r) := moveBack lines others (lines.size + 1) marks r
    let beside := if r.other ≠ 0 && isChanged others (r.other - 1) then r.stop else lines.size
    let (marks, r, beside) := moveOn lines others (lines.size + 1) marks r beside
    if r.stop - r.start = length then moveBeside others beside (lines.size + 1) marks r
    else settleRun lines others fuel marks r

/-- Moves the runs of one list; `i` and `j` are places that belong together. -/
def settle {α : Type} [DecidableEq α] (lines : Array α) (others : Array Bool) :
    (fuel : Nat) → (i j : Nat) → Array Bool → Array Bool
  | 0, _, _, marks => marks
  | fuel + 1, i, j, marks =>
    if lines.size ≤ i then marks
    else if isChanged marks i then
      let stop := skipOn marks marks.size i
      let other := skipOn others others.size j
      let (marks, r) := settleRun lines others (lines.size + 1) marks { start := i, stop, other }
      settle lines others fuel r.stop r.other marks
    else settle lines others fuel (i + 1) (skipOn others others.size j + 1) marks

/-! ## Hunks -/

/-- The hunks that marks make. -/
def hunksOf : (fuel : Nat) → (i j : Nat) → List Bool → List Bool → List Hunk
  | 0, _, _, _, _ => []
  | fuel + 1, i, j, xs, ys =>
    let removed := (xs.takeWhile id).length
    let added := (ys.takeWhile id).length
    let rest := hunksOf fuel (i + removed + 1) (j + added + 1) (xs.drop (removed + 1))
      (ys.drop (added + 1))
    if removed = 0 && added = 0 then
      if xs.isEmpty && ys.isEmpty then [] else rest
    else ⟨i, j, removed, added⟩ :: rest

/-- How many lines at the start are the same. -/
def sameLines {α : Type} [DecidableEq α] : List α → List α → Nat
  | a :: as, b :: bs => if a = b then sameLines as bs + 1 else 0
  | _, _ => 0

/-- How two lists differ that begin and end differently. -/
def middle {α : Type} [DecidableEq α] (as bs : List α) : List Hunk :=
  let common := ((table bs as).map List.toArray).toArray
  let (xs, ys) := changes common (as.length + bs.length + 1) 0 0 as bs
  let size := as.length + bs.length + 2
  let xs := settle as.toArray ys.toArray size 0 0 xs.toArray
  let ys := settle bs.toArray xs size 0 0 ys.toArray
  hunksOf size 0 0 xs.toList ys.toList

/-- How two lists differ. Of the same lines at both ends only so many are looked at. -/
def hunks {α : Type} [DecidableEq α] (horizon : Nat) (as bs : List α) : List Hunk :=
  let start := sameLines as bs
  let finish := sameLines (as.drop start).reverse (bs.drop start).reverse
  let skipped := start - horizon
  let kept (xs : List α) : List α := (xs.drop skipped).take (xs.length - skipped - (finish - horizon))
  (middle (kept as) (kept bs)).map fun h =>
    { h with first := h.first + skipped, second := h.second + skipped }

/-- Hunks that have at most so many common lines between them, together. -/
def grouped (between : Nat) : List Hunk → List (List Hunk)
  | [] => []
  | h :: rest =>
    match grouped between rest with
    | (next :: others) :: groups =>
      if next.first ≤ h.firstEnd + between then (h :: next :: others) :: groups
      else [h] :: (next :: others) :: groups
    | groups => [h] :: groups

end Difference

end AgentWorkshop
