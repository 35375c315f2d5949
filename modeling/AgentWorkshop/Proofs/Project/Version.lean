import AgentWorkshop.Proofs.Text.Digit
import AgentWorkshop.Proofs.Text.Word
import AgentWorkshop.Toolchain

/-!
# The major version of Node

In the output of Node a major version is a whole run of decimal digits with a full stop right
behind it (`IsMajor`), and the first one counts (`IsFirstMajor`). To look for it is to look for a
pattern from the left: a `v` that may be missing, then digits, as many as there are before fewer
are tried, then a full stop (`Pattern.search`). The walk through the output that keeps the run at
hand finds the same (`versionDigitsAfter_eq_search`), because what stands behind a run decides for
all of its digits: the pattern fits at the first of them, with the whole run, or at none.
-/

namespace AgentWorkshop

namespace Toolchain

variable {t output before digits after run rest : Text} {c : CodePoint}

/-- **A major version in an output**: decimal digits between what stands before them, which does
not end in a digit, and a full stop, which is none. -/
structure IsMajor (output before digits after : Text) : Prop where
  split : output = before ++ digits ++ ('.' : CodePoint) :: after
  nonempty : digits ≠ []
  decimal : ∀ c ∈ digits, c.isDecimalDigit = true
  whole : ∀ c ∈ before.getLast?, c.isDecimalDigit = false

/-- The first major version in an output. -/
structure IsFirstMajor (output before digits after : Text) : Prop
    extends IsMajor output before digits after where
  first : ∀ before' digits' after', IsMajor output before' digits' after' →
    before.length ≤ before'.length

/-! ## The pattern -/

/-- A part of a pattern. -/
inductive Piece where
  /-- This sign, if it is there. -/
  | perhaps (c : CodePoint)
  /-- Decimal digits, at least one. -/
  | digits
  /-- This sign. -/
  | sign (c : CodePoint)
  deriving DecidableEq, Repr

/-- What is looked for in an output: its pieces one after another. -/
abbrev Pattern := List Piece

/-- The digits that can be taken from the start of a text, each time with what is left: as many
as there are at first, and then fewer. -/
def takings : Text → List (Text × Text)
  | [] => []
  | c :: rest =>
    if c.isDecimalDigit then (takings rest).map (fun s => (c :: s.1, s.2)) ++ [([c], rest)]
    else []

/-- What is taken after this sign, which has to be there. -/
def afterSign (c : CodePoint) (ways : Text → List Text) : Text → List Text
  | [] => []
  | d :: rest => if d = c then ways rest else []

/-- The digits that are taken for the pattern at the start of the text, in each way in which it
fits, in the order in which the ways are tried. -/
def Pattern.ways : Pattern → Text → List Text
  | [], _ => [[]]
  | .perhaps c :: pieces, t => afterSign c (ways pieces) t ++ ways pieces t
  | .digits :: pieces, t => (takings t).flatMap fun s => (ways pieces s.2).map (s.1 ++ ·)
  | .sign c :: pieces, t => afterSign c (ways pieces) t

/-- The digits that are taken where the pattern first fits, looked for from the left. -/
def Pattern.search (p : Pattern) : Text → Option Text
  | [] => (p.ways []).head?
  | c :: rest => (p.ways (c :: rest)).head?.or (search p rest)

/-- Digits and a full stop. -/
def digitsAndStop : Pattern :=
  [.digits, .sign '.']

/-- The pattern of a major version. -/
def majorPattern : Pattern :=
  .perhaps 'v' :: digitsAndStop

theorem isDecimalDigit_stop : CodePoint.isDecimalDigit '.' = false := by
  decide

theorem mem_takings_iff : (digits, after) ∈ takings t ↔
    t = digits ++ after ∧ digits ≠ [] ∧ ∀ c ∈ digits, c.isDecimalDigit = true := by
  induction t generalizing digits with
  | nil => cases digits <;> simp [takings]
  | cons c rest ih =>
    rw [takings]
    split
    case isFalse hc =>
      refine iff_of_false List.not_mem_nil ?_
      rintro ⟨hsplit, hne, hdecimal⟩
      cases digits with
      | nil => exact hne rfl
      | cons d digits =>
        obtain rfl := (List.cons.inj hsplit).1
        exact hc (hdecimal c List.mem_cons_self)
    case isTrue hc =>
      simp only [List.mem_append, List.mem_map, Prod.exists, Prod.mk.injEq, List.mem_singleton]
      constructor
      · rintro (⟨taken, left, hmem, rfl, rfl⟩ | ⟨rfl, rfl⟩)
        · obtain ⟨rfl, -, hdecimal⟩ := ih.1 hmem
          exact ⟨rfl, List.cons_ne_nil _ _, List.forall_mem_cons.2 ⟨hc, hdecimal⟩⟩
        · exact ⟨rfl, List.cons_ne_nil _ _, by simpa using hc⟩
      · rintro ⟨hsplit, hne, hdecimal⟩
        cases digits with
        | nil => exact absurd rfl hne
        | cons d digits =>
          obtain ⟨rfl, hrest⟩ := List.cons.inj hsplit
          cases digits with
          | nil => exact .inr ⟨rfl, hrest.symm⟩
          | cons d digits =>
            refine .inl ⟨_, _, ih.2 ⟨hrest, List.cons_ne_nil _ _, ?_⟩, rfl, rfl⟩
            exact (List.forall_mem_cons.1 hdecimal).2

theorem mem_afterSign_iff {ways : Text → List Text} :
    digits ∈ afterSign c ways t ↔ ∃ after, t = c :: after ∧ digits ∈ ways after := by
  cases t with
  | nil => simp [afterSign]
  | cons d rest => by_cases hd : d = c <;> simp [afterSign, hd]

/-- **Digits and a full stop fit where a major version starts**, and in no other way. -/
theorem mem_ways_iff : digits ∈ digitsAndStop.ways t ↔ ∃ after, IsMajor t [] digits after := by
  simp only [digitsAndStop, Pattern.ways, List.mem_flatMap, List.mem_map, mem_afterSign_iff,
    List.mem_singleton]
  constructor
  · rintro ⟨⟨taken, left⟩, htaken, none, ⟨after, rfl, rfl⟩, rfl⟩
    obtain ⟨rfl, hne, hdecimal⟩ := mem_takings_iff.1 htaken
    rw [List.append_nil]
    exact ⟨after, rfl, hne, hdecimal, by simp⟩
  · rintro ⟨after, hmajor⟩
    refine ⟨(digits, ('.' : CodePoint) :: after), mem_takings_iff.2 ?_, [], ⟨after, rfl, rfl⟩, ?_⟩
    · exact ⟨hmajor.split, hmajor.nonempty, hmajor.decimal⟩
    · exact List.append_nil _

/-! ## The first major version -/

theorem takeWhile_run (hdigits : ∀ c ∈ digits, c.isDecimalDigit = true)
    (hc : c.isDecimalDigit = false) :
    (digits ++ c :: rest).takeWhile CodePoint.isDecimalDigit = digits := by
  rw [List.takeWhile_append_of_pos hdigits, List.takeWhile_cons_of_neg (by simp [hc]),
    List.append_nil]

/-- A major version that starts a text is the run there. -/
theorem IsMajor.eq_takeWhile (h : IsMajor t [] digits after) :
    t.takeWhile CodePoint.isDecimalDigit = digits := by
  rw [h.split, List.nil_append, takeWhile_run h.decimal isDecimalDigit_stop]

/-- No major version starts with the text. -/
def Unled (t : Text) : Prop :=
  ∀ digits after, ¬ IsMajor t [] digits after

theorem ways_eq_nil_iff : digitsAndStop.ways t = [] ↔ Unled t := by
  simp only [List.eq_nil_iff_forall_not_mem, mem_ways_iff, not_exists, Unled]

/-- **Where none starts with the text**, the major versions are those of what follows the first
code point. -/
theorem isMajor_cons_iff (h : Unled (c :: rest)) : IsMajor (c :: rest) before digits after ↔
    ∃ before', before = c :: before' ∧ IsMajor rest before' digits after := by
  constructor
  · intro hmajor
    cases before with
    | nil => exact absurd hmajor (h _ _)
    | cons b before =>
      obtain ⟨rfl, hsplit⟩ := List.cons.inj hmajor.split
      refine ⟨before, rfl, hsplit, hmajor.nonempty, hmajor.decimal, fun d hd => ?_⟩
      cases before with
      | nil => cases hd
      | cons b before => exact hmajor.whole d (by rwa [List.getLast?_cons_cons])
  · rintro ⟨before, rfl, hmajor⟩
    refine ⟨congrArg (c :: ·) hmajor.split, hmajor.nonempty, hmajor.decimal, fun d hd => ?_⟩
    cases before with
    | cons b before => exact hmajor.whole d (by rwa [List.getLast?_cons_cons] at hd)
    | nil =>
      -- A digit here would belong to the run.
      obtain rfl : d = c := by simpa [eq_comm] using hd
      by_contra hdigit
      rw [Bool.not_eq_false] at hdigit
      exact h (d :: digits) after ⟨congrArg (d :: ·) hmajor.split, List.cons_ne_nil _ _,
        List.forall_mem_cons.2 ⟨hdigit, hmajor.decimal⟩, by simp⟩

/-- **There is one first major version.** -/
theorem IsFirstMajor.unique {before' digits' after' : Text}
    (h : IsFirstMajor output before digits after)
    (h' : IsFirstMajor output before' digits' after') : digits = digits' := by
  have hlength : before.length = before'.length :=
    Nat.le_antisymm (h.first _ _ _ h'.toIsMajor) (h'.first _ _ _ h.toIsMajor)
  have hsplit := h.split.symm.trans h'.split
  rw [List.append_assoc, List.append_assoc] at hsplit
  obtain ⟨-, hrest⟩ := List.append_inj hsplit hlength
  have hdigits : IsMajor (digits ++ ('.' : CodePoint) :: after) [] digits after :=
    ⟨rfl, h.nonempty, h.decimal, by simp⟩
  have hdigits' : IsMajor (digits ++ ('.' : CodePoint) :: after) [] digits' after' :=
    ⟨hrest, h'.nonempty, h'.decimal, by simp⟩
  exact hdigits.eq_takeWhile.symm.trans hdigits'.eq_takeWhile

/-- **What the search finds**: nothing where there is no major version, and else the first. -/
theorem search_cases (t : Text) :
    (digitsAndStop.search t = none ∧ ∀ before digits after, ¬ IsMajor t before digits after) ∨
    ∃ before digits after, digitsAndStop.search t = some digits ∧
      IsFirstMajor t before digits after := by
  induction t with
  | nil =>
    refine .inl ⟨rfl, fun before digits after h => ?_⟩
    have hsplit := h.split
    simp at hsplit
  | cons c rest ih =>
    rw [Pattern.search]
    cases hways : digitsAndStop.ways (c :: rest) with
    | cons digits others =>
      obtain ⟨after, hmajor⟩ := mem_ways_iff.1 (hways ▸ List.mem_cons_self)
      exact .inr ⟨[], digits, after, rfl, hmajor, fun _ _ _ _ => Nat.zero_le _⟩
    | nil =>
      have hunled : Unled (c :: rest) := ways_eq_nil_iff.1 hways
      rw [List.head?_nil, Option.none_or]
      rcases ih with ⟨hsearch, hnone⟩ | ⟨before, digits, after, hsearch, hfirst⟩
      · refine .inl ⟨hsearch, fun before digits after h => ?_⟩
        obtain ⟨before', -, hrest⟩ := (isMajor_cons_iff hunled).1 h
        exact hnone _ _ _ hrest
      · refine .inr ⟨c :: before, digits, after, hsearch,
          (isMajor_cons_iff hunled).2 ⟨before, rfl, hfirst.toIsMajor⟩, ?_⟩
        intro before' digits' after' h
        obtain ⟨before', rfl, hrest⟩ := (isMajor_cons_iff hunled).1 h
        exact Nat.succ_le_succ (hfirst.first _ _ _ hrest)

theorem search_eq_some_iff : digitsAndStop.search t = some digits ↔
    ∃ before after, IsFirstMajor t before digits after := by
  constructor
  · intro h
    rcases search_cases t with ⟨hnone, -⟩ | ⟨before, found, after, hfound, hfirst⟩
    · cases h.symm.trans hnone
    · cases h.symm.trans hfound
      exact ⟨before, after, hfirst⟩
  · rintro ⟨before, after, h⟩
    rcases search_cases t with ⟨-, hnone⟩ | ⟨_, found, _, hfound, hfirst⟩
    · exact absurd h.toIsMajor (hnone _ _ _)
    · rw [hfound, hfirst.unique h]

theorem search_eq_none_iff : digitsAndStop.search t = none ↔
    ¬ ∃ before digits after, IsMajor t before digits after := by
  constructor
  · rintro h ⟨before, digits, after, hmajor⟩
    rcases search_cases t with ⟨-, hnone⟩ | ⟨_, found, _, hfound, -⟩
    · exact hnone _ _ _ hmajor
    · cases h.symm.trans hfound
  · intro h
    rcases search_cases t with ⟨hnone, -⟩ | ⟨before, digits, after, -, hfirst⟩
    · exact hnone
    · exact absurd ⟨before, digits, after, hfirst.toIsMajor⟩ h

/-! ## Walking through the output -/

theorem search_of_unled (h : Unled (c :: rest)) :
    digitsAndStop.search (c :: rest) = digitsAndStop.search rest := by
  rw [Pattern.search, ways_eq_nil_iff.2 h, List.head?_nil, Option.none_or]

theorem unled_of_not_digit (hc : c.isDecimalDigit = false) : Unled (c :: rest) := by
  intro digits after h
  have hempty : (c :: rest).takeWhile CodePoint.isDecimalDigit = [] :=
    takeWhile_run (List.forall_mem_nil _) hc
  exact h.nonempty (h.eq_takeWhile.symm.trans hempty)

/-- **A `v` in front is of no account**: where the pattern fits with one it fits right after it,
too. -/
theorem search_majorPattern (t : Text) : majorPattern.search t = digitsAndStop.search t := by
  have hsearch (t : Text) :
      (digitsAndStop.ways t).head?.or (digitsAndStop.search t) = digitsAndStop.search t := by
    cases t with
    | nil => exact Option.or_self
    | cons c rest => rw [Pattern.search, ← Option.or_assoc, Option.or_self]
  have hways (t : Text) : majorPattern.ways t =
      afterSign 'v' digitsAndStop.ways t ++ digitsAndStop.ways t := rfl
  induction t with
  | nil => rfl
  | cons c rest ih =>
    rw [Pattern.search, ih, hways, afterSign]
    split
    · rename_i hv
      have hunled : Unled (c :: rest) := by
        rw [hv]
        exact unled_of_not_digit (by decide)
      rw [ways_eq_nil_iff.2 hunled, List.append_nil, hsearch, search_of_unled hunled]
    · rw [List.nil_append, Pattern.search]

/-- A run that no full stop follows is passed over as a whole, for none of its digits has one
behind the rest. -/
theorem search_passes_run (hdigits : ∀ c ∈ digits, c.isDecimalDigit = true)
    (hc : c.isDecimalDigit = false) (hstop : c = '.' → digits = []) :
    digitsAndStop.search (digits ++ c :: rest) = digitsAndStop.search rest := by
  induction digits with
  | nil => exact search_of_unled (unled_of_not_digit hc)
  | cons d digits ih =>
    have hne : c ≠ '.' := fun h => List.cons_ne_nil _ _ (hstop h)
    have hunled : Unled (d :: (digits ++ c :: rest)) := by
      intro taken after h
      have htaken : taken = d :: digits := h.eq_takeWhile.symm.trans (takeWhile_run hdigits hc)
      have hsplit := h.split
      rw [htaken, List.nil_append, ← List.cons_append, List.append_cancel_left_eq] at hsplit
      exact hne (List.cons.inj hsplit).1
    rw [List.cons_append, search_of_unled hunled]
    exact ih (List.forall_mem_cons.1 hdigits).2 (absurd · hne)

/-- **The walk and the search agree**: what the walk still looks for after a run is in the run
and what follows it. -/
theorem versionDigitsAfter_eq_search (hrun : ∀ c ∈ run, c.isDecimalDigit = true) :
    versionDigitsAfter run t = digitsAndStop.search (run.reverse ++ t) := by
  have hreverse {run : Text} (hrun : ∀ c ∈ run, c.isDecimalDigit = true) :
      ∀ c ∈ run.reverse, c.isDecimalDigit = true := by
    simpa only [List.mem_reverse] using hrun
  induction t generalizing run with
  | nil =>
    rw [versionDigitsAfter, List.append_nil, eq_comm, search_eq_none_iff]
    rintro ⟨before, digits, after, h⟩
    have hstop := hreverse hrun '.' (by rw [h.split]; simp)
    rw [isDecimalDigit_stop] at hstop
    cases hstop
  | cons c rest ih =>
    -- The run goes on, or it is a version, or it is given up with what ends it.
    rw [versionDigitsAfter]
    split_ifs with hc hstop
    · rw [ih (List.forall_mem_cons.2 ⟨hc, hrun⟩), List.reverse_cons, List.append_assoc,
        List.singleton_append]
    · rw [Bool.and_eq_true, decide_eq_true_eq, Bool.not_eq_true', List.isEmpty_eq_false_iff]
        at hstop
      obtain ⟨rfl, hne⟩ := hstop
      symm
      rw [search_eq_some_iff]
      exact ⟨[], rest, ⟨rfl, by simpa using hne, hreverse hrun, by simp⟩, by simp⟩
    · rw [ih (List.forall_mem_nil _), List.reverse_nil, List.nil_append,
        search_passes_run (hreverse hrun)]
      · simpa using hc
      · rintro rfl
        simpa using hstop

theorem versionDigitsAfter_nil (t : Text) : versionDigitsAfter [] t = digitsAndStop.search t :=
  versionDigitsAfter_eq_search (List.forall_mem_nil _)

/-! ## What is of no account -/

/-- Digits are put behind those that stand before them. -/
theorem versionDigitsAfter_append (hdigits : ∀ c ∈ digits, c.isDecimalDigit = true)
    (run rest : Text) :
    versionDigitsAfter run (digits ++ rest) = versionDigitsAfter (digits.reverse ++ run) rest := by
  induction digits generalizing run with
  | nil => rfl
  | cons c digits ih =>
    rw [List.forall_mem_cons] at hdigits
    rw [List.cons_append, versionDigitsAfter, if_pos hdigits.1, ih hdigits.2, List.reverse_cons,
      List.append_assoc, List.singleton_append]

/-- **What follows the full stop of a major version** is not looked at. -/
theorem versionDigitsAfter_stop (hne : digits ≠ [])
    (hdigits : ∀ c ∈ digits, c.isDecimalDigit = true) (run before after after' : Text) :
    versionDigitsAfter run (before ++ digits ++ ('.' : CodePoint) :: after) =
      versionDigitsAfter run (before ++ digits ++ ('.' : CodePoint) :: after') := by
  induction before generalizing run with
  | nil =>
    have hrun : digits.reverse ++ run ≠ [] := by simp [hne]
    have hstop (after : Text) : versionDigitsAfter (digits.reverse ++ run)
        (('.' : CodePoint) :: after) = some (digits.reverse ++ run).reverse := by
      rw [versionDigitsAfter, if_neg (by decide), if_pos (by simpa using hrun)]
    rw [List.nil_append, versionDigitsAfter_append hdigits, versionDigitsAfter_append hdigits,
      hstop, hstop]
  | cons c before ih =>
    simp only [List.cons_append, versionDigitsAfter, ih]

/-- Nothing is found in what has no digit in it, so it may stand in front. -/
theorem versionDigitsAfter_of_no_digit (h : ∀ c ∈ before, c.isDecimalDigit = false) :
    versionDigitsAfter [] (before ++ t) = versionDigitsAfter [] t := by
  induction before with
  | nil => rfl
  | cons c before ih =>
    rw [List.forall_mem_cons] at h
    rw [List.cons_append, versionDigitsAfter, h.1, if_neg Bool.false_ne_true, if_neg (by simp)]
    exact ih h.2

theorem versionDigitsAfter_eq_none (h : ('.' : CodePoint) ∉ t) (run : Text) :
    versionDigitsAfter run t = none := by
  induction t generalizing run with
  | nil => rfl
  | cons c rest ih =>
    obtain ⟨hc, hrest⟩ := List.ne_and_not_mem_of_not_mem_cons h
    rw [versionDigitsAfter, decide_eq_false hc.symm, Bool.false_and, if_neg Bool.false_ne_true,
      ih hrest, ih hrest, ite_self]

/-- And what has no full stop in it may stand at the end. -/
theorem versionDigitsAfter_of_no_stop (h : ('.' : CodePoint) ∉ after) (run : Text) :
    versionDigitsAfter run (t ++ after) = versionDigitsAfter run t := by
  induction t generalizing run with
  | nil => exact versionDigitsAfter_eq_none h run
  | cons c rest ih => simp only [List.cons_append, versionDigitsAfter, ih]

/-- So blanks around the output are of no account. -/
theorem versionDigitsAfter_between (hbefore : before.isBlank = true)
    (hafter : after.isBlank = true) :
    versionDigitsAfter [] (before ++ t ++ after) = versionDigitsAfter [] t := by
  rw [Text.isBlank, List.all_eq_true] at hbefore hafter
  have hstop : ('.' : CodePoint) ∉ after := fun h => absurd (hafter _ h) (by decide)
  rw [versionDigitsAfter_of_no_stop hstop]
  exact versionDigitsAfter_of_no_digit fun c hc =>
    CodePoint.not_isDecimalDigit_of_isBlank (hbefore c hc)

theorem versionDigitsAfter_strip (output : Text) :
    versionDigitsAfter [] output.strip = versionDigitsAfter [] output := by
  obtain ⟨before, after, hsplit, hbefore, hafter⟩ := Text.strip_between output
  conv_rhs => rw [hsplit]
  rw [versionDigitsAfter_between hbefore hafter]

/-- **The walk finds the first major version.** -/
theorem versionDigitsAfter_strip_eq_some_iff : versionDigitsAfter [] output.strip = some digits ↔
    ∃ before after, IsFirstMajor output before digits after := by
  rw [versionDigitsAfter_strip, versionDigitsAfter_nil, search_eq_some_iff]

theorem versionDigitsAfter_strip_eq_none_iff : versionDigitsAfter [] output.strip = none ↔
    ¬ ∃ before digits after, IsMajor output before digits after := by
  rw [versionDigitsAfter_strip, versionDigitsAfter_nil, search_eq_none_iff]

/-! ## What is read -/

theorem nodeMajor?_eq_none_iff :
    nodeMajor? output = .ok none ↔ versionDigitsAfter [] output.strip = none := by
  rw [nodeMajor?]
  cases versionDigitsAfter [] output.strip with
  | none => simp
  | some digits => by_cases hlong : digitLimit < digits.length <;> simp [hlong]

theorem nodeMajor?_eq_some_iff {n : Nat} : nodeMajor? output = .ok (some n) ↔
    ∃ digits, versionDigitsAfter [] output.strip = some digits ∧ digits.length ≤ digitLimit ∧
      n = digits.decimalNat := by
  rw [nodeMajor?]
  cases versionDigitsAfter [] output.strip with
  | none => simp
  | some digits =>
    by_cases hlong : digitLimit < digits.length
    · simp [hlong]
    · simp [hlong, Nat.not_lt.1 hlong, eq_comm]

theorem nodeMajor?_eq_error_iff {f : Failure} : nodeMajor? output = .error f ↔
    ∃ digits, versionDigitsAfter [] output.strip = some digits ∧ digitLimit < digits.length ∧
      f = .tooManyDigits digits.length := by
  rw [nodeMajor?]
  cases versionDigitsAfter [] output.strip with
  | none => simp
  | some digits =>
    by_cases hlong : digitLimit < digits.length
    · simp [hlong, eq_comm]
    · simp [hlong]

/-- What is read depends on the digits that are found alone. -/
theorem nodeMajor?_congr {output' : Text}
    (h : versionDigitsAfter [] output = versionDigitsAfter [] output') :
    nodeMajor? output = nodeMajor? output' := by
  rw [nodeMajor?, nodeMajor?, versionDigitsAfter_strip, versionDigitsAfter_strip, h]

/-- A numeral at the start of an output, with a full stop behind it, is its first major version. -/
theorem isFirstMajor_ofNat (n : Nat) (rest : Text) :
    IsFirstMajor (Text.ofNat n ++ ('.' : CodePoint) :: rest) [] (Text.ofNat n) rest where
  split := rfl
  nonempty := by
    obtain ⟨d, digits, hdigits, -⟩ := Text.ofNat_cases n
    rw [hdigits]
    exact List.cons_ne_nil _ _
  decimal := (Text.writes_iff.1 (Text.writes_ofNat n)).1
  whole := by simp
  first := by simp

/-- **The major version of Node.** In every output:

* nothing is read exactly if there is no major version in it; otherwise the number that the first
  one writes is read, unless it has more digits than are read: then their number is reported;
* the first major version is what the pattern, tried from the left, takes in the output without
  the blanks around it;
* blanks around the output, a `v` in front and what follows the full stop are of no account.

So of a numeral with no more digits than are read, after a `v` and before a full stop, the number
is read. -/
theorem major_version_read (output : Text) :
    (nodeMajor? output = .ok none ↔
      ¬ ∃ before digits after, IsMajor output before digits after) ∧
    (∀ n, nodeMajor? output = .ok (some n) ↔
      ∃ before digits after, IsFirstMajor output before digits after ∧
        digits.length ≤ digitLimit ∧ digits.Writes n) ∧
    (∀ f, nodeMajor? output = .error f ↔
      ∃ before digits after, IsFirstMajor output before digits after ∧
        digitLimit < digits.length ∧ f = .tooManyDigits digits.length) ∧
    (∀ digits, majorPattern.search output.strip = some digits ↔
      ∃ before after, IsFirstMajor output before digits after) ∧
    (∀ before after, before.isBlank = true → after.isBlank = true →
      nodeMajor? (before ++ output ++ after) = nodeMajor? output) ∧
    nodeMajor? (('v' : CodePoint) :: output) = nodeMajor? output ∧
    (∀ before digits after after', IsMajor output before digits after →
      nodeMajor? (before ++ digits ++ ('.' : CodePoint) :: after') = nodeMajor? output) ∧
    ∀ n rest, (Text.ofNat n).length ≤ digitLimit →
      nodeMajor? (('v' : CodePoint) :: (Text.ofNat n ++ ('.' : CodePoint) :: rest)) =
        .ok (some n) := by
  have hsign : CodePoint.isDecimalDigit 'v' = false := by decide
  have hv (output : Text) : nodeMajor? (('v' : CodePoint) :: output) = nodeMajor? output :=
    nodeMajor?_congr (versionDigitsAfter_of_no_digit (List.forall_mem_singleton.2 hsign))
  refine ⟨?_, fun n => ?_, fun f => ?_, fun digits => ?_, fun before after hbefore hafter => ?_,
    hv output, fun before digits after after' h => ?_, fun n rest hlength => ?_⟩
  · rw [nodeMajor?_eq_none_iff, versionDigitsAfter_strip_eq_none_iff]
  · simp only [nodeMajor?_eq_some_iff, versionDigitsAfter_strip_eq_some_iff]
    constructor
    · rintro ⟨digits, ⟨before, after, hfirst⟩, hlength, hn⟩
      exact ⟨before, digits, after, hfirst, hlength, Text.writes_iff.2 ⟨hfirst.decimal, hn⟩⟩
    · rintro ⟨before, digits, after, hfirst, hlength, hwrites⟩
      exact ⟨digits, ⟨before, after, hfirst⟩, hlength, (Text.writes_iff.1 hwrites).2⟩
  · simp only [nodeMajor?_eq_error_iff, versionDigitsAfter_strip_eq_some_iff]
    constructor
    · rintro ⟨digits, ⟨before, after, hfirst⟩, hlong⟩
      exact ⟨before, digits, after, hfirst, hlong⟩
    · rintro ⟨before, digits, after, hfirst, hlong⟩
      exact ⟨digits, ⟨before, after, hfirst⟩, hlong⟩
  · rw [search_majorPattern, ← versionDigitsAfter_nil, versionDigitsAfter_strip_eq_some_iff]
  · exact nodeMajor?_congr (versionDigitsAfter_between hbefore hafter)
  · refine nodeMajor?_congr ?_
    rw [h.split]
    exact versionDigitsAfter_stop h.nonempty h.decimal [] before after' after
  · rw [hv, nodeMajor?_eq_some_iff]
    refine ⟨Text.ofNat n, ?_, hlength, (Text.writes_iff.1 (Text.writes_ofNat n)).2⟩
    exact versionDigitsAfter_strip_eq_some_iff.2 ⟨[], rest, isFirstMajor_ofNat n rest⟩

/-- A number that is no version before one in the digits of another script. -/
def mixedOutput : Text :=
  text "7 v\u0662\u0660.11"

/-- The number in front is passed over, whatever is around the output and after the full stop. -/
theorem major_version_read_mixed :
    nodeMajor? mixedOutput = .ok (some 20) ∧
    nodeMajor? (text "\u3000\t" ++ mixedOutput ++ text "\r\n") = .ok (some 20) ∧
    nodeMajor? (text "7 v" ++ text "\u0662\u0660" ++ ('.' : CodePoint) :: text "x 9.") =
      .ok (some 20) ∧
    (Text.ofNat 18).length ≤ digitLimit ∧
    nodeMajor? (('v' : CodePoint) :: (Text.ofNat 18 ++ ('.' : CodePoint) :: text "17.0")) =
      .ok (some 18) := by
  obtain ⟨-, hsome, -, hfound, hblank, -, hstop, hnumeral⟩ := major_version_read mixedOutput
  have hsearch : majorPattern.search mixedOutput.strip = some (text "\u0662\u0660") := by decide
  have hwrites : (text "\u0662\u0660").Writes 20 := ⟨[2, 0], by decide, by decide, by decide⟩
  have hlength : (Text.ofNat 18).length ≤ digitLimit := by decide
  obtain ⟨before, after, hfirst⟩ := (hfound _).1 hsearch
  have hread : nodeMajor? mixedOutput = .ok (some 20) :=
    (hsome 20).2 ⟨before, _, after, hfirst, by decide, hwrites⟩
  refine ⟨hread, ?_, ?_, hlength, hnumeral 18 _ hlength⟩
  · rw [hblank _ _ (by decide) (by decide), hread]
  · have hmajor : IsMajor mixedOutput (text "7 v") (text "\u0662\u0660") (text "11") :=
      ⟨rfl, List.cons_ne_nil _ _, hfirst.decimal, fun c hc => by cases hc; decide⟩
    rw [hstop _ _ _ _ hmajor, hread]

end Toolchain

end AgentWorkshop
