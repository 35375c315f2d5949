import AgentWorkshop.Chat.BuildLog
import AgentWorkshop.Proofs.Text.Lines
import AgentWorkshop.Proofs.Text.Occurrence
import AgentWorkshop.Proofs.Text.Word

/-!
# What is kept of a build's log

Of a log exactly the lines that tell something are kept, each as it is and in order
(`telling_kept`). A line `Tells` something if it shows and is none of the build tool's own lines.
Those are told by what occurs in them, or by eight patterns that are searched for from the left
and whose gaps give back what they took too much of (`Pattern.foundIn`). In a line the two are the
same, because nothing in it stops a gap (`tells_iff`). Lines are read back as they were kept,
because none of them has a line feed in it.
-/

namespace AgentWorkshop

namespace BuildLog

variable {line s t : Text}

/-! ## Patterns -/

/-- A part of a pattern. -/
inductive Piece where
  /-- These signs. -/
  | signs (t : Text)
  /-- Anything within the line. -/
  | gap
  deriving DecidableEq, Repr

/-- What is looked for in a line: its pieces one after another. -/
abbrev Pattern := List Piece

/-- What may be left after a gap, which takes as much as it can at first and then less. -/
def gapEnds : Text → List Text
  | [] => [[]]
  | c :: rest => if c = '\n' then [c :: rest] else gapEnds rest ++ [c :: rest]

/-- The pattern is at the start of the text. -/
def Pattern.startsAt : Pattern → Text → Bool
  | [], _ => true
  | .signs s :: pieces, t =>
    match s.isPrefixOf? t with
    | some after => startsAt pieces after
    | none => false
  | .gap :: pieces, t => (gapEnds t).any fun after => startsAt pieces after

/-- The pattern is somewhere in the text, looked for from the left. -/
def Pattern.foundIn (p : Pattern) : Text → Bool
  | [] => p.startsAt []
  | c :: rest => p.startsAt (c :: rest) || foundIn p rest

/-- The patterns of the build tool's own lines. -/
def patterns : List Pattern :=
  [[.signs (text "Finished"), .gap, .signs (text "profile")],
    [.signs (text "Compiling"), .gap],
    [.signs (text "Running"), .gap],
    [.signs (text "warning: profiles for the non root package will be ignored")],
    [.signs (text "warning: virtual workspace defaulting to")],
    [.signs (text "note: to keep the current resolver")],
    [.signs (text "note: to use the edition 2021 resolver")],
    [.signs (text "note: for more details see")]]

theorem mem_gapEnds_iff {after : Text} :
    after ∈ gapEnds t ↔ ∃ taken, t = taken ++ after ∧ ('\n' : CodePoint) ∉ taken := by
  induction t with
  | nil => simp [gapEnds]
  | cons c rest ih =>
    -- Nothing is taken, or the first sign is and then some of the rest.
    have htaken : (∃ taken, c :: rest = taken ++ after ∧ ('\n' : CodePoint) ∉ taken) ↔
        after = c :: rest ∨ c ≠ '\n' ∧
          ∃ taken, rest = taken ++ after ∧ ('\n' : CodePoint) ∉ taken := by
      constructor
      · rintro ⟨_ | ⟨d, taken⟩, heq, hfeed⟩
        · exact .inl heq.symm
        · obtain ⟨rfl, hrest⟩ := List.cons.inj heq
          obtain ⟨hne, hfeed⟩ := List.ne_and_not_mem_of_not_mem_cons hfeed
          exact .inr ⟨hne.symm, taken, hrest, hfeed⟩
      · rintro (rfl | ⟨hne, taken, rfl, hfeed⟩)
        · exact ⟨[], rfl, List.not_mem_nil⟩
        · exact ⟨c :: taken, rfl, List.not_mem_cons_of_ne_of_not_mem hne.symm hfeed⟩
    rw [gapEnds, htaken]
    split <;> simp_all [or_comm]

namespace Pattern

theorem startsAt_signs {pieces : Pattern} :
    startsAt (.signs s :: pieces) t = true ↔
      ∃ after, t = s ++ after ∧ startsAt pieces after = true := by
  rw [startsAt]
  cases hfound : s.isPrefixOf? t with
  | some found =>
    obtain rfl := List.isPrefixOf?_eq_some_iff_append_eq.1 hfound
    exact ⟨fun h => ⟨found, rfl, h⟩, fun ⟨_, heq, h⟩ => List.append_cancel_left heq ▸ h⟩
  | none =>
    refine iff_of_false Bool.false_ne_true ?_
    rintro ⟨after, rfl, -⟩
    rw [Text.isPrefixOf?_append] at hfound
    cases hfound

theorem startsAt_gap {pieces : Pattern} :
    startsAt (.gap :: pieces) t = true ↔
      ∃ taken after, t = taken ++ after ∧ ('\n' : CodePoint) ∉ taken ∧
        startsAt pieces after = true := by
  simp only [startsAt, List.any_eq_true, mem_gapEnds_iff]
  constructor
  · rintro ⟨after, ⟨taken, heq, hfeed⟩, h⟩
    exact ⟨taken, after, heq, hfeed, h⟩
  · rintro ⟨taken, after, heq, hfeed, h⟩
    exact ⟨after, ⟨taken, heq, hfeed⟩, h⟩

/-- **A pattern is found if it starts anywhere.** -/
theorem foundIn_iff {p : Pattern} :
    p.foundIn line = true ↔ ∃ before after, line = before ++ after ∧ p.startsAt after = true := by
  induction line with
  | nil => simp [foundIn]
  | cons c line ih =>
    rw [foundIn, Bool.or_eq_true, ih]
    constructor
    · rintro (h | ⟨before, after, rfl, h⟩)
      · exact ⟨[], c :: line, rfl, h⟩
      · exact ⟨c :: before, after, rfl, h⟩
    · rintro ⟨_ | ⟨d, before⟩, after, heq, h⟩
      · exact .inl (heq ▸ h)
      · exact .inr ⟨before, after, (List.cons.inj heq).2, h⟩

/-- Signs are found where they occur. -/
theorem foundIn_signs : foundIn [.signs s] line = true ↔ s <:+: line := by
  simp only [foundIn_iff, startsAt_signs]
  constructor
  · rintro ⟨before, -, rfl, after, rfl, -⟩
    exact ⟨before, after, List.append_assoc ..⟩
  · rintro ⟨before, after, rfl⟩
    exact ⟨before, s ++ after, List.append_assoc .., after, rfl, rfl⟩

/-- A gap at the end changes nothing, for it may take nothing. -/
theorem foundIn_signs_gap : foundIn [.signs s, .gap] line = true ↔ s <:+: line := by
  have hgap (after : Text) : startsAt [.gap] after = startsAt [] after :=
    startsAt_gap.2 ⟨[], after, rfl, List.not_mem_nil, rfl⟩
  rw [← foundIn_signs, foundIn_iff, foundIn_iff]
  simp only [startsAt_signs, hgap]

/-- In a line a gap takes whatever stands between. -/
theorem foundIn_signs_gap_signs (hline : ('\n' : CodePoint) ∉ line) :
    foundIn [.signs s, .gap, .signs t] line = true ↔
      ∃ before between after, line = before ++ s ++ between ++ t ++ after := by
  simp only [foundIn_iff, startsAt_signs, startsAt_gap]
  constructor
  · rintro ⟨before, -, rfl, -, rfl, between, -, rfl, -, after, rfl, -⟩
    exact ⟨before, between, after, by simp only [List.append_assoc]⟩
  · rintro ⟨before, between, after, rfl⟩
    have hbetween : ('\n' : CodePoint) ∉ between := by
      simp only [List.mem_append, not_or] at hline
      exact hline.1.1.2
    exact ⟨before, s ++ (between ++ (t ++ after)), by simp only [List.append_assoc],
      between ++ (t ++ after), rfl, between, t ++ after, rfl, hbetween, after, rfl, rfl⟩

end Pattern

/-! ## Lines that tell something -/

/-- A line tells something: it shows, and neither is it marked by a phrase nor does it say that
a profile was finished. -/
structure Tells (line : Text) : Prop where
  shows : ∃ c ∈ line, c.isBlank = false
  unmarked : ∀ phrase ∈ phrases, ¬ phrase <:+: line
  unfinished : ¬ ∃ before between after,
    line = before ++ text "Finished" ++ between ++ text "profile" ++ after

theorem finishesProfile_iff : finishesProfile line = true ↔
    ∃ before between after,
      line = before ++ text "Finished" ++ between ++ text "profile" ++ after := by
  rw [finishesProfile]
  constructor
  · intro h
    split at h
    · rename_i rest hrest
      obtain ⟨before, rfl⟩ := Text.eq_of_afterFirst? hrest
      obtain ⟨between, after, rfl⟩ := Text.occursIn_iff.1 h
      exact ⟨before, between, after, by simp only [List.append_assoc]⟩
    · cases h
  · rintro ⟨before, between, after, rfl⟩
    obtain ⟨rest, hrest, hsuffix⟩ :=
      Text.exists_afterFirst? before (text "Finished") (between ++ text "profile" ++ after)
    simp only [List.append_assoc] at hrest hsuffix ⊢
    rw [hrest]
    exact Text.occursIn_iff.2 (List.IsInfix.trans ⟨between, after, List.append_assoc ..⟩
      hsuffix.isInfix)

theorem isTelling_iff : isTelling line = true ↔ Tells line := by
  have hblank : line.isBlank = false ↔ ∃ c ∈ line, c.isBlank = false := by
    rw [Text.isBlank, List.all_eq_false]
    simp
  rw [isTelling, isChatter, Bool.and_eq_true, Bool.not_eq_true', Bool.not_eq_true',
    Bool.or_eq_false_iff, hblank]
  constructor
  · rintro ⟨hshows, hfinishes, hphrases⟩
    refine ⟨hshows, fun phrase hphrase hinfix => ?_, fun h => ?_⟩
    · rw [List.any_eq_false] at hphrases
      exact hphrases phrase hphrase (Text.occursIn_iff.2 hinfix)
    · rw [finishesProfile_iff.2 h] at hfinishes
      cases hfinishes
  · rintro ⟨hshows, hunmarked, hunfinished⟩
    refine ⟨hshows, Bool.eq_false_iff.2 (mt finishesProfile_iff.1 hunfinished), ?_⟩
    rw [List.any_eq_false]
    exact fun phrase hphrase => mt Text.occursIn_iff.1 (hunmarked phrase hphrase)

instance : DecidablePred Tells := fun _ => decidable_of_iff _ isTelling_iff

/-- **What tells nothing is what a pattern is found in.** A line tells something exactly if
something is left of it without the blanks at its ends and no pattern is found in it. -/
theorem tells_iff (hline : ('\n' : CodePoint) ∉ line) :
    Tells line ↔ line.strip ≠ [] ∧ ∀ p ∈ patterns, p.foundIn line = false := by
  have hshows : line.strip ≠ [] ↔ ∃ c ∈ line, c.isBlank = false := by
    rw [ne_eq, Text.strip_eq_nil_iff, Text.isBlank, List.all_eq_true]
    simp
  have hpatterns : (∀ p ∈ patterns, p.foundIn line = false) ↔
      (¬ ∃ before between after,
        line = before ++ text "Finished" ++ between ++ text "profile" ++ after) ∧
      ∀ phrase ∈ phrases, ¬ phrase <:+: line := by
    simp only [patterns, phrases, List.forall_mem_cons, List.not_mem_nil, false_imp_iff,
      implies_true, and_true, ← Bool.not_eq_true, Pattern.foundIn_signs,
      Pattern.foundIn_signs_gap, Pattern.foundIn_signs_gap_signs hline]
  rw [hshows, hpatterns]
  constructor
  · intro h
    exact ⟨h.shows, h.unfinished, h.unmarked⟩
  · rintro ⟨hvisible, hunfinished, hunmarked⟩
    exact ⟨hvisible, hunmarked, hunfinished⟩

/-! ## Logs -/

/-- The lines of a log that tell something, as often and in the order in which they stand. -/
def telling (log : Text) : List Text :=
  log.lines.filter fun line => Tells line

theorem filter_eq (log : Text) :
    filter log = if telling log = [] then none else some (Text.unlines (telling log)) := by
  have htelling : log.lines.filter isTelling = telling log :=
    List.filter_congr fun line _ => Bool.eq_iff_iff.2 (by rw [isTelling_iff, decide_eq_true_iff])
  rw [filter, htelling]
  split
  · rename_i hnil
    rw [if_pos hnil]
  · rename_i hne
    rw [if_neg hne]

/-- Lines that are kept are read back as they were. -/
theorem lines_unlines_telling {log : Text} (h : telling log ≠ []) :
    (Text.unlines (telling log)).lines = telling log :=
  Text.lines_unlines h fun _ hline => Text.not_mem_of_mem_lines (List.mem_of_mem_filter hline)

theorem telling_eq_nil_iff {log : Text} : telling log = [] ↔ ∀ line ∈ log.lines, ¬ Tells line := by
  simp [telling, List.filter_eq_nil_iff]

/-- **What is kept of a log.** It is its lines that tell something, with line feeds between them
and nothing else: as many lines as there are, each as it was, in order. Nothing is kept exactly if
no line tells anything. On lines of a log, which are what stands between its line feeds, telling
something is the same as having no pattern in it and not being blank. -/
theorem telling_kept (log : Text) :
    (filter log = none ↔ ∀ line ∈ log.lines, ¬ Tells line) ∧
    (∀ kept, filter log = some kept ↔
      (∃ line ∈ log.lines, Tells line) ∧
        kept = Text.unlines (log.lines.filter fun line => Tells line)) ∧
    (∀ kept, filter log = some kept → kept.lines = log.lines.filter fun line => Tells line) ∧
    Text.unlines log.lines = log ∧
    ∀ line ∈ log.lines, ('\n' : CodePoint) ∉ line ∧
      (Tells line ↔ line.strip ≠ [] ∧ ∀ p ∈ patterns, p.foundIn line = false) := by
  have hsome : telling log ≠ [] ↔ ∃ line ∈ log.lines, Tells line := by
    simp only [ne_eq, telling_eq_nil_iff, not_forall, not_not, exists_prop]
  have hkept (kept : Text) : filter log = some kept ↔
      telling log ≠ [] ∧ kept = Text.unlines (telling log) := by
    rw [filter_eq]
    by_cases hnil : telling log = []
    · rw [if_pos hnil]
      exact iff_of_false (by simp) fun h => h.1 hnil
    · rw [if_neg hnil, Option.some_inj, eq_comm]
      exact (and_iff_right hnil).symm
  refine ⟨?_, fun kept => ?_, fun kept h => ?_, Text.unlines_lines log, fun line hline => ?_⟩
  · rw [filter_eq, ← telling_eq_nil_iff, ite_eq_left_iff]
    exact ⟨fun h => by_contra fun hne => Option.some_ne_none _ (h hne), fun h hne => absurd h hne⟩
  · rw [hkept, hsome]
    rfl
  · obtain ⟨hne, rfl⟩ := (hkept kept).1 h
    exact lines_unlines_telling hne
  · have hfeed := Text.not_mem_of_mem_lines hline
    exact ⟨hfeed, tells_iff hfeed⟩

/-- A log with a blank line and a banner, and with an indented line and one that ends in a
carriage return. -/
def mixed : Text :=
  text "first\r\n   Compiling x\n \t\n  second profile\n"

/-- The banner and what is blank are gone, the other lines are as they were. -/
theorem telling_kept_mixed : filter mixed = some (text "first\r\n  second profile") ∧
    (text "first\r\n  second profile").lines = mixed.lines.filter (fun line => Tells line) ∧
    text "  second profile" ∈ mixed.lines ∧ Tells (text "  second profile") := by
  have hfilter : filter mixed = some (text "first\r\n  second profile") := by decide
  have hline : text "  second profile" ∈ mixed.lines := by decide
  obtain ⟨-, -, hlines, -, htells⟩ := telling_kept mixed
  exact ⟨hfilter, hlines _ hfilter, hline, (htells _ hline).2.2 (by decide)⟩

end BuildLog

end AgentWorkshop
