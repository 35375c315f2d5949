import AgentWorkshop.Text.Basic
import Mathlib.Algebra.Ring.Nat

/-!
# Lines

A text has one line more than line feeds, and no line has one in it. Writing lines down with
line feeds between them and reading the lines of a text undo each other
(`unlines_lines`, `lines_unlines`), except that no lines at all are written as one empty line.
A text without an empty line has no line feeds at its ends or side by side (`feeds_apart`).
-/

namespace AgentWorkshop

namespace Text

variable {t line : Text} {ls ls' : List Text}

/-- What the lines are lines of. -/
theorem unlines_lines (t : Text) : unlines t.lines = t :=
  List.intercalate_splitOn _

/-- **Lines are read as they were written.** -/
theorem lines_unlines (hls : ls ≠ []) (h : ∀ line ∈ ls, ('\n' : CodePoint) ∉ line) :
    (unlines ls).lines = ls :=
  List.splitOn_intercalate _ h hls

theorem unlines_singleton (line : Text) : unlines [line] = line :=
  List.intercalate_singleton

/-- A line above other lines. -/
theorem unlines_cons_of_ne_nil (hls : ls ≠ []) :
    unlines (line :: ls) = line ++ text "\n" ++ unlines ls :=
  List.intercalate_cons_of_ne_nil hls

/-- And several lines above others. -/
theorem unlines_append (hls : ls ≠ []) (hls' : ls' ≠ []) :
    unlines (ls ++ ls') = unlines ls ++ text "\n" ++ unlines ls' := by
  induction ls with
  | nil => exact absurd rfl hls
  | cons line rest ih =>
    by_cases hrest : rest = []
    · rw [hrest, List.singleton_append, unlines_cons_of_ne_nil hls', unlines_singleton]
    · have hmore : rest ++ ls' ≠ [] := List.append_ne_nil_of_left_ne_nil hrest _
      rw [List.cons_append, unlines_cons_of_ne_nil hmore, ih hrest, unlines_cons_of_ne_nil hrest]
      simp only [List.append_assoc]

theorem lines_of_not_mem (h : ('\n' : CodePoint) ∉ t) : t.lines = [t] :=
  List.splitOn_eq_singleton h

/-- A line feed ends one line and starts another. -/
theorem lines_append_feed (s t : Text) : (s ++ ('\n' : CodePoint) :: t).lines = s.lines ++ t.lines :=
  List.splitOn_append_cons_self s t

/-- **Where no line is empty, line feeds stand apart**: none at the start, none at the end and
no two side by side, and something is there besides. -/
theorem feeds_apart (h : [] ∉ t.lines) :
    t ≠ [] ∧ ¬ text "\n" <+: t ∧ ¬ text "\n" <:+ t ∧ ¬ text "\n\n" <:+: t := by
  refine ⟨?_, ?_, ?_, ?_⟩
  · rintro rfl
    exact h List.mem_cons_self
  · rintro ⟨s, rfl⟩
    have hlines := lines_append_feed [] s
    exact h (hlines ▸ List.mem_append_left _ List.mem_cons_self)
  · rintro ⟨s, rfl⟩
    have hlines := lines_append_feed s []
    exact h (hlines ▸ List.mem_append_right _ List.mem_cons_self)
  · rintro ⟨s, s', rfl⟩
    have hlines : lines (s ++ text "\n\n" ++ s') = lines s ++ [] :: lines s' := by
      rw [List.append_assoc]
      exact (lines_append_feed s _).trans (congrArg _ (lines_append_feed [] s'))
    exact h (hlines ▸ List.mem_append_right _ List.mem_cons_self)

/-- Lines that are each ended by a line feed; after the last one stands nothing. -/
theorem lines_flatMap_feed (ls : List Text) :
    lines (ls.flatMap fun line => line ++ text "\n") = ls.flatMap lines ++ [[]] := by
  induction ls with
  | nil => rfl
  | cons line ls ih =>
    have hcons : (line :: ls).flatMap (fun line => line ++ text "\n") =
        line ++ ('\n' : CodePoint) :: ls.flatMap fun line => line ++ text "\n" := by
      rw [List.flatMap_cons, List.append_assoc]
      rfl
    rw [hcons, lines_append_feed, ih, List.flatMap_cons, List.append_assoc]

theorem flatMap_lines_of_not_mem (h : ∀ line ∈ ls, ('\n' : CodePoint) ∉ line) :
    ls.flatMap lines = ls := by
  induction ls with
  | nil => rfl
  | cons line ls ih =>
    obtain ⟨hline, hls⟩ := List.forall_mem_cons.1 h
    rw [List.flatMap_cons, lines_of_not_mem hline, ih hls, List.singleton_append]

/-- **There is one line more than line feeds.** -/
theorem length_lines (t : Text) : t.lines.length = t.count ('\n' : CodePoint) + 1 := by
  induction t with
  | nil => rfl
  | cons c t ih =>
    rw [lines, List.splitOn_cons_eq_if_modifyHead, List.count_cons, ← lines]
    split <;> simp_all

/-- The lines of several texts: one for each of them, and one more for each line feed. -/
theorem length_flatMap_lines (ls : List Text) : (ls.flatMap lines).length =
    ls.length + (ls.map fun line => line.count ('\n' : CodePoint)).sum := by
  induction ls with
  | nil => rfl
  | cons line ls ih =>
    rw [List.flatMap_cons, List.length_append, length_lines, ih, List.map_cons, List.sum_cons,
      List.length_cons]
    omega

/-- No line has a line feed in it. -/
theorem not_mem_of_mem_lines (h : line ∈ t.lines) : ('\n' : CodePoint) ∉ line := by
  induction t generalizing line with
  | nil =>
    rw [List.mem_singleton.1 h]
    exact List.not_mem_nil
  | cons c t ih =>
    rw [lines, List.splitOn_cons_eq_if_modifyHead, ← lines] at h
    split at h
    · rcases List.mem_cons.1 h with rfl | h
      · exact List.not_mem_nil
      · exact ih h
    · rename_i hc
      cases hlines : lines t with
      | nil => rw [hlines] at h; cases h
      | cons first rest =>
        rw [hlines] at h ih
        rcases List.mem_cons.1 h with rfl | h
        · have hfirst := ih (List.mem_cons_self ..)
          exact List.not_mem_cons_of_ne_of_not_mem (fun heq => hc (by simp [← heq])) hfirst
        · exact ih (List.mem_cons_of_mem _ h)

end Text

end AgentWorkshop
