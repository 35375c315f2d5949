import AgentWorkshop.Proofs.Chat.BuildLog

/-!
# Laws of the filter

The filter of logs goes line by line, so filtering one log below another is filtering both
(`filter_append`), and what is kept is kept again as it is (`filter_kept`). A line that tells
something is never empty, so no line feed of what is kept stands at an end or beside another.
-/

namespace AgentWorkshop

namespace BuildLog

variable {a b log kept : Text}

/-- Between two logs a line feed is the end of one line and the start of another. -/
theorem telling_append (a b : Text) : telling (a ++ text "\n" ++ b) = telling a ++ telling b := by
  have hlines : (a ++ text "\n" ++ b : Text).lines = a.lines ++ b.lines := by
    rw [List.append_assoc]
    exact Text.lines_append_feed a b
  rw [telling, hlines, List.filter_append]
  rfl

/-- **The filter goes through one log and then through the other.** -/
theorem filter_append (a b : Text) : filter (a ++ text "\n" ++ b) =
    (filter a).merge (fun s t => s ++ text "\n" ++ t) (filter b) := by
  simp only [filter_eq, telling_append]
  by_cases ha : telling a = []
  · rw [ha, List.nil_append, if_pos rfl, Option.merge_none_left]
  by_cases hb : telling b = []
  · rw [hb, List.append_nil, if_neg ha, if_pos rfl, Option.merge_none_right]
  · have hboth : telling a ++ telling b ≠ [] := List.append_ne_nil_of_left_ne_nil ha _
    rw [if_neg hboth, if_neg ha, if_neg hb, Option.merge_some_some, Text.unlines_append ha hb]

/-- What is kept has the lines that tell something, and no others. -/
theorem lines_of_filter (h : filter log = some kept) :
    telling log ≠ [] ∧ kept.lines = telling log := by
  rw [filter_eq] at h
  split_ifs at h with hnil
  obtain rfl := Option.some.inj h
  exact ⟨hnil, lines_unlines_telling hnil⟩

/-- **What is kept is kept again**, each line of it. -/
theorem filter_kept (h : filter log = some kept) : filter kept = some kept := by
  obtain ⟨hne, hlines⟩ := lines_of_filter h
  have htelling : telling kept = telling log := by
    rw [telling, hlines, telling, List.filter_filter]
    simp only [Bool.and_self]
  rw [filter_eq, htelling, if_neg hne, ← hlines, Text.unlines_lines]

/-- No line of what is kept is empty, because an empty one shows nothing. -/
theorem nil_not_mem_of_filter (h : filter log = some kept) : [] ∉ kept.lines := by
  intro hnil
  rw [(lines_of_filter h).2] at hnil
  have htells : Tells [] := of_decide_eq_true (List.mem_filter.1 hnil).2
  obtain ⟨c, hc, -⟩ := htells.shows
  cases hc

/-- **The filter as an operation.** Of two logs, one below the other, it keeps what it keeps of
each, the one above the other if there is something of both. What it keeps it keeps again, as it
is. And that is never empty: it neither starts nor ends with a line feed, and no two of them
stand side by side in it. -/
theorem filter_laws (a b : Text) :
    filter (a ++ text "\n" ++ b) =
      (filter a).merge (fun s t => s ++ text "\n" ++ t) (filter b) ∧
    ∀ kept, filter a = some kept → filter kept = some kept ∧
      kept ≠ [] ∧ ¬ text "\n" <+: kept ∧ ¬ text "\n" <:+ kept ∧ ¬ text "\n\n" <:+: kept := by
  refine ⟨filter_append a b, fun kept h => ⟨filter_kept h, ?_⟩⟩
  exact Text.feeds_apart (nil_not_mem_of_filter h)

/-- Below the log with a banner stands one that starts with a banner. -/
theorem filter_laws_mixed :
    filter (mixed ++ text "\n" ++ text "   Running x\nthird") =
      some (text "first\r\n  second profile\nthird") ∧
    filter (text "first\r\n  second profile") = some (text "first\r\n  second profile") ∧
    ¬ text "\n\n" <:+: text "first\r\n  second profile" := by
  have hmixed : filter mixed = some (text "first\r\n  second profile") := by decide
  have hthird : filter (text "   Running x\nthird") = some (text "third") := by decide
  obtain ⟨hboth, hkept⟩ := filter_laws mixed (text "   Running x\nthird")
  obtain ⟨hagain, -, -, -, hfeeds⟩ := hkept _ hmixed
  rw [hmixed, hthird, Option.merge_some_some] at hboth
  exact ⟨hboth, hagain, hfeeds⟩

end BuildLog

end AgentWorkshop
