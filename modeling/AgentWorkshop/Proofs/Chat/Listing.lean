import AgentWorkshop.Chat.History
import AgentWorkshop.Proofs.Text.Lines
import AgentWorkshop.Proofs.Text.Numeral
import Mathlib.Algebra.Order.BigOperators.Group.List

/-!
# The listing of a history

A history is listed as its entries, each ended by a line feed (`render_eq`). The lines of the
listing are those of the entries, so there is one for each message exactly if no content has a
line feed; then the messages can be read back from the listing (`listing_lines_iff`). Nothing
keeps a line feed out of a content, and behind one the content can go on like another entry
(`listing_ambiguous`).
-/

namespace AgentWorkshop

namespace Role

/-- A role is told by its name, whatever follows. -/
theorem toText_append_inj {r r' : Role} {s s' : Text}
    (h : r.toText ++ s = r'.toText ++ s') : r = r' ∧ s = s' := by
  cases r <;> cases r'
  · exact ⟨rfl, List.append_cancel_left h⟩
  · exact absurd (List.cons.inj h).1 (by decide)
  · exact absurd (List.cons.inj h).1 (by decide)
  · exact ⟨rfl, List.append_cancel_left h⟩

end Role

namespace History

variable {h k : History} {m m' : Message} {n : Nat}

/-- A message under its number. -/
def entry (n : Nat) (m : Message) : Text :=
  Text.ofNat n ++ text ". " ++ m.role.toText ++ text ": " ++ m.content

/-- The entries of a history, numbered from one. -/
def entries (h : History) : List Text :=
  h.mapIdx fun i m => entry (i + 1) m

/-- No content has a line feed in it. -/
def OneLine (h : History) : Prop :=
  ∀ m ∈ h, ('\n' : CodePoint) ∉ m.content

/-- A message is told by its entry. -/
theorem entry_inj (heq : entry n m = entry n m') : m = m' := by
  simp only [entry, List.append_assoc] at heq
  have hrole := List.append_cancel_left (List.append_cancel_left heq)
  obtain ⟨hrole, hrest⟩ := Role.toText_append_inj hrole
  have hcontent := List.append_cancel_left hrest
  cases m
  cases m'
  exact congrArg₂ Message.mk hrole hcontent

theorem entries_inj (heq : entries h = entries k) : h = k := by
  refine List.ext_getElem? fun i => ?_
  have hentry := congrArg (·[i]?) heq
  simp only [entries, List.getElem?_mapIdx] at hentry
  exact Option.map_injective (fun _ _ => entry_inj) hentry

/-- The number, the role and what stands around them have no line feed. -/
theorem count_entry (n : Nat) (m : Message) :
    (entry n m).count ('\n' : CodePoint) = m.content.count ('\n' : CodePoint) := by
  have hnumber : (Text.ofNat n).count ('\n' : CodePoint) = 0 :=
    List.count_eq_zero.2 fun hmem => absurd (Text.isAsciiDigit_of_mem_ofNat hmem) (by decide)
  have hrole : m.role.toText.count ('\n' : CodePoint) = 0 := by
    cases m.role <;> decide
  have hpoint : (text ". ").count ('\n' : CodePoint) = 0 := by decide
  have hcolon : (text ": ").count ('\n' : CodePoint) = 0 := by decide
  simp only [entry, List.count_append, hnumber, hrole, hpoint, hcolon, Nat.zero_add]

/-- So an entry is one line exactly if the content is. -/
theorem mem_entry_iff :
    ('\n' : CodePoint) ∈ entry n m ↔ ('\n' : CodePoint) ∈ m.content := by
  rw [← List.count_pos_iff, count_entry, List.count_pos_iff]

theorem oneLine_iff : OneLine h ↔ ∀ e ∈ entries h, ('\n' : CodePoint) ∉ e := by
  refine ⟨fun hone e he => ?_, fun hall m hm => ?_⟩
  · obtain ⟨i, hi, rfl⟩ := List.mem_mapIdx.1 he
    exact mt mem_entry_iff.1 (hone _ (List.getElem_mem hi))
  · obtain ⟨i, hi, rfl⟩ := List.getElem_of_mem hm
    exact mt mem_entry_iff.2 (hall _ (List.mem_mapIdx.2 ⟨i, hi, rfl⟩))

theorem renderFrom_eq (n : Nat) (h : History) : renderFrom n h =
    (h.mapIdx fun i m => entry (n + i) m).flatMap fun line => line ++ text "\n" := by
  induction h generalizing n with
  | nil => rfl
  | cons m h ih =>
    rw [renderFrom, ih, List.mapIdx_cons, List.flatMap_cons]
    simp only [entry, Nat.add_zero, Nat.add_assoc, Nat.add_comm 1]

/-- **The listing is the entries, each ended by a line feed.** -/
theorem render_eq (h : History) :
    render h = (entries h).flatMap fun line => line ++ text "\n" := by
  rw [render, renderFrom_eq, entries]
  simp only [Nat.add_comm 1]

/-- **The lines of the listing are those of the entries.** -/
theorem lines_render (h : History) :
    (render h).lines = (entries h).flatMap Text.lines ++ [[]] := by
  rw [render_eq, Text.lines_flatMap_feed]

/-- Without line feeds in the contents they are the entries. -/
theorem lines_render_of_oneLine (hone : OneLine h) : (render h).lines = entries h ++ [[]] := by
  rw [lines_render, Text.flatMap_lines_of_not_mem (oneLine_iff.1 hone)]

/-- The listing has a line for each message, and one more for each line feed in a content. -/
theorem length_lines_render (h : History) : (render h).lines.length =
    h.length + (h.map fun m => m.content.count ('\n' : CodePoint)).sum + 1 := by
  have hcounts : (entries h).map (fun e => e.count ('\n' : CodePoint)) =
      h.map fun m => m.content.count ('\n' : CodePoint) := by
    refine List.ext_getElem? fun i => ?_
    simp only [entries, List.getElem?_map, List.getElem?_mapIdx, Option.map_map]
    exact congrArg (Option.map · h[i]?) (funext fun m => count_entry (i + 1) m)
  rw [lines_render, List.length_append, Text.length_flatMap_lines, hcounts, entries,
    List.length_mapIdx]
  rfl

theorem length_lines_render_iff : (render h).lines.length = h.length + 1 ↔ OneLine h := by
  have hsum : (h.map fun m => m.content.count ('\n' : CodePoint)).sum = 0 ↔ OneLine h := by
    rw [List.sum_eq_zero_iff, List.forall_mem_map]
    exact forall₂_congr fun m _ => List.count_eq_zero
  rw [length_lines_render, ← hsum]
  omega

/-- **The listing has a line for each message exactly if no content has a line feed.** It always
consists of the entries, each ended by a line feed: the number of the message, its role and its
content. Then these are its lines, and the history can be read back from it. -/
theorem listing_lines_iff (h : History) :
    render h = ((entries h).flatMap fun line => line ++ text "\n") ∧
    (∀ i, (entries h)[i]? = h[i]?.map fun m =>
      Text.ofNat (i + 1) ++ text ". " ++ m.role.toText ++ text ": " ++ m.content) ∧
    (render h).lines.length =
      h.length + (h.map fun m => m.content.count ('\n' : CodePoint)).sum + 1 ∧
    ((render h).lines.length = h.length + 1 ↔ OneLine h) ∧
    ((render h).lines = entries h ++ [[]] ↔ OneLine h) ∧
    ∀ k, OneLine h → OneLine k → render h = render k → h = k := by
  refine ⟨render_eq h, fun i => List.getElem?_mapIdx, length_lines_render h,
    length_lines_render_iff, ⟨fun hlines => ?_, lines_render_of_oneLine⟩,
    fun k hone hone' heq => ?_⟩
  · rw [← length_lines_render_iff, hlines, entries, List.length_append, List.length_mapIdx]
    rfl
  · -- Listings that are equal have equal lines, which are the entries.
    have hlines := congrArg Text.lines heq
    rw [lines_render_of_oneLine hone, lines_render_of_oneLine hone'] at hlines
    exact entries_inj (List.append_cancel_right hlines)

/-- A greeting and its answer are listed on two lines, and no other such history is. -/
theorem listing_lines_greeting :
    OneLine [⟨.user, text "hello"⟩, ⟨.assistant, text "hi"⟩] ∧
    (render [⟨.user, text "hello"⟩, ⟨.assistant, text "hi"⟩]).lines =
      [text "1. user: hello", text "2. assistant: hi", []] ∧
    ∀ k, OneLine k → render k = text "1. user: hello\n2. assistant: hi\n" →
      k = [⟨.user, text "hello"⟩, ⟨.assistant, text "hi"⟩] := by
  have hone : OneLine [⟨.user, text "hello"⟩, ⟨.assistant, text "hi"⟩] := by
    simp only [OneLine, List.forall_mem_cons, List.not_mem_nil, false_imp_iff, implies_true,
      and_true]
    decide
  obtain ⟨-, -, -, -, hlines, hread⟩ :=
    listing_lines_iff [⟨.user, text "hello"⟩, ⟨.assistant, text "hi"⟩]
  refine ⟨hone, (hlines.2 hone).trans (by cbv), fun k hk hrender => ?_⟩
  exact (hread k hone hk (Eq.trans (by cbv) hrender.symm)).symm

/-- **A line feed in a content is read as the end of an entry.** One message with another entry
behind a line feed is listed as two messages are. -/
theorem listing_ambiguous :
    render [⟨.user, text "hello\n2. assistant: hi"⟩] = text "1. user: hello\n2. assistant: hi\n" ∧
    render [⟨.user, text "hello"⟩, ⟨.assistant, text "hi"⟩] =
      text "1. user: hello\n2. assistant: hi\n" ∧
    (render [⟨.user, text "hello\n2. assistant: hi"⟩]).lines =
      [text "1. user: hello", text "2. assistant: hi", []] := by
  refine ⟨?_, ?_, ?_⟩ <;> cbv

end History

end AgentWorkshop
