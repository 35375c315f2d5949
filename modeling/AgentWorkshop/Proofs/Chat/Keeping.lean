import AgentWorkshop.Proofs.Chat.Answer
import AgentWorkshop.Proofs.Chat.Record
import AgentWorkshop.Proofs.Json.Extent

/-!
# What is kept of an answer

An answer is shown with its content, and the history keeps what is left of that content once it
is unwrapped. The two are the same unless the content `Wraps` a response of its own
(`kept_eq_iff`); in that case the history keeps the inner text, which is shorter. Plain answers
never wrap anything (`not_wraps_of_plain`). What was kept once is sent with every later request
until the history is cleared (`launches_since`).
-/

namespace AgentWorkshop

namespace History

variable {content : Text}

/-- The content is an object that has this text as its response. -/
def Wraps (content inner : Text) : Prop :=
  inner ≠ [] ∧ ∃ v, Json.read content = .ok v ∧ v.member? (text "response") = some (.string inner)

theorem wrapped?_eq_some_iff {v : Json} {inner : Text} : wrapped? v = some inner ↔
    inner ≠ [] ∧ v.member? (text "response") = some (.string inner) := by
  rw [wrapped?]
  split
  · rename_i hmember
    simp_all
  · rename_i t hne hmember
    simp only [hmember, Option.some.injEq, Json.string.injEq]
    exact ⟨fun h => ⟨h ▸ hne, h⟩, And.right⟩
  · simp_all

/-- **What is kept of a content that wraps a response is that response.** -/
theorem kept_of_wraps {inner : Text} (h : Wraps content inner) : kept content = inner := by
  obtain ⟨hne, v, hv, hinner⟩ := h
  simp only [kept, hv, wrapped?_eq_some_iff.2 ⟨hne, hinner⟩, Option.getD_some]

/-- Of any other content all is kept. -/
theorem kept_of_not_wraps (h : ∀ inner, ¬ Wraps content inner) : kept content = content := by
  cases hv : Json.read content with
  | error e => simp only [kept, hv]
  | ok v =>
    cases hinner : wrapped? v with
    | none => simp only [kept, hv, hinner, Option.getD_none]
    | some inner =>
      obtain ⟨hne, hmember⟩ := wrapped?_eq_some_iff.1 hinner
      exact absurd ⟨hne, v, hv, hmember⟩ (h inner)

/-- A wrapped response is shorter than the content that wraps it. -/
theorem Wraps.length_lt {inner : Text} (h : Wraps content inner) :
    inner.length < content.length := by
  obtain ⟨-, v, hv, hinner⟩ := h
  exact Json.length_lt_of_read hv hinner

/-- **A content is kept as it is exactly if it wraps nothing.** -/
theorem kept_eq_iff : kept content = content ↔ ∀ inner, ¬ Wraps content inner := by
  refine ⟨fun hkept inner hwraps => ?_, kept_of_not_wraps⟩
  have hlength := hwraps.length_lt
  rw [← kept_of_wraps hwraps, hkept] at hlength
  exact Nat.lt_irrefl _ hlength

end History

/-- A plain answer wraps nothing: with a response it would be a native one. -/
theorem Answer.not_wraps_of_plain {raw content : Text} (h : ofText raw = .ok (.plain content))
    (inner : Text) : ¬ History.Wraps content inner := by
  rintro ⟨-, v, hv, hinner⟩
  cases reading h with
  | malformed hread =>
    rw [hread] at hv
    cases hv
  | other hread hfirst hresponse =>
    rw [hread] at hv
    cases hv
    rw [hresponse] at hinner
    cases hinner

namespace Session

variable {s : Session} {w w' : Workshop} {m : Text} {a : Answer}

/-! ## From then on -/

/-- **What a history holds is sent from then on.** Until it is cleared, every build finds at
the request path what the history held before, with more after it. -/
theorem launches_since (s : Session) (w : Workshop) {cs : List Call}
    (hcs : ∀ c ∈ cs, requestOf c.line ≠ .clear) :
    w.history <+: (s.calls w cs).history ∧
      ∃ new, (s.calls w cs).launches = w.launches ++ new ∧
        ∀ l ∈ new, w.history <+: l.history ∧ s.Sent w.directory l := by
  induction cs using List.reverseRecOn with
  | nil => exact ⟨List.prefix_rfl, [], (List.append_nil _).symm, by simp⟩
  | append_singleton cs c ih =>
    obtain ⟨hstart, new, hnew, hsent⟩ := ih fun d hd => hcs d (List.mem_append_left _ hd)
    rw [calls_concat]
    rcases call_cases s (s.calls w cs) c with ⟨hclear, -⟩ | ⟨-, hextends⟩
    · exact absurd hclear (hcs c (by simp))
    have hgrown : w.history <+: (s.call (s.calls w cs) c).history := by
      rw [hextends.history]
      exact hstart.trans (List.prefix_append _ _)
    refine ⟨hgrown, ?_⟩
    rcases hextends.launches with h | ⟨l, q, h, hl, hasked, -⟩
    · exact ⟨new, h.trans hnew, hsent⟩
    · rw [directory_calls] at hl
      have hbefore : w.history <+: l.history := by
        rw [hasked]
        exact hstart.trans (List.prefix_append _ _)
      refine ⟨new ++ [l], by rw [h, hnew, List.append_assoc], fun l' hl' => ?_⟩
      rcases List.mem_append.1 hl' with hold | hlast
      · exact hsent l' hold
      · rw [List.mem_singleton.1 hlast]
        exact ⟨hbefore, hl⟩

/-- **What is shown of an answer and what is kept of it.** An answered turn shows the answer
last and keeps what is left of its content once it is unwrapped. That is the content itself
exactly if the content wraps no response of its own, as no plain answer does; otherwise it is
the wrapped response, a shorter text that was never shown by itself. Until the history is
cleared, every later build is sent what was kept. -/
theorem kept_as_shown_iff (h : s.turn m w = .ok (some a) w') :
    (∃ events, w'.shown = w.shown ++ events ++ [.line a.markup]) ∧
    w'.history = asked w m ++ [⟨.assistant, History.kept a.content⟩] ∧
    (History.kept a.content = a.content ↔ ∀ inner, ¬ History.Wraps a.content inner) ∧
    (∀ inner, History.Wraps a.content inner →
      History.kept a.content = inner ∧ inner.length < a.content.length) ∧
    (∀ content, a = .plain content → History.kept a.content = a.content) ∧
    ∀ cs, (∀ c ∈ cs, requestOf c.line ≠ .clear) →
      ∃ new, (s.calls w' cs).launches = w'.launches ++ new ∧
        ∀ l ∈ new, w'.history <+: l.history ∧ s.Sent w'.directory l := by
  have hshown : ∃ events, w'.shown = w.shown ++ events ++ [.line a.markup] := by
    cases course_of_answered h with
    | @answered t o bytes a said written output replied parsed kept =>
      refine ⟨started :: outputEvents o, ?_⟩
      simp only [afterBuild, List.append_assoc, List.cons_append]
  have hplain : ∀ content, a = .plain content → History.kept a.content = a.content := by
    rintro content rfl
    cases course_of_answered h with
    | answered said written output replied parsed kept =>
      exact History.kept_of_not_wraps (Answer.not_wraps_of_plain parsed)
  refine ⟨hshown, ?_, History.kept_eq_iff, fun inner hwraps => ?_, hplain, fun cs hcs => ?_⟩
  · cases course_of_answered h with
    | answered => rfl
  · exact ⟨History.kept_of_wraps hwraps, hwraps.length_lt⟩
  · exact (launches_since s w' hcs).2

set_option maxRecDepth 4000 in
/-- The answer `ok` is kept as it is shown. -/
theorem kept_as_shown_small : ∃ w', small.turn (text "hi") (answering [text "ok"]) =
      .ok (some (.plain (text "ok"))) w' ∧
    w'.history = [⟨.user, text "hi"⟩, ⟨.assistant, text "ok"⟩] ∧
    ∃ events, w'.shown = events ++ [.line (Answer.plain (text "ok")).markup] := by
  obtain ⟨w', hturn⟩ := turn_small
  obtain ⟨⟨events, hshown⟩, hhistory, -, -, hplain, -⟩ := kept_as_shown_iff hturn
  have hasked : asked (answering [text "ok"]) (text "hi") = [⟨.user, text "hi"⟩] := by cbv
  refine ⟨w', hturn, ?_, events, hshown⟩
  rw [hhistory, hplain _ rfl, hasked]
  rfl

/-- A native answer whose response is a native answer. -/
def nested : Text :=
  text "\x7b\"response\": \"\x7b\\\"response\\\": \\\"in\\\"\x7d\"\x7d"

set_option maxRecDepth 4000 in
/-- **The inner answer of an answer is shown in full, but only its response is kept.** -/
theorem nested_kept_unwrapped : ∃ a w',
    small.turn (text "hi") (answering [nested]) = .ok (some a) w' ∧
    w'.shown.getLast? = some (.line a.markup) ∧
    a.content = text "\x7b\"response\": \"in\"\x7d" ∧
    w'.history.getLast? = some ⟨.assistant, text "in"⟩ := by
  refine ⟨_, _, by cbv, ?_, ?_, ?_⟩
  · cbv
  · cbv
  · cbv

end Session

end AgentWorkshop
