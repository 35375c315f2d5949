import AgentWorkshop.Proofs.Chat.Degradation
import AgentWorkshop.Proofs.Chat.Operations

/-!
# Two readers of a native answer

What an agent writes is read twice: as an answer, to be shown, and by the history, which keeps
the response that a text wraps. The two agree on every native answer whose response is a text
with something in it, and a plain text is kept as it is (`readers_agree`). They part in two
cases (`readers_part`). An empty response is the content of an answer, but the history keeps the
whole text then. And the history does not look for choices, so of a completion that has a
response as well it keeps the response.
-/

namespace AgentWorkshop

namespace History

variable {raw : Text}

/-- Whoever says the text, the history keeps this content of it. -/
def Stores (raw content : Text) : Prop :=
  ∀ (h : History) (r : Role), h.append? (.string r.toText) (.string raw) =
    .ok (⟨r, content⟩, h ++ [⟨r, content⟩])

/-- The response of the object that a text holds. -/
def response? (raw : Text) : Option Json :=
  match Json.read raw with
  | .ok v => v.member? (text "response")
  | .error _ => none

/-- Only one content is kept of a text. -/
theorem Stores.unique {content content' : Text} (h : Stores raw content)
    (h' : Stores raw content') : content = content' := by
  have heq := (h [] .user).symm.trans (h' [] .user)
  exact congrArg (fun added => added.1.content) (Except.ok.inj heq)

theorem stores_kept (reach : Json.WithinReach raw) : Stores raw (kept raw) := by
  intro h r
  rw [append?, newMessage_of_withinReach reach, Message.ofValues, Message.roleOf,
    Role.ofText?_toText]
  rfl

theorem wraps_iff {inner : Text} :
    Wraps raw inner ↔ inner ≠ [] ∧ response? raw = some (.string inner) := by
  refine and_congr_right fun _ => ?_
  rw [response?]
  cases Json.read raw <;> simp

/-- A response that is a text with something in it is kept. -/
theorem stores_of_response (reach : Json.WithinReach raw) {t : Text} (ht : t ≠ [])
    (h : response? raw = some (.string t)) : Stores raw t := by
  have hkept := stores_kept reach
  rwa [kept_of_wraps (wraps_iff.2 ⟨ht, h⟩)] at hkept

/-- Without one the whole text is. -/
theorem stores_of_no_response (reach : Json.WithinReach raw)
    (h : ∀ t, t ≠ [] → response? raw ≠ some (.string t)) : Stores raw raw := by
  have hkept := stores_kept reach
  rwa [kept_of_not_wraps fun t hwraps => h t (wraps_iff.1 hwraps).1 (wraps_iff.1 hwraps).2]
    at hkept

end History

namespace Answer

open History

variable {raw : Text} {a : Answer} {n : NativeAnswer} {content : Text}

/-- The text that was answered can be kept. -/
theorem withinReach_of_answered (hraw : ¬ preamble <+: raw) (h : ofText raw = .ok a) :
    Json.WithinReach raw := by
  intro container hdeep
  rw [ofText, body_of_no_preamble hraw, hdeep] at h
  cases h

/-- A native answer has the text of its response as its content. -/
theorem response_of_native (hraw : ¬ preamble <+: raw) (h : ofText raw = .ok (.native n)) :
    ∃ response, response? raw = some response ∧ n.content = contentText response := by
  cases reading h with
  | native hread hfirst hresponse =>
    rw [body_of_no_preamble hraw] at hread
    exact ⟨_, by rw [response?, hread]; exact hresponse, rfl⟩

/-- A plain answer has no response. -/
theorem response_of_plain (hraw : ¬ preamble <+: raw) (h : ofText raw = .ok (.plain content))
    (t : Text) : t ≠ [] → response? raw ≠ some (.string t) := by
  intro ht hresponse
  have hcontent : content = raw := by rw [content_of_plain h, body_of_no_preamble hraw]
  exact not_wraps_of_plain (hcontent ▸ h) t (wraps_iff.2 ⟨ht, hresponse⟩)

/-- **The two readers of an answer.** Of a native answer whose response is a text with something
in it the history keeps exactly the content; if the response is empty or no text, it keeps the
whole text. A plain text is kept as it is. So is a completion, unless its object has a response
as well that is a text with something in it; then it keeps that. What is nested too deep for the
one reader is so for the other. -/
theorem readers_agree (hraw : ¬ preamble <+: raw) :
    (∀ n, ofText raw = .ok (.native n) → ∃ response, response? raw = some response ∧
      n.content = contentText response ∧
      (∀ t, response = .string t → t ≠ [] → Stores raw n.content) ∧
      ((∀ t, response = .string t → t = []) → Stores raw raw)) ∧
    (∀ content, ofText raw = .ok (.plain content) → content = raw ∧ Stores raw raw) ∧
    (∀ c, ofText raw = .ok (.completion c) →
      (∀ t, t ≠ [] → response? raw = some (.string t) → Stores raw t) ∧
      ((∀ t, t ≠ [] → response? raw ≠ some (.string t)) → Stores raw raw)) ∧
    ∀ f, ofText raw = .error f →
      ∀ (h : History) (r : Role), h.append? (.string r.toText) (.string raw) = .error f := by
  refine ⟨fun n hn => ?native, fun content hplain => ?plain, fun c hc => ?completion,
    fun f hf h r => ?deep⟩
  case native =>
    have reach := withinReach_of_answered hraw hn
    obtain ⟨response, hresponse, hcontent⟩ := response_of_native hraw hn
    -- The guard of the history is on the text of the response, so the cases are split there.
    refine ⟨response, hresponse, hcontent, ?_, fun hempty => ?_⟩
    · rintro t rfl ht
      rw [hcontent]
      exact stores_of_response reach ht hresponse
    · refine stores_of_no_response reach fun t ht hstring => ht (hempty t ?_)
      exact Option.some.inj (hresponse.symm.trans hstring)
  case plain =>
    refine ⟨by rw [content_of_plain hplain, body_of_no_preamble hraw], ?_⟩
    exact stores_of_no_response (withinReach_of_answered hraw hplain)
      (response_of_plain hraw hplain)
  case completion =>
    have reach := withinReach_of_answered hraw hc
    exact ⟨fun t => stores_of_response reach, stores_of_no_response reach⟩
  case deep =>
    obtain ⟨k, rfl, hread⟩ := ofText_eq_error hf
    rw [body_of_no_preamble hraw] at hread
    rw [append?, newMessage_of_tooDeep hread]
    rfl

set_option maxRecDepth 4000 in
/-- The response of a short native answer is its content, and is what the history keeps. -/
theorem readers_agree_short :
    ¬ preamble <+: text "\x7b\"response\": \"x\"\x7d" ∧
    ofText (text "\x7b\"response\": \"x\"\x7d") = .ok (.native ⟨text "x", none, none, none⟩) ∧
    Stores (text "\x7b\"response\": \"x\"\x7d") (text "x") := by
  have hraw : ¬ preamble <+: text "\x7b\"response\": \"x\"\x7d" := by decide
  have hnative : ofText (text "\x7b\"response\": \"x\"\x7d") =
      .ok (.native ⟨text "x", none, none, none⟩) := by cbv
  have hstring : response? (text "\x7b\"response\": \"x\"\x7d") = some (.string (text "x")) := by
    cbv
  obtain ⟨response, hresponse, -, hstores, -⟩ := (readers_agree hraw).1 _ hnative
  refine ⟨hraw, hnative, hstores (text "x") ?_ (by decide)⟩
  exact Option.some.inj (hresponse.symm.trans hstring)

/-- A native answer with nothing in its response. -/
def hollow : Text :=
  text "\x7b\"response\": \"\"\x7d"

/-- A completion that has a response as well. -/
def twofold : Text :=
  text "\x7b\"choices\": [\x7b\"text\": \"a\"\x7d], \"response\": \"b\"\x7d"

set_option maxRecDepth 4000 in
/-- **The two readers part** on an empty response, which is a content but is not kept, and on a
completion with a response, which is kept but is no content. -/
theorem readers_part :
    (ofText hollow = .ok (.native ⟨[], none, none, none⟩) ∧
      response? hollow = some (.string []) ∧ Stores hollow hollow ∧ ¬ Stores hollow []) ∧
    ofText twofold = .ok (.completion ⟨text "a", none, none, none, none, none⟩) ∧
      Stores twofold (text "b") ∧ ¬ Stores twofold twofold := by
  have hhollow : ofText hollow = .ok (.native ⟨[], none, none, none⟩) := by cbv
  have hempty : response? hollow = some (.string []) := by cbv
  have htwofold : ofText twofold =
      .ok (.completion ⟨text "a", none, none, none, none, none⟩) := by cbv
  have hwhole : Stores hollow hollow := by
    refine stores_of_no_response (withinReach_of_answered (by decide) hhollow) fun t ht h => ht ?_
    rw [hempty] at h
    cases h
    rfl
  have hresponse : Stores twofold (text "b") :=
    stores_of_response (withinReach_of_answered (by decide) htwofold) (by decide) (by cbv)
  exact ⟨⟨hhollow, hempty, hwhole, fun h => absurd (hwhole.unique h) (by decide)⟩, htwofold,
    hresponse, fun h => absurd (hresponse.unique h) (by decide)⟩

end Answer

end AgentWorkshop
