import AgentWorkshop.Proofs.Chat.Answer
import AgentWorkshop.Proofs.Json.Depth
import AgentWorkshop.Proofs.Json.Limit
import Mathlib

/-!
# What is kept of a text that is no answer

Every text is answered, one that is no JSON by itself without its preamble, unless it is nested
deeper than JSON is read (`answered_within_limit`). The preamble is taken away once. So a plain
answer is read again as the same plain answer exactly if its content has no preamble
(`plain_again_iff`); one that has, because there were two of them, is read as what stands behind
it.
-/

namespace AgentWorkshop

namespace Answer

variable {raw t content : Text} {a : Answer}

/-! ## Texts without their preamble -/

/-- A text is its body, or a preamble with its body behind it. -/
theorem body_cases (raw : Text) :
    (¬ preamble <+: raw ∧ body raw = raw) ∨ ∃ t, raw = preamble ++ t ∧ body raw = t := by
  by_cases h : preamble <+: raw
  · obtain ⟨t, rfl⟩ := h
    exact .inr ⟨t, rfl, body_preamble t⟩
  · refine .inl ⟨h, ?_⟩
    have hnone : preamble.isPrefixOf? raw = none := by
      cases hfound : preamble.isPrefixOf? raw with
      | none => rfl
      | some t => exact absurd ⟨t, List.isPrefixOf?_eq_some_iff_append_eq.1 hfound⟩ h
    rw [body, hnone]
    rfl

theorem body_of_no_preamble (h : ¬ preamble <+: t) : body t = t := by
  rcases body_cases t with ⟨-, hbody⟩ | ⟨t', rfl, -⟩
  · exact hbody
  · exact absurd (List.prefix_append _ _) h

/-- Only the body of a text makes a difference to what it is read as. -/
theorem ofText_of_body_eq {raw' : Text} (h : body raw = body raw') :
    ofText raw = ofText raw' := by
  rw [ofText, ofText, h]

/-- **A plain answer is the body of the text that it is read from.** -/
theorem content_of_plain (h : ofText raw = .ok (.plain content)) : content = body raw := by
  cases reading h with
  | malformed => rfl
  | other => rfl

/-! ## Which texts are answered -/

theorem ofText_of_malformed (h : Json.read (body raw) = .error .malformed) :
    ofText raw = .ok (.plain (body raw)) := by
  simp only [ofText, h]

/-- Giving up on a text's nesting is the one way in which it is not answered. -/
theorem ofText_eq_error {f : Failure} (h : ofText raw = .error f) :
    ∃ k, f = .tooDeep k ∧ Json.read (body raw) = .error (.tooDeep k) := by
  rw [ofText] at h
  rcases hread : Json.read (body raw) with (_ | k) | v <;> rw [hread] at h <;> cases h
  exact ⟨k, rfl, rfl⟩

/-- **Every text is answered that is not nested too deep.** At most the preamble is taken away:

* a text whose body is nested no deeper than the limit is answered, and if that is no JSON, with
  the body as it is;
* a text whose body is JSON and nested deeper than the limit is not answered;
* whatever the body is, a text that is answered and is no JSON is answered with its body, and one
  that is not answered is nested deeper than the limit. -/
theorem answered_within_limit (raw : Text) :
    (raw = body raw ∨ raw = preamble ++ body raw) ∧
    (Json.nesting (body raw) ≤ Json.nestingLimit → ∃ a, ofText raw = .ok a ∧
      (¬ Json.IsJson (body raw) → a = .plain (body raw))) ∧
    (Json.IsJson (body raw) → Json.nestingLimit < Json.nesting (body raw) →
      ∃ k, ofText raw = .error (.tooDeep k)) ∧
    (∀ a, ofText raw = .ok a → ¬ Json.IsJson (body raw) → a = .plain (body raw)) ∧
    ∀ f, ofText raw = .error f →
      ∃ k, f = .tooDeep k ∧ Json.nestingLimit < Json.nesting (body raw) := by
  -- What is answered without being JSON was malformed.
  have hplain : ∀ a, ofText raw = .ok a → ¬ Json.IsJson (body raw) → a = .plain (body raw) := by
    intro a ha hnot
    rcases hread : Json.read (body raw) with (_ | k) | v
    · rw [ofText_of_malformed hread] at ha
      exact (Except.ok.inj ha).symm
    · simp only [ofText, hread] at ha
      cases ha
    · exact absurd (Json.exists_read_iff.1 ⟨v, hread⟩).1 hnot
  have hfails : ∀ f, ofText raw = .error f →
      ∃ k, f = .tooDeep k ∧ Json.nestingLimit < Json.nesting (body raw) := by
    intro f hf
    obtain ⟨k, rfl, hread⟩ := ofText_eq_error hf
    exact ⟨k, rfl, Json.lt_nesting_of_tooDeep hread⟩
  refine ⟨?_, fun hnesting => ?_, fun hjson hdeep => ?_, hplain, hfails⟩
  · rcases body_cases raw with ⟨-, hbody⟩ | ⟨t, hraw, hbody⟩
    · exact .inl hbody.symm
    · exact .inr (hbody ▸ hraw)
  · cases ha : ofText raw with
    | ok a => exact ⟨a, rfl, hplain a ha⟩
    | error f =>
      obtain ⟨k, -, hdeep⟩ := hfails f ha
      exact absurd hnesting (Nat.not_le_of_lt hdeep)
  · cases ha : ofText raw with
    | error f =>
      obtain ⟨k, rfl, -⟩ := hfails f ha
      exact ⟨k, rfl⟩
    | ok a =>
      -- An answered text that is JSON was read, and so is nested no deeper than the limit.
      rcases hread : Json.read (body raw) with (_ | k) | v
      · exact absurd hjson (Json.not_isJson_of_malformed hread)
      · simp only [ofText, hread] at ha
        cases ha
      · exact absurd (Json.exists_read_iff.1 ⟨v, hread⟩).2 (Nat.not_le_of_lt hdeep)

/-- **Five thousand opening brackets are not answered**, though they are no JSON. -/
theorem brackets_unanswered :
    ofText (List.replicate 5000 '[') = .error (.tooDeep .array) := by
  have hread : Json.read (body (List.replicate 5000 '[')) = .error (.tooDeep .array) :=
    Json.read_brackets (by decide)
  rw [ofText, hread]

/-! ## Reading a plain answer again -/

/-- **A plain answer stays what it is unless it has a preamble.** Read again it is the same
answer exactly if its content has no preamble. Otherwise the content is read as what stands
behind its preamble: kept as it is if that has a preamble too, and else told apart anew. -/
theorem plain_again_iff (h : ofText raw = .ok (.plain content)) :
    (ofText content = .ok (.plain content) ↔ ¬ preamble <+: content) ∧
    ∀ t, content = preamble ++ t →
      (preamble <+: t → ofText content = .ok (.plain t)) ∧
      (¬ preamble <+: t → ofText content = ofText t) := by
  have hcontent := content_of_plain h
  refine ⟨⟨fun hagain hprefix => ?_, fun hnot => ?_⟩, ?_⟩
  · obtain ⟨t, rfl⟩ := hprefix
    have hbody := content_of_plain hagain
    -- A text is not what is left of it without its preamble.
    rw [body_preamble] at hbody
    have hlength := congrArg List.length hbody
    rw [List.length_append] at hlength
    have hpreamble : preamble.length = 3 := rfl
    omega
  · have hbody : body content = body raw := by rw [body_of_no_preamble hnot, hcontent]
    rw [ofText_of_body_eq hbody, h]
  · rintro t rfl
    refine ⟨fun hprefix => ?_, fun hnot => ?_⟩
    · obtain ⟨t', rfl⟩ := hprefix
      have hread : Json.read (body (preamble ++ (preamble ++ t'))) = .error .malformed := by
        rw [body_preamble, read_preamble]
      rw [ofText_of_malformed hread, body_preamble]
    · exact ofText_of_body_eq (by rw [body_preamble, body_of_no_preamble hnot])

set_option maxRecDepth 4000 in
/-- Words behind a preamble are themselves from then on. -/
theorem plain_again_words :
    ofText (text "A:\nplain words") = .ok (.plain (text "plain words")) ∧
      ofText (text "plain words") = .ok (.plain (text "plain words")) := by
  have h : ofText (text "A:\nplain words") = .ok (.plain (text "plain words")) := by cbv
  exact ⟨h, (plain_again_iff h).1.2 (by decide)⟩

set_option maxRecDepth 4000 in
/-- **Behind two preambles** a greeting is read as another plain answer the second time, and an
answer as no plain one at all. -/
theorem preamble_twice :
    (ofText (text "A:\nA:\nhello") = .ok (.plain (text "A:\nhello")) ∧
      ofText (text "A:\nhello") = .ok (.plain (text "hello"))) ∧
    ofText (text "A:\nA:\n\x7b\"response\": \"hi\"\x7d") =
        .ok (.plain (text "A:\n\x7b\"response\": \"hi\"\x7d")) ∧
      ofText (text "A:\n\x7b\"response\": \"hi\"\x7d") =
        .ok (.native ⟨text "hi", none, none, none⟩) := by
  refine ⟨⟨?_, ?_⟩, ?_, ?_⟩ <;> cbv

end Answer

end AgentWorkshop
