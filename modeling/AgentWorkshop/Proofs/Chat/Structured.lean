import AgentWorkshop.Proofs.Chat.Answer
import AgentWorkshop.Proofs.Json.Sound

/-!
# Structured answers

An agent may answer with data instead of a text. The content of such an answer is the data as
JSON, and what is read from it is the value that the answer carried, its elements and members in
their order (`structured_kept`). Reals apart, this needs nothing of the value: what has been read
once is exact (`Sound.exact`), so it can be printed and read again. Where a value comes from a
program and not from a text, it has to leave room for the containers around it.
-/

namespace AgentWorkshop

namespace Answer

open Json

variable {raw : Text} {v w : Json} {depth : Nat}

/-- The value is neither nothing nor a text, so as a content it is written as JSON. -/
def Structured (v : Json) : Prop :=
  v ≠ .null ∧ ∀ t, v ≠ .string t

theorem contentText_of_structured (h : Structured v) : contentText v = v.print := by
  cases v with
  | null => exact absurd rfl h.1
  | string t => exact absurd rfl (h.2 t)
  | boolean | integer | real | array | object => rfl

/-- A message that says something hides the text beside it. -/
theorem choiceContent_of_structured {choice : Json} (h : Structured v)
    (hcontent : (choice.member (text "message")).member (text "content") = v) :
    choiceContent choice = v := by
  rw [choiceContent, hcontent]
  cases v with
  | null => exact absurd rfl h.1
  | string | boolean | integer | real | array | object => rfl

/-- **What an answer carries**: the response of an object that has no first choice, or the
content in the message of the first choice. -/
inductive Carries (w v : Json) : Prop
  | response (hchoices : ∀ choice rest, w.member (text "choices") ≠ .array (choice :: rest))
    (hresponse : w.member? (text "response") = some v)
  | content {choice : Json} {rest : List Json}
    (hchoices : w.member (text "choices") = .array (choice :: rest))
    (hcontent : (choice.member (text "message")).member (text "content") = v)

/-- It is part of what was read. -/
theorem Carries.sound (h : Carries w v) (hw : Sound depth w) : Sound depth v := by
  cases h with
  | response _ hresponse => exact hw.member? hresponse
  | @content choice rest hchoices hcontent =>
    have harray : Sound depth (.array (choice :: rest)) := hchoices ▸ hw.member
    have hchoice := harray.element List.mem_cons_self
    exact hcontent ▸ hchoice.member.member

/-- **A structured value is the content** as it is printed. -/
theorem Carries.ofText (h : Carries w v) (hv : Structured v) (hread : read (body raw) = .ok w) :
    ∃ a, ofText raw = .ok a ∧ a.content = v.print := by
  have ha : Answer.ofText raw = .ok ((ofJson? w).getD (.plain (body raw))) := by
    simp only [Answer.ofText, hread]
  rw [ha, ofJson?_eq]
  cases h with
  | response hchoices hresponse =>
    have hfirst : firstChoice? w = none := by
      rw [← Option.not_isSome_iff_eq_none, isSome_firstChoice?_iff]
      rintro ⟨choice, rest, hchoice⟩
      exact hchoices choice rest hchoice
    rw [hfirst, hresponse]
    exact ⟨_, rfl, contentText_of_structured hv⟩
  | content hchoices hcontent =>
    rw [firstChoice?, hchoices]
    refine ⟨_, rfl, ?_⟩
    have hsaid := choiceContent_of_structured hv hcontent
    exact (congrArg contentText hsaid).trans (contentText_of_structured hv)

/-- The object that responds with a value, -/
def responding (v : Json) : Json :=
  .object [(text "response", v)]

/-- and the one whose only choice says it. -/
def choosing (v : Json) : Json :=
  .object [(text "choices",
    .array [.object [(text "message", .object [(text "content", v)])]])]

/-- One container stands around the response, -/
theorem exact_responding (h : Exact (fun _ => True) depth v) :
    Exact (fun _ => True) (depth + 1) (responding v) :=
  .single trivial h

/-- and four around the content. -/
theorem exact_choosing (h : Exact (fun _ => True) depth v) :
    Exact (fun _ => True) (depth + 4) (choosing v) := by
  have hmessage : Exact (fun _ => True) (depth + 2) (.object [(text "message", .object
      [(text "content", v)])]) :=
    .single trivial (.single trivial h)
  exact .single trivial (.array (List.forall_mem_singleton.2 hmessage))

/-- **Structured answers are not lost.** Whatever text carries a structured value without reals,
the content of its answer is read as that value. And every such value is carried by a text, in
either form, if its integers have no more digits than are read, no object of it has a key twice,
and the containers around it do not pass the limit. -/
theorem structured_kept :
    (∀ raw w v, read (body raw) = .ok w → Carries w v → Structured v → v.Discrete →
      ∃ a, ofText raw = .ok a ∧ read a.content = .ok v) ∧
    ∀ v, Structured v →
      (Exact (fun _ => True) (nestingLimit - 1) v →
        ∃ n, ofText (responding v).print = .ok (.native n) ∧ read n.content = .ok v) ∧
      (Exact (fun _ => True) (nestingLimit - 4) v →
        ∃ c, ofText (choosing v).print = .ok (.completion c) ∧ read c.content = .ok v) := by
  refine ⟨?_, ?_⟩
  · intro raw w v hread hcarries hv hdiscrete
    obtain ⟨a, ha, hcontent⟩ := hcarries.ofText hv hread
    have hsound := hcarries.sound (sound_of_read hread)
    exact ⟨a, ha, hcontent ▸ read_print (hsound.exact hdiscrete)⟩
  · intro v hv
    refine ⟨fun h => ⟨_, ofText_print (exact_responding h) rfl, ?_⟩,
      fun h => ⟨_, ofText_print (exact_choosing h) rfl, ?_⟩⟩
    · rw [readNative, contentText_of_structured hv]
      exact read_print (h.mono (by decide))
    · have hsaid : choiceContent (.object [(text "message", .object [(text "content", v)])]) = v :=
        choiceContent_of_structured hv rfl
      rw [readCompletion, hsaid, contentText_of_structured hv]
      exact read_print (h.mono (by decide))

/-- Data with a list, a negative number and a surrogate that stands alone, -/
def survey : Json :=
  .array [.object [(text "b", .integer (-7)), (text "a", .string [0xD800])], .boolean true, .null]

/-- an object with a member more that responds with it, -/
def surveying : Json :=
  .object [(text "note", .string (text "all")), (text "response", survey)]

theorem exact_survey : Exact (fun _ => True) 976 survey := by
  have hdistinct : [text "b", text "a"].Nodup := by decide
  have hmembers : Exact (fun _ => True) 975
      (.object [(text "b", .integer (-7)), (text "a", .string [0xD800])]) := by
    refine .object hdistinct (fun _ _ => trivial) ?_
    simp only [List.forall_mem_cons]
    exact ⟨.integer (by decide), .string trivial, by simp⟩
  refine .array ?_
  simp only [List.forall_mem_cons]
  exact ⟨hmembers, .boolean, .null, by simp⟩

theorem exact_surveying : Exact (fun _ => True) 977 surveying := by
  have hdistinct : [text "note", text "response"].Nodup := by decide
  refine .object hdistinct (fun _ _ => trivial) ?_
  simp only [List.forall_mem_cons]
  exact ⟨.string trivial, exact_survey, by simp⟩

/-- and that object below the preamble. Its data is in the answer, and could be in a completion as
well. -/
theorem structured_kept_survey :
    (∃ a, ofText (preamble ++ surveying.print) = .ok a ∧ read a.content = .ok survey) ∧
    ∃ c, ofText (choosing survey).print = .ok (.completion c) ∧ read c.content = .ok survey := by
  have hread : read (body (preamble ++ surveying.print)) = .ok surveying := by
    rw [body_preamble]
    exact read_print (exact_surveying.mono (by decide))
  have hcarries : Carries surveying survey := .response (fun _ _ h => by cases h) rfl
  have hstructured : Structured survey := ⟨nofun, nofun⟩
  exact ⟨structured_kept.1 _ _ _ hread hcarries hstructured exact_survey.discrete,
    (structured_kept.2 survey hstructured).2 exact_survey⟩

end Answer

end AgentWorkshop
