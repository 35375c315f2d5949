import AgentWorkshop.Proofs.Chat.Turn
import AgentWorkshop.Proofs.Text.Occurrence
import Mathlib

/-!
# The contract of a turn

What a turn comes to is decided by three questions: can the request be written,
does the build fail, can the reply be read. `turn_contract` answers for every
turn that is `Orderly`, and says exactly which of those turns break off: the
ones that are `Stuck` at the request, because a text that was kept holds a
surrogate or because the path is deeper than directories are made.
`Orderly.turn_cases` is the case analysis behind it.
-/

namespace AgentWorkshop

/-- The process ended, or the operating system could not start it. -/
def Outcome.IsOrdinary : Outcome → Prop
  | .exited _ _ _ => True
  | .failed f => ∃ e, f = .system e

namespace Session

variable {s : Session} {w : Workshop} {m : Text}

/-- What a turn takes for granted: paths without U+0000, a build that ends or
cannot be started, and nothing to read that is nested beyond the reader's reach. -/
structure Orderly (s : Session) (w : Workshop) (m : Text) : Prop where
  inputPath : s.settings.inputPath.hasNull = false
  outputPath : s.settings.outputPath.hasNull = false
  message : Json.WithinReach m
  build : ∀ t, s.request w m = .ok () t → (s.built w t).2.IsOrdinary
  reply : ∀ t bytes, s.request w m = .ok () t → s.reply w t = .ok bytes →
    Json.WithinReach (Answer.body (Utf8.decodeLossy bytes))
  answer : ∀ t bytes a, s.request w m = .ok () t → s.reply w t = .ok bytes →
    Answer.ofText (Utf8.decodeLossy bytes) = .ok a → Json.WithinReach a.content

/-- The operating system keeps the request from being written. -/
def CannotWrite (s : Session) (w : Workshop) (m : Text) : Prop :=
  ∃ e t, s.request w m = .error (.system e) t

/-- The build was not started, or it failed and its errors do not excuse it. -/
def Fails (s : Session) (o : Outcome) : Prop :=
  (∃ e, o = .failed (.system e)) ∨
    ∃ code stdout stderr, o = .exited code stdout stderr ∧ code ≠ 0 ∧
      (s.settings.compilingMarker = [] ∨ ¬ s.settings.compilingMarker <:+: stderr)

/-- The request is due but cannot be put into writing: its path is deeper than
directories are made, or the path is ready and a content has a surrogate. -/
def Stuck (s : Session) (w : Workshop) (m : Text) : Prop :=
  (∃ t, Files.prepare w.directory s.settings.inputPath w.files = .error .deepPath t) ∨
    (∃ address t, Files.prepare w.directory s.settings.inputPath w.files = .ok address t) ∧
      ¬ (asked w m).Writable

/-! ## The request -/

/-- **What becomes of a request.** It is written; or the operating system objects, which
ends the turn only; or the turn is stuck, which breaks it off. -/
theorem request_cases (hp : s.settings.inputPath.hasNull = false) :
    (∃ t, s.request w m = .ok () t ∧ ¬ s.Stuck w m) ∨
    (∃ e t, s.request w m = .error (.system e) t ∧ ¬ s.Stuck w m) ∨
    (∃ f t, s.request w m = .error f t ∧ endsTurnOnly f = false ∧ s.Stuck w m) := by
  have hscalar := History.isScalar_print_payload (asked w m)
  rcases Files.saveJson_cases w.directory s.settings.inputPath (asked w m).payload w.files with
    ⟨f, t, hprepare, hsave⟩ | ⟨a, t, run, hprepare, hencode, hsave⟩ |
    ⟨a, t, bytes, hprepare, hencode, hsave⟩
  · rcases Files.prepare_error hp hprepare with ⟨e, rfl⟩ | ⟨rfl, -⟩
    · refine .inr (.inl ⟨e, t, hsave, ?_⟩)
      rintro (⟨t', h⟩ | ⟨⟨a, t', h⟩, -⟩) <;> rw [hprepare] at h <;> cases h
    · exact .inr (.inr ⟨.deepPath, t, hsave, rfl, .inl ⟨t, hprepare⟩⟩)
  · have hbad : ¬ (asked w m).Writable := by
      rw [← hscalar]
      exact Utf8.encode_eq_error_iff.1 ⟨run, hencode⟩
    exact .inr (.inr ⟨.unencodable run, _, hsave, rfl, .inr ⟨⟨a, t, hprepare⟩, hbad⟩⟩)
  · have hgood := hscalar.1 (Utf8.encode_eq_ok_iff.1 hencode).1
    refine .inl ⟨_, hsave, ?_⟩
    rintro (⟨t', h⟩ | ⟨-, hbad⟩)
    · rw [hprepare] at h
      cases h
    · exact hbad hgood

/-- So a turn is stuck exactly if its request fails in a way that breaks it off. -/
theorem stuck_iff (hp : s.settings.inputPath.hasNull = false) :
    s.Stuck w m ↔ ∃ f t, s.request w m = .error f t ∧ endsTurnOnly f = false := by
  rcases request_cases (s := s) (w := w) (m := m) hp with
    ⟨t, h, hstuck⟩ | ⟨e, t, h, hstuck⟩ | ⟨f, t, h, hends, hstuck⟩
  · refine iff_of_false hstuck ?_
    rintro ⟨f, t', h', -⟩
    rw [h] at h'
    cases h'
  · refine iff_of_false hstuck ?_
    rintro ⟨f, t', h', hends⟩
    rw [h] at h'
    cases h'
    cases hends
  · exact iff_of_true hstuck ⟨f, t, h, hends⟩

/-! ## The build -/

/-- **A build has an output exactly if it does not fail**, and one that fails does so
in a way that ends the turn only. -/
theorem output_cases {o : Outcome} (ho : o.IsOrdinary) :
    (s.Fails o ∧ ∃ f, outputOf s.settings o = .error f ∧ endsTurnOnly f = true) ∨
      (¬ s.Fails o ∧ ∃ out, outputOf s.settings o = .ok out) := by
  cases o with
  | failed f =>
    obtain ⟨e, rfl⟩ := ho
    exact .inl ⟨.inl ⟨e, rfl⟩, _, rfl, rfl⟩
  | exited code stdout stderr =>
    rw [outputOf, excuses]
    by_cases hfail : code ≠ 0 ∧
        (s.settings.compilingMarker = [] ∨ ¬ s.settings.compilingMarker <:+: stderr)
    · refine .inl ⟨.inr ⟨code, stdout, stderr, rfl, hfail⟩, _, if_neg ?_, rfl⟩
      rw [← Text.occursIn_iff] at hfail
      obtain ⟨hcode, hmarker | hmarker⟩ := hfail
      · simp [hcode, hmarker]
      · simp [hcode, hmarker]
    · refine .inr ⟨?_, _, if_pos ?_⟩
      · rintro (⟨e, h⟩ | ⟨code', stdout', stderr', h, hfail'⟩) <;> cases h
        exact hfail hfail'
      · rw [← Text.occursIn_iff] at hfail
        simp only [not_and, not_or, not_not] at hfail
        by_cases hcode : code = 0
        · simp [hcode]
        · simp [hfail hcode]

end Session

/-- Every text within the reader's reach is an answer. -/
theorem Answer.ofText_of_withinReach {raw : Text} (h : Json.WithinReach (body raw)) :
    ∃ a, ofText raw = .ok a := by
  rw [ofText]
  rcases hr : Json.read (body raw) with (_ | container) | v
  · exact ⟨_, rfl⟩
  · exact absurd hr (h container)
  · exact ⟨_, rfl⟩

namespace Session

variable {s : Session} {w : Workshop} {m : Text}

/-! ## The turn -/

/-- An answered turn was orderly. -/
theorem orderly_of_answered {a : Answer} {w' : Workshop} (h : s.turn m w = .ok (some a) w') :
    s.Orderly w m := by
  cases course_of_answered h with
  | @answered t out bytes a said written output replied parsed kept =>
    have hbuild : (s.built w t).2.IsOrdinary := by
      cases hout : (s.built w t).2 with
      | exited => trivial
      | failed f =>
        rw [hout] at output
        cases f <;> cases output
    have hbody : Json.WithinReach (Answer.body (Utf8.decodeLossy bytes)) := by
      intro container hdeep
      rw [Answer.ofText] at parsed
      simp only [hdeep] at parsed
      cases parsed
    refine ⟨Files.hasNull_of_saveJson written, Files.hasNull_of_contents replied, said,
      fun t' h => ?_, fun t' bytes' h hbytes => ?_, fun t' bytes' a' h hbytes ha => ?_⟩ <;>
      rw [written] at h <;> cases h
    · exact hbuild
    · rw [replied] at hbytes
      cases hbytes
      exact hbody
    · rw [replied] at hbytes
      cases hbytes
      rw [parsed] at ha
      cases ha
      exact kept

/-- A turn whose request fails is orderly, if its paths are and its message can be kept. -/
theorem orderly_of_unwritten (hinput : s.settings.inputPath.hasNull = false)
    (houtput : s.settings.outputPath.hasNull = false) (hm : Json.WithinReach m) {f : Failure}
    {t : FileTree} (h : s.request w m = .error f t) : s.Orderly w m := by
  refine ⟨hinput, houtput, hm, fun t' h' => ?_, fun t' bytes h' => ?_, fun t' bytes a h' => ?_⟩
  all_goals
    rw [h] at h'
    cases h'

/-- **The four ways of an orderly turn.** It breaks off at the request; the request is
not written; the build fails or its reply cannot be read; or it is answered. -/
theorem Orderly.turn_cases (o : s.Orderly w m) :
    (s.Stuck w m ∧ ∃ f w', s.turn m w = .error f w') ∨
    (s.CannotWrite w m ∧ ∃ w', s.turn m w = .ok none w' ∧ w'.history = asked w m) ∨
    (∃ t, s.request w m = .ok () t ∧ (s.Fails (s.built w t).2 ∨ ∃ f, s.reply w t = .error f) ∧
      ∃ w', s.turn m w = .ok none w' ∧ w'.history = asked w m) ∨
    (∃ t bytes a, s.request w m = .ok () t ∧ ¬ s.Fails (s.built w t).2 ∧
      s.reply w t = .ok bytes ∧ Answer.ofText (Utf8.decodeLossy bytes) = .ok a ∧
      ∃ w', s.turn m w = .ok (some a) w' ∧
        w'.history = asked w m ++ [⟨.assistant, History.kept a.content⟩]) := by
  obtain ⟨outcome, w', course, hturn⟩ := turn_course s w m
  cases course with
  | unsaid deep => exact absurd deep (o.message _)
  | @unwritten f t said written =>
    rcases request_cases (s := s) (w := w) (m := m) o.inputPath with
      ⟨t', h, -⟩ | ⟨e, t', h, -⟩ | ⟨f', t', h, hends, hstuck⟩ <;> rw [written] at h <;> cases h
    · exact .inr (.inl ⟨⟨e, t, written⟩, _, hturn, rfl⟩)
    · rw [conclude, if_neg (by simp [hends])] at hturn
      exact .inl ⟨hstuck, f, _, hturn⟩
  | @unbuilt f t said written output =>
    rcases output_cases (s := s) (o.build t written) with ⟨hfails, f', hf', hends⟩ | ⟨-, out, hout⟩
    · rw [output] at hf'
      cases hf'
      rw [conclude, if_pos hends] at hturn
      exact .inr (.inr (.inl ⟨t, written, .inl hfails, _, hturn, rfl⟩))
    · rw [output] at hout
      cases hout
  | @unread f t out said written output replied =>
    obtain ⟨e, rfl⟩ := Files.contents_error o.outputPath replied
    exact .inr (.inr (.inl ⟨t, written, .inr ⟨_, replied⟩, _, hturn, rfl⟩))
  | @unparsed f t out bytes said written output replied parsed =>
    obtain ⟨a, ha⟩ := Answer.ofText_of_withinReach (o.reply t bytes written replied)
    rw [parsed] at ha
    cases ha
  | @unkept container t out bytes a said written output replied parsed deep =>
    exact absurd deep (o.answer t bytes a written replied parsed _)
  | @answered t out bytes a said written output replied parsed kept =>
    rcases output_cases (s := s) (o.build t written) with ⟨-, f, hf, -⟩ | ⟨hfails, -⟩
    · rw [output] at hf
      cases hf
    · exact .inr (.inr (.inr ⟨t, bytes, a, written, hfails, replied, parsed, _, hturn, rfl⟩))

/-- **An orderly turn breaks off exactly if it is stuck.** -/
theorem Orderly.raises_iff (o : s.Orderly w m) :
    (∃ f w', s.turn m w = .error f w') ↔ s.Stuck w m := by
  constructor
  · rintro ⟨f, w', h⟩
    rcases o.turn_cases with ⟨hstuck, -⟩ | ⟨-, w'', hturn, -⟩ | ⟨t, -, -, w'', hturn, -⟩ |
      ⟨t, bytes, a, -, -, -, -, w'', hturn, -⟩
    · exact hstuck
    all_goals
      rw [h] at hturn
      cases hturn
  · intro hstuck
    obtain ⟨f, t, hrequest, hends⟩ := (stuck_iff o.inputPath).1 hstuck
    rcases o.turn_cases with ⟨-, f', w', hturn⟩ | ⟨⟨e, t', h⟩, -⟩ | ⟨t', h, -⟩ |
      ⟨t', -, -, h, -⟩
    · exact ⟨f', w', hturn⟩
    all_goals
      rw [hrequest] at h
      cases h
    cases hends

/-- **An orderly turn fails exactly if one of three things goes wrong**: the request
cannot be written, the build fails, or the reply cannot be read. -/
theorem Orderly.fails_iff (o : s.Orderly w m) :
    (∃ w', s.turn m w = .ok none w') ↔
      s.CannotWrite w m ∨
        ∃ t, s.request w m = .ok () t ∧
          (s.Fails (s.built w t).2 ∨ ∃ f, s.reply w t = .error f) := by
  constructor
  · rintro ⟨w', h⟩
    rcases o.turn_cases with ⟨-, f, w'', hturn⟩ | ⟨hcannot, -⟩ | ⟨t, hwritten, hfailed, -⟩ |
      ⟨t, bytes, a, -, -, -, -, w'', hturn, -⟩
    · rw [h] at hturn
      cases hturn
    · exact .inl hcannot
    · exact .inr ⟨t, hwritten, hfailed⟩
    · rw [h] at hturn
      cases hturn
  · intro hwrong
    rcases o.turn_cases with ⟨hstuck, -⟩ | ⟨-, w', hturn, -⟩ | ⟨t, -, -, w', hturn, -⟩ |
      ⟨t, bytes, a, hwritten, hfails, hreplied, -⟩
    · obtain ⟨f, t, hrequest, hends⟩ := (stuck_iff o.inputPath).1 hstuck
      rcases hwrong with ⟨e, t', h⟩ | ⟨t', h, -⟩
      all_goals
        rw [hrequest] at h
        cases h
      cases hends
    · exact ⟨w', hturn⟩
    · exact ⟨w', hturn⟩
    · rcases hwrong with ⟨e, t', h⟩ | ⟨t', h, hfailed | ⟨f, hf⟩⟩
      all_goals
        rw [hwritten] at h
        cases h
      · exact absurd hfailed hfails
      · rw [hreplied] at hf
        cases hf

/-- A failed turn leaves the question as the last message. -/
theorem Orderly.history_of_failed (o : s.Orderly w m) {w' : Workshop}
    (h : s.turn m w = .ok none w') : w'.history = asked w m := by
  rcases o.turn_cases with ⟨-, f, w'', hturn⟩ | ⟨-, w'', hturn, hhistory⟩ |
    ⟨t, -, -, w'', hturn, hhistory⟩ | ⟨t, bytes, a, -, -, -, -, w'', hturn, -⟩
  all_goals
    rw [h] at hturn
    cases hturn
  all_goals exact hhistory

/-- An answered turn gives what the bytes of the reply say, and keeps it after the
question. -/
theorem Orderly.answer_of_answered (o : s.Orderly w m) {a : Answer} {w' : Workshop}
    (h : s.turn m w = .ok (some a) w') :
    (∃ t bytes, s.request w m = .ok () t ∧ s.reply w t = .ok bytes ∧
      Answer.ofText (Utf8.decodeLossy bytes) = .ok a) ∧
    w'.history = asked w m ++ [⟨.assistant, History.kept a.content⟩] := by
  rcases o.turn_cases with ⟨-, f, w'', hturn⟩ | ⟨-, w'', hturn, -⟩ | ⟨t, -, -, w'', hturn, -⟩ |
    ⟨t, bytes, a', hwritten, -, hreplied, hparsed, w'', hturn, hhistory⟩
  all_goals
    rw [h] at hturn
    cases hturn
  exact ⟨⟨t, bytes, hwritten, hreplied, hparsed⟩, hhistory⟩

/-- A session whose agent reads `in` and writes `out`. -/
def small : Session :=
  { settings :=
      { inputPath := ⟨.here, [text "in"]⟩
        outputPath := ⟨.here, [text "out"]⟩
        buildCommand := text "make"
        compilingMarker := text "Compiling" }
    directory := none }

/-- An empty directory, in which each build writes its reply to `out` and fails with an
excuse; a build without one does nothing. -/
def answering (replies : List Text) : Workshop :=
  .initial .empty [] fun n _ t =>
    match replies[n]? with
    | some reply =>
      (t.fill [text "out"] (reply.flatMap Utf8.encodePoint),
        .exited 101 [] (text "   Compiling host"))
    | none => (t, .exited 0 [] [])

set_option maxRecDepth 4000 in
/-- The small session gets its answer. -/
theorem turn_small : ∃ w', small.turn (text "hi") (answering [text "ok"]) =
    .ok (some (.plain (text "ok"))) w' :=
  ⟨_, by cbv⟩

/-- A message that wraps a surrogate. -/
def wrapping : Text :=
  text "\x7b\"response\": \"\\ud800\"\x7d"

end Session

end AgentWorkshop
