import AgentWorkshop.Proofs.Chat.Contract

/-!
# Where answers come from

The response path is one place that all turns share, and nothing clears it
before a build. So an answer is always read from what is there after the build
of its own turn, but the build need not have put it there: after a `Quiet` build
a turn is answered from what was there before (`answered_iff_of_quiet`), and an
answer once given is given again (`answered_again`). Where nothing could be read
before, every answer stems from the build (`answer_origin`).
-/

namespace AgentWorkshop

namespace Session

/-- What is at the response path when the build starts. -/
def found (s : Session) (w : Workshop) (t : FileTree) : Except Failure Bytes :=
  Files.contents t w.directory s.settings.outputPath

/-- The build leaves the response path as it found it. -/
def Quiet (s : Session) (w : Workshop) (t : FileTree) : Prop :=
  s.reply w t = s.found w t

variable {s : Session} {w : Workshop} {m : Text} {t : FileTree}

/-- After a quiet build a turn fails exactly if the build is not excused or nothing could
be read before. -/
theorem Orderly.fails_iff_of_quiet (o : s.Orderly w m) (hwritten : s.request w m = .ok () t)
    (hquiet : s.Quiet w t) : (∃ w', s.turn m w = .ok none w') ↔
      s.Fails (s.built w t).2 ∨ ∃ f, s.found w t = .error f := by
  rw [o.fails_iff, ← hquiet]
  constructor
  · rintro (⟨e, t', h⟩ | ⟨t', h, hfailed⟩)
    all_goals
      rw [hwritten] at h
      cases h
    exact hfailed
  · exact fun hfailed => .inr ⟨t, hwritten, hfailed⟩

/-- **After a quiet build a turn is answered exactly if the build has an output and what was
there before can be understood and kept.** -/
theorem answered_iff_of_quiet (hwritten : s.request w m = .ok () t) (hquiet : s.Quiet w t)
    {a : Answer} : (∃ w', s.turn m w = .ok (some a) w') ↔
      Json.WithinReach m ∧ (∃ o, outputOf s.settings (s.built w t).2 = .ok o) ∧
        ∃ bytes, s.found w t = .ok bytes ∧ Answer.ofText (Utf8.decodeLossy bytes) = .ok a ∧
          Json.WithinReach a.content := by
  rw [answered_iff hwritten, hquiet]

/-- The files after an answered turn are those that its build left. -/
theorem files_of_answered (hwritten : s.request w m = .ok () t) {a : Answer} {w' : Workshop}
    (h : s.turn m w = .ok (some a) w') :
    w'.files = (s.built w t).1 ∧ w'.directory = w.directory := by
  cases course_of_answered h with
  | answered said written output replied parsed kept =>
    rw [hwritten] at written
    cases written
    exact ⟨rfl, rfl⟩

/-- **An answer once given is given again** by the next turn, if its request goes elsewhere
and its build is quiet and has an output. -/
theorem answered_again (hwritten : s.request w m = .ok () t) {a : Answer} {w' : Workshop}
    (h : s.turn m w = .ok (some a) w') {m' : Text} (hm' : Json.WithinReach m') {t' : FileTree}
    (hwritten' : s.request w' m' = .ok () t') (helsewhere : s.found w' t' = s.found w' w'.files)
    (hquiet : s.Quiet w' t') {o : BuildOutput}
    (houtput : outputOf s.settings (s.built w' t').2 = .ok o) :
    ∃ w'', s.turn m' w' = .ok (some a) w'' := by
  obtain ⟨-, -, bytes, hreplied, hparsed, hkept⟩ := (answered_iff hwritten).1 ⟨w', h⟩
  obtain ⟨hfiles, hdirectory⟩ := files_of_answered hwritten h
  have hfound : s.found w' t' = .ok bytes := by
    rw [helsewhere, found, hfiles, hdirectory]
    exact hreplied
  rw [answered_iff_of_quiet hwritten' hquiet]
  exact ⟨hm', ⟨o, houtput⟩, bytes, hfound, hparsed, hkept⟩

/-- **Where an answer comes from.** It is read after the build of its own turn, and where
nothing could be read when the build started, the build put it there. But after a quiet
build a turn is answered all the same, exactly if the build has an output and what was there
before can be understood and kept; an orderly turn fails then, with the question as its only
trace, exactly if the build failed or nothing could be read before. So an answer once given
is given again by the next turn whose build is quiet and has an output. -/
theorem answer_origin (hwritten : s.request w m = .ok () t) :
    (∀ a w', s.turn m w = .ok (some a) w' →
      (∃ bytes, s.reply w t = .ok bytes ∧ Answer.ofText (Utf8.decodeLossy bytes) = .ok a) ∧
      ((∃ f, s.found w t = .error f) → ¬ s.Quiet w t)) ∧
    (s.Quiet w t →
      (∀ a, (∃ w', s.turn m w = .ok (some a) w') ↔
        Json.WithinReach m ∧ (∃ o, outputOf s.settings (s.built w t).2 = .ok o) ∧
          ∃ bytes, s.found w t = .ok bytes ∧ Answer.ofText (Utf8.decodeLossy bytes) = .ok a ∧
            Json.WithinReach a.content) ∧
      (s.Orderly w m → ((∃ w', s.turn m w = .ok none w' ∧ w'.history = asked w m) ↔
        s.Fails (s.built w t).2 ∨ ∃ f, s.found w t = .error f))) ∧
    (∀ a w' m' t' o, s.turn m w = .ok (some a) w' → Json.WithinReach m' →
      s.request w' m' = .ok () t' → s.found w' t' = s.found w' w'.files → s.Quiet w' t' →
      outputOf s.settings (s.built w' t').2 = .ok o → ∃ w'', s.turn m' w' = .ok (some a) w'') := by
  refine ⟨fun a w' hturn => ?_, fun hquiet => ⟨fun a => ?_, fun o => ?_⟩, ?_⟩
  · obtain ⟨-, -, bytes, hreplied, hparsed, -⟩ := (answered_iff hwritten).1 ⟨w', hturn⟩
    refine ⟨⟨bytes, hreplied, hparsed⟩, ?_⟩
    rintro ⟨f, hf⟩ hquiet
    rw [Quiet, hreplied, hf] at hquiet
    cases hquiet
  · exact answered_iff_of_quiet hwritten hquiet
  · rw [← o.fails_iff_of_quiet hwritten hquiet]
    exact exists_congr fun w' => ⟨fun h => h.1, fun h => ⟨h, o.history_of_failed h⟩⟩
  · exact fun a w' m' t' o hturn hm' hwritten' helsewhere hquiet houtput =>
      answered_again hwritten hturn hm' hwritten' helsewhere hquiet houtput

set_option maxRecDepth 4000 in
/-- In an empty directory the answer `ok` was not there before the build. -/
theorem answer_origin_small : ∃ t, small.request (answering [text "ok"]) (text "hi") = .ok () t ∧
    ¬ small.Quiet (answering [text "ok"]) t := by
  have hwritten : ∃ t, small.request (answering [text "ok"]) (text "hi") = .ok () t :=
    ⟨_, by cbv⟩
  obtain ⟨t, hwritten⟩ := hwritten
  obtain ⟨w', hturn⟩ := turn_small
  have hnone : ∃ f, small.found (answering [text "ok"]) t = .error f := by
    cbv at hwritten
    cases hwritten
    exact ⟨_, by cbv⟩
  exact ⟨t, hwritten, ((answer_origin hwritten).1 _ _ hturn).2 hnone⟩

set_option maxRecDepth 4000 in
/-- The second of two builds leaves all files alone, and yet the second turn gives the
answer of the first one. -/
theorem answered_without_reply : ∃ a w₁ w₂,
    small.turn (text "hi") (answering [text "ok"]) = .ok (some a) w₁ ∧
    (∀ t, (small.built w₁ t).1 = t) ∧ small.turn (text "and now?") w₁ = .ok (some a) w₂ := by
  refine ⟨_, _, _, by cbv, ?_, by cbv⟩
  intro t
  rfl

end Session

end AgentWorkshop
