import AgentWorkshop.Proofs.Chat.Calls
import AgentWorkshop.Proofs.Chat.Contract
import AgentWorkshop.Proofs.Past

/-!
# What a turn leaves, however it ends

Whatever fails in a turn, and whether or not anybody foresaw it, the session is idle afterwards,
every build found it at work, and an unanswered turn leaves at most its question behind
(`turn_unanswered`). No turn and no line looks at what was started or shown before
(`oblivious_turn`, `oblivious_handle`), so the next one goes as in a session that starts with
the history of this one (`Workshop.eq_afresh`).
-/

namespace AgentWorkshop

namespace Workshop

/-- A run that starts with the files, the history and the processes that a workshop has now. -/
def afresh (w : Workshop) : Workshop :=
  { Workshop.initial w.files w.directory fun n => w.runner (w.launches.length + n) with
    history := w.history }

theorem anew_of_idle {w : Workshop} (h : w.phase = .idle) : w.anew = w.afresh := by
  rw [anew, afresh, initial, h]

/-- **An idle workshop goes on as a run that starts with its files and its history.** -/
theorem eq_afresh {α : Type} {act : Action α} (hact : act.Oblivious) {w : Workshop}
    (h : w.phase = .idle) : act w = Action.leaving (·.upon w.past) (act w.afresh) := by
  rw [← anew_of_idle h]
  exact hact.eq_anew w

end Workshop

namespace Session

variable {s : Session} {w w' w'' : Workshop} {m : Text}

/-! ## Turns do not look back -/

section
open AgentWorkshop.Action

theorem oblivious_say (role : Role) (content : Text) : (say role content).Oblivious := by
  refine oblivious_get (fun _ _ => rfl) fun w => ?_
  cases w.history.say role content with
  | ok history => exact oblivious_modify fun _ _ => rfl
  | error f => exact oblivious_throw f

theorem oblivious_writeRequest (s : Session) : s.writeRequest.Oblivious :=
  oblivious_get (fun _ _ => rfl) fun _ => oblivious_onFiles _

theorem oblivious_build (s : Session) : s.build.Oblivious := by
  refine (oblivious_launch _).bind fun outcome => ?_
  cases outputOf s.settings outcome with
  | ok output => exact oblivious_pure output
  | error f => exact oblivious_throw f

theorem oblivious_printLog (heading : String) (log : Text) : (printLog heading log).Oblivious := by
  rw [printLog]
  cases BuildLog.filter log with
  | some lines => exact oblivious_print _
  | none => exact oblivious_pure ()

theorem oblivious_readResponse (s : Session) : s.readResponse.Oblivious := by
  refine (oblivious_onFiles _).attempt.bind fun outcome => ?_
  rcases outcome with f | raw
  · cases f <;> exact oblivious_throw _
  · exact oblivious_pure raw

theorem oblivious_receive (s : Session) : s.receive.Oblivious := by
  refine (oblivious_readResponse s).bind fun raw => ?_
  cases Answer.ofText raw with
  | error f => exact oblivious_throw f
  | ok answer =>
    exact (oblivious_print _).bind fun _ => (oblivious_say _ _).bind fun _ => oblivious_pure answer

theorem oblivious_exchange (s : Session) (m : Text) : (s.exchange m).Oblivious := by
  have hbuild : s.buildAndReceive.Oblivious :=
    (oblivious_build s).bind fun _ => (oblivious_printLog _ _).bind fun _ =>
      (oblivious_printLog _ _).bind fun _ => oblivious_receive s
  rw [exchange_stages]
  exact (oblivious_say _ _).bind fun _ => (oblivious_writeRequest s).bind fun _ =>
    (oblivious_display _).bind fun _ => hbuild

/-- **A turn does the same whatever happened before.** -/
theorem oblivious_turn (s : Session) (m : Text) : (s.turn m).Oblivious := by
  refine (oblivious_modify fun _ _ => rfl).bind fun _ => ?_
  refine (oblivious_exchange s m).attempt.bind fun outcome => ?_
  refine (oblivious_modify fun _ _ => rfl).bind fun _ => ?_
  rcases outcome with f | answer
  · dsimp only
    split
    · exact (oblivious_display _).bind fun _ => oblivious_pure none
    · exact oblivious_throw f
  · exact oblivious_pure (some answer)

/-- And so does every line. -/
theorem oblivious_handle (s : Session) (line : Text) : (s.handle line).Oblivious := by
  rw [handle]
  cases requestOf line with
  | exit => exact oblivious_pure false
  | clear =>
    exact (oblivious_modify fun _ _ => rfl).bind fun _ => (oblivious_display _).bind fun _ =>
      oblivious_pure true
  | showHistory =>
    exact (oblivious_print _).bind fun _ => oblivious_get (fun _ _ => rfl) fun _ =>
      (oblivious_print _).bind fun _ => oblivious_pure true
  | nothing => exact oblivious_pure true
  | message => exact (oblivious_turn s line).bind fun _ => oblivious_pure true

end

/-! ## The phase -/

/-- The session is idle, and every build since the first moment found it at work. -/
structure Settled (w w' : Workshop) : Prop where
  idle : w'.phase = .idle
  launches : ∃ new, w'.launches = w.launches ++ new ∧ ∀ l ∈ new, l.phase = .processing

/-- Without a build only the phase matters. -/
theorem Settled.of_launches (hidle : w'.phase = .idle) (h : w'.launches = w.launches) :
    Settled w w' :=
  ⟨hidle, [], by rw [h, List.append_nil], by simp⟩

theorem Settled.trans (h : Settled w w') (h' : Settled w' w'') : Settled w w'' := by
  obtain ⟨new, hnew, hphase⟩ := h.launches
  obtain ⟨new', hnew', hphase'⟩ := h'.launches
  refine ⟨h'.idle, new ++ new', by rw [hnew', hnew, List.append_assoc], fun l hl => ?_⟩
  exact (List.mem_append.1 hl).elim (hphase l) (hphase' l)

/-- **Every turn ends idle, and its build finds it at work**, wherever it ends. -/
theorem settled_turn (s : Session) (w : Workshop) (m : Text) :
    Settled w ((s.turn m).after w) := by
  obtain ⟨outcome, w', course, hturn⟩ := turn_course s w m
  obtain ⟨shown, hafter⟩ := after_turn hturn
  rw [hafter]
  cases course with
  | unsaid | unwritten => exact .of_launches rfl rfl
  | unbuilt | unread | unparsed | unkept | answered => exact ⟨rfl, [_], rfl, by simp⟩

theorem settled_handle (s : Session) (line : Text) (hidle : w.phase = .idle) :
    Settled w ((s.handle line).after w) := by
  rcases handle_cases s line w with hm | ⟨-, events, h⟩ | ⟨-, -, b, events, h⟩
  · rw [after_handle_message hm]
    exact settled_turn s w line
  · rw [Action.after_ok h]
    exact .of_launches hidle rfl
  · rw [Action.after_ok h]
    exact .of_launches hidle rfl

/-! ## Many uses -/

/-- One use of a session. Between two uses the files and the processes may change. -/
inductive Use where
  /-- A line is handled. -/
  | line (c : Call)
  /-- A turn is taken with whatever the line says. -/
  | message (c : Call)

/-- The workshop after a use, whether it failed or not. -/
def use (s : Session) (w : Workshop) : Use → Workshop
  | .line c => s.call w c
  | .message c => (s.turn c.line).after (c.enter w)

/-- The workshop after many uses. -/
def uses (s : Session) (w : Workshop) (us : List Use) : Workshop :=
  us.foldl s.use w

theorem settled_use (s : Session) (hidle : w.phase = .idle) (u : Use) :
    Settled w (s.use w u) := by
  cases u with
  | line c =>
    obtain ⟨hidle', hlaunches⟩ := settled_handle (w := c.enter w) s c.line hidle
    exact ⟨hidle', hlaunches⟩
  | message c =>
    obtain ⟨hidle', hlaunches⟩ := settled_turn s (c.enter w) c.line
    exact ⟨hidle', hlaunches⟩

/-- **A session is idle after any uses**, and every build found it at work. -/
theorem settled_uses (s : Session) (hidle : w.phase = .idle) (us : List Use) :
    Settled w (s.uses w us) := by
  induction us generalizing w with
  | nil => exact .of_launches hidle rfl
  | cons u us ih =>
    have hfirst := settled_use s hidle u
    exact hfirst.trans (ih hfirst.idle)

/-! ## What a turn without an answer leaves -/

/-- **A turn that is not answered leaves its question at most**, and not even that only if the
question cannot be kept, which is then what the turn fails with. -/
theorem turn_unanswered (h : ∀ a w', s.turn m w ≠ .ok (some a) w') :
    (((s.turn m).after w).history = w.history ∧
      ∃ f w', say .user m w = .error f w ∧ s.turn m w = .error f w') ∨
    (((s.turn m).after w).history = w.history ++ [⟨.user, History.kept m⟩] ∧
      ∃ w', say .user m w = .ok () w') := by
  obtain ⟨outcome, w', course, hturn⟩ := turn_course s w m
  obtain ⟨shown, hafter⟩ := after_turn hturn
  rw [hafter]
  cases course with
  | unsaid deep => exact .inl ⟨rfl, _, _, say_error deep, hturn⟩
  | unwritten said | unbuilt said | unread said | unparsed said | unkept said =>
    exact .inr ⟨rfl, _, say_ok said⟩
  | answered => exact absurd hturn (h _ _)

/-- **A session survives whatever happens in it.** For an idle session:

* after any uses it is idle again, and every build on the way found it at work;
* a turn that gives no answer, be it over or broken off, leaves the history as it was and one
  question after it, or the history alone if the question itself could not be kept; and a line
  that is a message leaves what its turn leaves;
* the next turn and the next line go as in a run that starts with this history, these files and
  these processes, whatever was started and shown before. -/
theorem session_recovers (s : Session) (hidle : w.phase = .idle) :
    (∀ us, Settled w (s.uses w us)) ∧
    (∀ us m, (∀ a w', s.turn m (s.uses w us) ≠ .ok (some a) w') →
      (((s.turn m).after (s.uses w us)).history = (s.uses w us).history ∧
        ∃ f w', say .user m (s.uses w us) = .error f (s.uses w us) ∧
          s.turn m (s.uses w us) = .error f w') ∨
      (((s.turn m).after (s.uses w us)).history =
          (s.uses w us).history ++ [⟨.user, History.kept m⟩] ∧
        ∃ w', say .user m (s.uses w us) = .ok () w')) ∧
    (∀ us line, requestOf line = .message →
      (s.handle line).after (s.uses w us) = (s.turn line).after (s.uses w us)) ∧
    (∀ us m, s.turn m (s.uses w us) =
        Action.leaving (·.upon (s.uses w us).past) (s.turn m (s.uses w us).afresh)) ∧
    ∀ us line, s.handle line (s.uses w us) =
        Action.leaving (·.upon (s.uses w us).past) (s.handle line (s.uses w us).afresh) := by
  have hsettled := settled_uses s hidle
  refine ⟨hsettled, fun us m h => turn_unanswered h, fun us line hm => after_handle_message hm,
    fun us m => ?_, fun us line => ?_⟩
  · exact Workshop.eq_afresh (oblivious_turn s m) (hsettled us).idle
  · exact Workshop.eq_afresh (oblivious_handle s line) (hsettled us).idle

/-- An empty directory in which every build crashes. -/
def crashing : Workshop :=
  .initial .empty [] fun _ _ t => (t, .failed (.crashed (text "no more memory")))

set_option maxRecDepth 4000 in
/-- A crash breaks off the turn; the session is idle and has kept the question. -/
theorem session_recovers_crashing :
    (∃ w', small.turn (text "hi") crashing = .error (.crashed (text "no more memory")) w') ∧
    Settled crashing (small.uses crashing [.message ⟨text "hi", id, crashing.runner⟩]) ∧
    ((small.turn (text "hi")).after crashing).history = [⟨.user, text "hi"⟩] := by
  obtain ⟨hsettled, hunanswered, -⟩ := session_recovers (w := crashing) small rfl
  have hturn : ∃ w', small.turn (text "hi") crashing =
      .error (.crashed (text "no more memory")) w' := ⟨_, by cbv⟩
  refine ⟨hturn, hsettled _, ?_⟩
  obtain ⟨w', hturn⟩ := hturn
  have hnone : ∀ a w'', small.turn (text "hi") crashing ≠ .ok (some a) w'' := by
    intro a w'' h
    rw [hturn] at h
    cases h
  have hkept : History.kept (text "hi") = text "hi" := by cbv
  rcases hunanswered [] _ hnone with ⟨-, f, w'', hsay, -⟩ | ⟨hhistory, -⟩
  · rw [say_ok (Json.withinReach_of_malformed rfl)] at hsay
    cases hsay
  · rw [hkept] at hhistory
    exact hhistory

end Session

end AgentWorkshop
