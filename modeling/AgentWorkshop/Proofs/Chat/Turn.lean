import AgentWorkshop.Chat.Session
import AgentWorkshop.Proofs.Chat.History
import AgentWorkshop.Proofs.Files.Access

/-!
# The course of a turn

A turn has six stages, each of which can be its last: the message is kept, the
request written, the agent built, its reply read, the reply understood and the
answer remembered. `Session.Course` relates a workshop and a message to how far
the turn gets, with everything that it leaves there; `turn_course` says that
every turn takes such a course, and what is made of where it ended. All that
is said of turns is read off the seven cases.
-/

namespace AgentWorkshop

namespace Session

/-! ## The stages -/

/-- The history once a message is kept. -/
def asked (w : Workshop) (message : Text) : History :=
  w.history ++ [⟨.user, History.kept message⟩]

/-- What writing the request for a message comes to. -/
def request (s : Session) (w : Workshop) (message : Text) : EStateM.Result Failure FileTree Unit :=
  Files.saveJson w.directory s.settings.inputPath (asked w message).payload w.files

/-- The files that a build leaves, and its outcome, if it finds the files `t`. -/
def built (s : Session) (w : Workshop) (t : FileTree) : FileTree × Outcome :=
  w.runner w.launches.length s.invocation t

/-- What is at the response path after that build. -/
def reply (s : Session) (w : Workshop) (t : FileTree) : Except Failure Bytes :=
  Files.contents (s.built w t).1 w.directory s.settings.outputPath

/-- What is shown of a log. -/
def logEvents (heading : String) (log : Text) : List Event :=
  match BuildLog.filter log with
  | some lines => [.line (text heading ++ text "\n" ++ Markup.escape lines)]
  | none => []

/-- What is shown when a build starts. -/
def started : Event :=
  .line (text "\n[cyan]Executing WASM...[/cyan]")

/-- What is shown of the output of a build. -/
def outputEvents (o : BuildOutput) : List Event :=
  logEvents "[red]Errors:[/red]" o.stderr ++ logEvents "[bold]Logs:[/bold]" o.stdout

/-- The workshop after a build that found the files `t`, with what was shown since. -/
def afterBuild (s : Session) (w : Workshop) (message : Text) (t : FileTree)
    (events : List Event) : Workshop :=
  { w with
    files := (s.built w t).1
    launches := w.launches ++ [⟨s.invocation, t, .processing, asked w message⟩]
    shown := w.shown ++ events
    history := asked w message
    phase := .idle }

/-- The failure of a turn whose reply cannot be read. -/
def unreadable (s : Session) : Failure → Failure
  | .system e => .file (.noResponse s.settings.outputPath e)
  | f => f

/-! ## The course -/

/-- How far a turn gets, what it comes to and what it leaves. -/
inductive Course (s : Session) (w : Workshop) (m : Text) : Except Failure Answer → Workshop → Prop
  /-- The message is nested too deep to be kept. -/
  | unsaid {container : Json.Container} (deep : Json.read m = .error (.tooDeep container)) :
    Course s w m (.error (.tooDeep container)) { w with phase := .idle }
  /-- The request cannot be written. -/
  | unwritten {f : Failure} {t : FileTree} (said : Json.WithinReach m)
    (written : s.request w m = .error f t) :
    Course s w m (.error f) { w with files := t, history := asked w m, phase := .idle }
  /-- The build fails. -/
  | unbuilt {f : Failure} {t : FileTree} (said : Json.WithinReach m)
    (written : s.request w m = .ok () t)
    (output : outputOf s.settings (s.built w t).2 = .error f) :
    Course s w m (.error f) (s.afterBuild w m t [started])
  /-- The reply cannot be read. -/
  | unread {f : Failure} {t : FileTree} {o : BuildOutput} (said : Json.WithinReach m)
    (written : s.request w m = .ok () t)
    (output : outputOf s.settings (s.built w t).2 = .ok o)
    (replied : s.reply w t = .error f) :
    Course s w m (.error (s.unreadable f)) (s.afterBuild w m t (started :: outputEvents o))
  /-- The reply is nested too deep to be understood. -/
  | unparsed {f : Failure} {t : FileTree} {o : BuildOutput} {bytes : Bytes}
    (said : Json.WithinReach m) (written : s.request w m = .ok () t)
    (output : outputOf s.settings (s.built w t).2 = .ok o)
    (replied : s.reply w t = .ok bytes)
    (parsed : Answer.ofText (Utf8.decodeLossy bytes) = .error f) :
    Course s w m (.error f) (s.afterBuild w m t (started :: outputEvents o))
  /-- The answer is nested too deep to be kept. -/
  | unkept {container : Json.Container} {t : FileTree} {o : BuildOutput} {bytes : Bytes}
    {a : Answer} (said : Json.WithinReach m) (written : s.request w m = .ok () t)
    (output : outputOf s.settings (s.built w t).2 = .ok o)
    (replied : s.reply w t = .ok bytes)
    (parsed : Answer.ofText (Utf8.decodeLossy bytes) = .ok a)
    (deep : Json.read a.content = .error (.tooDeep container)) :
    Course s w m (.error (.tooDeep container))
      (s.afterBuild w m t (started :: (outputEvents o ++ [.line a.markup])))
  /-- The answer is shown and kept. -/
  | answered {t : FileTree} {o : BuildOutput} {bytes : Bytes} {a : Answer}
    (said : Json.WithinReach m) (written : s.request w m = .ok () t)
    (output : outputOf s.settings (s.built w t).2 = .ok o)
    (replied : s.reply w t = .ok bytes)
    (parsed : Answer.ofText (Utf8.decodeLossy bytes) = .ok a)
    (kept : Json.WithinReach a.content) :
    Course s w m (.ok a)
      { s.afterBuild w m t (started :: (outputEvents o ++ [.line a.markup])) with
        history := asked w m ++ [⟨.assistant, History.kept a.content⟩] }

/-- How an action ends with an outcome. -/
def endWith : Except Failure Answer → Workshop → EStateM.Result Failure Workshop Answer
  | .ok a, w => .ok a w
  | .error f, w => .error f w

/-- What a turn makes of where its course ended: a failure that ends the turn only
is reported. -/
def conclude : Except Failure Answer → Workshop → EStateM.Result Failure Workshop (Option Answer)
  | .ok a, w => .ok (some a) w
  | .error f, w =>
    if endsTurnOnly f then
      .ok none { w with shown := w.shown ++ [Notice.error (text "Error: " ++ f.message)] }
    else .error f w

variable {s : Session} {w : Workshop} {m : Text}

/-! ## What each stage does -/

theorem say_ok {role : Role} {t : Text} (h : Json.WithinReach t) :
    say role t w = .ok () { w with history := w.history ++ [⟨role, History.kept t⟩] } := by
  simp only [say, Step.bind_apply, Step.get_apply, History.say,
    History.unwrap_of_withinReach h, Except.map]
  rfl

theorem say_error {role : Role} {t : Text} {container : Json.Container}
    (h : Json.read t = .error (.tooDeep container)) :
    say role t w = .error (.tooDeep container) w := by
  simp only [say, Step.bind_apply, Step.get_apply, History.say,
    History.unwrap_of_tooDeep h, Except.map]
  rfl

theorem writeRequest_apply : s.writeRequest w =
    match Files.saveJson w.directory s.settings.inputPath w.history.payload w.files with
    | .ok a t => .ok a { w with files := t }
    | .error f t => .error f { w with files := t } := by
  simp only [writeRequest, Step.bind_apply, Step.get_apply, Action.onFiles]
  cases Files.saveJson w.directory s.settings.inputPath w.history.payload w.files <;> rfl

/-- A build is recorded with what it finds, whatever comes of it. -/
theorem build_apply : s.build w =
    let left : Workshop :=
      { w with
        files := (s.built w w.files).1
        launches := w.launches ++ [⟨s.invocation, w.files, w.phase, w.history⟩] }
    match outputOf s.settings (s.built w w.files).2 with
    | .ok output => .ok output left
    | .error f => .error f left := by
  simp only [build, Step.bind_apply, Action.launch, built]
  cases outputOf s.settings (w.runner w.launches.length s.invocation w.files).2 <;> rfl

theorem printLog_apply (heading : String) (log : Text) : printLog heading log w =
    .ok () { w with shown := w.shown ++ logEvents heading log } := by
  rw [printLog, logEvents]
  cases BuildLog.filter log with
  | none => simp
  | some lines => rfl

theorem readResponse_apply : s.readResponse w =
    match Files.contents w.files w.directory s.settings.outputPath with
    | .ok bytes => .ok (Utf8.decodeLossy bytes) w
    | .error f => .error (s.unreadable f) w := by
  simp only [readResponse, Step.bind_apply, Action.attempt, Action.onFiles, Files.readLossy,
    Files.read_apply]
  cases Files.contents w.files w.directory s.settings.outputPath with
  | ok bytes => rfl
  | error f => cases f <;> rfl

/-! ## From one stage to the next -/

/-- A workshop while a turn is under way. -/
def duringTurn (w : Workshop) : Workshop :=
  { w with phase := .processing }

/-- The part of a turn that reads the reply. -/
def receive (s : Session) : Action Answer := do
  match Answer.ofText (← s.readResponse) with
  | .error f => throw f
  | .ok answer =>
    Action.print answer.markup
    say .assistant answer.content
    pure answer

/-- The part of a turn from its build on. -/
def buildAndReceive (s : Session) : Action Answer := do
  let output ← s.build
  printLog "[red]Errors:[/red]" output.stderr
  printLog "[bold]Logs:[/bold]" output.stdout
  s.receive

theorem exchange_stages : s.exchange m = (do
    say .user m
    s.writeRequest
    Action.display started
    s.buildAndReceive) := rfl

variable {t : FileTree} {o : BuildOutput} {bytes : Bytes} {a : Answer}

/-- Once the request is written, the build comes next. -/
theorem exchange_of_written (said : Json.WithinReach m) (written : s.request w m = .ok () t) :
    s.exchange m (duringTurn w) = s.buildAndReceive
      (duringTurn { w with files := t, history := asked w m, shown := w.shown ++ [started] }) := by
  have hwrite : s.writeRequest { w with history := asked w m, phase := .processing } =
      .ok () { w with files := t, history := asked w m, phase := .processing } := by
    rw [request] at written
    simp only [writeRequest_apply, written]
  rw [asked] at hwrite
  rw [duringTurn, exchange_stages, Step.bind_ok (say_ok said), Step.bind_ok hwrite,
    Step.bind_ok (Action.display_apply _ _)]
  rfl

/-- Once the build has an output, the reply comes next. -/
theorem exchange_of_output (said : Json.WithinReach m) (written : s.request w m = .ok () t)
    (output : outputOf s.settings (s.built w t).2 = .ok o) : s.exchange m (duringTurn w) =
      s.receive (duringTurn (s.afterBuild w m t (started :: outputEvents o))) := by
  rw [exchange_of_written said written, buildAndReceive, Step.bind_apply, build_apply]
  rw [built] at output
  simp only [built, duringTurn, output]
  rw [Step.bind_ok (printLog_apply _ _), Step.bind_ok (printLog_apply _ _)]
  simp only [afterBuild, outputEvents, built, List.append_assoc]
  rfl

/-- Once the reply is understood, it is shown, and keeping it is all that is left. -/
theorem exchange_of_parsed (said : Json.WithinReach m) (written : s.request w m = .ok () t)
    (output : outputOf s.settings (s.built w t).2 = .ok o) (replied : s.reply w t = .ok bytes)
    (parsed : Answer.ofText (Utf8.decodeLossy bytes) = .ok a) : s.exchange m (duringTurn w) =
      (do say .assistant a.content; pure a : Action Answer)
        (duringTurn (s.afterBuild w m t (started :: (outputEvents o ++ [.line a.markup])))) := by
  rw [exchange_of_output said written output, receive, Step.bind_apply, readResponse_apply]
  rw [reply] at replied
  simp only [duringTurn, afterBuild, replied, parsed]
  rw [Step.bind_ok (Action.print_apply _ _)]
  simp only [List.append_assoc, List.cons_append]

/-! ## Every turn takes its course -/

/-- What a turn leaves is decided by its course, up to its first failure. -/
theorem exchange_of_course {outcome : Except Failure Answer} {w' : Workshop}
    (course : Course s w m outcome w') :
    s.exchange m (duringTurn w) = endWith outcome (duringTurn w') := by
  cases course with
  | unsaid deep =>
    rw [exchange, Step.bind_error (say_error deep)]
    rfl
  | unwritten said written =>
    rw [request, asked] at written
    rw [exchange, Step.bind_ok (say_ok said), Step.bind_apply, writeRequest_apply]
    simp only [duringTurn, written]
    rfl
  | unbuilt said written output =>
    rw [exchange_of_written said written, buildAndReceive, Step.bind_apply, build_apply]
    rw [built] at output
    simp only [built, duringTurn, output]
    rfl
  | unread said written output replied =>
    rw [exchange_of_output said written output, receive, Step.bind_apply, readResponse_apply]
    rw [reply] at replied
    simp only [duringTurn, afterBuild, replied]
    rfl
  | unparsed said written output replied parsed =>
    rw [exchange_of_output said written output, receive, Step.bind_apply, readResponse_apply]
    rw [reply] at replied
    simp only [duringTurn, afterBuild, replied, parsed]
    rfl
  | unkept said written output replied parsed deep =>
    rw [exchange_of_parsed said written output replied parsed, Step.bind_error (say_error deep)]
    rfl
  | answered said written output replied parsed kept =>
    rw [exchange_of_parsed said written output replied parsed, Step.bind_ok (say_ok kept)]
    rfl

/-- What a turn comes to is concluded from where its course ended. -/
theorem turn_of_course {outcome : Except Failure Answer} {w' : Workshop}
    (course : Course s w m outcome w') : s.turn m w = conclude outcome w' := by
  have hexchange := exchange_of_course course
  -- Every course ends idle, so setting the phase once more changes nothing.
  have hidle : { w' with phase := .idle } = w' := by
    cases course <;> rfl
  rw [turn, Step.bind_ok (Step.modify_apply _ _)]
  cases outcome with
  | ok a =>
    rw [duringTurn, endWith] at hexchange
    rw [Step.bind_ok (Action.attempt_ok hexchange), Step.bind_ok (Step.modify_apply _ _)]
    simp only [duringTurn, hidle]
    rfl
  | error f =>
    rw [duringTurn, endWith] at hexchange
    rw [Step.bind_ok (Action.attempt_error hexchange), Step.bind_ok (Step.modify_apply _ _)]
    simp only [duringTurn, hidle, conclude]
    split <;> rfl

/-- There is a course to take, whatever happens. -/
theorem exists_course (s : Session) (w : Workshop) (m : Text) :
    ∃ outcome w', Course s w m outcome w' := by
  rcases Json.withinReach_or_tooDeep m with said | ⟨container, deep⟩
  case inr => exact ⟨_, _, .unsaid deep⟩
  cases written : s.request w m with
  | error f t => exact ⟨_, _, .unwritten said written⟩
  | ok _ t =>
  cases output : outputOf s.settings (s.built w t).2 with
  | error f => exact ⟨_, _, .unbuilt said written output⟩
  | ok o =>
  cases replied : s.reply w t with
  | error f => exact ⟨_, _, .unread said written output replied⟩
  | ok bytes =>
  cases parsed : Answer.ofText (Utf8.decodeLossy bytes) with
  | error f => exact ⟨_, _, .unparsed said written output replied parsed⟩
  | ok a =>
  rcases Json.withinReach_or_tooDeep a.content with kept | ⟨container, deep⟩
  · exact ⟨_, _, .answered said written output replied parsed kept⟩
  · exact ⟨_, _, .unkept said written output replied parsed deep⟩

/-- **Every turn takes its course**, and what it comes to is concluded from where the
course ended. -/
theorem turn_course (s : Session) (w : Workshop) (m : Text) :
    ∃ outcome w', Course s w m outcome w' ∧ s.turn m w = conclude outcome w' := by
  obtain ⟨outcome, w', course⟩ := exists_course s w m
  exact ⟨outcome, w', course, turn_of_course course⟩

/-- A turn that is answered took the course to its end. -/
theorem course_of_answered {w' : Workshop} (h : s.turn m w = .ok (some a) w') :
    Course s w m (.ok a) w' := by
  obtain ⟨outcome, w'', course, hturn⟩ := turn_course s w m
  rw [h] at hturn
  cases outcome with
  | error f =>
    rw [conclude] at hturn
    split at hturn <;> cases hturn
  | ok a' =>
    cases hturn
    exact course

/-- **A turn whose request was written is answered exactly if nothing goes wrong after it**:
the build has an output, and what is at the response path is understood and can be kept. -/
theorem answered_iff (h : s.request w m = .ok () t) :
    (∃ w', s.turn m w = .ok (some a) w') ↔
      Json.WithinReach m ∧ (∃ o, outputOf s.settings (s.built w t).2 = .ok o) ∧
        ∃ bytes, s.reply w t = .ok bytes ∧ Answer.ofText (Utf8.decodeLossy bytes) = .ok a ∧
          Json.WithinReach a.content := by
  constructor
  · rintro ⟨w', hturn⟩
    cases course_of_answered hturn with
    | answered said written output replied parsed kept =>
      rw [h] at written
      cases written
      exact ⟨said, ⟨_, output⟩, _, replied, parsed, kept⟩
  · rintro ⟨said, ⟨o, output⟩, bytes, replied, parsed, kept⟩
    exact ⟨_, turn_of_course (.answered said h output replied parsed kept)⟩

/-- The workshop after a turn is where its course ended, but for what is shown. -/
theorem after_turn {outcome : Except Failure Answer} {w' : Workshop}
    (h : s.turn m w = conclude outcome w') :
    ∃ shown, (s.turn m).after w = { w' with shown := shown } := by
  cases outcome with
  | ok a => exact ⟨w'.shown, by rw [Action.after_ok h]⟩
  | error f =>
    rw [conclude] at h
    split at h
    · exact ⟨_, Action.after_ok h⟩
    · exact ⟨w'.shown, by rw [Action.after_error h]⟩

/-- A turn whose request was written builds the agent once, with the request in place. -/
theorem launches_of_written (said : Json.WithinReach m) (h : s.request w m = .ok () t) :
    ((s.turn m).after w).launches =
      w.launches ++ [⟨s.invocation, t, .processing, asked w m⟩] := by
  obtain ⟨outcome, w', course, hturn⟩ := turn_course s w m
  obtain ⟨shown, hafter⟩ := after_turn hturn
  rw [hafter]
  cases course with
  | unsaid deep => exact absurd deep (said _)
  | unwritten _ written =>
    rw [h] at written
    cases written
  | unbuilt _ written | unread _ written | unparsed _ written | unkept _ written
  | answered _ written =>
    rw [h] at written
    cases written
    rfl

/-- And any other turn does not build it. -/
theorem launches_of_unwritten {f : Failure} (h : s.request w m = .error f t) :
    ((s.turn m).after w).launches = w.launches := by
  obtain ⟨outcome, w', course, hturn⟩ := turn_course s w m
  obtain ⟨shown, hafter⟩ := after_turn hturn
  rw [hafter]
  cases course with
  | unsaid | unwritten => rfl
  | unbuilt _ written | unread _ written | unparsed _ written | unkept _ written
  | answered _ written =>
    rw [h] at written
    cases written

end Session

end AgentWorkshop
