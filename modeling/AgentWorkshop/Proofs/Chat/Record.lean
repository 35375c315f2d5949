import AgentWorkshop.Proofs.Chat.Calls
import AgentWorkshop.Proofs.Chat.Contract
import Mathlib.Data.List.DropRight

/-!
# The record of a session

`Session.log` lists, call by call, what a session adds to its history, and the
history is at any time what was added since it was last cleared
(`history_calls`). Two more things hold over every list of calls. An answer
always follows a question (`paired_calls`). And every build finds the whole
history at the request path, with a question as its last message, so that of
two builds with no clearing between them the earlier one finds a proper
beginning of what the later one finds (`launches_calls`, `launches_stretch`).
The one exception is a path that leads to the device that swallows everything.
-/

namespace AgentWorkshop

namespace History

/-- An answer always follows a question. -/
def Paired (h : History) : Prop :=
  ∀ before x after, h = before ++ x :: after → x.role = .assistant →
    ∃ earlier q, before = earlier ++ [q] ∧ q.role = .user

theorem paired_nil : Paired [] := by
  intro before x after h
  simp at h

/-- A message may be added if it is a question or follows one. -/
theorem Paired.concat {h : History} (hp : h.Paired) {x : Message}
    (hx : x.role = .assistant → ∃ earlier q, h = earlier ++ [q] ∧ q.role = .user) :
    Paired (h ++ [x]) := by
  intro before y after heq hy
  rcases List.eq_nil_or_concat' after with rfl | ⟨after, last, rfl⟩
  · -- The answer asked about is the message that was added.
    obtain ⟨rfl, hlast⟩ := List.append_inj' heq rfl
    cases hlast
    exact hx hy
  · rw [← List.cons_append, ← List.append_assoc] at heq
    exact hp before y after (List.append_inj' heq rfl).1 hy

theorem Paired.concat_user {h : History} (hp : h.Paired) {q : Message} (hq : q.role = .user) :
    Paired (h ++ [q]) :=
  hp.concat fun hx => by rw [hq] at hx; cases hx

theorem Paired.concat_answer {h : History} (hp : h.Paired) {q a : Message}
    (hq : q.role = .user) : Paired (h ++ [q, a]) := by
  rw [List.append_cons]
  exact (hp.concat_user hq).concat fun _ => ⟨h, q, rfl, hq⟩

/-- So the first message is a question. -/
theorem Paired.head_user {h : History} (hp : h.Paired) {x : Message} (hx : h.head? = some x) :
    x.role = .user := by
  cases h with
  | nil => cases hx
  | cons y rest =>
    cases hx
    cases hr : x.role with
    | user => rfl
    | assistant =>
      obtain ⟨earlier, q, hnil, -⟩ := hp [] x rest rfl hr
      simp at hnil

end History

namespace Session

variable {s : Session} {w : Workshop} {m : Text}

/-! ## What a call adds -/

/-- What a turn adds to the history: the question, if it can be kept, and the answer,
if there is one. -/
def exchanged (s : Session) (w : Workshop) (m : Text) : List Message :=
  match History.unwrap m with
  | .error _ => []
  | .ok question =>
    ⟨.user, question⟩ ::
      match s.turn m w with
      | .ok (some a) _ => [⟨.assistant, History.kept a.content⟩]
      | _ => []

/-- What a line adds to the history. -/
def said (s : Session) (w : Workshop) (line : Text) : List Message :=
  if requestOf line = .message then s.exchanged w line else []

/-- What each of many calls adds to the history, with its line. -/
def log (s : Session) : Workshop → List Call → List (Text × List Message)
  | _, [] => []
  | w, c :: cs => (c.line, s.said (c.enter w) c.line) :: s.log (s.call w c) cs

theorem log_concat (cs : List Call) (c : Call) : s.log w (cs ++ [c]) =
    s.log w cs ++ [(c.line, s.said (c.enter (s.calls w cs)) c.line)] := by
  induction cs generalizing w with
  | nil => rfl
  | cons d cs ih =>
    rw [List.cons_append, log, ih, log, List.cons_append, calls]
    rfl

/-- A build found the whole history at the request path, ended by a question. -/
def Sent (s : Session) (directory : Address) (l : Launch) : Prop :=
  (∃ bytes, Utf8.encode l.history.payload.print = .ok bytes ∧
    (Files.contents l.files directory s.settings.inputPath = .ok bytes ∨
      Files.destination l.files directory s.settings.inputPath = .ok FileTree.nullDevice)) ∧
  ∃ earlier q, l.history = earlier ++ [q] ∧ q.role = .user

/-- What an action may do to the record: it adds messages, and of the builds at most
one, which finds the history with a question more. -/
structure Extends (s : Session) (w w' : Workshop) (added : List Message) : Prop where
  directory : w'.directory = w.directory
  history : w'.history = w.history ++ added
  launches : w'.launches = w.launches ∨ ∃ l q, w'.launches = w.launches ++ [l] ∧
    s.Sent w.directory l ∧ l.history = w.history ++ [q] ∧ l.history <+: w'.history

/-- A request that was written is found by the build. -/
theorem sent_of_request {t : FileTree} (h : s.request w m = .ok () t) :
    s.Sent w.directory ⟨s.invocation, t, .processing, asked w m⟩ :=
  ⟨Files.contents_of_saveJson h, w.history, _, rfl, rfl⟩

theorem exchanged_of_error (said : Json.WithinReach m) {f : Failure} {w' : Workshop}
    (h : s.turn m w = conclude (.error f) w') :
    s.exchanged w m = [⟨.user, History.kept m⟩] := by
  rw [exchanged, History.unwrap_of_withinReach said, h, conclude]
  dsimp only
  split <;> rename_i heq
  · split at heq <;> cases heq
  · rfl

theorem exchanged_of_answered {a : Answer} {w' : Workshop} (h : s.turn m w = .ok (some a) w') :
    s.exchanged w m = [⟨.user, History.kept m⟩, ⟨.assistant, History.kept a.content⟩] := by
  cases course_of_answered h with
  | answered said => rw [exchanged, History.unwrap_of_withinReach said, h]

/-- A turn that fails after its build adds the question, which the build has seen. -/
theorem extends_of_built (said : Json.WithinReach m) {t : FileTree}
    (written : s.request w m = .ok () t) {f : Failure} {events shown : List Event}
    (h : s.turn m w = conclude (.error f) (s.afterBuild w m t events)) :
    s.Extends w { s.afterBuild w m t events with shown := shown } (s.exchanged w m) := by
  refine ⟨rfl, ?_, .inr ⟨_, _, rfl, sent_of_request written, rfl, List.prefix_rfl⟩⟩
  rw [exchanged_of_error said h]
  rfl

/-- **What a turn does to the record**, whatever comes of it. -/
theorem turn_extends (s : Session) (w : Workshop) (m : Text) :
    s.Extends w ((s.turn m).after w) (s.exchanged w m) := by
  obtain ⟨outcome, w', course, hturn⟩ := turn_course s w m
  obtain ⟨shown, hafter⟩ := after_turn hturn
  rw [hafter]
  cases course with
  | unsaid deep =>
    have hnone : s.exchanged w m = [] := by
      rw [exchanged, History.unwrap_of_tooDeep deep]
    exact ⟨rfl, by rw [hnone, List.append_nil], .inl rfl⟩
  | unwritten said written => exact ⟨rfl, by rw [exchanged_of_error said hturn]; rfl, .inl rfl⟩
  | unbuilt said written => exact extends_of_built said written hturn
  | unread said written => exact extends_of_built said written hturn
  | unparsed said written => exact extends_of_built said written hturn
  | unkept said written => exact extends_of_built said written hturn
  | answered said written =>
    refine ⟨rfl, ?_, .inr ⟨_, _, rfl, sent_of_request written, rfl, ?_⟩⟩
    · rw [exchanged_of_answered hturn]
      simp [asked]
    · exact List.prefix_append _ _

/-- **What a call does to the record.** A line that clears the history leaves none of it
and builds nothing; any other adds what it says. -/
theorem call_cases (s : Session) (w : Workshop) (c : Call) :
    (requestOf c.line = .clear ∧ (s.call w c).history = [] ∧
      (s.call w c).directory = w.directory ∧ (s.call w c).launches = w.launches) ∨
    (requestOf c.line ≠ .clear ∧
      s.Extends w (s.call w c) (s.said (c.enter w) c.line)) := by
  rcases handle_cases s c.line (c.enter w) with hm | ⟨hm, events, h⟩ | ⟨hm, hclear, b, events, h⟩
  · refine .inr ⟨by simp [hm], ?_⟩
    rw [call_message hm, said, if_pos hm]
    obtain ⟨hdirectory, hhistory, hlaunches⟩ := turn_extends s (c.enter w) c.line
    exact ⟨hdirectory, hhistory, hlaunches⟩
  · rw [call, Action.after_ok h]
    exact .inl ⟨hm, rfl, rfl, rfl⟩
  · rw [call, Action.after_ok h, said, if_neg hm]
    exact .inr ⟨hclear, rfl, (List.append_nil _).symm, .inl rfl⟩

/-! ## Many calls -/

/-- **The history is what was added since it was last cleared.** -/
theorem history_calls (hw : w.history = []) (cs : List Call) : (s.calls w cs).history =
    ((s.log w cs).rtakeWhile fun e => requestOf e.1 ≠ .clear).flatMap Prod.snd := by
  induction cs using List.reverseRecOn with
  | nil => exact hw
  | append_singleton cs c ih =>
    rw [calls_concat, log_concat]
    rcases call_cases s (s.calls w cs) c with ⟨hclear, hnil, -, -⟩ | ⟨hclear, hextends⟩
    · rw [List.rtakeWhile_concat_neg _ _ _ (by simpa using hclear), hnil]
      rfl
    · rw [List.rtakeWhile_concat_pos _ _ _ (by simpa using hclear), hextends.history, ih]
      simp

/-- A line adds nothing, or a question, or a question and its answer. -/
theorem said_cases (s : Session) (w : Workshop) (line : Text) :
    s.said w line = [] ∨ (∃ q, s.said w line = [q] ∧ q.role = .user) ∨
      ∃ q a, s.said w line = [q, a] ∧ q.role = .user := by
  rw [said]
  split
  · rw [exchanged]
    cases History.unwrap line with
    | error => exact .inl rfl
    | ok question =>
      refine .inr ?_
      dsimp only
      split
      · exact .inr ⟨_, _, rfl, rfl⟩
      · exact .inl ⟨_, rfl, rfl⟩
  · exact .inl rfl

/-- **Answers follow questions** after any calls, if they did before. -/
theorem paired_calls (hw : w.history.Paired) (cs : List Call) :
    (s.calls w cs).history.Paired := by
  induction cs using List.reverseRecOn with
  | nil => exact hw
  | append_singleton cs c ih =>
    rw [calls_concat]
    rcases call_cases s (s.calls w cs) c with ⟨-, hnil, -, -⟩ | ⟨-, hextends⟩
    · rw [hnil]
      exact History.paired_nil
    · rw [hextends.history]
      rcases said_cases s (c.enter (s.calls w cs)) c.line with h | ⟨q, h, hq⟩ | ⟨q, a, h, hq⟩
      · rw [h, List.append_nil]
        exact ih
      · rw [h]
        exact ih.concat_user hq
      · rw [h]
        exact ih.concat_answer hq

theorem directory_calls (s : Session) (w : Workshop) (cs : List Call) :
    (s.calls w cs).directory = w.directory := by
  induction cs using List.reverseRecOn with
  | nil => rfl
  | append_singleton cs c ih =>
    rw [calls_concat]
    rcases call_cases s (s.calls w cs) c with ⟨-, -, h, -⟩ | ⟨-, hextends⟩
    · rw [h, ih]
    · rw [hextends.directory, ih]

/-- **Every build is sent the whole history.** -/
theorem launches_calls (s : Session) (w : Workshop) (cs : List Call) :
    ∃ new, (s.calls w cs).launches = w.launches ++ new ∧ ∀ l ∈ new, s.Sent w.directory l := by
  induction cs using List.reverseRecOn with
  | nil => exact ⟨[], (List.append_nil _).symm, by simp⟩
  | append_singleton cs c ih =>
    obtain ⟨new, hnew, hsent⟩ := ih
    rw [calls_concat]
    rcases call_cases s (s.calls w cs) c with ⟨-, -, -, h⟩ | ⟨-, hextends⟩
    · exact ⟨new, h.trans hnew, hsent⟩
    · rcases hextends.launches with h | ⟨l, q, h, hl, -, -⟩
      · exact ⟨new, h.trans hnew, hsent⟩
      · rw [directory_calls] at hl
        refine ⟨new ++ [l], by rw [h, hnew, List.append_assoc], ?_⟩
        simpa [or_imp, forall_and] using ⟨hsent, hl⟩

/-- **Without clearing, each build is sent more than the one before.** What an earlier
build was sent is moreover still the beginning of the history. -/
theorem launches_stretch (s : Session) (w : Workshop) {cs : List Call}
    (hcs : ∀ c ∈ cs, requestOf c.line ≠ .clear) :
    ∃ new, (s.calls w cs).launches = w.launches ++ new ∧
      (∀ l ∈ new, l.history <+: (s.calls w cs).history) ∧
      new.Pairwise fun l l' => l.history <+: l'.history ∧ l.history ≠ l'.history := by
  induction cs using List.reverseRecOn with
  | nil => exact ⟨[], (List.append_nil _).symm, by simp, .nil⟩
  | append_singleton cs c ih =>
    obtain ⟨new, hnew, hbefore, hpairs⟩ := ih fun d hd => hcs d (List.mem_append_left _ hd)
    rw [calls_concat]
    rcases call_cases s (s.calls w cs) c with ⟨hclear, -⟩ | ⟨-, hextends⟩
    · exact absurd hclear (hcs c (by simp))
    -- What was sent so far is a beginning of the history, and stays one as it grows.
    have hkept : ∀ l ∈ new, l.history <+: (s.call (s.calls w cs) c).history := by
      intro l hl
      rw [hextends.history]
      exact (hbefore l hl).trans (List.prefix_append _ _)
    rcases hextends.launches with h | ⟨l, q, h, -, hasked, hl⟩
    · exact ⟨new, h.trans hnew, hkept, hpairs⟩
    · refine ⟨new ++ [l], by rw [h, hnew, List.append_assoc], ?_, ?_⟩
      · simpa [or_imp, forall_and] using ⟨hkept, hl⟩
      · refine List.pairwise_append.2 ⟨hpairs, List.pairwise_singleton _ _, ?_⟩
        rintro l₀ hl₀ _ (_ | ⟨_, ⟨⟩⟩)
        have hstart := hbefore l₀ hl₀
        rw [hasked]
        refine ⟨hstart.trans (List.prefix_append _ _), fun heq => ?_⟩
        have hlength := hstart.length_le
        rw [heq, List.length_append, List.length_singleton] at hlength
        omega

/-- The small session, with a request that goes to the device that swallows everything. -/
def mute : Session :=
  { small with settings := { small.settings with inputPath := ⟨.top, FileTree.nullDevice⟩ } }

/-- A question in a bare tree. -/
def asking : Call :=
  ⟨text "hi", fun _ => .bare, fun _ _ t => (t, .exited 0 [] [])⟩

end Session

end AgentWorkshop
