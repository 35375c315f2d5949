import AgentWorkshop.Proofs.Action
import AgentWorkshop.Proofs.Chat.Keeping
import Mathlib.Data.List.DropRight

/-!
# The history is a log

A history is worked on by `Operation`s: two of them may change it and two of them read it. What
an append comes to is one of four cases (`appending`), and only the first of them changes
anything. So after any operations the history consists of what the appends since the last
clearing gave, in order (`history_run`), and nothing else is ever in it.
-/

namespace AgentWorkshop

theorem Role.ofText?_toText (r : Role) : ofText? r.toText = some r := by
  cases r <;> decide

theorem Role.toText_of_ofText? {t : Text} {r : Role} (h : ofText? t = some r) : t = r.toText := by
  rw [ofText?] at h
  split at h
  case isTrue huser =>
    cases h
    exact huser
  split at h
  case isTrue hassistant =>
    cases h
    exact hassistant
  case isFalse => cases h

/-- A value that is the name of no role is refused. -/
theorem Message.roleOf_of_unknown {role : Json} (h : ∀ r : Role, role ≠ .string r.toText) :
    roleOf (some role) = .error .unknownRole := by
  cases role with
  | string t =>
    have hnone : Role.ofText? t = none :=
      Option.eq_none_iff_forall_ne_some.2 fun r hr =>
        h r (congrArg Json.string (Role.toText_of_ofText? hr))
    simp only [roleOf, hnone]
  | _ => rfl

namespace History

/-! ## One operation -/

/-- What may be asked of a history. -/
inductive Operation where
  | append (role content : Json)
  | clear
  | render
  | payload

/-- What a history gives. -/
inductive Reply where
  | added (m : Message)
  | cleared
  | listing (t : Text)
  | sendable (v : Json)

/-- Does an operation on a history. -/
def perform : Operation → EStateM Failure History Reply
  | .append role content => do
    match (← get).append? role content with
    | .ok (m, h) => do
      set h
      pure (.added m)
    | .error f => throw f
  | .clear => do
    set empty
    pure .cleared
  | .render => do
    pure (.listing (← get).render)
  | .payload => do
    pure (.sendable (← get).payload)

/-- **What an append comes to.** -/
inductive Appending (h : History) : Json → Json → EStateM.Result Failure History Reply → Prop
  /-- The message is added, with what is kept of the text. -/
  | added {r : Role} {t : Text} (reach : Json.WithinReach t) :
    Appending h (.string r.toText) (.string t)
      (.ok (.added ⟨r, kept t⟩) (h ++ [⟨r, kept t⟩]))
  /-- The content is no text. -/
  | notText {role content : Json} (other : ∀ t, content ≠ .string t) :
    Appending h role content (.error (.notText content.kindName) h)
  /-- The content is nested too deep. -/
  | tooDeep {role : Json} {t : Text} {container : Json.Container}
    (deep : Json.read t = .error (.tooDeep container)) :
    Appending h role (.string t) (.error (.tooDeep container) h)
  /-- Nobody has this role. -/
  | unknownRole {role : Json} {t : Text} (reach : Json.WithinReach t)
    (other : ∀ r : Role, role ≠ .string r.toText) :
    Appending h role (.string t) (.error (.badFields [(text "role", .unknownRole)]) h)

variable {h : History} {role content : Json}

theorem perform_append_ok {m : Message} (hm : newMessage role content = .ok m) :
    perform (.append role content) h = .ok (.added m) (h ++ [m]) := by
  rw [perform, Step.bind_ok (Step.get_apply h), append?, hm]
  rfl

theorem perform_append_error {f : Failure} (hf : newMessage role content = .error f) :
    perform (.append role content) h = .error f h := by
  rw [perform, Step.bind_ok (Step.get_apply h), append?, hf]
  rfl

/-- Of a text within reach the new message holds what is kept. -/
theorem newMessage_of_withinReach {t : Text} (reach : Json.WithinReach t) (role : Json) :
    newMessage role (.string t) = Message.ofValues (some role) (some (.string (kept t))) := by
  rw [newMessage, unwrap_of_withinReach reach]
  rfl

theorem newMessage_of_tooDeep {t : Text} {container : Json.Container}
    (deep : Json.read t = .error (.tooDeep container)) (role : Json) :
    newMessage role (.string t) = .error (.tooDeep container) := by
  rw [newMessage, unwrap_of_tooDeep deep]
  rfl

/-- **Every append comes to one of these**, whatever values it is given. -/
theorem appending (h : History) (role content : Json) :
    Appending h role content (perform (.append role content) h) := by
  by_cases htext : ∃ t, content = .string t
  case neg =>
    have hother : ∀ t, content ≠ .string t := not_exists.1 htext
    have hnew : newMessage role content = .error (.notText content.kindName) := by
      cases content with
      | string t => exact absurd rfl (hother t)
      | _ => rfl
    rw [perform_append_error hnew]
    exact .notText hother
  obtain ⟨t, rfl⟩ := htext
  rcases Json.withinReach_or_tooDeep t with reach | ⟨container, deep⟩
  case inr =>
    rw [perform_append_error (newMessage_of_tooDeep deep role)]
    exact .tooDeep deep
  have hnew := newMessage_of_withinReach reach role
  by_cases hrole : ∃ r : Role, role = .string r.toText
  · obtain ⟨r, rfl⟩ := hrole
    rw [Message.ofValues, Message.roleOf, Role.ofText?_toText] at hnew
    rw [perform_append_ok hnew]
    exact .added reach
  · have hother : ∀ r : Role, role ≠ .string r.toText := not_exists.1 hrole
    rw [Message.ofValues, Message.roleOf_of_unknown hother] at hnew
    rw [perform_append_error hnew]
    exact .unknownRole reach hother

/-! ## Many operations -/

/-- What operations gave, oldest first, and the history that they left. -/
structure Log where
  replies : List (Except Failure Reply)
  history : History

/-- The log after one operation more. -/
def Log.step (l : Log) (op : Operation) : Log :=
  match perform op l.history with
  | .ok reply h => ⟨l.replies ++ [.ok reply], h⟩
  | .error f h => ⟨l.replies ++ [.error f], h⟩

/-- The log of operations on a new history. -/
def run (ops : List Operation) : Log :=
  ops.foldl Log.step ⟨[], empty⟩

theorem run_concat (ops : List Operation) (op : Operation) :
    run (ops ++ [op]) = (run ops).step op := by
  rw [run, List.foldl_append]
  rfl

/-- The history was cleared. -/
def isClearing : Except Failure Reply → Bool
  | .ok .cleared => true
  | _ => false

/-- The message that was added, if one was. -/
def added? : Except Failure Reply → Option Message
  | .ok (.added m) => some m
  | _ => none

/-- The messages that were added since the history was last cleared. -/
def addedSince (replies : List (Except Failure Reply)) : List Message :=
  (replies.rtakeWhile fun reply => !isClearing reply).filterMap added?

section
variable {replies : List (Except Failure Reply)} {reply : Except Failure Reply}

theorem addedSince_clearing (h : isClearing reply = true) :
    addedSince (replies ++ [reply]) = [] := by
  rw [addedSince, List.rtakeWhile_concat_neg _ _ _ (by simp [h]), List.filterMap_nil]

theorem addedSince_concat (h : isClearing reply = false) :
    addedSince (replies ++ [reply]) = addedSince replies ++ (added? reply).toList := by
  rw [addedSince, List.rtakeWhile_concat_pos _ _ _ (by simp [h]), List.filterMap_append]
  cases hadded : added? reply <;> simp [hadded, addedSince]

end

/-- **One operation keeps the log and the history together.** -/
theorem Log.history_step {l : Log} (hl : l.history = addedSince l.replies) (op : Operation) :
    (l.step op).history = addedSince (l.step op).replies := by
  cases op with
  | append role content =>
    have happend := appending l.history role content
    rw [step]
    generalize perform (.append role content) l.history = result at happend
    cases happend with
    | added => rw [addedSince_concat rfl, ← hl]; rfl
    | notText | tooDeep | unknownRole =>
      rw [addedSince_concat rfl, ← hl]
      exact (List.append_nil _).symm
  | clear => exact (addedSince_clearing rfl).symm
  | render | payload =>
    refine Eq.trans ?_ (addedSince_concat rfl).symm
    rw [← hl]
    exact (List.append_nil _).symm

theorem history_run (ops : List Operation) :
    (run ops).history = addedSince (run ops).replies := by
  induction ops using List.reverseRecOn with
  | nil => rfl
  | append_singleton ops op ih =>
    rw [run_concat]
    exact Log.history_step ih op

/-- What stands in a history was put there by an append. -/
theorem exists_append_of_mem {ops : List Operation} {m : Message} (hm : m ∈ (run ops).history) :
    ∃ t, .append (.string m.role.toText) (.string t) ∈ ops ∧ m.content = kept t := by
  induction ops using List.reverseRecOn with
  | nil => cases hm
  | append_singleton ops op ih =>
    rw [run_concat] at hm
    have hbefore (hm : m ∈ (run ops).history) :
        ∃ t, .append (.string m.role.toText) (.string t) ∈ ops ++ [op] ∧ m.content = kept t := by
      obtain ⟨t, hmem, ht⟩ := ih hm
      exact ⟨t, List.mem_append_left _ hmem, ht⟩
    cases op with
    | append role content =>
      have happend := appending (run ops).history role content
      rw [Log.step] at hm
      generalize perform (.append role content) (run ops).history = result at happend hm
      cases happend with
      | added =>
        rcases List.mem_append.1 hm with hm | hm
        · exact hbefore hm
        · rw [List.mem_singleton.1 hm]
          exact ⟨_, List.mem_append_right _ (List.mem_singleton_self _), rfl⟩
      | notText | tooDeep | unknownRole => exact hbefore hm
    | clear => cases hm
    | render | payload => exact hbefore hm

/-- What fails changes nothing, and only an append can fail. -/
theorem eq_of_perform_error {op : Operation} {f : Failure} {h' : History}
    (hop : perform op h = .error f h') : h' = h ∧ ∃ role content, op = .append role content := by
  cases op with
  | append role content =>
    refine ⟨?_, role, content, rfl⟩
    have happend := appending h role content
    rw [hop] at happend
    cases happend <;> rfl
  | clear | render | payload => cases hop

/-- **The history is a log.** Whatever is asked of a new history, it holds the messages that
the appends since the last clearing gave, in order. Each has the role and the content of an
append, all of the content unless that wraps a response, and else that response. An append
comes to one of four cases, whatever is appended to what; what fails leaves the history as it
was, clearing leaves nothing, and the history is listed and sent as it is. -/
theorem history_log (ops : List Operation) :
    (run ops).history = addedSince (run ops).replies ∧
    (∀ m ∈ (run ops).history, (m.role.toText = text "user" ∨ m.role.toText = text "assistant") ∧
      ∃ t, .append (.string m.role.toText) (.string t) ∈ ops ∧
        ((∀ inner, ¬ Wraps t inner) → m.content = t) ∧
        ∀ inner, Wraps t inner → m.content = inner) ∧
    (∀ h role content, Appending h role content (perform (.append role content) h)) ∧
    (∀ h op f h', perform op h = .error f h' →
      h' = h ∧ ∃ role content, op = .append role content) ∧
    ∀ h, perform .clear h = .ok .cleared [] ∧ perform .render h = .ok (.listing h.render) h ∧
      perform .payload h = .ok (.sendable h.payload) h := by
  refine ⟨history_run ops, fun m hm => ⟨?role, ?content⟩, appending,
    fun h op f h' => eq_of_perform_error, fun h => ⟨rfl, rfl, rfl⟩⟩
  case role => cases m.role <;> simp [Role.toText]
  case content =>
    obtain ⟨t, hmem, ht⟩ := exists_append_of_mem hm
    refine ⟨t, hmem, fun hnone => ?_, fun inner hwraps => ?_⟩
    · rw [ht, kept_of_not_wraps hnone]
    · rw [ht, kept_of_wraps hwraps]

end History

end AgentWorkshop
