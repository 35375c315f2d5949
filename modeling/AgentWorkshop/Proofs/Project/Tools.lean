import AgentWorkshop.Proofs.Project.Processes
import AgentWorkshop.Proofs.Project.Version

/-!
# The check of the tools

The tools are asked for their versions one after the other, up to the first whose answer is
objected to (`Toolchain.check_apply`). So the check goes well exactly in a workshop with its
tools (`Toolchain.Equipped`), and a tool that is asked suits unless it is the one with which the
check breaks off (`Toolchain.check_outcome`). What it breaks off with says what to install, but
for one answer of Node: a version with more digits than are read.
-/

namespace AgentWorkshop

namespace Toolchain

/-- The tools, in the order in which they are asked. -/
def tools : List String :=
  ["node", "rustc", "cargo"]

/-- The requests for the versions of the tools, in order. -/
def probes : List Invocation :=
  [probe "node", probe "rustc", probe "cargo"]

/-- **A workshop with its tools**: all three answer when they are asked one after the other, and
Node with a version that is known and new enough. -/
structure Equipped (required : Int) (w : Workshop) : Prop where
  node : ∃ output stderr major, w.answer (probe "node") = .exited 0 output stderr ∧
    nodeMajor? output = .ok (some major) ∧ required ≤ major
  succeeds : w.Succeeds probes

theorem equipped_shown {required : Int} {w : Workshop} {shown : List Event} :
    Equipped required { w with shown := shown } ↔ Equipped required w :=
  ⟨fun h => ⟨h.node, Workshop.succeeds_shown.1 h.succeeds⟩,
    fun h => ⟨h.node, Workshop.succeeds_shown.2 h.succeeds⟩⟩

/-- What is objected to in the output of Node, if anything is. -/
def versionObjection? (required : Int) (output : Text) : Option Failure :=
  match nodeMajor? output with
  | .error f => some f
  | .ok major =>
    if isEnough required major then none else some (.tool (.outdated required output) remedies)

/-- What is objected to in the answer of a tool, if anything is. The version of Node matters,
the other tools only have to answer. -/
def objection? (required : Int) (tool : String) : Outcome → Option Failure
  | .exited code output stderr =>
    if code = 0 then
      if tool = "node" then versionObjection? required output else none
    else some (.tool (.failing (probe tool).command.toText code stderr) remedies)
  | .failed (.system _) => some (.tool (.missing (text tool)) remedies)
  | .failed f => some f

/-- The tools that are asked, and what the check ends with. -/
def asked (required : Int) (w : Workshop) : List String × Option Failure :=
  w.pursued probe (objection? required) tools

variable {required : Int} {w : Workshop} {output stderr : Text} {tool : String} {o : Outcome}

theorem versionObjection?_eq_none_iff : versionObjection? required output = none ↔
    ∃ major : Nat, nodeMajor? output = .ok (some major) ∧ required ≤ major := by
  rw [versionObjection?]
  rcases nodeMajor? output with f | _ | major
  · simp
  · simp [isEnough]
  · simp [isEnough]

/-- **What suits the check**: an exit with zero, of Node with a version that is known and new
enough. -/
theorem objection?_eq_none_iff : objection? required tool o = none ↔
    ∃ output stderr, o = .exited 0 output stderr ∧
      (tool = "node" → ∃ major : Nat, nodeMajor? output = .ok (some major) ∧ required ≤ major) := by
  rcases o with ⟨code, output, stderr⟩ | f
  · rw [objection?]
    by_cases hcode : code = 0
    · subst hcode
      by_cases htool : tool = "node"
      · simp [htool, versionObjection?_eq_none_iff]
      · simp [htool]
    · simp [hcode]
  · cases f <;> simp [objection?]

/-- A tool's version is asked for once, and nothing else is objected to than its answer. -/
theorem version_cases (tool : String) (w : Workshop) :
    (∃ output stderr, w.answer (probe tool) = .exited 0 output stderr ∧
      version tool w = .ok output (w.once (probe tool))) ∨
    ∃ f, (∀ required, objection? required tool (w.answer (probe tool)) = some f) ∧
      version tool w = .error f (w.once (probe tool)) := by
  rw [version, Step.bind_ok (Action.launch_apply _ _)]
  rcases w.answer (probe tool) with ⟨code, output, stderr⟩ | f
  · by_cases hcode : code = 0
    · subst hcode
      exact .inl ⟨output, stderr, rfl, rfl⟩
    · simp only [objection?, if_neg hcode]
      exact .inr ⟨_, fun _ => rfl, rfl⟩
  · cases f <;> exact .inr ⟨_, fun _ => rfl, rfl⟩

/-- **The check asks the tools one after the other**, up to the first whose answer is objected
to. -/
theorem check_apply (required : Int) (w : Workshop) : check required w =
    Project.ended () (asked required w).2 (w.ran ((asked required w).1.map probe)) := by
  rw [check, asked, tools, Workshop.pursued]
  rcases version_cases "node" w with ⟨output, stderr, hnode, hversion⟩ | ⟨f, hnode, hversion⟩
  swap
  · rw [Step.bind_error hversion, hnode]
    rfl
  have hobjection : objection? required "node" (w.answer (probe "node")) =
      versionObjection? required output := by
    rw [hnode]
    rfl
  rw [Step.bind_ok hversion, hobjection, versionObjection?]
  rcases nodeMajor? output with f | major
  · rfl
  cases henough : isEnough required major with
  | false =>
    simp only [henough]
    rfl
  | true =>
    -- The other two only have to answer.
    simp only [henough, Workshop.pursued]
    rcases version_cases "rustc" (w.once (probe "node")) with
      ⟨_, _, hrustc, hversion⟩ | ⟨f, hrustc, hversion⟩
    swap
    · rw [hrustc]
      exact Step.bind_error hversion
    rw [hrustc]
    rcases version_cases "cargo" ((w.once (probe "node")).once (probe "rustc")) with
      ⟨_, _, hcargo, hversion'⟩ | ⟨f, hcargo, hversion'⟩ <;> rw [hcargo]
    · exact (Step.bind_ok hversion).trans (Step.bind_ok hversion')
    · exact (Step.bind_ok hversion).trans (Step.bind_error hversion')

/-- Nothing is objected to exactly in a workshop with its tools. -/
theorem asked_ok_iff : (asked required w).2 = none ↔ Equipped required w := by
  have hrest (tool : String) {o : Outcome} (htool : tool ≠ "node") :
      objection? required tool o = none ↔ o.Succeeded := by
    simp [objection?_eq_none_iff, htool, Outcome.Succeeded]
  rw [asked, tools, Workshop.pursued_cons_ok_iff, Workshop.pursued_cons_ok_iff,
    Workshop.pursued_cons_ok_iff, objection?_eq_none_iff, hrest "rustc" (by decide),
    hrest "cargo" (by decide)]
  constructor
  · rintro ⟨⟨output, stderr, hnode, henough⟩, hrustc, hcargo, -⟩
    obtain ⟨major, hmajor, henough⟩ := henough rfl
    exact ⟨⟨output, stderr, major, hnode, hmajor, henough⟩,
      ⟨_, _, hnode⟩, hrustc, hcargo, trivial⟩
  · rintro ⟨⟨output, stderr, major, hnode, hmajor, henough⟩, -, hrustc, hcargo, -⟩
    exact ⟨⟨output, stderr, hnode, fun _ => ⟨major, hmajor, henough⟩⟩, hrustc, hcargo, rfl⟩

/-- **The check asks for all tools and finds them, or breaks off.** -/
theorem check_cases (required : Int) (w : Workshop) :
    (Equipped required w ∧ check required w = .ok () (w.ran probes)) ∨
    (¬ Equipped required w ∧
      ∃ f asked, asked <+: probes ∧ check required w = .error f (w.ran asked)) := by
  rw [check_apply, ← asked_ok_iff]
  cases hasked : (asked required w).2 with
  | none =>
    have hall : (asked required w).1 = tools := Workshop.pursued_all hasked
    rw [hall]
    exact .inl ⟨rfl, rfl⟩
  | some f =>
    refine .inr ⟨Option.some_ne_none f, f, _, ?_, rfl⟩
    exact (Workshop.pursued_beginning w tools).map probe

/-! ## What comes of it -/

/-- The answer of a tool is one that the check goes on after. -/
def Suits (required : Int) (tool : String) (o : Outcome) : Prop :=
  ∃ output stderr, o = .exited 0 output stderr ∧
    (tool = "node" → ∃ major : Nat, nodeMajor? output = .ok (some major) ∧ required ≤ major)

/-- Node answers with a version of so many digits, more than are read. -/
def Overlong (w : Workshop) (n : Nat) : Prop :=
  ∃ output stderr digits, w.answer (probe "node") = .exited 0 output stderr ∧
    versionDigitsAfter [] output.strip = some digits ∧ digits.length = n ∧ digitLimit < n

/-- **What is objected to** in an answer. -/
theorem objection?_eq_some {f : Failure} (hregular : o.Regular)
    (h : objection? required tool o = some f) :
    (∃ fault, f = .tool fault remedies) ∨
      ∃ output stderr, tool = "node" ∧ o = .exited 0 output stderr ∧
        nodeMajor? output = .error f := by
  rcases o with ⟨code, output, stderr⟩ | g
  · rw [objection?] at h
    by_cases hcode : code = 0
    swap
    · rw [if_neg hcode] at h
      cases h
      exact .inl ⟨_, rfl⟩
    rw [if_pos hcode] at h
    by_cases htool : tool = "node"
    swap
    · rw [if_neg htool] at h
      cases h
    rw [if_pos htool, versionObjection?] at h
    cases hmajor : nodeMajor? output with
    | error g =>
      rw [hmajor] at h
      cases h
      exact .inr ⟨output, stderr, htool, by rw [hcode], hmajor⟩
    | ok major =>
      rw [hmajor] at h
      dsimp only at h
      split at h
      · cases h
      · cases h
        exact .inl ⟨_, rfl⟩
  · obtain ⟨e, rfl⟩ := hregular
    cases h
    exact .inl ⟨_, rfl⟩

/-- **A tool that is asked suits** unless it is the last one and the check breaks off. -/
theorem suits_iff {before later : List String}
    (h : (asked required w).1 = before ++ tool :: later) :
    Suits required tool ((w.ran (before.map probe)).answer (probe tool)) ↔
      later ≠ [] ∨ Equipped required w := by
  rw [← asked_ok_iff, Suits, ← objection?_eq_none_iff]
  exact Workshop.pursued_step h

/-- A version of Node that is too long is objected to at once. -/
theorem asked_of_overlong {n : Nat} (h : Overlong w n) :
    asked required w = (["node"], some (.tooManyDigits n)) := by
  obtain ⟨output, stderr, digits, hnode, hdigits, rfl, hlong⟩ := h
  have hmajor : nodeMajor? output = .error (.tooManyDigits digits.length) :=
    nodeMajor?_eq_error_iff.2 ⟨digits, hdigits, hlong, rfl⟩
  have hobjection : objection? required "node" (w.answer (probe "node")) =
      some (.tooManyDigits digits.length) := by
    rw [hnode, objection?, if_pos rfl, if_pos rfl, versionObjection?, hmajor]
  rw [asked, tools, Workshop.pursued, hobjection]

/-- **What the check breaks off with**: what to install, unless Node's version is too long. -/
theorem asked_failure (hregular : w.Regular) {f : Failure}
    (h : (asked required w).2 = some f) :
    (∃ fault, f = .tool fault remedies) ∨ ∃ n, f = .tooManyDigits n ∧ Overlong w n := by
  obtain ⟨before, tool, hlast, hobjection⟩ := Workshop.pursued_objection h
  rcases objection?_eq_some (hregular.answer_ran _ _) hobjection with
    hfault | ⟨output, stderr, rfl, hnode, hmajor⟩
  · exact .inl hfault
  · -- Node is the first tool that is asked, and asked once.
    have hfirst : before = [] := by
      have hbeginning : before ++ ["node"] <+: tools := by
        rw [← hlast]
        exact Workshop.pursued_beginning w tools
      cases before with
      | nil => rfl
      | cons b before =>
        exfalso
        rw [tools, List.cons_append, List.cons_prefix_cons] at hbeginning
        have hmem : "node" ∈ ["rustc", "cargo"] := hbeginning.2.subset (by simp)
        exact absurd hmem (by decide)
    rw [hfirst] at hnode
    obtain ⟨digits, hdigits, hlong, rfl⟩ := nodeMajor?_eq_error_iff.1 hmajor
    exact .inr ⟨_, rfl, output, stderr, digits, hnode, hdigits, rfl, hlong⟩

/-- **The check of the tools**, where processes end or the system says why there is none:

* it goes well exactly in a workshop with its tools;
* what is asked is a beginning of `node`, `rustc` and `cargo`, all of them if it goes well, and
  each that is asked suits, but for the last one if the check breaks off;
* it breaks off with what to install, unless Node answers with a version of more digits than
  are read; then it breaks off with their number, once Node was asked. -/
theorem check_outcome (required : Int) (w : Workshop) (hregular : w.Regular) :
    remedies ≠ [] ∧
    ((∃ w', check required w = .ok () w') ↔ Equipped required w) ∧
    (∃ asked, asked ≠ [] ∧ asked <+: ["node", "rustc", "cargo"] ∧
      (check required).after w = w.ran (asked.map probe) ∧
      (Equipped required w → asked = ["node", "rustc", "cargo"]) ∧
      ∀ before tool later, asked = before ++ tool :: later →
        (Suits required tool ((w.ran (before.map probe)).answer (probe tool)) ↔
          later ≠ [] ∨ Equipped required w)) ∧
    (∀ f w', check required w = .error f w' →
      (∃ fault, f = .tool fault remedies) ∨ ∃ n, f = .tooManyDigits n ∧ Overlong w n) ∧
    ∀ n, Overlong w n →
      check required w = .error (.tooManyDigits n) (w.once (probe "node")) := by
  refine ⟨by simp [remedies], ?_, ⟨(asked required w).1, ?_, Workshop.pursued_beginning w tools,
    ?_, fun hequipped => Workshop.pursued_all (asked_ok_iff.2 hequipped),
    fun before tool later => suits_iff⟩, fun f w' h => ?_, fun n hlong => ?_⟩
  · rw [check_apply, ← asked_ok_iff]
    cases (asked required w).2 <;> simp [Project.ended]
  · rw [asked, ne_eq, Workshop.pursued_eq_nil_iff]
    exact List.cons_ne_nil _ _
  · rw [Action.after, check_apply]
    cases (asked required w).2 <;> rfl
  · rw [check_apply] at h
    cases hend : (asked required w).2 with
    | none =>
      rw [hend] at h
      cases h
    | some g =>
      rw [hend] at h
      cases h
      exact asked_failure hregular hend
  · rw [check_apply, asked_of_overlong hlong]
    rfl

/-- A workshop where the processes have these outcomes in turn. -/
def answering (outcomes : List Outcome) : Workshop :=
  .initial .empty [] fun n _ t => (t, outcomes.getD n (.exited 0 [] []))

/-- A workshop with a Node but no `rustc`. -/
def withoutRust : Workshop :=
  answering [.exited 0 (text "v20.1.0") [], .failed (.system (.ofErrno .noEntry (text "rustc")))]

/-- There the check says what to install. -/
theorem check_outcome_rust :
    ¬ Equipped 14 withoutRust ∧
      ∃ fault w', check 14 withoutRust = .error (.tool fault remedies) w' := by
  have hregular : withoutRust.Regular := by
    rintro (_ | _ | n) i t
    · trivial
    · exact ⟨_, rfl⟩
    · trivial
  have hlacks : ¬ Equipped 14 withoutRust := by
    intro h
    obtain ⟨_, _, hrustc⟩ := h.succeeds.2.1
    cases hrustc
  obtain ⟨-, hok, -, hfails, -⟩ := check_outcome 14 withoutRust hregular
  refine ⟨hlacks, ?_⟩
  cases hcheck : check 14 withoutRust with
  | ok u w' => exact absurd (hok.1 ⟨w', hcheck⟩) hlacks
  | error f w' =>
    rcases hfails f w' hcheck with ⟨fault, rfl⟩ | ⟨n, -, output, stderr, digits, hnode, hdigits,
      rfl, hlong⟩
    · exact ⟨fault, w', rfl⟩
    · have htwo : versionDigitsAfter [] (text "v20.1.0").strip = some (text "20") := by decide
      cases hnode
      cases htwo.symm.trans hdigits
      exact absurd hlong (by decide)

/-- A version with so many ones before the full stop. -/
def onesVersion (n : Nat) : Text :=
  ('v' : CodePoint) :: (List.replicate n ('1' : CodePoint) ++ [('.' : CodePoint), '0'])

theorem versionDigitsAfter_onesVersion (n : Nat) :
    versionDigitsAfter [] (onesVersion (n + 1)).strip =
      some (List.replicate (n + 1) ('1' : CodePoint)) := by
  have hdigits : ∀ c ∈ List.replicate (n + 1) ('1' : CodePoint), c.isDecimalDigit = true := by
    intro c hc
    rw [List.eq_of_mem_replicate hc]
    decide
  rw [versionDigitsAfter_strip, onesVersion, versionDigitsAfter, if_neg (by decide),
    if_neg (by decide), versionDigitsAfter_append hdigits, versionDigitsAfter,
    if_neg (by decide), if_pos ?_]
  · simp
  · simp

/-- A workshop where Node answers with a version of one digit more than is read. -/
def withLongVersion : Workshop :=
  answering [.exited 0 (onesVersion 4301) []]

/-- **A version of Node that is too long** is not answered with what to install. -/
theorem long_version_unreported :
    withLongVersion.Regular ∧ ¬ Equipped 14 withLongVersion ∧
      check 14 withLongVersion =
        .error (.tooManyDigits 4301) (withLongVersion.once (probe "node")) := by
  have hlong : Overlong withLongVersion 4301 :=
    ⟨onesVersion 4301, [], _, rfl, versionDigitsAfter_onesVersion 4300, List.length_replicate,
      by decide⟩
  have hasked : asked 14 withLongVersion = (["node"], some (.tooManyDigits 4301)) :=
    asked_of_overlong hlong
  refine ⟨fun n i t => ?_, fun h => ?_, ?_⟩
  · rcases n with _ | n <;> trivial
  · rw [← asked_ok_iff, hasked] at h
    cases h
  · rw [check_apply, hasked]
    rfl

end Toolchain

end AgentWorkshop
