import AgentWorkshop.Chat.Answer
import AgentWorkshop.Proofs.Json.Ascii
import AgentWorkshop.Proofs.Number.Binary64

/-!
# How answers are told apart

The kind of an answer and all that is kept of it follow from a few members of the object
that it is written as (`Agree`), however the object is written, and the preamble makes no
difference to it. Both forms that agents write are read back from their JSON: from
`Json.print` with every text as it was, from `Json.printAscii` with surrogate pairs joined
(`answer_format`).
-/

namespace AgentWorkshop

namespace Answer

open Json

variable {t t' : Text} {v w : Json} {a : Answer} {n : Option Int}

/-! ## The preamble -/

/-- A text after a preamble is no JSON. -/
theorem read_preamble (t : Text) : read (preamble ++ t) = .error .malformed := by
  rfl

theorem body_preamble (t : Text) : body (preamble ++ t) = t := by
  have h : preamble.isPrefixOf? (preamble ++ t) = some t :=
    List.isPrefixOf?_eq_some_iff_append_eq.2 rfl
  rw [body, h]
  rfl

/-- So a text that is JSON has no preamble. -/
theorem body_of_read (h : read t = .ok v) : body t = t := by
  cases hbody : preamble.isPrefixOf? t with
  | none => rw [body, hbody]; rfl
  | some s =>
    rw [← List.isPrefixOf?_eq_some_iff_append_eq.1 hbody, read_preamble] at h
    cases h

/-- **The answer in a text that is JSON**, with or without a preamble. -/
theorem ofText_of_read (h : read t = .ok v) :
    ofText t = .ok ((ofJson? v).getD (.plain t)) ∧ ofText (preamble ++ t) = ofText t := by
  have hread : ofText t = .ok ((ofJson? v).getD (.plain t)) := by
    simp only [ofText, body_of_read h, h]
  refine ⟨hread, ?_⟩
  rw [hread]
  simp only [ofText, body_preamble, h]

/-! ## The members that matter -/

/-- The first of the choices, if the choices are a list that has one. -/
def firstChoice? (v : Json) : Option Json :=
  match v.member (text "choices") with
  | .array (choice :: _) => some choice
  | _ => none

theorem isSome_firstChoice?_iff : (firstChoice? v).isSome ↔
    ∃ choice rest, v.member (text "choices") = .array (choice :: rest) := by
  rw [firstChoice?]
  split <;> simp_all

/-- A completion is told by its first choice, a native answer by its response. -/
theorem ofJson?_eq (v : Json) : ofJson? v =
    match firstChoice? v with
    | some choice => some (.completion (readCompletion v choice))
    | none =>
      (v.member? (text "response")).map fun response => .native (readNative v response) := by
  rw [ofJson?, firstChoice?]
  cases v.member (text "choices") with
  | array vs => cases vs <;> cases v.member? (text "response") <;> rfl
  | _ => cases v.member? (text "response") <;> rfl

/-- **How a text can be answered**: with its body, if that is no JSON or has neither form, with
the completion of a first choice, or with the native answer of a response. -/
inductive Reading (raw : Text) : Answer → Prop
  /-- The body is no JSON. -/
  | malformed (hread : read (body raw) = .error .malformed) : Reading raw (.plain (body raw))
  /-- It is JSON with a first choice. -/
  | completion {v choice : Json} (hread : read (body raw) = .ok v)
    (hfirst : firstChoice? v = some choice) : Reading raw (.completion (readCompletion v choice))
  /-- It is JSON without one, but with a response. -/
  | native {v response : Json} (hread : read (body raw) = .ok v) (hfirst : firstChoice? v = none)
    (hresponse : v.member? (text "response") = some response) :
    Reading raw (.native (readNative v response))
  /-- It is JSON with neither. -/
  | other {v : Json} (hread : read (body raw) = .ok v) (hfirst : firstChoice? v = none)
    (hresponse : v.member? (text "response") = none) : Reading raw (.plain (body raw))

/-- Every answer is read in one of these ways. -/
theorem reading {raw : Text} (h : ofText raw = .ok a) : Reading raw a := by
  rw [ofText] at h
  rcases hread : read (body raw) with (_ | k) | v <;> rw [hread] at h
  · cases h
    exact .malformed hread
  · cases h
  · dsimp only at h
    rw [ofJson?_eq] at h
    cases hfirst : firstChoice? v with
    | some choice =>
      rw [hfirst] at h
      cases h
      exact .completion hread hfirst
    | none =>
      rw [hfirst] at h
      cases hresponse : v.member? (text "response") with
      | some response =>
        rw [hresponse] at h
        cases h
        exact .native hread hfirst hresponse
      | none =>
        rw [hresponse] at h
        cases h
        exact .other hread hfirst hresponse

/-- The two objects agree on the members that an answer is read from. -/
structure Agree (v w : Json) : Prop where
  choice : firstChoice? v = firstChoice? w
  response : v.member? (text "response") = w.member? (text "response")
  model : v.member (text "model") = w.member (text "model")
  usage : v.member (text "usage") = w.member (text "usage")
  timeTaken : v.member (text "time_taken") = w.member (text "time_taken")
  tokensPerSecond : v.member (text "tokens_per_second") = w.member (text "tokens_per_second")
  totalTokens : v.member (text "total_tokens_generated") = w.member (text "total_tokens_generated")

/-- **Objects that agree hold the same answer.** -/
theorem Agree.ofJson?_eq (h : Agree v w) : ofJson? v = ofJson? w := by
  have hcompletion (choice : Json) : readCompletion v choice = readCompletion w choice := by
    simp only [readCompletion, h.model, h.usage]
  have hnative (response : Json) : readNative v response = readNative w response := by
    simp only [readNative, h.timeTaken, h.tokensPerSecond, h.totalTokens]
  simp only [Answer.ofJson?_eq, h.choice, h.response, hcompletion, hnative]

/-- **The kind of an answer.** -/
theorem kind_of_read (h : read t = .ok v) (ha : ofText t = .ok a) :
    ((∃ c, a = .completion c) ↔
      ∃ choice rest, v.member (text "choices") = .array (choice :: rest)) ∧
    ((∃ n, a = .native n) ↔ (¬ ∃ choice rest, v.member (text "choices") = .array (choice :: rest)) ∧
      (v.member? (text "response")).isSome) ∧
    ((∀ c, a ≠ .completion c) → (∀ n, a ≠ .native n) → a = .plain t) := by
  rw [(ofText_of_read h).1, ofJson?_eq] at ha
  rw [← isSome_firstChoice?_iff]
  cases hfirst : firstChoice? v with
  | some choice =>
    rw [hfirst] at ha
    cases ha
    simp
  | none =>
    rw [hfirst] at ha
    cases hresponse : v.member? (text "response") <;>
      · rw [hresponse] at ha
        cases ha
        simp

/-! ## The forms that agents write -/

/-- A number that may be missing. -/
def optional : Option Int → Json
  | some n => .integer n
  | none => .null

/-- The numbers that an agent reports; a double holds each of them. -/
def Small (n : Option Int) : Prop :=
  ∀ k ∈ n, k.natAbs ≤ 2 ^ 53

theorem small_none : Small none := by
  rintro k hk
  cases hk

theorem small_some {k : Int} (hk : k.natAbs ≤ 2 ^ 53) : Small (some k) := by
  rintro k' hk'
  cases hk'
  exact hk

/-- The double is the number, or there is neither. -/
def Reports (x : Option Binary64) (n : Option Int) : Prop :=
  x.map Binary64.toInt? = n.map some

/-- The native form. -/
def nativeForm (content : Text) (timeTaken tokensPerSecond totalTokens : Option Int) : Json :=
  .object
    [(text "response", .string content),
      (text "time_taken", optional timeTaken),
      (text "tokens_per_second", optional tokensPerSecond),
      (text "total_tokens_generated", optional totalTokens)]

/-- The form of a completion. -/
def completionForm (content : Text) (model : Option Text)
    (timeTaken totalTokens promptTokens completionTokens : Option Int) : Json :=
  .object
    [(text "choices",
        .array [.object [(text "message", .object [(text "content", .string content)])]]),
      (text "model", model.elim .null .string),
      (text "usage", .object
        [(text "total_time", optional timeTaken),
          (text "total_tokens", optional totalTokens),
          (text "prompt_tokens", optional promptTokens),
          (text "completion_tokens", optional completionTokens)])]

variable {content : Text} {model : Option Text} {a b c d : Option Int} {p : Text → Prop}

theorem reports_metric? (h : Small n) : Reports (metric? (optional n)) n := by
  cases n with
  | none => rfl
  | some k =>
    have hk := h k rfl
    rw [optional, metric?, if_pos (Binary64.isFinite_ofInt hk), Reports, Option.map_some,
      Binary64.toInt?_ofInt hk, Option.map_some]

theorem exact_optional {depth : Nat} (h : Small n) : Exact p depth (optional n) := by
  cases n with
  | none => exact .null
  | some k =>
    have hk : k.natAbs ≤ 2 ^ 53 := h k rfl
    have hdigits := Text.length_ofNat_le (n := k.natAbs) 15 (by omega)
    exact .integer (by rw [digitLimit]; omega)

/-- The native form is exact data if its content is as wanted. -/
theorem exact_nativeForm (hp : ∀ t : Text, (∀ c ∈ t, c.val < 0x7F) → p t) (hcontent : p content)
    (ha : Small a) (hb : Small b) (hc : Small c) :
    Exact p nestingLimit (nativeForm content a b c) := by
  have hkey (s : String) (hs : isAscii s = true) : p (text s) :=
    hp _ (ascii_text s hs)
  have hdistinct : [text "response", text "time_taken", text "tokens_per_second",
      text "total_tokens_generated"].Nodup := by decide
  refine .object hdistinct ?_ ?_ <;> simp only [List.forall_mem_cons]
  · exact ⟨hkey _ (by decide), hkey _ (by decide), hkey _ (by decide), hkey _ (by decide),
      by simp⟩
  · exact ⟨.string hcontent, exact_optional ha, exact_optional hb, exact_optional hc, by simp⟩

/-- So is the form of a completion, if its model is as well. -/
theorem exact_completionForm (hp : ∀ t : Text, (∀ c ∈ t, c.val < 0x7F) → p t)
    (hcontent : p content) (hmodel : ∀ m ∈ model, p m) (ha : Small a) (hb : Small b)
    (hc : Small c) (hd : Small d) :
    Exact p nestingLimit (completionForm content model a b c d) := by
  have hkey (s : String) (hs : isAscii s = true) : p (text s) :=
    hp _ (ascii_text s hs)
  have hchoice : Exact p 978 (.object [(text "message", .object [(text "content",
      .string content)])]) :=
    .single (hkey _ (by decide)) (.single (hkey _ (by decide)) (.string hcontent))
  have hchoices : Exact p 979 (.array [_]) := .array (List.forall_mem_singleton.2 hchoice)
  have hnamed : Exact p 979 (model.elim .null .string) := by
    cases model with
    | none => exact .null
    | some m => exact .string (hmodel m rfl)
  have husage : Exact p 979 (.object
      [(text "total_time", optional a), (text "total_tokens", optional b),
        (text "prompt_tokens", optional c), (text "completion_tokens", optional d)]) := by
    have hdistinct : [text "total_time", text "total_tokens", text "prompt_tokens",
        text "completion_tokens"].Nodup := by decide
    refine .object hdistinct ?_ ?_ <;> simp only [List.forall_mem_cons]
    · exact ⟨hkey _ (by decide), hkey _ (by decide), hkey _ (by decide), hkey _ (by decide),
        by simp⟩
    · exact ⟨exact_optional ha, exact_optional hb, exact_optional hc, exact_optional hd, by simp⟩
  have hdistinct : [text "choices", text "model", text "usage"].Nodup := by decide
  refine .object hdistinct ?_ ?_ <;> simp only [List.forall_mem_cons]
  · exact ⟨hkey _ (by decide), hkey _ (by decide), hkey _ (by decide), by simp⟩
  · exact ⟨hchoices, hnamed, husage, by simp⟩

theorem ofJson?_nativeForm : ofJson? (nativeForm content a b c) =
    some (.native ⟨content, metric? (optional a), metric? (optional b), metric? (optional c)⟩) := by
  rfl

theorem ofJson?_completionForm : ofJson? (completionForm content model a b c d) =
    some (.completion ⟨content, model, metric? (optional a), metric? (optional b),
      metric? (optional c), metric? (optional d)⟩) := by
  cases model <;> rfl

/-- A form is read back as its answer from either spelling. -/
theorem ofText_print (h : Exact p nestingLimit v) {answer : Answer}
    (hv : ofJson? v = some answer) : ofText v.print = .ok answer := by
  rw [(ofText_of_read (read_print h)).1, hv]
  rfl

theorem ofText_printAscii (h : Exact Text.Apart nestingLimit v) {answer : Answer}
    (hv : ofJson? v = some answer) : ofText v.printAscii = .ok answer := by
  rw [(ofText_of_read (read_printAscii h)).1, hv]
  rfl

theorem printAscii_nativeForm : (nativeForm content a b c).printAscii =
    (nativeForm content.joinPairs a b c).printAscii := by
  simp only [printAscii, nativeForm, print, printMembers, printString, List.flatMap_append,
    flatMap_ascii_joinPairs]

theorem printAscii_completionForm : (completionForm content model a b c d).printAscii =
    (completionForm content.joinPairs (model.map Text.joinPairs) a b c d).printAscii := by
  cases model <;>
    simp only [printAscii, completionForm, print, printMembers, printElements, printString,
      List.flatMap_append, flatMap_ascii_joinPairs, Option.map_none, Option.map_some,
      Option.elim_none, Option.elim_some]

/-- The text is understood as a native answer with this content and these numbers. -/
def HoldsNative (raw content : Text) (timeTaken tokensPerSecond totalTokens : Option Int) : Prop :=
  ∃ answer, ofText raw = .ok (.native answer) ∧ answer.content = content ∧
    Reports answer.timeTaken timeTaken ∧ Reports answer.tokensPerSecond tokensPerSecond ∧
    Reports answer.totalTokens totalTokens

/-- The text is understood as a completion with this content, model and numbers. -/
def HoldsCompletion (raw content : Text) (model : Option Text)
    (timeTaken totalTokens promptTokens completionTokens : Option Int) : Prop :=
  ∃ answer, ofText raw = .ok (.completion answer) ∧ answer.content = content ∧
    answer.model = model ∧ Reports answer.timeTaken timeTaken ∧
    Reports answer.totalTokens totalTokens ∧ Reports answer.promptTokens promptTokens ∧
    Reports answer.completionTokens completionTokens

theorem holdsNative (ha : Small a) (hb : Small b) (hc : Small c) :
    HoldsNative (nativeForm content a b c).print content a b c ∧
      HoldsNative (nativeForm content a b c).printAscii content.joinPairs a b c := by
  have hreports :=
    And.intro (reports_metric? ha) (And.intro (reports_metric? hb) (reports_metric? hc))
  constructor
  · have hexact : Exact (fun _ => True) nestingLimit (nativeForm content a b c) :=
      exact_nativeForm (fun _ _ => trivial) trivial ha hb hc
    exact ⟨_, ofText_print hexact ofJson?_nativeForm, rfl, hreports⟩
  · have hexact := exact_nativeForm (fun _ => Text.apart_ascii) content.apart_joinPairs ha hb hc
    rw [printAscii_nativeForm]
    exact ⟨_, ofText_printAscii hexact ofJson?_nativeForm, rfl, hreports⟩

theorem holdsCompletion (ha : Small a) (hb : Small b) (hc : Small c) (hd : Small d) :
    HoldsCompletion (completionForm content model a b c d).print content model a b c d ∧
      HoldsCompletion (completionForm content model a b c d).printAscii content.joinPairs
        (model.map Text.joinPairs) a b c d := by
  have hreports := And.intro (reports_metric? ha) (And.intro (reports_metric? hb)
    (And.intro (reports_metric? hc) (reports_metric? hd)))
  constructor
  · have hexact : Exact (fun _ => True) nestingLimit (completionForm content model a b c d) :=
      exact_completionForm (fun _ _ => trivial) trivial (fun _ _ => trivial) ha hb hc hd
    exact ⟨_, ofText_print hexact ofJson?_completionForm, rfl, rfl, hreports⟩
  · have hmodel : ∀ m ∈ model.map Text.joinPairs, Text.Apart m := by
      intro m hm
      obtain ⟨m', -, rfl⟩ := Option.mem_map.1 hm
      exact m'.apart_joinPairs
    have hexact := exact_completionForm (fun _ => Text.apart_ascii) content.apart_joinPairs hmodel
      ha hb hc hd
    rw [printAscii_completionForm]
    exact ⟨_, ofText_printAscii hexact ofJson?_completionForm, rfl, rfl, hreports⟩

/-! ## The format -/

/-- **The format of answers.** A text that is an object is a completion exactly if its
choices are a list with a first element, a native answer exactly if they are not and it has
a response, and plain text otherwise; the preamble changes nothing. Two such texts whose
objects agree hold equal answers unless both are plain, and of members with one key the last
counts. Both forms are read back with the content, the model and the numbers that they were
made of; written in ASCII they come back with the surrogate pairs in their texts joined,
which is as they were exactly if their surrogates stand apart. -/
theorem answer_format :
    (∀ t members, read t = .ok (.object members) →
      ofText (preamble ++ t) = ofText t ∧ ∃ answer, ofText t = .ok answer ∧
        ((∃ c, answer = .completion c) ↔
          ∃ choice rest, (object members).member (text "choices") = .array (choice :: rest)) ∧
        ((∃ n, answer = .native n) ↔
          (¬ ∃ choice rest, (object members).member (text "choices") = .array (choice :: rest)) ∧
            ((object members).member? (text "response")).isSome) ∧
        ((∀ c, answer ≠ .completion c) → (∀ n, answer ≠ .native n) → answer = .plain t)) ∧
    (∀ t t' members members', read t = .ok (.object members) →
      read t' = .ok (.object members') → Agree (object members) (object members') →
      ofText t = ofText t' ∨ ofText t = .ok (.plain t) ∧ ofText t' = .ok (.plain t')) ∧
    (∀ key members, (ofMembers members).member? key = members.reverse.lookup key) ∧
    (∀ content a b c, Small a → Small b → Small c →
      HoldsNative (nativeForm content a b c).print content a b c ∧
      HoldsNative (nativeForm content a b c).printAscii content.joinPairs a b c) ∧
    (∀ content model a b c d, Small a → Small b → Small c → Small d →
      HoldsCompletion (completionForm content model a b c d).print content model a b c d ∧
      HoldsCompletion (completionForm content model a b c d).printAscii content.joinPairs
        (model.map Text.joinPairs) a b c d) ∧
    ∀ content : Text, content.joinPairs = content ↔ content.Apart := by
  refine ⟨?_, ?_, member?_ofMembers, ?_, ?_, fun content => content.joinPairs_eq_iff⟩
  · intro t members h
    have ha := (ofText_of_read h).1
    exact ⟨(ofText_of_read h).2, _, ha, kind_of_read h ha⟩
  · intro t t' members members' h h' hagree
    rw [(ofText_of_read h).1, (ofText_of_read h').1, hagree.ofJson?_eq]
    cases ofJson? (object members') with
    | some answer => exact .inl rfl
    | none => exact .inr ⟨rfl, rfl⟩
  · intro content a b c ha hb hc
    exact holdsNative ha hb hc
  · intro content model a b c d ha hb hc hd
    exact holdsCompletion ha hb hc hd

/-- A greeting in the native form. -/
def greeting : Json :=
  nativeForm (text "Hello") (some 2) none (some 30)

/-- The greeting in another order, and with a member more. -/
def greetingAgain : Json :=
  .object
    [(text "total_tokens_generated", .integer 30),
      (text "note", .boolean true),
      (text "time_taken", .integer 2),
      (text "response", .string (text "Hello"))]

theorem exact_greeting : Exact (fun _ => True) nestingLimit greeting ∧
    Exact (fun _ => True) nestingLimit greetingAgain := by
  have htwo : Small (some 2) := small_some (by decide)
  have hthirty : Small (some 30) := small_some (by decide)
  have hdistinct : [text "total_tokens_generated", text "note", text "time_taken",
      text "response"].Nodup := by decide
  refine ⟨exact_nativeForm (fun _ _ => trivial) trivial htwo small_none hthirty,
    .object hdistinct (fun _ _ => trivial) ?_⟩
  simp only [List.forall_mem_cons]
  exact ⟨exact_optional hthirty, .boolean, exact_optional htwo, .string trivial, by simp⟩

theorem answer_format_greeting :
    ofText (preamble ++ greeting.print) = ofText greeting.print ∧
    ofText greeting.print = ofText greetingAgain.print ∧
    HoldsNative greeting.print (text "Hello") (some 2) none (some 30) ∧
    HoldsCompletion (completionForm (text "Hello") (some (text "m")) none none none none).printAscii
      (text "Hello") (some (text "m")) none none none none := by
  have hread := read_print exact_greeting.1
  have hread' := read_print exact_greeting.2
  have hagree : Agree greeting greetingAgain := by constructor <;> rfl
  refine ⟨(answer_format.1 _ _ hread).1, ?_, ?_, ?_⟩
  · rcases answer_format.2.1 _ _ _ _ hread hread' hagree with h | ⟨h, -⟩
    · exact h
    · rw [ofText_print exact_greeting.1 ofJson?_nativeForm] at h
      cases h
  · exact (answer_format.2.2.2.1 _ _ _ _ (small_some (by decide)) small_none
      (small_some (by decide))).1
  · exact (answer_format.2.2.2.2.1 (text "Hello") (some (text "m")) _ _ _ _ small_none small_none
      small_none small_none).2

/-- **Two surrogates of a pair come back from ASCII as one code point**, and a response that
is no string is kept with the order of its members. -/
theorem pair_joined_order_kept :
    ¬ HoldsNative (nativeForm [0xD83D, 0xDE00] none none none).printAscii [0xD83D, 0xDE00]
      none none none ∧
    ofText (object [(text "response", object [(text "a", .null), (text "b", .null)])]).print ≠
      ofText (object [(text "response", object [(text "b", .null), (text "a", .null)])]).print := by
  constructor
  · rintro ⟨answer, hanswer, hcontent, -⟩
    obtain ⟨joined, hjoined, hcontent', -⟩ := (holdsNative small_none small_none small_none).2
    rw [hanswer] at hjoined
    cases hjoined
    rw [hcontent] at hcontent'
    exact absurd hcontent' (by decide)
  · have hanswer (k k' : Text) (hk : [k, k'].Nodup) :
        ofText (object [(text "response", object [(k, .null), (k', .null)])]).print =
          .ok (.native ⟨(object [(k, .null), (k', .null)]).print, none, none, none⟩) := by
      have hinner : Exact (fun _ => True) 979 (object [(k, .null), (k', .null)]) :=
        .object hk (by simp) (by simpa using .null)
      exact ofText_print (.single trivial hinner) rfl
    rw [hanswer _ _ (by decide), hanswer _ _ (by decide)]
    intro h
    have hcontents := congrArg (·.toOption.map Answer.content) h
    exact absurd hcontents (by decide)

end Answer

end AgentWorkshop
