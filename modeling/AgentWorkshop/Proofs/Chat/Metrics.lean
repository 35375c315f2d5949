import AgentWorkshop.Proofs.Chat.Answer
import AgentWorkshop.Proofs.Chat.Performance
import AgentWorkshop.Proofs.Json.Sound

/-!
# Metrics are finite numbers

A metric is read from one member of the object that an answer is written as (`given`), and it is
reported if that is a number with a finite double (`reported_eq`). So an integer is reported up
to the bound from which on no double is nearest to it, and a count of tokens is shown with the
digits of the integer that its double is. Showing an answer never meets an infinity, what is no
number, or an integer too long to be written: a renderer that fails at each of them gives the
same markup (`metrics_finite`).
-/

namespace AgentWorkshop

open Json Text

namespace Metric

variable {m : Metric} {x : Binary64} {n : Int}

/-- The metrics that count tokens. -/
def counts : List Metric :=
  [totalTokens, promptTokens, completionTokens]

/-- The text of an integer that is not too long. -/
def integer? (n : Int) : Option Text :=
  if (Text.ofNat n.natAbs).length ≤ digitLimit then some (Text.ofInt n) else none

/-- The text of a metric's number, where an infinity, what is no number and an integer that is too
long are failures. -/
def write? (m : Metric) (x : Binary64) : Option Text :=
  if x.isFinite then
    match m with
    | timeTaken => some (Answer.seconds x)
    | tokensPerSecond => integer? x.round
    | totalTokens | promptTokens | completionTokens => x.toInt?.elim (some x.count) integer?
  else none

/-- The line of a metric, if its number can be written. -/
def line? (m : Metric) (x : Binary64) : Option Text :=
  (m.write? x).map (m.lead ++ ·)

theorem integer?_eq (h : n.natAbs ≤ 2 ^ 1024) : integer? n = some (Text.ofInt n) := by
  obtain ⟨k, hk, hlimit⟩ : ∃ k, 2 * (k + 1) = 1024 ∧ k + 1 ≤ digitLimit := ⟨511, rfl, by decide⟩
  have hpow : 2 ^ (2 * (k + 1)) < 10 ^ (k + 1) := by
    rw [Nat.pow_mul]
    exact Nat.pow_lt_pow_left (by decide) (Nat.succ_ne_zero k)
  rw [hk] at hpow
  exact if_pos ((length_ofNat_le k (h.trans_lt hpow)).trans hlimit)

/-- **Finite doubles can be written.** -/
theorem write?_eq (hx : x.IsDouble) (hfinite : x.isFinite = true) :
    m.write? x = some (m.write x) := by
  have hcount : x.toInt?.elim (some x.count) integer? = some x.count := by
    cases h : x.toInt? with
    | none => rfl
    | some k =>
      rw [Binary64.count, h]
      exact integer?_eq (Binary64.natAbs_toInt?_le hx h)
  unfold write?
  rw [if_pos hfinite]
  cases m with
  | timeTaken => rfl
  | tokensPerSecond => exact integer?_eq (Binary64.natAbs_round_le hx)
  | totalTokens | promptTokens | completionTokens => exact hcount

theorem mapM_line? {ms : List (Metric × Binary64)}
    (h : ∀ m x, (m, x) ∈ ms → x.IsDouble ∧ x.isFinite = true) :
    ms.mapM (fun e => e.1.line? e.2) = some (ms.map fun e => e.1.line e.2) := by
  induction ms with
  | nil => rfl
  | cons e ms ih =>
    obtain ⟨hx, hfinite⟩ := h e.1 e.2 List.mem_cons_self
    have hrest := ih fun m x hmem => h m x (List.mem_cons_of_mem _ hmem)
    rw [List.mapM_cons, hrest, line?, write?_eq hx hfinite]
    rfl

end Metric

namespace Answer

variable {raw : Text} {a : Answer} {v w : Json} {m : Metric} {x : Binary64} {n : Int}
variable {depth : Nat}

/-- The markup of an answer, if all of its numbers can be written. -/
def markup? (a : Answer) : Option Text :=
  (a.metrics.mapM fun e : Metric × Binary64 => e.1.line? e.2).map fun lines =>
    let details := modelDetail a.model ++ lines
    text "\n[green]Assistant:[/green]\n" ++ Markup.escape a.content ++
      if details = [] then []
      else text "\n\n[cyan]Performance Metrics:[/cyan]" ++ below details

theorem markup?_eq (h : ∀ m x, (m, x) ∈ a.metrics → x.IsDouble ∧ x.isFinite = true) :
    a.markup? = some a.markup := by
  rw [markup?, Metric.mapM_line? h, Option.map_some, ← details_eq, markup_eq, section?]
  by_cases hdetails : a.details = []
  · simp only [if_pos hdetails]
    rfl
  · simp only [if_neg hdetails]
    rfl

/-! ## Where a metric comes from -/

/-- The value that an answer of this kind gives a metric, in the object that it is written as. -/
def given (v : Json) : Answer → Metric → Json
  | completion _, .timeTaken => (v.member (text "usage")).member (text "total_time")
  | completion _, .totalTokens => (v.member (text "usage")).member (text "total_tokens")
  | completion _, .promptTokens => (v.member (text "usage")).member (text "prompt_tokens")
  | completion _, .completionTokens => (v.member (text "usage")).member (text "completion_tokens")
  | native _, .timeTaken => v.member (text "time_taken")
  | native _, .tokensPerSecond => v.member (text "tokens_per_second")
  | native _, .totalTokens => v.member (text "total_tokens_generated")
  | _, _ => .null

/-- It is part of what was read. -/
theorem sound_given (h : Sound depth v) (a : Answer) (m : Metric) : Sound depth (given v a m) := by
  cases a with
  | completion => cases m <;> first | exact h.member.member | exact .null
  | native => cases m <;> first | exact h.member | exact .null
  | plain => cases m <;> exact .null

/-- **A metric is reported as it is given.** -/
theorem reported_eq (h : ofText raw = .ok a) (hread : read (body raw) = .ok v) (m : Metric) :
    a.reported m = metric? (given v a m) := by
  cases reading h with
  | malformed hread' =>
    rw [hread] at hread'
    cases hread'
  | completion hread' =>
    cases hread.symm.trans hread'
    cases m <;> rfl
  | native hread' =>
    cases hread.symm.trans hread'
    cases m <;> rfl
  | other => cases m <;> rfl

theorem metric?_integer (n : Int) :
    metric? (.integer n) = if n.natAbs < 2 ^ 1024 - 2 ^ 970 then some (.ofInt n) else none := by
  rw [metric?]
  exact if_congr Binary64.isFinite_ofInt_iff rfl rfl

/-- It is given as a number, and reported as the double nearest to it. -/
theorem metric?_eq_some (hw : Sound depth w) (h : metric? w = some x) :
    x.isFinite = true ∧ x.IsDouble ∧
      ((∃ n, w = .integer n ∧ Binary64.IsNearest n x) ∨ w = .real x) := by
  cases w with
  | integer n =>
    rw [metric?, Option.ite_none_right_eq_some] at h
    obtain ⟨hfinite, hx⟩ := h
    cases hx
    have hnearest := Binary64.isNearest_ofInt hfinite
    exact ⟨hfinite, hnearest.isDouble, .inl ⟨n, rfl, hnearest⟩⟩
  | real y =>
    rw [metric?, Option.ite_none_right_eq_some] at h
    obtain ⟨hfinite, hx⟩ := h
    cases hx
    cases hw with
    | real double => exact ⟨hfinite, double, .inr rfl⟩
  | null | boolean | string | array | object => cases h

/-- So whatever is reported was given as a number. -/
theorem of_mem_metrics (h : ofText raw = .ok a) (hx : (m, x) ∈ a.metrics) :
    x.isFinite = true ∧ x.IsDouble ∧ ∃ v, read (body raw) = .ok v ∧
      ((∃ n, given v a m = .integer n ∧ Binary64.IsNearest n x) ∨ given v a m = .real x) := by
  rw [mem_metrics_iff] at hx
  obtain ⟨v, hread⟩ : ∃ v, read (body raw) = .ok v := by
    cases reading h with
    | malformed => cases hx
    | completion hread => exact ⟨_, hread⟩
    | native hread => exact ⟨_, hread⟩
    | other hread => exact ⟨_, hread⟩
  rw [reported_eq h hread] at hx
  obtain ⟨hfinite, hdouble, hgiven⟩ := metric?_eq_some (sound_given (sound_of_read hread) a m) hx
  exact ⟨hfinite, hdouble, v, hread, hgiven⟩

/-- **A count is shown with the digits of its double**, which is the integer that was given if 53
bits are enough for it. -/
theorem count_shown (h : a.reported m = some (.ofInt n)) (hm : m ∈ Metric.counts)
    (hn : (Binary64.ofInt n).isFinite = true) :
    ∃ k : Int, (Binary64.ofInt n).value = k ∧ (n.natAbs ≤ 2 ^ 53 → k = n) ∧
      a.details.filter m.lead.isPrefixOf = [m.lead ++ ofInt k] := by
  obtain ⟨k, hk⟩ := Binary64.exists_toInt?_ofInt hn
  refine ⟨k, (Binary64.toInt?_eq_some_iff hn).1 hk, fun hsmall => ?_, ?_⟩
  · rw [Binary64.toInt?_ofInt hsmall] at hk
    exact (Option.some.inj hk).symm
  · have hwrite : m.write = Binary64.count := by
      simp only [Metric.counts, List.mem_cons, List.not_mem_nil, or_false] at hm
      rcases hm with rfl | rfl | rfl <;> rfl
    have hcount : (Binary64.ofInt n).count = ofInt k := by
      rw [Binary64.count, hk]
    rw [filter_details, h, Option.map_some, Option.toList_some, Metric.line, hwrite, hcount]

/-- **Metrics are safe numbers.** What is reported is a finite double and was given as a number,
the same or an integer to which it is nearest; and showing the answer does not fail. What is given
as an integer is reported exactly below the bound. If it counts tokens, its line is the only one
that begins like it and has the digits of the integer that the double is, and up to `2 ^ 53` that
is the integer which was given. -/
theorem metrics_finite (h : ofText raw = .ok a) :
    (∀ m x, (m, x) ∈ a.metrics → x.isFinite = true ∧ x.IsDouble ∧
      ∃ v, read (body raw) = .ok v ∧
        ((∃ n, given v a m = .integer n ∧ Binary64.IsNearest n x) ∨ given v a m = .real x)) ∧
    a.markup? = some a.markup ∧
    ∀ v m n, read (body raw) = .ok v → given v a m = .integer n →
      ((∃ x, (m, x) ∈ a.metrics) ↔ n.natAbs < 2 ^ 1024 - 2 ^ 970) ∧
      (m ∈ Metric.counts → n.natAbs < 2 ^ 1024 - 2 ^ 970 → ∃ x, ∃ k : Int, (m, x) ∈ a.metrics ∧
        Binary64.IsNearest n x ∧ x.value = k ∧ (n.natAbs ≤ 2 ^ 53 → k = n) ∧
        a.details.filter m.lead.isPrefixOf = [m.lead ++ ofInt k]) := by
  refine ⟨fun m x hx => of_mem_metrics h hx, ?_, ?_⟩
  · refine markup?_eq fun m x hx => ?_
    obtain ⟨hfinite, hdouble, -⟩ := of_mem_metrics h hx
    exact ⟨hdouble, hfinite⟩
  · intro v m n hread hgiven
    have hreported : a.reported m =
        if n.natAbs < 2 ^ 1024 - 2 ^ 970 then some (.ofInt n) else none := by
      rw [reported_eq h hread, hgiven, metric?_integer]
    constructor
    · simp only [mem_metrics_iff, hreported, Option.ite_none_right_eq_some, exists_and_left,
        Option.some_inj, exists_eq', and_true]
    · intro hm hn
      rw [if_pos hn] at hreported
      have hfinite := Binary64.isFinite_ofInt_iff.2 hn
      obtain ⟨k, hk, hsmall, hshown⟩ := count_shown hreported hm hfinite
      exact ⟨_, k, mem_metrics_iff.2 hreported, Binary64.isNearest_ofInt hfinite, hk, hsmall,
        hshown⟩

/-- An answer with a boolean and a text for numbers, and one token more than a double can count. -/
def costs : Json :=
  .object [(text "response", .string (text "hi")), (text "time_taken", .boolean true),
    (text "tokens_per_second", .string (text "9")),
    (text "total_tokens_generated", .integer 9007199254740993)]

theorem read_costs : read costs.print = .ok costs := by
  have hdistinct : [text "response", text "time_taken", text "tokens_per_second",
      text "total_tokens_generated"].Nodup := by decide
  have hexact : Exact (fun _ => True) nestingLimit costs := by
    refine .object hdistinct (fun _ _ => trivial) ?_
    simp only [List.forall_mem_cons]
    exact ⟨.string trivial, .boolean, .string trivial, .integer (by decide), by simp⟩
  exact read_print hexact

/-- The count is half-way between two doubles and shown as the even one; the others are not
reported. -/
theorem metrics_finite_costs : ∃ a, ofText costs.print = .ok a ∧ a.reported .timeTaken = none ∧
    a.reported .tokensPerSecond = none ∧ a.markup? = some a.markup ∧
    a.details.filter Metric.totalTokens.lead.isPrefixOf =
      [text "- Total tokens: 9007199254740992"] := by
  have hbody : read (body costs.print) = .ok costs := by
    rw [body_of_read read_costs, read_costs]
  have hanswer := (ofText_of_read read_costs).1
  have hfinite : (Binary64.ofInt 9007199254740993).isFinite = true := by decide
  have hnearest : (Binary64.ofInt 9007199254740993).toInt? = some 9007199254740992 := by decide
  obtain ⟨-, hmarkup, hinteger⟩ := metrics_finite hanswer
  obtain ⟨-, hcount⟩ := hinteger costs .totalTokens 9007199254740993 hbody rfl
  obtain ⟨x, k, hx, -, hk, -, hshown⟩ :=
    hcount (by decide) (Binary64.isFinite_ofInt_iff.1 hfinite)
  have hreported : metric? (.integer 9007199254740993) = some x := mem_metrics_iff.1 hx
  rw [metric?, if_pos hfinite] at hreported
  cases hreported
  rw [(Binary64.toInt?_eq_some_iff hfinite).1 hnearest, Int.cast_inj] at hk
  subst hk
  refine ⟨_, hanswer, rfl, rfl, hmarkup, hshown.trans ?_⟩
  decide

end Answer

end AgentWorkshop
