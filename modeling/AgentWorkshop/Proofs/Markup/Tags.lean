import AgentWorkshop.Markup.Escape

/-!
# Tags in markup

The console looks for tags from the left, each as far to the left as it can be: some
backslashes, then a word in brackets (`Markup.tags`). One with an even number of backslashes is
live, any other is shown. An escaped text has no live tag of its own, so what follows it is read
as if nothing but backslashes stood before it (`liveFinds_escape_append`); what stands `Apart`
keeps its tags whatever their number (`live_escape_append`). The case to watch is a bracket that
is left open: escaping neither closes nor opens one, so only what follows could.
-/

namespace AgentWorkshop

namespace Markup

/-! ## The grammar -/

/-- A word in brackets with the backslashes before it. -/
structure Tag where
  backslashes : Nat
  word : Text
  deriving DecidableEq, Repr

/-- Every two backslashes are one that is shown; one that is left over has the tag shown. -/
def Tag.isLive (tag : Tag) : Bool :=
  tag.backslashes % 2 = 0

/-- What stands before the first bracket, if that is a closing one, and what stands after it. -/
def untilClosed? : Text → Option (Text × Text)
  | [] => none
  | c :: rest =>
    if c = ']' then some ([], rest)
    else if c = '[' then none
    else (untilClosed? rest).map fun (word, after) => (c :: word, after)

/-- The word in brackets at the start of a text, and what follows it. -/
def bracketed? : Text → Option (Text × Text)
  | b :: c :: rest =>
    if b = '[' && isTagStart c then
      (untilClosed? rest).map fun (word, after) => (c :: word, after)
    else none
  | _ => none

/-- The sign that takes the meaning of what it stands before. -/
def isBackslash (c : CodePoint) : Bool :=
  c = '\\'

/-- The tag at the start of a text, and what follows it. -/
def tagAt? (t : Text) : Option (Tag × Text) :=
  (bracketed? (t.dropWhile isBackslash)).map fun (word, after) =>
    (⟨(t.takeWhile isBackslash).length, word⟩, after)

variable {t word after s : Text} {c : CodePoint} {n : Nat}

theorem bracketed?_of_ne (hc : c ≠ '[') : bracketed? (c :: t) = none := by
  cases t <;> simp [bracketed?, hc]

/-- The word has no opening bracket, and its closing one follows. -/
theorem eq_of_untilClosed? (h : untilClosed? t = some (word, after)) :
    t = word ++ (']' : CodePoint) :: after ∧ ('[' : CodePoint) ∉ word := by
  induction t generalizing word with
  | nil => cases h
  | cons c rest ih =>
    rw [untilClosed?] at h
    by_cases hclose : c = ']'
    · rw [if_pos hclose] at h
      cases h
      exact ⟨by rw [hclose, List.nil_append], List.not_mem_nil⟩
    rw [if_neg hclose] at h
    by_cases hopen : c = '['
    · rw [if_pos hopen] at h
      cases h
    rw [if_neg hopen, Option.map_eq_some_iff] at h
    obtain ⟨⟨word', after'⟩, hrest, heq⟩ := h
    cases heq
    obtain ⟨rfl, hword⟩ := ih hrest
    exact ⟨rfl, List.not_mem_cons_of_ne_of_not_mem (Ne.symm hopen) hword⟩

theorem eq_of_bracketed? (h : bracketed? t = some (word, after)) :
    t = ('[' : CodePoint) :: word ++ (']' : CodePoint) :: after ∧ ('[' : CodePoint) ∉ word := by
  rcases t with _ | ⟨b, _ | ⟨c, rest⟩⟩
  · cases h
  · cases h
  rw [bracketed?] at h
  by_cases hopen : (b = '[' && isTagStart c) = true
  · rw [if_pos hopen, Option.map_eq_some_iff] at h
    rw [Bool.and_eq_true, decide_eq_true_eq] at hopen
    obtain ⟨⟨word', after'⟩, hrest, heq⟩ := h
    cases heq
    obtain ⟨rfl, hword⟩ := eq_of_untilClosed? hrest
    refine ⟨by rw [hopen.1]; rfl, List.not_mem_cons_of_ne_of_not_mem ?_ hword⟩
    rintro rfl
    exact absurd hopen.2 (by decide)
  · rw [if_neg hopen] at h
    cases h

/-- What follows a tag is shorter than the text, so tags can be looked for in it. -/
theorem length_lt_of_tagAt? {tag : Tag} (h : tagAt? t = some (tag, after)) :
    after.length < t.length := by
  rw [tagAt?, Option.map_eq_some_iff] at h
  obtain ⟨⟨word, after'⟩, hword, heq⟩ := h
  cases heq
  have hlength := congrArg List.length (eq_of_bracketed? hword).1
  have hle := (List.dropWhile_sublist (l := t) isBackslash).length_le
  simp only [List.length_cons, List.length_append] at hlength
  omega

/-- **The tags of a text**, one after another, each the leftmost that there is. -/
def tags : Text → List Tag
  | [] => []
  | c :: rest =>
    match _h : tagAt? (c :: rest) with
    | some (tag, after) => tag :: tags after
    | none => tags rest
termination_by t => t.length
decreasing_by
  · exact length_lt_of_tagAt? _h
  · exact Nat.lt_succ_self _

/-- The words of the live tags. -/
def live (t : Text) : List Text :=
  ((tags t).filter Tag.isLive).map Tag.word

/-- The tags, each with what follows it, which tells where it stands. -/
def finds : Text → List (Tag × Text)
  | [] => []
  | c :: rest =>
    match _h : tagAt? (c :: rest) with
    | some (tag, after) => (tag, after) :: finds after
    | none => finds rest
termination_by t => t.length
decreasing_by
  · exact length_lt_of_tagAt? _h
  · exact Nat.lt_succ_self _

/-- The live tags, each with what follows it. -/
def liveFinds (t : Text) : List (Tag × Text) :=
  (finds t).filter fun found => found.1.isLive

/-! ## Where tags are found -/

/-- A run of backslashes. -/
def backslashes (n : Nat) : Text :=
  List.replicate n ('\\' : CodePoint)

theorem backslashes_append_cons (n : Nat) (t : Text) :
    backslashes n ++ ('\\' : CodePoint) :: t = backslashes (n + 1) ++ t := by
  rw [backslashes, backslashes, List.replicate_succ', List.append_assoc]
  rfl

theorem tagAt?_backslashes (hc : c ≠ '\\') : tagAt? (backslashes n ++ c :: t) =
    (bracketed? (c :: t)).map fun (word, after) => (⟨n, word⟩, after) := by
  have hall : ∀ d ∈ backslashes n, isBackslash d = true := by
    simp [backslashes, isBackslash]
  have hend : ¬ isBackslash c = true := by
    simpa [isBackslash] using hc
  rw [tagAt?, List.dropWhile_append_of_pos hall, List.dropWhile_cons_of_neg hend,
    List.takeWhile_append_of_pos hall, List.takeWhile_cons_of_neg hend, List.append_nil,
    backslashes, List.length_replicate]

@[simp] theorem finds_nil : finds [] = [] := by
  rw [finds]

theorem finds_of_tagAt? {tag : Tag} (h : tagAt? t = some (tag, after)) :
    finds t = (tag, after) :: finds after := by
  cases t with
  | nil => cases h
  | cons c rest =>
    rw [finds]
    split <;> rename_i h' <;> rw [h] at h' <;> cases h'
    rfl

/-- Where no tag starts, one is looked for further on. -/
theorem finds_of_not_tagAt? (h : tagAt? (c :: t) = none) : finds (c :: t) = finds t := by
  rw [finds]
  split
  · rename_i h'
    rw [h] at h'
    cases h'
  · rfl

theorem map_fst_finds (t : Text) : (finds t).map Prod.fst = tags t := by
  fun_induction tags t with
  | case1 => rw [finds_nil, List.map_nil]
  | case2 c rest tag after h ih => rw [finds_of_tagAt? h, List.map_cons, ih]
  | case3 c rest h ih => rw [finds_of_not_tagAt? h, ih]

/-- Where no word in brackets stands, the backslashes before it do nothing. -/
theorem finds_of_not_bracketed (hc : c ≠ '\\') (h : bracketed? (c :: t) = none) (n : Nat) :
    finds (backslashes n ++ c :: t) = finds t := by
  have hnone (n : Nat) : tagAt? (backslashes n ++ c :: t) = none := by
    rw [tagAt?_backslashes hc, h, Option.map_none]
  induction n with
  | zero => exact finds_of_not_tagAt? (hnone 0)
  | succ n ih => exact (finds_of_not_tagAt? (hnone (n + 1))).trans ih

theorem finds_backslashes (n : Nat) : finds (backslashes n) = [] := by
  have hnone (n : Nat) : tagAt? (backslashes n) = none := by
    simp [tagAt?, backslashes, isBackslash, bracketed?]
  induction n with
  | zero => exact finds_nil
  | succ n ih => exact (finds_of_not_tagAt? (hnone (n + 1))).trans ih

/-- No tag starts before the bracket that closes the word. -/
theorem finds_of_closed (h : ('[' : CodePoint) ∉ word) (n : Nat) (after : Text) :
    finds (backslashes n ++ (word ++ (']' : CodePoint) :: after)) = finds after := by
  induction word generalizing n with
  | nil => exact finds_of_not_bracketed (by decide) (bracketed?_of_ne (by decide)) n
  | cons c word ih =>
    obtain ⟨hc, hword⟩ := List.ne_and_not_mem_of_not_mem_cons h
    rw [List.cons_append]
    by_cases hbackslash : c = '\\'
    · rw [hbackslash, backslashes_append_cons]
      exact ih hword _
    · rw [finds_of_not_bracketed hbackslash (bracketed?_of_ne hc.symm)]
      exact ih hword 0

/-- **A word in brackets is a tag**, and the next one is looked for after it. -/
theorem finds_of_bracketed (h : bracketed? (c :: t) = some (word, after)) (n : Nat) :
    finds (backslashes n ++ c :: t) = (⟨n, word⟩, after) :: finds t := by
  obtain ⟨heq, hword⟩ := eq_of_bracketed? h
  rw [List.cons_append] at heq
  obtain ⟨rfl, rfl⟩ := List.cons.inj heq
  have htag : finds (backslashes n ++ ('[' : CodePoint) :: (word ++ (']' : CodePoint) :: after)) =
      (⟨n, word⟩, after) :: finds after := by
    refine finds_of_tagAt? ?_
    rw [tagAt?_backslashes (by decide), h, Option.map_some]
  rw [htag, ← finds_of_closed hword 0 after]
  rfl

/-! ## Live tags -/

theorem live_eq (t : Text) : live t = (liveFinds t).map fun found => found.1.word := by
  rw [live, liveFinds, ← map_fst_finds, List.filter_map, List.map_map]
  rfl

@[simp] theorem live_nil : live [] = [] := by
  rw [live_eq, liveFinds, finds_nil, List.filter_nil, List.map_nil]

theorem liveFinds_of_not_bracketed (hc : c ≠ '\\') (h : bracketed? (c :: t) = none) (n : Nat) :
    liveFinds (backslashes n ++ c :: t) = liveFinds t := by
  rw [liveFinds, finds_of_not_bracketed hc h, liveFinds]

theorem live_of_not_bracketed (hc : c ≠ '\\') (h : bracketed? (c :: t) = none) (n : Nat) :
    live (backslashes n ++ c :: t) = live t := by
  rw [live_eq, liveFinds_of_not_bracketed hc h, live_eq]

/-- An odd number of backslashes takes the meaning of whatever bracket follows. -/
theorem liveFinds_of_odd (hn : n % 2 = 1) (t : Text) :
    liveFinds (backslashes n ++ ('[' : CodePoint) :: t) = liveFinds t := by
  cases h : bracketed? (('[' : CodePoint) :: t) with
  | none => exact liveFinds_of_not_bracketed (by decide) h n
  | some found =>
    have hdead : (⟨n, found.1⟩ : Tag).isLive = false := by
      simp [Tag.isLive, hn]
    rw [liveFinds, finds_of_bracketed h, List.filter_cons_of_neg (by simp [hdead]), liveFinds]

/-- A text that neither is nor holds anything of a tag. -/
def Plain (t : Text) : Prop :=
  ∀ c ∈ t, c ≠ '[' ∧ c ≠ ']' ∧ c ≠ '\\'

-- Left to itself, Lean would decide this for every code point there is.
instance (t : Text) : Decidable (Plain t) :=
  List.decidableBAll (fun c : CodePoint => c ≠ '[' ∧ c ≠ ']' ∧ c ≠ '\\') t

theorem plain_append : Plain (t ++ s) ↔ Plain t ∧ Plain s :=
  List.forall_mem_append

/-- So it has no tags, and what follows it has the same ones without it. -/
theorem liveFinds_plain_append (h : Plain t) (s : Text) : liveFinds (t ++ s) = liveFinds s := by
  induction t with
  | nil => rfl
  | cons c t ih =>
    obtain ⟨⟨hopen, -, hbackslash⟩, ht⟩ := List.forall_mem_cons.1 h
    rw [List.cons_append, ← ih ht]
    exact liveFinds_of_not_bracketed hbackslash (bracketed?_of_ne hopen) 0

theorem liveFinds_of_plain (h : Plain t) : liveFinds t = [] := by
  rw [← List.append_nil t, liveFinds_plain_append h, liveFinds, finds_nil, List.filter_nil]

theorem live_plain_append (h : Plain t) (s : Text) : live (t ++ s) = live s := by
  rw [live_eq, liveFinds_plain_append h, live_eq]

/-- A tag that is written out is live after an even number of backslashes. -/
theorem liveFinds_tag (hn : n % 2 = 0) (hc : isTagStart c = true) (hword : Plain word) (s : Text) :
    liveFinds (backslashes n ++ (('[' : CodePoint) :: c :: word ++ (']' : CodePoint) :: s)) =
      (⟨n, c :: word⟩, s) :: liveFinds s := by
  have huntil : untilClosed? (word ++ (']' : CodePoint) :: s) = some (word, s) := by
    induction word with
    | nil => rfl
    | cons d word ih =>
      obtain ⟨⟨hopen, hclose, -⟩, hrest⟩ := List.forall_mem_cons.1 hword
      rw [List.cons_append, untilClosed?, if_neg hclose, if_neg hopen, ih hrest, Option.map_some]
  have htag : tagAt? (backslashes n ++ ('[' : CodePoint) :: c :: (word ++ (']' : CodePoint) :: s)) =
      some (⟨n, c :: word⟩, s) := by
    refine (tagAt?_backslashes (by decide)).trans ?_
    simp [bracketed?, hc, huntil]
  have hlive : (⟨n, c :: word⟩ : Tag).isLive = true := by
    simp [Tag.isLive, hn]
  rw [List.cons_append, List.cons_append, liveFinds, finds_of_tagAt? htag,
    List.filter_cons_of_pos (by simpa using hlive), liveFinds]

/-- The word of a tag that is written out. -/
theorem live_tag (hc : isTagStart c = true) (hword : Plain word) (s : Text) :
    live (('[' : CodePoint) :: c :: word ++ (']' : CodePoint) :: s) = (c :: word) :: live s := by
  rw [live_eq, live_eq]
  exact congrArg (List.map _) (liveFinds_tag (n := 0) rfl hc hword s)

/-- Words between a tag and the one that ends it. -/
def heading (style words : Text) : Text :=
  ('[' : CodePoint) :: style ++ (']' : CodePoint) :: words ++
    ('[' : CodePoint) :: ('/' : CodePoint) :: style ++ [(']' : CodePoint)]

/-- The tag that starts a style and the one that ends it. -/
def pair (style : Text) : List Text :=
  [style, ('/' : CodePoint) :: style]

/-- **A heading has its two tags**, and what follows it keeps its own. -/
theorem live_heading {style words : Text} (hstart : style.head?.any isTagStart = true)
    (hstyle : Plain style) (hwords : Plain words) (s : Text) :
    live (heading style words ++ s) = pair style ++ live s := by
  rcases style with _ | ⟨c, word⟩
  · cases hstart
  have hword : Plain word := fun d hd => hstyle d (List.mem_cons_of_mem _ hd)
  calc live (heading (c :: word) words ++ s)
      = live (('[' : CodePoint) :: c :: word ++ (']' : CodePoint) :: (words ++
          (('[' : CodePoint) :: ('/' : CodePoint) :: c :: word ++ (']' : CodePoint) :: s))) := by
        simp only [heading, List.append_assoc, List.cons_append, List.nil_append]
    _ = pair (c :: word) ++ live s := by
        rw [live_tag hstart hword, live_plain_append hwords, live_tag (by decide) hstyle]
        rfl

/-! ## What may follow an escaped text -/

theorem isSome_untilClosed? (t : Text) : (untilClosed? t).isSome = closes t := by
  induction t with
  | nil => rfl
  | cons c rest ih =>
    rw [untilClosed?, closes]
    by_cases hclose : c = ']'
    · simp [hclose]
    by_cases hopen : c = '['
    · rw [hopen]
      rfl
    · simp [hclose, hopen, ih]

/-- Escaping and the console agree on which brackets open a tag. -/
theorem bracketed?_eq_none_iff :
    bracketed? (('[' : CodePoint) :: t) = none ↔ opensTag t = false := by
  cases t with
  | nil => exact iff_of_true rfl rfl
  | cons c rest =>
    have hclosed := isSome_untilClosed? rest
    cases hc : isTagStart c <;> cases h : untilClosed? rest <;>
      simp_all [bracketed?, opensTag]

/-- A text that can stand after any other: it closes no bracket and starts no tag's word, and
has the same live tags whatever backslashes stand before it. -/
structure Apart (s : Text) : Prop where
  closes : closes s = false
  opens : opensTag s = false
  live : ∀ n, live (backslashes n ++ s) = live s

theorem apart_nil : Apart [] where
  closes := rfl
  opens := rfl
  live n := by
    rw [List.append_nil, live_eq, liveFinds, finds_backslashes, List.filter_nil, List.map_nil,
      live_nil]

/-- What stands on a line of its own stands apart if it closes no bracket. -/
theorem apart_newline (h : Markup.closes s = false) : Apart (('\n' : CodePoint) :: s) where
  closes := h
  opens := rfl
  live n := by
    have hnone : bracketed? (('\n' : CodePoint) :: s) = none := bracketed?_of_ne (by decide)
    rw [live_of_not_bracketed (by decide) hnone, ← live_of_not_bracketed (by decide) hnone 0]
    rfl

/-! ## Escaped texts -/

/-- Escaping writes backslashes and the text itself, so a bracket is closed by what follows
exactly if it was before. -/
theorem closes_escapeTagsAfter (hs : closes s = false) (n : Nat) (t : Text) :
    closes (escapeTagsAfter n t ++ s) = closes t := by
  induction t generalizing n with
  | nil => exact hs
  | cons c rest ih =>
    have hbackslashes (k : Nat) (u : Text) : closes (backslashes k ++ u) = closes u := by
      induction k with
      | zero => rfl
      | succ k ihk => exact ihk
    rw [escapeTagsAfter]
    by_cases hbackslash : c = '\\'
    · rw [if_pos hbackslash, List.cons_append, closes, closes, ih]
    rw [if_neg hbackslash]
    by_cases hopen : (c = '[' && opensTag rest) = true
    · have hc : c = '[' := by
        simpa using (Bool.and_eq_true_iff.1 hopen).1
      rw [if_pos hopen, List.append_assoc]
      refine (hbackslashes (n + 1) _).trans ?_
      rw [hc]
      rfl
    · rw [if_neg hopen, List.cons_append, closes, closes, ih]

/-- Neither does escaping open a bracket that was none before. -/
theorem opensTag_escapeTagsAfter (hcloses : closes s = false) (hopens : opensTag s = false)
    (h : opensTag t = false) : opensTag (escapeTagsAfter 0 t ++ s) = false := by
  cases t with
  | nil => exact hopens
  | cons c rest =>
    rw [escapeTagsAfter]
    by_cases hbackslash : c = '\\'
    · rw [if_pos hbackslash, hbackslash]
      rfl
    rw [if_neg hbackslash]
    by_cases hopen : (c = '[' && opensTag rest) = true
    · rw [if_pos hopen]
      rfl
    · rw [if_neg hopen, List.cons_append, opensTag, closes_escapeTagsAfter hcloses]
      exact h

/-- How many backslashes a text ends with. -/
def endRun (t : Text) : Nat :=
  (t.reverse.takeWhile isBackslash).length

theorem endRun_backslashes (n : Nat) : endRun (backslashes n) = n := by
  simp [endRun, backslashes, isBackslash]

/-- What stands before another sign does not count. -/
theorem endRun_append_cons (hc : c ≠ '\\') (s t : Text) : endRun (s ++ c :: t) = endRun t := by
  have hend : ¬ isBackslash c = true := by
    simpa [isBackslash] using hc
  rw [endRun, endRun, List.reverse_append, List.reverse_cons, List.append_assoc,
    List.singleton_append, List.takeWhile_append, List.takeWhile_cons_of_neg hend, List.append_nil]
  split
  · rename_i hall
    rw [(List.takeWhile_prefix isBackslash).eq_of_length hall]
  · rfl

/-- An opening bracket that gets its backslashes: as many as stand before it and one more. -/
theorem escapeTagsAfter_bracket (n : Nat) (s t : Text) :
    backslashes n ++ (List.replicate (n + 1) ('\\' : CodePoint) ++ ('[' : CodePoint) :: t ++ s) =
      backslashes (n + (n + 1)) ++ ('[' : CodePoint) :: (t ++ s) := by
  rw [List.append_assoc, ← List.append_assoc, backslashes, List.replicate_append_replicate]
  rfl

/-- **Escaped tags are not live.** The backslashes that were passed count for the next bracket:
with as many again and one more before it their number is odd. Those that no bracket follows
are left for what comes after the text. -/
theorem liveFinds_escapeTagsAfter (hcloses : closes s = false) (hopens : opensTag s = false)
    (n : Nat) (t : Text) : liveFinds (backslashes n ++ (escapeTagsAfter n t ++ s)) =
      liveFinds (backslashes (endRun (backslashes n ++ t)) ++ s) := by
  induction t generalizing n with
  | nil => rw [List.append_nil, endRun_backslashes, escapeTagsAfter, List.nil_append]
  | cons c rest ih =>
    rw [escapeTagsAfter]
    by_cases hbackslash : c = '\\'
    · rw [if_pos hbackslash, hbackslash, List.cons_append, backslashes_append_cons,
        backslashes_append_cons]
      exact ih (n + 1)
    rw [if_neg hbackslash, endRun_append_cons hbackslash]
    -- A bracket that would open a tag now stands after an odd run; any other opens none.
    by_cases hopen : (c = '[' && opensTag rest) = true
    · have hc : c = '[' := by
        simpa using (Bool.and_eq_true_iff.1 hopen).1
      rw [if_pos hopen, hc, escapeTagsAfter_bracket, liveFinds_of_odd (by omega)]
      exact ih 0
    · have hnone : bracketed? (c :: (escapeTagsAfter 0 rest ++ s)) = none := by
        by_cases hc : c = '['
        · rw [hc] at hopen ⊢
          exact bracketed?_eq_none_iff.2
            (opensTag_escapeTagsAfter hcloses hopens (by simpa using hopen))
        · exact bracketed?_of_ne hc
      rw [if_neg hopen, List.cons_append, liveFinds_of_not_bracketed hbackslash hnone]
      exact ih 0

/-- A text ends with as many backslashes once its tags are escaped. -/
theorem endRun_escapeTagsAfter (n : Nat) (t : Text) :
    endRun (backslashes n ++ escapeTagsAfter n t) = endRun (backslashes n ++ t) := by
  induction t generalizing n with
  | nil => rfl
  | cons c rest ih =>
    rw [escapeTagsAfter]
    by_cases hbackslash : c = '\\'
    · rw [if_pos hbackslash, hbackslash, backslashes_append_cons, backslashes_append_cons]
      exact ih (n + 1)
    rw [if_neg hbackslash, endRun_append_cons hbackslash]
    split
    · rename_i hopen
      have hc : c = '[' := by
        simpa using (Bool.and_eq_true_iff.1 hopen).1
      have hrun := escapeTagsAfter_bracket n [] (escapeTagsAfter 0 rest)
      rw [List.append_nil, List.append_nil] at hrun
      rw [hc, hrun, endRun_append_cons (by decide)]
      exact ih 0
    · rw [endRun_append_cons hbackslash]
      exact ih 0

theorem endsInLoneBackslash_iff (t : Text) : endsInLoneBackslash t = true ↔ endRun t = 1 := by
  rw [endsInLoneBackslash, endRun]
  rcases t.reverse with _ | ⟨c, _ | ⟨d, rest⟩⟩
  · simp
  · by_cases hc : c = '\\' <;> simp [isBackslash, hc]
  · by_cases hc : c = '\\' <;> by_cases hd : d = '\\' <;> simp [isBackslash, hc, hd]

/-- A lone backslash at the end is doubled, other runs stay as they are. -/
def guardedRun (n : Nat) : Nat :=
  if n = 1 then 2 else n

/-- **An escaped text has no live tags of its own.** What follows it is read as if only the
backslashes stood before it with which the text ends, two of them if it ends with one. -/
theorem liveFinds_escape_append (hcloses : closes s = false) (hopens : opensTag s = false)
    (t : Text) :
    liveFinds (escape t ++ s) = liveFinds (backslashes (guardedRun (endRun t)) ++ s) := by
  have hrun : endRun (escapeTags t) = endRun t := endRun_escapeTagsAfter 0 t
  have hlone : endsInLoneBackslash (escapeTags t) = true ↔ endRun t = 1 := by
    rw [endsInLoneBackslash_iff, hrun]
  rw [escape, guardEnd, guardedRun]
  by_cases h : endRun t = 1
  · -- The backslash that is added counts as one before what follows.
    have hdoubled : escapeTags t ++ text "\\" ++ s = escapeTags t ++ ('\\' : CodePoint) :: s := by
      rw [List.append_assoc]
      rfl
    rw [if_pos (hlone.2 h), if_pos h, hdoubled]
    refine (liveFinds_escapeTagsAfter (s := ('\\' : CodePoint) :: s) hcloses rfl 0 t).trans ?_
    rw [backslashes_append_cons]
    exact congrArg (fun k => liveFinds (backslashes (k + 1) ++ s)) h
  · rw [if_neg (mt hlone.1 h), if_neg h]
    exact liveFinds_escapeTagsAfter hcloses hopens 0 t

/-- What stands apart after an escaped text keeps its live tags. -/
theorem live_escape_append (hs : Apart s) (t : Text) : live (escape t ++ s) = live s := by
  rw [live_eq, liveFinds_escape_append hs.closes hs.opens, ← live_eq, hs.live]

theorem live_escape (t : Text) : live (escape t) = [] := by
  simpa using live_escape_append apart_nil t

/-! ## A text and what follows it -/

theorem untilClosed?_append (h : untilClosed? t = some (word, after)) (s : Text) :
    untilClosed? (t ++ s) = some (word, after ++ s) := by
  induction t generalizing word with
  | nil => cases h
  | cons c rest ih =>
    rw [List.cons_append]
    rw [untilClosed?] at h ⊢
    by_cases hclose : c = ']'
    · rw [if_pos hclose] at h ⊢
      cases h
      rfl
    rw [if_neg hclose] at h ⊢
    by_cases hopen : c = '['
    · rw [if_pos hopen] at h
      cases h
    rw [if_neg hopen, Option.map_eq_some_iff] at h
    obtain ⟨⟨word', after'⟩, hrest, heq⟩ := h
    cases heq
    rw [if_neg hopen, ih hrest, Option.map_some]

/-- The word in brackets at the start of a text stays there whatever follows. -/
theorem bracketed?_append (h : bracketed? t = some (word, after)) (s : Text) :
    bracketed? (t ++ s) = some (word, after ++ s) := by
  rcases t with _ | ⟨b, _ | ⟨c, rest⟩⟩
  · cases h
  · cases h
  rw [bracketed?] at h
  by_cases hopen : (b = '[' && isTagStart c) = true
  · rw [if_pos hopen, Option.map_eq_some_iff] at h
    obtain ⟨⟨word', after'⟩, hrest, heq⟩ := h
    cases heq
    rw [List.cons_append, List.cons_append, bracketed?, if_pos hopen,
      untilClosed?_append hrest, Option.map_some]
  · rw [if_neg hopen] at h
    cases h

theorem closes_append (hs : closes s = false) (t : Text) : closes (t ++ s) = closes t := by
  induction t with
  | nil => exact hs
  | cons c rest ih => rw [List.cons_append, closes, closes, ih]

/-- And no such word comes into being by what follows, if that closes no bracket and starts no
word itself. -/
theorem bracketed?_append_eq_none (hcloses : closes s = false) (hopens : opensTag s = false)
    (h : bracketed? (c :: t) = none) : bracketed? (c :: (t ++ s)) = none := by
  by_cases hc : c = '['
  · rw [hc] at h ⊢
    rw [bracketed?_eq_none_iff] at h ⊢
    cases t with
    | nil => exact hopens
    | cons d rest =>
      rw [opensTag] at h
      rw [List.cons_append, opensTag, closes_append hcloses, h]
  · exact bracketed?_of_ne hc

/-- What is found in a text that stands before another one. -/
def before (s : Text) (found : Tag × Text) : Tag × Text :=
  (found.1, found.2 ++ s)

theorem finds_append (hcloses : closes s = false) (hopens : opensTag s = false) (n : Nat)
    (t : Text) : finds (backslashes n ++ (t ++ s)) =
      (finds (backslashes n ++ t)).map (before s) ++
        finds (backslashes (endRun (backslashes n ++ t)) ++ s) := by
  -- The backslashes that were passed belong to the next bracket, which may be in `s`.
  induction t generalizing n with
  | nil => rw [List.append_nil, finds_backslashes, endRun_backslashes, List.nil_append]; rfl
  | cons c rest ih =>
    by_cases hbackslash : c = '\\'
    · rw [hbackslash, List.cons_append, backslashes_append_cons, backslashes_append_cons]
      exact ih (n + 1)
    have hrest : finds (rest ++ s) = (finds rest).map (before s) ++
        finds (backslashes (endRun rest) ++ s) := ih 0
    rw [endRun_append_cons hbackslash, List.cons_append]
    cases hword : bracketed? (c :: rest) with
    | none =>
      rw [finds_of_not_bracketed hbackslash hword, finds_of_not_bracketed hbackslash
        (bracketed?_append_eq_none hcloses hopens hword), hrest]
    | some found =>
      have hlater : bracketed? (c :: (rest ++ s)) = some (found.1, found.2 ++ s) :=
        bracketed?_append hword s
      rw [finds_of_bracketed hword, finds_of_bracketed hlater, hrest]
      rfl

/-- **A text keeps its live tags before another one**, and the other one is read as if nothing
but the backslashes stood before it with which the text ends. -/
theorem liveFinds_append (hcloses : closes s = false) (hopens : opensTag s = false) (t : Text) :
    liveFinds (t ++ s) =
      (liveFinds t).map (before s) ++ liveFinds (backslashes (endRun t) ++ s) := by
  rw [liveFinds, ← List.nil_append (t ++ s)]
  refine (congrArg (List.filter _) (finds_append hcloses hopens 0 t)).trans ?_
  rw [List.filter_append, List.filter_map]
  rfl

/-- The tag that ends a style, after some backslashes. -/
theorem liveFinds_ending {style : Text} (hstyle : Plain style) (n : Nat) (s : Text) :
    liveFinds (backslashes n ++
        (('[' : CodePoint) :: ('/' : CodePoint) :: style ++ (']' : CodePoint) :: s)) =
      if n % 2 = 1 then liveFinds s else (⟨n, ('/' : CodePoint) :: style⟩, s) :: liveFinds s := by
  split
  · -- The bracket is shown, and no other one opens before it is closed.
    rename_i hodd
    have hopen : ('[' : CodePoint) ∉ ('/' : CodePoint) :: style :=
      List.not_mem_cons_of_ne_of_not_mem (by decide) fun h => (hstyle _ h).1 rfl
    rw [List.cons_append, liveFinds_of_odd hodd, liveFinds]
    exact congrArg (List.filter _) (finds_of_closed hopen 0 s)
  · rename_i heven
    exact liveFinds_tag (by omega) (by decide) hstyle s

end Markup

end AgentWorkshop
