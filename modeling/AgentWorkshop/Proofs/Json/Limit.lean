import AgentWorkshop.Proofs.Json.Nesting

/-!
# What the limit on nesting keeps from being read

With a greater limit the reader finds the same, unless a smaller one makes it give up
(`furthers_scanValue`). So a text is JSON or not whatever the limit is (`IsJson`), and of the
texts that are, those are read that are nested no deeper than the limit (`exists_read_iff`). The
reader never gives up on a text that is not nested deeper (`lt_nesting_of_tooDeep`); on one that
is deeper and no JSON it may, if it comes to the depth before the flaw.
-/

namespace AgentWorkshop

namespace Json

variable {s t : Text} {v : Json} {depth : Nat}

/-! ## More containers -/

section
variable {α β : Type} {found found' : Except ReadError α}

/-- The second of two finds is the first one, unless that was given up. -/
def Furthers (found found' : Except ReadError α) : Prop :=
  (∃ k, found = .error (.tooDeep k)) ∨ found' = found

theorem Furthers.refl (found : Except ReadError α) : Furthers found found :=
  .inr rfl

theorem Furthers.trans {found'' : Except ReadError α} (h : Furthers found found')
    (h' : Furthers found' found'') : Furthers found found'' := by
  rcases h with hdeep | rfl
  · exact .inl hdeep
  · exact h'

theorem Furthers.bind {next next' : α → Except ReadError β} (h : Furthers found found')
    (hnext : ∀ a, Furthers (next a) (next' a)) : Furthers (found >>= next) (found' >>= next') := by
  rcases h with ⟨k, rfl⟩ | rfl
  · exact .inl ⟨k, rfl⟩
  · cases found' with
    | error e => exact .refl _
    | ok a => exact hnext a

theorem Furthers.map {f : α → β} (h : Furthers found found') :
    Furthers (found.map f) (found'.map f) := by
  rcases h with ⟨k, rfl⟩ | rfl
  · exact .inl ⟨k, rfl⟩
  · exact .refl _

end

section
variable {value value' : Scanner} (h : ∀ s, Furthers (value s) (value' s))
include h

theorem furthers_scanElements (fuel : Nat) (s : Text) :
    Furthers (scanElements value fuel s) (scanElements value' fuel s) := by
  induction fuel generalizing s with
  | zero => exact .refl _
  | succ fuel ih =>
    refine (h s).bind ?_
    rintro ⟨v, s₁⟩
    dsimp only
    cases skipSpace s₁ with
    | nil => exact .refl _
    | cons c s₂ =>
      dsimp only
      split_ifs
      · exact .refl _
      · exact (ih _).bind fun _ => .refl _
      · exact .refl _

theorem furthers_scanMembers (fuel : Nat) (s : Text) :
    Furthers (scanMembers value fuel s) (scanMembers value' fuel s) := by
  induction fuel generalizing s with
  | zero => exact .refl _
  | succ fuel ih =>
    refine (Furthers.refl (scanKey s)).bind ?_
    rintro ⟨key, s₁⟩
    refine (h s₁).bind ?_
    rintro ⟨v, s₂⟩
    dsimp only
    cases skipSpace s₂ with
    | nil => exact .refl _
    | cons c s₃ =>
      dsimp only
      split_ifs
      · exact .refl _
      · exact (ih _).bind fun _ => .refl _
      · exact .refl _

theorem furthers_scanWith_some (fuel : Nat) (s : Text) :
    Furthers (scanWith (some value) fuel s) (scanWith (some value') fuel s) := by
  cases s with
  | nil => exact .refl _
  | cons c rest =>
    simp only [scanWith]
    split_ifs
    · exact .refl _
    · rw [scanArray, scanArray]
      cases skipSpace rest with
      | nil => exact .refl _
      | cons d s₁ =>
        dsimp only
        split_ifs
        · exact .refl _
        · exact (furthers_scanElements h _ _).map
    · rw [scanObject, scanObject]
      cases skipSpace rest with
      | nil => exact .refl _
      | cons d s₁ =>
        dsimp only
        split_ifs
        · exact .refl _
        · exact (furthers_scanMembers h _ _).map
    · exact .refl _

end

theorem furthers_scanWith_none (value : Scanner) (fuel : Nat) (s : Text) :
    Furthers (scanWith none fuel s) (scanWith (some value) fuel s) := by
  cases s with
  | nil => exact .refl _
  | cons c rest =>
    simp only [scanWith]
    split_ifs
    · exact .refl _
    · exact .inl ⟨_, rfl⟩
    · exact .inl ⟨_, rfl⟩
    · exact .refl _

theorem furthers_scanValue_succ (fuel depth : Nat) (s : Text) :
    Furthers (scanValue fuel depth s) (scanValue fuel (depth + 1) s) := by
  induction depth generalizing s with
  | zero => exact furthers_scanWith_none _ _ _
  | succ depth ih => exact furthers_scanWith_some ih _ _

/-- **A greater limit finds the same**, unless a smaller one gives up. -/
theorem furthers_scanValue {depth' : Nat} (hdepth : depth ≤ depth') (fuel : Nat) (s : Text) :
    Furthers (scanValue fuel depth s) (scanValue fuel depth' s) := by
  induction hdepth with
  | refl => exact .refl _
  | step _ ih => exact ih.trans (furthers_scanValue_succ _ _ _)

/-! ## Texts -/

/-- The value that a whole text writes, with so many containers one inside the other. -/
def readWithin (depth : Nat) (s : Text) : Except ReadError Json :=
  match scanValue s.length depth (skipSpace s) with
  | .error e => .error e
  | .ok (v, after) => if (skipSpace after).isEmpty then .ok v else .error .malformed

/-- Reading is reading within the limit. -/
theorem read_eq_readWithin (s : Text) : read s = readWithin nestingLimit s := rfl

/-- The text is JSON, however deep it is nested. -/
def IsJson (t : Text) : Prop :=
  ∃ depth v, readWithin depth t = .ok v

theorem furthers_readWithin {depth' : Nat} (hdepth : depth ≤ depth') (t : Text) :
    Furthers (readWithin depth t) (readWithin depth' t) := by
  rw [readWithin, readWithin]
  rcases furthers_scanValue hdepth t.length (skipSpace t) with ⟨k, hk⟩ | hsame
  · rw [hk]
    exact .inl ⟨k, rfl⟩
  · rw [hsame]
    exact .refl _

/-- **What is read within a limit is nested no deeper.** -/
theorem nesting_le_of_readWithin (h : readWithin depth t = .ok v) : nesting t ≤ depth := by
  rw [readWithin] at h
  cases hscan : scanValue t.length depth (skipSpace t) with
  | error e =>
    rw [hscan] at h
    cases h
  | ok found =>
    obtain ⟨v', after⟩ := found
    rw [hscan] at h
    dsimp only at h
    split_ifs at h with hend
    have hbound := (nests_scanValue _ _).bound hscan 0
    -- Behind the value stand blanks alone, and nothing is open there.
    rw [deepest_skipSpace, ← deepest_skipSpace 0 after, List.isEmpty_iff.1 hend] at hbound
    rw [nesting]
    simpa [deepest] using hbound

/-- **What is given up is nested deeper than the limit.** -/
theorem lt_nesting_of_tooDeep {k : Container} (h : readWithin depth t = .error (.tooDeep k)) :
    depth < nesting t := by
  rw [readWithin] at h
  cases hscan : scanValue t.length depth (skipSpace t) with
  | error e =>
    rw [hscan] at h
    cases h
    have hdeep := (nests_scanValue _ _).deep hscan 0
    rw [deepest_skipSpace] at hdeep
    rw [nesting]
    omega
  | ok found =>
    rw [hscan] at h
    dsimp only at h
    split_ifs at h
    cases h

/-- **The texts that are read**: JSON that is not nested deeper than the limit. -/
theorem exists_read_iff : (∃ v, read t = .ok v) ↔ IsJson t ∧ nesting t ≤ nestingLimit := by
  simp only [read_eq_readWithin]
  constructor
  · rintro ⟨v, hv⟩
    exact ⟨⟨nestingLimit, v, hv⟩, nesting_le_of_readWithin hv⟩
  · rintro ⟨⟨depth, v, hv⟩, hnesting⟩
    rcases Nat.le_total depth nestingLimit with hdepth | hdepth
    · -- A smaller limit did not give up, so neither does this one.
      rcases furthers_readWithin hdepth t with ⟨k, hk⟩ | hsame
      · rw [hv] at hk
        cases hk
      · exact ⟨v, hsame.trans hv⟩
    · rcases furthers_readWithin hdepth t with ⟨k, hk⟩ | hsame
      · exact absurd (lt_nesting_of_tooDeep hk) (Nat.not_lt_of_le hnesting)
      · exact ⟨v, hsame ▸ hv⟩

/-- **What is malformed is no JSON**, with whatever limit. -/
theorem not_isJson_of_malformed (h : read t = .error .malformed) : ¬ IsJson t := by
  rintro ⟨depth, v, hv⟩
  rw [read_eq_readWithin] at h
  rcases Nat.le_total depth nestingLimit with hdepth | hdepth
  · rcases furthers_readWithin hdepth t with ⟨k, hk⟩ | hsame
    · rw [hv] at hk
      cases hk
    · rw [hsame, hv] at h
      cases h
  · rcases furthers_readWithin hdepth t with ⟨k, hk⟩ | hsame
    · rw [h] at hk
      cases hk
    · rw [hsame, h] at hv
      cases hv

end Json

end AgentWorkshop
