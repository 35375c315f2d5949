import AgentWorkshop.Proofs.Json.Extent

/-!
# How deep a text is nested

`nesting` counts the containers that a text opens one inside the other, by its brackets and
braces outside of strings. Words, numbers and strings count for nothing, whatever stands in the
strings, and a container counts for itself and for those in it. So a scanner that may open so
many containers, one inside the other, takes at most as many, and gives up only in front of one
more (`nests_scanValue`).
-/

namespace AgentWorkshop

namespace Json

variable {s t after : Text} {v : Json} {n depth fuel : Nat} {c : CodePoint}

/-! ## Counting brackets -/

/-- Where a walk over a text stands. -/
inductive Stretch where
  /-- Between strings. -/
  | outside
  /-- In a string. -/
  | inside
  /-- Behind a backslash in a string. -/
  | escaped

/-- The greatest number of containers that are open at once while a text is walked, if `n` are
open before it. -/
def deepest : Stretch → (n : Nat) → Text → Nat
  | _, n, [] => n
  | .outside, n, c :: s =>
    if c = '"' then deepest .inside n s
    else if c = '[' ∨ c = '{' then deepest .outside (n + 1) s
    else if c = ']' ∨ c = '}' then max n (deepest .outside (n - 1) s)
    else deepest .outside n s
  | .inside, n, c :: s =>
    if c = '"' then deepest .outside n s
    else if c = '\\' then deepest .escaped n s
    else deepest .inside n s
  | .escaped, n, _ :: s => deepest .inside n s

/-- How many containers a text opens, one inside the other. -/
def nesting (t : Text) : Nat :=
  deepest .outside 0 t

/-- The code point neither opens nor closes anything. -/
def isBare (c : CodePoint) : Bool :=
  c ≠ '"' && c ≠ '[' && c ≠ '{' && c ≠ ']' && c ≠ '}'

/-- What is open before a walk counts. -/
theorem le_deepest (place : Stretch) (n : Nat) (s : Text) : n ≤ deepest place n s := by
  fun_induction deepest place n s with
  | case1 => exact Nat.le_refl _
  | case4 n c s hquote hopen hclose ih => exact Nat.le_max_left _ _
  | case3 n c s hquote hopen ih => exact Nat.le_of_succ_le ih
  | _ => assumption

theorem deepest_open (h : c = '[' ∨ c = '{') :
    deepest .outside n (c :: s) = deepest .outside (n + 1) s := by
  rcases h with rfl | rfl <;> rfl

theorem deepest_close (h : c = ']' ∨ c = '}') :
    deepest .outside (n + 1) (c :: s) = max (n + 1) (deepest .outside n s) := by
  rcases h with rfl | rfl <;> rfl

theorem deepest_bare (h : isBare c = true) :
    deepest .outside n (c :: s) = deepest .outside n s := by
  simp only [isBare, Bool.and_eq_true, decide_eq_true_eq] at h
  obtain ⟨⟨⟨⟨hquote, hbracket⟩, hbrace⟩, hbracket'⟩, hbrace'⟩ := h
  rw [deepest, if_neg hquote, if_neg (not_or.2 ⟨hbracket, hbrace⟩),
    if_neg (not_or.2 ⟨hbracket', hbrace'⟩)]

theorem deepest_append_bare {p : Text} (hp : ∀ c ∈ p, isBare c = true) :
    deepest .outside n (p ++ s) = deepest .outside n s := by
  induction p with
  | nil => rfl
  | cons c p ih =>
    obtain ⟨hc, hp⟩ := List.forall_mem_cons.1 hp
    rw [List.cons_append, deepest_bare hc, ih hp]

theorem deepest_dropWhile {p : CodePoint → Bool} (hp : ∀ c, p c = true → isBare c = true) :
    deepest .outside n (s.dropWhile p) = deepest .outside n s := by
  have htaken : ∀ c ∈ s.takeWhile p, isBare c = true := by
    intro c hc
    exact hp c (List.mem_takeWhile_imp hc)
  conv_rhs => rw [← List.takeWhile_append_dropWhile (p := p) (l := s)]
  rw [deepest_append_bare htaken]

theorem isBare_of_isSpace (h : isSpace c = true) : isBare c = true := by
  simp only [isSpace, Bool.or_eq_true, decide_eq_true_eq] at h
  rcases h with ((rfl | rfl) | rfl) | rfl <;> decide

theorem isBare_of_isAsciiDigit (h : c.isAsciiDigit = true) : isBare c = true := by
  have hnot (d : CodePoint) (hd : d.isAsciiDigit = false) : c ≠ d := by
    rintro rfl
    rw [hd] at h
    cases h
  simp only [isBare, Bool.and_eq_true, decide_eq_true_eq]
  exact ⟨⟨⟨⟨hnot _ rfl, hnot _ rfl⟩, hnot _ rfl⟩, hnot _ rfl⟩, hnot _ rfl⟩

@[simp] theorem deepest_skipSpace (n : Nat) (s : Text) :
    deepest .outside n (skipSpace s) = deepest .outside n s :=
  deepest_dropWhile fun _ => isBare_of_isSpace

@[simp] theorem deepest_scanDigits (n : Nat) (s : Text) :
    deepest .outside n (scanDigits s).2 = deepest .outside n s :=
  deepest_dropWhile fun _ => isBare_of_isAsciiDigit

/-! ## Strings, words and numbers -/

/-- A hexadecimal digit ends no string and escapes nothing. -/
theorem deepest_hexValue {k : Nat} (h : c.hexValue? = some k) :
    deepest .inside n (c :: s) = deepest .inside n s := by
  have hquote : c ≠ '"' := by
    rintro rfl
    cases h
  have hbackslash : c ≠ '\\' := by
    rintro rfl
    cases h
  rw [deepest, if_neg hquote, if_neg hbackslash]

/-- **A string counts for nothing**, whatever brackets are in it. -/
theorem deepest_scanSigns {signs : List Sign} (h : scanSigns s = some (signs, after)) :
    deepest .inside n s = deepest .outside n after := by
  fun_induction scanSigns s generalizing signs with
  | case1 | case3 | case5 | case7 => cases h
  | case2 s =>
    cases h
    rfl
  | case4 h₁ h₂ h₃ h₄ s hquote ih =>
    obtain ⟨c, hhex, h⟩ := Option.bind_eq_some_iff.1 h
    obtain ⟨⟨found, rest⟩, hfound, h⟩ := Option.bind_eq_some_iff.1 h
    cases h
    obtain ⟨k₁, hk₁, hhex⟩ := Option.bind_eq_some_iff.1 hhex
    obtain ⟨k₂, hk₂, hhex⟩ := Option.bind_eq_some_iff.1 hhex
    obtain ⟨k₃, hk₃, hhex⟩ := Option.bind_eq_some_iff.1 hhex
    obtain ⟨k₄, hk₄, -⟩ := Option.bind_eq_some_iff.1 hhex
    -- Behind the backslash and its letter stand four digits.
    change deepest .inside n (h₁ :: h₂ :: h₃ :: h₄ :: s) = _
    rw [deepest_hexValue hk₁, deepest_hexValue hk₂, deepest_hexValue hk₃, deepest_hexValue hk₄]
    exact ih hfound
  | case6 e s hu hquote ih =>
    obtain ⟨c, -, h⟩ := Option.bind_eq_some_iff.1 h
    obtain ⟨⟨found, rest⟩, hfound, h⟩ := Option.bind_eq_some_iff.1 h
    cases h
    exact ih hfound
  | case8 c s hquote hbackslash hcontrol ih =>
    obtain ⟨⟨found, rest⟩, hfound, h⟩ := Option.bind_eq_some_iff.1 h
    cases h
    rw [deepest, if_neg hquote, if_neg hbackslash]
    exact ih hfound

theorem deepest_scanString (h : scanString s = some (t, after)) :
    deepest .outside n (('"' : CodePoint) :: s) = deepest .outside n after := by
  obtain ⟨⟨signs, rest⟩, hsigns, h⟩ := Option.map_eq_some_iff.1 h
  cases h
  exact deepest_scanSigns hsigns

theorem deepest_scanIntegerPart (n : Nat) (s : Text) :
    deepest .outside n (scanIntegerPart s).2 = deepest .outside n s := by
  cases s with
  | nil => rfl
  | cons c rest =>
    rw [scanIntegerPart]
    split_ifs with hzero
    · rw [hzero]
      exact (deepest_bare rfl).symm
    · exact deepest_scanDigits n (c :: rest)

theorem deepest_scanFraction (n : Nat) (s : Text) :
    deepest .outside n (scanFraction s).2 = deepest .outside n s := by
  cases s with
  | nil => rfl
  | cons c rest =>
    rw [scanFraction]
    split_ifs with hpoint
    · split
      · rfl
      · rw [deepest_scanDigits, hpoint]
        exact (deepest_bare rfl).symm
    · rfl

theorem deepest_scanExponent (n : Nat) (s : Text) :
    deepest .outside n (scanExponent s).2 = deepest .outside n s := by
  fun_cases scanExponent s with
  | case1 | case2 | case4 => rfl
  | case3 c rest hmark negative digits hsign found after hfound hscan =>
    have hdigits : deepest .outside n digits = deepest .outside n rest := by
      cases rest with
      | nil =>
        cases hsign
        rfl
      | cons sign tail =>
        dsimp only at hsign
        split_ifs at hsign with hminus hplus <;> cases hsign
        · rw [hminus]
          exact (deepest_bare rfl).symm
        · rw [hplus]
          exact (deepest_bare rfl).symm
        · rfl
    have hafter := deepest_scanDigits n digits
    rw [hscan] at hafter
    have hbare : isBare c = true := by
      rcases hmark with rfl | rfl <;> decide
    rw [deepest_bare hbare, ← hdigits]
    exact hafter

theorem deepest_scanMagnitude {negative : Bool} (h : scanMagnitude negative s = some (v, after)) :
    deepest .outside n after = deepest .outside n s := by
  have hparts {whole fraction s₁ s₂ s₃ : Text} {exponent : Option Int}
      (hinteger : scanIntegerPart s = (whole, s₁)) (hfraction : scanFraction s₁ = (fraction, s₂))
      (hexponent : scanExponent s₂ = (exponent, s₃)) :
      deepest .outside n s₃ = deepest .outside n s := by
    have h₁ := deepest_scanIntegerPart n s
    have h₂ := deepest_scanFraction n s₁
    have h₃ := deepest_scanExponent n s₂
    rw [hinteger] at h₁
    rw [hfraction] at h₂
    rw [hexponent] at h₃
    exact h₃.trans (h₂.trans h₁)
  revert h
  fun_cases scanMagnitude negative s with
  | case1 | case2 =>
    intro h
    cases h
  | case3 whole s₁ hwhole hinteger s₂ s₃ hlimit n hfraction hexponent =>
    intro h
    cases h
    exact hparts hinteger hfraction hexponent
  | case4 whole s₁ hwhole hinteger fraction s₂ hfraction exponent s₃ hexponent hreal =>
    intro h
    cases h
    exact hparts hinteger hfraction hexponent

/-- Neither does a word or a number count. -/
theorem deepest_scanAtom (h : scanAtom s = .ok (v, after)) :
    deepest .outside n after = deepest .outside n s := by
  rw [scanAtom] at h
  cases hword : scanWord s with
  | some found =>
    rw [hword] at h
    cases h
    obtain ⟨⟨word, value⟩, hmem, hfound⟩ := List.exists_of_findSome?_eq_some hword
    obtain ⟨rest, hrest, hfound⟩ := Option.map_eq_some_iff.1 hfound
    cases hfound
    have hs : word ++ after = s := List.isPrefixOf?_eq_some_iff_append_eq.1 hrest
    have hwords : words.all (fun w => w.1.all isBare) = true := by decide
    have hletters := List.all_eq_true.1 (List.all_eq_true.1 hwords _ hmem)
    rw [← hs, deepest_append_bare hletters]
  | none =>
    rw [hword] at h
    cases hnumber : scanNumber s with
    | none =>
      rw [hnumber] at h
      cases h
    | some found =>
      rw [hnumber] at h
      cases h
      cases s with
      | nil => cases hnumber
      | cons c rest =>
        rw [scanNumber] at hnumber
        split_ifs at hnumber with hminus
        · rw [hminus, deepest_scanMagnitude hnumber]
          exact (deepest_bare rfl).symm
        · exact deepest_scanMagnitude hnumber

/-! ## Containers -/

/-- What a scanner that opens so many containers makes of the count: a value takes no more than
they allow, and where it gives up there are more. -/
structure Nests (value : Scanner) (depth : Nat) : Prop where
  rest : ∀ {s v after}, value s = .ok (v, after) → ∀ n,
    deepest .outside n after ≤ deepest .outside n s
  bound : ∀ {s v after}, value s = .ok (v, after) → ∀ n,
    deepest .outside n s ≤ max (n + depth) (deepest .outside n after)
  deep : ∀ {s c}, value s = .error (.tooDeep c) → ∀ n, n + depth < deepest .outside n s

/-- Giving up is all that a sequence can give up with. -/
theorem of_bind_error {α β : Type} {first : Except ReadError α} {next : α → Except ReadError β}
    {e : ReadError} (h : (first >>= next) = .error e) :
    first = .error e ∨ ∃ a, first = .ok a ∧ next a = .error e := by
  cases first with
  | error e' =>
    cases h
    exact .inl rfl
  | ok a => exact .inr ⟨a, rfl, h⟩

theorem of_map_error {α β : Type} {f : α → β} {found : Except ReadError α} {e : ReadError}
    (h : found.map f = .error e) : found = .error e := by
  cases found with
  | error e' =>
    cases h
    rfl
  | ok a => cases h

/-- Behind a value stands a bracket that closes its container, -/
theorem deepest_closing {s₁ : Text} (hs₁ : skipSpace s₁ = c :: after) (hc : c = ']' ∨ c = '}') :
    deepest .outside (n + 1) s₁ = max (n + 1) (deepest .outside n after) := by
  rw [← deepest_skipSpace, hs₁, deepest_close hc]

/-- or a comma, and then nothing is closed. -/
theorem deepest_comma {s₁ s₂ : Text} (hs₁ : skipSpace s₁ = c :: s₂) (hc : c = ',') :
    deepest .outside n s₁ = deepest .outside n (skipSpace s₂) := by
  have hbare : isBare c = true := by
    rw [hc]
    decide
  rw [← deepest_skipSpace, hs₁, deepest_bare hbare, deepest_skipSpace]

section
variable {value : Scanner}

/-- Elements stand in an open array, which the bracket behind them closes. -/
theorem deepest_scanElements (hvalue : Nests value depth) {vs : List Json}
    (h : scanElements value fuel s = .ok (vs, after)) :
    deepest .outside n after ≤ deepest .outside (n + 1) s ∧
      deepest .outside (n + 1) s ≤ max (n + 1 + depth) (deepest .outside n after) := by
  induction fuel generalizing s vs with
  | zero => cases h
  | succ fuel ih =>
    obtain ⟨⟨v, s₁⟩, hv, h⟩ := of_bind_ok h
    have hrest := hvalue.rest hv (n + 1)
    have hbound := hvalue.bound hv (n + 1)
    dsimp only at h
    cases hs₁ : skipSpace s₁ with
    | nil =>
      rw [hs₁] at h
      cases h
    | cons c s₂ =>
      rw [hs₁] at h
      dsimp only at h
      split_ifs at h with hclose hcomma
      · cases h
        rw [deepest_closing hs₁ (.inl hclose)] at hrest hbound
        omega
      · obtain ⟨⟨vs', s₃⟩, hvs, h⟩ := of_bind_ok h
        cases h
        obtain ⟨hmore, hmost⟩ := ih hvs
        rw [deepest_comma hs₁ hcomma] at hrest hbound
        omega

theorem lt_deepest_scanElements (hvalue : Nests value depth) {k : Container}
    (h : scanElements value fuel s = .error (.tooDeep k)) :
    n + 1 + depth < deepest .outside (n + 1) s := by
  induction fuel generalizing s with
  | zero => cases h
  | succ fuel ih =>
    rcases of_bind_error h with hv | ⟨⟨v, s₁⟩, hv, h⟩
    · exact hvalue.deep hv (n + 1)
    have hrest := hvalue.rest hv (n + 1)
    dsimp only at h
    cases hs₁ : skipSpace s₁ with
    | nil =>
      rw [hs₁] at h
      cases h
    | cons c s₂ =>
      rw [hs₁] at h
      dsimp only at h
      split_ifs at h with hclose hcomma
      · rcases of_bind_error h with hvs | ⟨⟨vs, s₃⟩, hvs, h⟩
        · have hmore := ih hvs
          rw [deepest_comma hs₁ hcomma] at hrest
          omega
        · cases h
      · cases h

theorem deepest_scanKey {key : Text} (h : scanKey s = .ok (key, after)) :
    deepest .outside n s = deepest .outside n after := by
  cases s with
  | nil => cases h
  | cons c rest =>
    rw [scanKey] at h
    split_ifs at h with hquote
    cases hkey : scanString rest with
    | none =>
      rw [hkey] at h
      cases h
    | some found =>
      obtain ⟨t, s₁⟩ := found
      have hstring := deepest_scanString (n := n) hkey
      rw [hkey] at h
      dsimp only at h
      cases hs₁ : skipSpace s₁ with
      | nil =>
        rw [hs₁] at h
        cases h
      | cons d s₂ =>
        rw [hs₁] at h
        dsimp only at h
        split_ifs at h with hcolon
        cases h
        have hbare : isBare d = true := by
          rw [hcolon]
          decide
        rw [hquote, hstring, ← deepest_skipSpace n s₁, hs₁, deepest_bare hbare, deepest_skipSpace]

theorem scanKey_ne_tooDeep {k : Container} : scanKey s ≠ .error (.tooDeep k) := by
  intro h
  cases s with
  | nil => cases h
  | cons c rest =>
    rw [scanKey] at h
    split_ifs at h
    · split at h
      · cases h
      · split at h
        · cases h
        · split_ifs at h
          cases h
    · cases h

/-- So do members in an open object. -/
theorem deepest_scanMembers (hvalue : Nests value depth) {ms : List (Text × Json)}
    (h : scanMembers value fuel s = .ok (ms, after)) :
    deepest .outside n after ≤ deepest .outside (n + 1) s ∧
      deepest .outside (n + 1) s ≤ max (n + 1 + depth) (deepest .outside n after) := by
  induction fuel generalizing s ms with
  | zero => cases h
  | succ fuel ih =>
    obtain ⟨⟨key, s₁⟩, hkey, h⟩ := of_bind_ok h
    obtain ⟨⟨v, s₂⟩, hv, h⟩ := of_bind_ok h
    have hrest := hvalue.rest hv (n + 1)
    have hbound := hvalue.bound hv (n + 1)
    rw [← deepest_scanKey hkey] at hrest hbound
    dsimp only at h
    cases hs₂ : skipSpace s₂ with
    | nil =>
      rw [hs₂] at h
      cases h
    | cons c s₃ =>
      rw [hs₂] at h
      dsimp only at h
      split_ifs at h with hclose hcomma
      · cases h
        rw [deepest_closing hs₂ (.inr hclose)] at hrest hbound
        omega
      · obtain ⟨⟨ms', s₄⟩, hms, h⟩ := of_bind_ok h
        cases h
        obtain ⟨hmore, hmost⟩ := ih hms
        rw [deepest_comma hs₂ hcomma] at hrest hbound
        omega

theorem lt_deepest_scanMembers (hvalue : Nests value depth) {k : Container}
    (h : scanMembers value fuel s = .error (.tooDeep k)) :
    n + 1 + depth < deepest .outside (n + 1) s := by
  induction fuel generalizing s with
  | zero => cases h
  | succ fuel ih =>
    rcases of_bind_error h with hkey | ⟨⟨key, s₁⟩, hkey, h⟩
    · exact absurd hkey scanKey_ne_tooDeep
    rw [deepest_scanKey hkey]
    rcases of_bind_error h with hv | ⟨⟨v, s₂⟩, hv, h⟩
    · exact hvalue.deep hv (n + 1)
    have hrest := hvalue.rest hv (n + 1)
    dsimp only at h
    cases hs₂ : skipSpace s₂ with
    | nil =>
      rw [hs₂] at h
      cases h
    | cons c s₃ =>
      rw [hs₂] at h
      dsimp only at h
      split_ifs at h with hclose hcomma
      · rcases of_bind_error h with hms | ⟨⟨ms, s₄⟩, hms, h⟩
        · have hmore := ih hms
          rw [deepest_comma hs₂ hcomma] at hrest
          omega
        · cases h
      · cases h

/-- **An array** opens one container, and its elements open theirs in it. -/
theorem deepest_scanArray (hvalue : Nests value depth) :
    (∀ {v after}, scanArray value fuel s = .ok (v, after) →
      deepest .outside n after ≤ deepest .outside (n + 1) s ∧
        deepest .outside (n + 1) s ≤ max (n + 1 + depth) (deepest .outside n after)) ∧
    ∀ {k}, scanArray value fuel s = .error (.tooDeep k) →
      n + 1 + depth < deepest .outside (n + 1) s := by
  rw [← deepest_skipSpace (n + 1) s, scanArray]
  cases hs : skipSpace s with
  | nil =>
    constructor
    · rintro v after ⟨⟩
    · rintro k ⟨⟩
  | cons c rest =>
    dsimp only
    split_ifs with hclose
    · refine ⟨fun h => ?_, by rintro k ⟨⟩⟩
      cases h
      rw [deepest_close (.inl hclose)]
      omega
    · constructor
      · intro v after h
        obtain ⟨⟨vs, s₁⟩, hvs, h⟩ := of_map_ok h
        cases h
        exact deepest_scanElements hvalue hvs
      · intro k h
        exact lt_deepest_scanElements hvalue (of_map_error h)

/-- **So does an object**, and its members. -/
theorem deepest_scanObject (hvalue : Nests value depth) :
    (∀ {v after}, scanObject value fuel s = .ok (v, after) →
      deepest .outside n after ≤ deepest .outside (n + 1) s ∧
        deepest .outside (n + 1) s ≤ max (n + 1 + depth) (deepest .outside n after)) ∧
    ∀ {k}, scanObject value fuel s = .error (.tooDeep k) →
      n + 1 + depth < deepest .outside (n + 1) s := by
  rw [← deepest_skipSpace (n + 1) s, scanObject]
  cases hs : skipSpace s with
  | nil =>
    constructor
    · rintro v after ⟨⟩
    · rintro k ⟨⟩
  | cons c rest =>
    dsimp only
    split_ifs with hclose
    · refine ⟨fun h => ?_, by rintro k ⟨⟩⟩
      cases h
      rw [deepest_close (.inr hclose)]
      omega
    · constructor
      · intro v after h
        obtain ⟨⟨ms, s₁⟩, hms, h⟩ := of_map_ok h
        cases h
        exact deepest_scanMembers hvalue hms
      · intro k h
        exact lt_deepest_scanMembers hvalue (of_map_error h)

/-- What is no container counts for nothing, and is not too deep. -/
theorem deepest_scanWith_of_ne (inner? : Option Scanner) (fuel n : Nat) (s : Text)
    (hbracket : c ≠ '[') (hbrace : c ≠ '{') :
    (∀ {v after}, scanWith inner? fuel (c :: s) = .ok (v, after) →
      deepest .outside n after = deepest .outside n (c :: s)) ∧
    ∀ {k}, scanWith inner? fuel (c :: s) ≠ .error (.tooDeep k) := by
  simp only [scanWith, if_neg hbracket, if_neg hbrace]
  split_ifs with hquote
  · subst hquote
    cases hstring : scanString s with
    | none =>
      constructor
      · rintro v after ⟨⟩
      · rintro k ⟨⟩
    | some found =>
      refine ⟨fun h => ?_, by rintro k ⟨⟩⟩
      cases h
      exact (deepest_scanString hstring).symm
  · refine ⟨fun h => deepest_scanAtom h, fun h => ?_⟩
    rw [scanAtom] at h
    split at h <;> cases h

/-- **The scanner of a value** that opens no containers, -/
theorem nests_scanWith_none : Nests (scanWith none fuel) 0 := by
  have hcases (s : Text) (n : Nat) :
      (∀ {v after}, scanWith none fuel s = .ok (v, after) →
        deepest .outside n after = deepest .outside n s) ∧
      ∀ {k}, scanWith none fuel s = .error (.tooDeep k) → n < deepest .outside n s := by
    cases s with
    | nil =>
      constructor
      · rintro v after ⟨⟩
      · rintro k ⟨⟩
    | cons c rest =>
      by_cases hopen : c = '[' ∨ c = '{'
      · have hone : n + 1 ≤ deepest .outside (n + 1) rest := le_deepest _ _ _
        rw [deepest_open hopen]
        rcases hopen with rfl | rfl
        · exact ⟨by rintro v after ⟨⟩, fun _ => hone⟩
        · exact ⟨by rintro v after ⟨⟩, fun _ => hone⟩
      · obtain ⟨hbracket, hbrace⟩ := not_or.1 hopen
        obtain ⟨hvalue, hdeep⟩ := deepest_scanWith_of_ne none fuel n rest hbracket hbrace
        exact ⟨hvalue, fun h => absurd h hdeep⟩
  refine ⟨fun h n => ?_, fun h n => ?_, fun h n => (hcases _ n).2 h⟩
  · exact ((hcases _ n).1 h).le
  · rw [(hcases _ n).1 h]
    exact le_max_right _ _

/-- and of one that opens them with another scanner inside. -/
theorem nests_scanWith_some (hvalue : Nests value depth) :
    Nests (scanWith (some value) fuel) (depth + 1) := by
  have hcases (s : Text) (n : Nat) :
      (∀ {v after}, scanWith (some value) fuel s = .ok (v, after) →
        deepest .outside n after ≤ deepest .outside n s ∧
          deepest .outside n s ≤ max (n + 1 + depth) (deepest .outside n after)) ∧
      ∀ {k}, scanWith (some value) fuel s = .error (.tooDeep k) →
        n + 1 + depth < deepest .outside n s := by
    cases s with
    | nil =>
      constructor
      · rintro v after ⟨⟩
      · rintro k ⟨⟩
    | cons c rest =>
      by_cases hopen : c = '[' ∨ c = '{'
      · rw [deepest_open hopen]
        rcases hopen with rfl | rfl
        · exact deepest_scanArray hvalue
        · exact deepest_scanObject hvalue
      · obtain ⟨hbracket, hbrace⟩ := not_or.1 hopen
        obtain ⟨hatom, hdeep⟩ :=
          deepest_scanWith_of_ne (some value) fuel n rest hbracket hbrace
        refine ⟨fun h => ?_, fun h => absurd h hdeep⟩
        rw [hatom h]
        exact ⟨le_rfl, le_max_right _ _⟩
  refine ⟨fun h n => ((hcases _ n).1 h).1, fun h n => ?_, fun h n => ?_⟩
  · have hbound := ((hcases _ n).1 h).2
    omega
  · have hdeep := (hcases _ n).2 h
    omega

end

/-- **A scanner takes as many containers, one inside the other, as it may**, and gives up only
where there are more. -/
theorem nests_scanValue (fuel depth : Nat) : Nests (scanValue fuel depth) depth := by
  induction depth with
  | zero => exact nests_scanWith_none
  | succ depth ih => exact nests_scanWith_some ih

end Json

end AgentWorkshop
