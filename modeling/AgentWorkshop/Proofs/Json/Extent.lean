import AgentWorkshop.Proofs.Json.RoundTrip
import Mathlib.Data.List.Basic

/-!
# How much text a value takes

Every scanner leaves less than it is given (`Shortens.rest`), and a string needs two quotes
besides its signs. So the text of a string is shorter than the text that it stands in, also
when it is the value of a member (`length_lt_of_read`): nothing that is unwrapped from a text
can be that text again.
-/

namespace AgentWorkshop

namespace Json

open Text

variable {s t after : Text} {v : Json} {key : Text}

/-- What a scanner gives is shorter than what it takes: the text that follows a value, with
the string that the value is or each string that it has as a member. -/
structure Shortens (value : Scanner) : Prop where
  rest : ∀ {s v after}, value s = .ok (v, after) → after.length < s.length
  ofString : ∀ {s t after}, value s = .ok (string t, after) → t.length + after.length < s.length
  ofMember : ∀ {s v after key t}, value s = .ok (v, after) → v.member? key = some (string t) →
    t.length < s.length

/-! ## Strings -/

theorem length_skipSpace_le (s : Text) : (skipSpace s).length ≤ s.length :=
  (List.dropWhile_suffix _).length_le

theorem length_joinSigns_le (signs : List Sign) : (joinSigns signs).length ≤ signs.length := by
  fun_induction joinSigns signs with
  | case1 | case3 => exact Nat.le_refl _
  | case2 c rest ih => simpa using ih
  | case4 c d rest ih => simpa using ih
  | case5 c d rest hpair ih =>
    simp only [List.length_cons]
    omega
  | case6 c d rest hpair ih =>
    simp only [List.length_cons] at ih ⊢
    omega

theorem length_scanSigns_lt {signs : List Sign} (h : scanSigns s = some (signs, after)) :
    signs.length + after.length < s.length := by
  fun_induction scanSigns s generalizing signs with
  | case1 | case3 | case5 | case7 => cases h
  | case2 s =>
    cases h
    simp
  | case4 h₁ h₂ h₃ h₄ s hquote ih =>
    obtain ⟨c, -, h⟩ := Option.bind_eq_some_iff.1 h
    obtain ⟨⟨found, rest⟩, hfound, h⟩ := Option.bind_eq_some_iff.1 h
    cases h
    have hlength := ih hfound
    simp only [List.length_cons]
    omega
  | case6 e s hu hquote ih =>
    obtain ⟨c, -, h⟩ := Option.bind_eq_some_iff.1 h
    obtain ⟨⟨found, rest⟩, hfound, h⟩ := Option.bind_eq_some_iff.1 h
    cases h
    have hlength := ih hfound
    simp only [List.length_cons]
    omega
  | case8 c s hquote hbackslash hcontrol ih =>
    obtain ⟨⟨found, rest⟩, hfound, h⟩ := Option.bind_eq_some_iff.1 h
    cases h
    have hlength := ih hfound
    simp only [List.length_cons]
    omega

/-- A string is shorter than what it is scanned from, by its closing quote at least. -/
theorem length_scanString_lt (h : scanString s = some (t, after)) :
    t.length + after.length < s.length := by
  obtain ⟨⟨signs, rest⟩, hsigns, h⟩ := Option.map_eq_some_iff.1 h
  cases h
  have hjoined := length_joinSigns_le signs
  have hscanned := length_scanSigns_lt hsigns
  omega

/-! ## Words and numbers -/

/-- The value neither is a text nor has one as a member. -/
def Textless (v : Json) : Prop :=
  (∀ t, v ≠ string t) ∧ ∀ key, v.member? key = none

theorem length_scanDigits_le (s : Text) : (scanDigits s).2.length ≤ s.length :=
  (List.dropWhile_suffix _).length_le

theorem length_scanDigits_lt (h : (scanDigits s).1 ≠ []) : (scanDigits s).2.length < s.length := by
  have hboth := congrArg List.length (List.takeWhile_append_dropWhile (p := CodePoint.isAsciiDigit)
    (l := s))
  have hfound := List.length_pos_iff.2 h
  rw [List.length_append] at hboth
  rw [scanDigits] at hfound ⊢
  dsimp only at hfound ⊢
  omega

theorem length_scanIntegerPart_lt (h : (scanIntegerPart s).1 ≠ []) :
    (scanIntegerPart s).2.length < s.length := by
  cases s with
  | nil => exact absurd rfl h
  | cons c rest =>
    rw [scanIntegerPart] at h ⊢
    split_ifs at h ⊢
    · simp
    · exact length_scanDigits_lt h

theorem length_scanFraction_le (s : Text) : (scanFraction s).2.length ≤ s.length := by
  cases s with
  | nil => exact Nat.le_refl _
  | cons c rest =>
    have hdigits := length_scanDigits_le rest
    rw [scanFraction]
    split_ifs
    · split
      · exact Nat.le_refl _
      · exact Nat.le_succ_of_le hdigits
    · exact Nat.le_refl _

theorem length_scanExponent_le (s : Text) : (scanExponent s).2.length ≤ s.length := by
  fun_cases scanExponent s with
  | case1 | case2 | case4 => exact Nat.le_refl _
  | case3 c rest hmark negative digits hsign found after hfound hscan =>
    have hdigits : digits.length ≤ rest.length := by
      cases rest with
      | nil =>
        cases hsign
        exact Nat.le_refl _
      | cons sign tail =>
        dsimp only at hsign
        split_ifs at hsign <;> cases hsign <;> simp
    have hafter := length_scanDigits_le digits
    rw [hscan] at hafter
    simp only [List.length_cons] at hafter ⊢
    omega

/-- The parts of a number take a digit at least. -/
theorem length_numeral_lt {whole fraction s₁ s₂ s₃ : Text} {exponent : Option Int}
    (hwhole : whole ≠ []) (hinteger : scanIntegerPart s = (whole, s₁))
    (hfraction : scanFraction s₁ = (fraction, s₂)) (hexponent : scanExponent s₂ = (exponent, s₃)) :
    s₃.length < s.length := by
  have h₁ := length_scanIntegerPart_lt (s := s) (by rw [hinteger]; exact hwhole)
  have h₂ := length_scanFraction_le s₁
  have h₃ := length_scanExponent_le s₂
  rw [hinteger] at h₁
  rw [hfraction] at h₂
  rw [hexponent] at h₃
  dsimp only at h₁ h₂ h₃
  omega

theorem scanMagnitude_takes {negative : Bool} (h : scanMagnitude negative s = some (v, after)) :
    after.length < s.length ∧ Textless v := by
  revert h
  fun_cases scanMagnitude negative s with
  | case1 | case2 =>
    intro h
    cases h
  | case3 whole s₁ hwhole hinteger s₂ s₃ hlimit n hfraction hexponent =>
    intro h
    cases h
    exact ⟨length_numeral_lt hwhole hinteger hfraction hexponent, by simp [Textless, member?]⟩
  | case4 whole s₁ hwhole hinteger fraction s₂ hfraction exponent s₃ hexponent hreal =>
    intro h
    cases h
    exact ⟨length_numeral_lt hwhole hinteger hfraction hexponent, by simp [Textless, member?]⟩

theorem scanNumber_takes (h : scanNumber s = some (v, after)) :
    after.length < s.length ∧ Textless v := by
  cases s with
  | nil => cases h
  | cons c rest =>
    rw [scanNumber] at h
    split_ifs at h
    · obtain ⟨hlength, htextless⟩ := scanMagnitude_takes h
      exact ⟨Nat.lt_succ_of_lt hlength, htextless⟩
    · exact scanMagnitude_takes h

theorem scanWord_takes (h : scanWord s = some (v, after)) :
    after.length < s.length ∧ Textless v := by
  obtain ⟨⟨word, value⟩, hword, h⟩ := List.exists_of_findSome?_eq_some h
  obtain ⟨rest, hrest, h⟩ := Option.map_eq_some_iff.1 h
  cases h
  have hs : word ++ after = s := List.isPrefixOf?_eq_some_iff_append_eq.1 hrest
  have hwords : ∀ w ∈ words, w.1 ≠ [] ∧ Textless w.2 := by
    simp [words, Textless, member?, AgentWorkshop.text]
  obtain ⟨hne, htextless⟩ := hwords _ hword
  have hlength : 0 < word.length := List.length_pos_iff.2 hne
  refine ⟨?_, htextless⟩
  rw [← hs, List.length_append]
  omega

theorem scanAtom_takes (h : scanAtom s = .ok (v, after)) :
    after.length < s.length ∧ Textless v := by
  rw [scanAtom] at h
  cases hword : scanWord s with
  | some found =>
    rw [hword] at h
    cases h
    exact scanWord_takes hword
  | none =>
    rw [hword] at h
    cases hnumber : scanNumber s with
    | some found =>
      rw [hnumber] at h
      cases h
      exact scanNumber_takes hnumber
    | none =>
      rw [hnumber] at h
      cases h

/-! ## Containers -/

/-- What is read in two parts is read only if both are. -/
theorem of_bind_ok {α β : Type} {first : Except ReadError α} {next : α → Except ReadError β}
    {b : β} (h : (first >>= next) = .ok b) : ∃ a, first = .ok a ∧ next a = .ok b := by
  cases first with
  | error e => cases h
  | ok a => exact ⟨a, rfl, h⟩

theorem of_map_ok {α β : Type} {f : α → β} {found : Except ReadError α} {b : β}
    (h : found.map f = .ok b) : ∃ a, found = .ok a ∧ f a = b := by
  cases found with
  | error e => cases h
  | ok a => exact ⟨a, rfl, Except.ok.inj h⟩

section
variable {value : Scanner} {fuel : Nat}

theorem length_scanElements_lt (hvalue : Shortens value) {vs : List Json}
    (h : scanElements value fuel s = .ok (vs, after)) : after.length < s.length := by
  induction fuel generalizing s vs with
  | zero => cases h
  | succ fuel ih =>
    obtain ⟨⟨v, s₁⟩, hv, h⟩ := of_bind_ok h
    have hrest := hvalue.rest hv
    have hspace := length_skipSpace_le s₁
    dsimp only at h
    cases hs₁ : skipSpace s₁ with
    | nil =>
      rw [hs₁] at h
      cases h
    | cons c s₂ =>
      rw [hs₁] at h hspace
      rw [List.length_cons] at hspace
      dsimp only at h
      split_ifs at h
      · cases h
        omega
      · obtain ⟨⟨vs', s₃⟩, hvs, h⟩ := of_bind_ok h
        cases h
        have hmore := ih hvs
        have hspace' := length_skipSpace_le s₂
        omega

theorem length_scanKey_lt (h : scanKey s = .ok (key, after)) : after.length < s.length := by
  cases s with
  | nil => cases h
  | cons c rest =>
    rw [scanKey] at h
    split_ifs at h
    cases hkey : scanString rest with
    | none =>
      rw [hkey] at h
      cases h
    | some found =>
      obtain ⟨t, s₁⟩ := found
      have hstring := length_scanString_lt hkey
      have hspace := length_skipSpace_le s₁
      rw [hkey] at h
      dsimp only at h
      cases hs₁ : skipSpace s₁ with
      | nil =>
        rw [hs₁] at h
        cases h
      | cons d s₂ =>
        rw [hs₁] at h hspace
        dsimp only at h
        split_ifs at h
        cases h
        have hspace' := length_skipSpace_le s₂
        simp only [List.length_cons] at hspace ⊢
        omega

/-- The members take more text than each string among them has. -/
theorem scanMembers_takes (hvalue : Shortens value) {ms : List (Text × Json)}
    (h : scanMembers value fuel s = .ok (ms, after)) :
    after.length < s.length ∧ ∀ m ∈ ms, ∀ t, m.2 = string t → t.length < s.length := by
  induction fuel generalizing s ms with
  | zero => cases h
  | succ fuel ih =>
    obtain ⟨⟨k, s₁⟩, hkey, h⟩ := of_bind_ok h
    obtain ⟨⟨v, s₂⟩, hv, h⟩ := of_bind_ok h
    have hafterKey := length_scanKey_lt hkey
    have hrest := hvalue.rest hv
    have hstring : ∀ t, v = string t → t.length < s.length := by
      rintro t rfl
      have hlength := hvalue.ofString hv
      omega
    have hspace := length_skipSpace_le s₂
    dsimp only at h
    cases hs₂ : skipSpace s₂ with
    | nil =>
      rw [hs₂] at h
      cases h
    | cons c s₃ =>
      rw [hs₂] at h hspace
      rw [List.length_cons] at hspace
      dsimp only at h
      split_ifs at h
      · cases h
        exact ⟨by omega, List.forall_mem_singleton.2 hstring⟩
      · obtain ⟨⟨ms', s₄⟩, hms, h⟩ := of_bind_ok h
        cases h
        obtain ⟨hmore, hothers⟩ := ih hms
        have hspace' := length_skipSpace_le s₃
        refine ⟨by omega, List.forall_mem_cons.2 ⟨hstring, fun m hm t ht => ?_⟩⟩
        have hother := hothers m hm t ht
        omega

theorem scanArray_takes (hvalue : Shortens value) (h : scanArray value fuel s = .ok (v, after)) :
    after.length < s.length ∧ Textless v := by
  have hspace := length_skipSpace_le s
  rw [scanArray] at h
  cases hs : skipSpace s with
  | nil =>
    rw [hs] at h
    cases h
  | cons c rest =>
    rw [hs] at h hspace
    dsimp only at h
    split_ifs at h
    · cases h
      exact ⟨hspace, by simp [Textless, member?]⟩
    · obtain ⟨⟨vs, s₁⟩, hvs, h⟩ := of_map_ok h
      cases h
      have helements := length_scanElements_lt hvalue hvs
      dsimp only
      exact ⟨by omega, by simp [Textless, member?]⟩

/-- The value of a key is that of one of the members. -/
theorem mem_of_member? {ms : List (Text × Json)} (h : (ofMembers ms).member? key = some v) :
    (key, v) ∈ ms := by
  rw [member?_ofMembers] at h
  obtain ⟨before, others, hms, -⟩ := List.lookup_eq_some_iff.1 h
  rw [← List.mem_reverse, hms]
  exact List.mem_append_right _ List.mem_cons_self

theorem scanObject_takes (hvalue : Shortens value) (h : scanObject value fuel s = .ok (v, after)) :
    after.length < s.length ∧ (∀ t, v ≠ string t) ∧
      ∀ key t, v.member? key = some (string t) → t.length < s.length := by
  have hspace := length_skipSpace_le s
  rw [scanObject] at h
  cases hs : skipSpace s with
  | nil =>
    rw [hs] at h
    cases h
  | cons c rest =>
    rw [hs] at h hspace
    dsimp only at h
    split_ifs at h
    · cases h
      exact ⟨hspace, by simp, by simp [member?]⟩
    · obtain ⟨⟨ms, s₁⟩, hms, h⟩ := of_map_ok h
      cases h
      obtain ⟨hlength, hstrings⟩ := scanMembers_takes hvalue hms
      dsimp only
      refine ⟨by omega, by simp [ofMembers], fun key t hmember => ?_⟩
      have ht := hstrings _ (mem_of_member? hmember) t rfl
      omega

theorem shortens_scanWith {inner? : Option Scanner} (hinner : ∀ inner ∈ inner?, Shortens inner) :
    Shortens (scanWith inner? fuel) := by
  have htakes : ∀ {s v after}, scanWith inner? fuel s = .ok (v, after) →
      after.length < s.length ∧ (∀ t, v = string t → t.length + after.length < s.length) ∧
        ∀ key t, v.member? key = some (string t) → t.length < s.length := by
    intro s v after h
    cases s with
    | nil => cases h
    | cons c rest =>
      simp only [scanWith] at h
      rw [List.length_cons]
      split_ifs at h
      · -- A string.
        cases hstring : scanString rest with
        | none =>
          rw [hstring] at h
          cases h
        | some found =>
          rw [hstring] at h
          cases h
          have hlength := length_scanString_lt hstring
          refine ⟨by omega, fun t ht => ?_, by simp [member?]⟩
          cases ht
          omega
      · -- An array.
        cases inner? with
        | none => cases h
        | some inner =>
          obtain ⟨hlength, hstring, hmember⟩ := scanArray_takes (hinner inner rfl) h
          exact ⟨by omega, fun t ht => absurd ht (hstring t), fun key t ht => by simp [hmember] at ht⟩
      · -- An object.
        cases inner? with
        | none => cases h
        | some inner =>
          obtain ⟨hlength, hstring, hmember⟩ := scanObject_takes (hinner inner rfl) h
          refine ⟨by omega, fun t ht => absurd ht (hstring t), fun key t ht => ?_⟩
          have ht := hmember key t ht
          omega
      · obtain ⟨hlength, hstring, hmember⟩ := scanAtom_takes h
        exact ⟨by simpa using hlength, fun t ht => absurd ht (hstring t),
          fun key t ht => by simp [hmember] at ht⟩
  exact ⟨fun h => (htakes h).1, fun h => (htakes h).2.1 _ rfl, fun h => (htakes h).2.2 _ _⟩

end

theorem shortens_scanValue (fuel depth : Nat) : Shortens (scanValue fuel depth) := by
  induction depth with
  | zero => exact shortens_scanWith (by simp)
  | succ depth ih => exact shortens_scanWith (by simpa using ih)

/-- **A text that stands in another as the value of a member is shorter.** -/
theorem length_lt_of_read (h : read s = .ok v) (hmember : v.member? key = some (string t)) :
    t.length < s.length := by
  rw [read] at h
  cases hv : scanValue s.length nestingLimit (skipSpace s) with
  | error e =>
    rw [hv] at h
    cases h
  | ok found =>
    obtain ⟨v', s₁⟩ := found
    rw [hv] at h
    dsimp only at h
    split_ifs at h
    cases h
    have hlength := (shortens_scanValue _ _).ofMember hv hmember
    have hspace := length_skipSpace_le s
    omega

end Json

end AgentWorkshop
