import AgentWorkshop.Proofs.Json.Extent
import AgentWorkshop.Proofs.Number.Nearest

/-!
# What a text is read as

A value that is read is `Sound`: its integers have no more digits than are read, its reals are
doubles, no object of it has a key twice, and its containers are nested no deeper than the limit
(`sound_of_read`). So if there are no reals in it (`Discrete`) it is exact data (`Sound.exact`),
which can be printed and read again.
-/

namespace AgentWorkshop

namespace Json

open Text

variable {depth depth' fuel : Nat} {s t after key : Text} {v w : Json} {vs : List Json}
variable {ms : List (Text × Json)}

/-- **Data as it is read**, at most `depth` containers one inside the other. -/
inductive Sound : (depth : Nat) → Json → Prop
  | null {depth : Nat} : Sound depth null
  | boolean {depth : Nat} {b : Bool} : Sound depth (boolean b)
  | integer {depth : Nat} {n : Int} (digits : (ofNat n.natAbs).length ≤ digitLimit) :
    Sound depth (integer n)
  | real {depth : Nat} {x : Binary64} (double : x.IsDouble) : Sound depth (real x)
  | string {depth : Nat} {t : Text} : Sound depth (string t)
  | array {depth : Nat} {vs : List Json} (elements : ∀ v ∈ vs, Sound depth v) :
    Sound (depth + 1) (array vs)
  | object {depth : Nat} {ms : List (Text × Json)} (distinct : (ms.map Prod.fst).Nodup)
    (values : ∀ m ∈ ms, Sound depth m.2) : Sound (depth + 1) (object ms)

/-- Data without reals. -/
inductive Discrete : Json → Prop
  | null : Discrete null
  | boolean {b : Bool} : Discrete (boolean b)
  | integer {n : Int} : Discrete (integer n)
  | string {t : Text} : Discrete (string t)
  | array {vs : List Json} (elements : ∀ v ∈ vs, Discrete v) : Discrete (array vs)
  | object {ms : List (Text × Json)} (values : ∀ m ∈ ms, Discrete m.2) : Discrete (object ms)

/-- More depth may be allowed. -/
theorem Sound.mono (hdepth : depth ≤ depth') (h : Sound depth v) : Sound depth' v := by
  induction h generalizing depth' with
  | null => exact .null
  | boolean => exact .boolean
  | integer digits => exact .integer digits
  | real double => exact .real double
  | string => exact .string
  | array _ ih =>
    obtain ⟨d, rfl⟩ := Nat.exists_eq_add_of_lt hdepth
    exact .array fun v hv => ih v hv (by omega)
  | object distinct _ ih =>
    obtain ⟨d, rfl⟩ := Nat.exists_eq_add_of_lt hdepth
    exact .object distinct fun m hm => ih m hm (by omega)

/-- **Sound data without reals is exact.** -/
theorem Sound.exact (h : Sound depth v) (hv : Discrete v) : Exact (fun _ => True) depth v := by
  induction h with
  | null => exact .null
  | boolean => exact .boolean
  | integer digits => exact .integer digits
  | real => cases hv
  | string => exact .string trivial
  | array _ ih =>
    cases hv with
    | array elements => exact .array fun v hv => ih v hv (elements v hv)
  | object distinct _ ih =>
    cases hv with
    | object values =>
      exact .object distinct (fun _ _ => trivial) fun m hm => ih m hm (values m hm)

theorem Exact.discrete {p : Text → Prop} (h : Exact p depth v) : Discrete v := by
  induction h with
  | null => exact .null
  | boolean => exact .boolean
  | integer => exact .integer
  | string => exact .string
  | array _ ih => exact .array ih
  | object _ _ _ ih => exact .object ih

/-- The parts of sound data are sound, the value of a key -/
theorem Sound.member? (h : Sound depth v) (hmember : v.member? key = some w) : Sound depth w := by
  cases h with
  | object _ values =>
    obtain ⟨before, others, hms, -⟩ := List.lookup_eq_some_iff.1 hmember
    have hw := values (key, w) (by simp [hms])
    exact hw.mono (Nat.le_succ _)
  | _ => cases hmember

theorem Sound.member (h : Sound depth v) : Sound depth (v.member key) := by
  rw [Json.member]
  cases hmember : v.member? key with
  | none => exact .null
  | some w => exact h.member? hmember

/-- and the elements of an array. -/
theorem Sound.element (h : Sound depth (.array vs)) (hv : v ∈ vs) : Sound depth v := by
  cases h with
  | array elements => exact (elements v hv).mono (Nat.le_succ _)

/-! ## Numbers -/

theorem digitsValue_lt (h : ∀ c ∈ s, c.isAsciiDigit = true) : digitsValue s < 10 ^ s.length := by
  induction s using List.reverseRecOn with
  | nil => exact Nat.one_pos
  | append_singleton s c ih =>
    rw [List.forall_mem_append] at h
    have hfront := ih h.1
    have hdigit := h.2 c (List.mem_singleton_self c)
    simp only [CodePoint.isAsciiDigit, Bool.and_eq_true, decide_eq_true_eq] at hdigit
    rw [digitsValue] at hfront ⊢
    rw [List.foldl_append, List.foldl_cons, List.foldl_nil, List.length_append,
      List.length_singleton, Nat.pow_succ]
    omega

/-- Read digits are written with no more of them. -/
theorem length_ofNat_digitsValue_le (h : ∀ c ∈ s, c.isAsciiDigit = true) (hs : s ≠ []) :
    (ofNat (digitsValue s)).length ≤ s.length := by
  obtain ⟨k, hk⟩ : ∃ k, s.length = k + 1 := Nat.exists_eq_add_one.2 (List.length_pos_iff.2 hs)
  have hlt := digitsValue_lt h
  rw [hk] at hlt ⊢
  exact length_ofNat_le k hlt

theorem isAsciiDigit_of_scanIntegerPart {c : CodePoint} (hc : c ∈ (scanIntegerPart s).1) :
    c.isAsciiDigit = true := by
  cases s with
  | nil => cases hc
  | cons d rest =>
    rw [scanIntegerPart] at hc
    split_ifs at hc with hzero
    · rw [List.mem_singleton.1 hc, hzero]
      rfl
    · exact List.mem_takeWhile_imp hc

theorem sound_scanMagnitude {negative : Bool} (h : scanMagnitude negative s = some (v, after)) :
    Sound depth v := by
  revert h
  fun_cases scanMagnitude negative s with
  | case1 | case2 =>
    intro h
    cases h
  | case3 whole s₁ hwhole hinteger s₂ s₃ hlimit n hfraction hexponent =>
    intro h
    cases h
    have hdigits : ∀ c ∈ whole, c.isAsciiDigit = true := by
      intro c hc
      exact isAsciiDigit_of_scanIntegerPart (s := s) (by rw [hinteger]; exact hc)
    have hlength := length_ofNat_digitsValue_le hdigits hwhole
    refine .integer ?_
    rw [natAbs_ite_neg]
    exact hlength.trans (Nat.le_of_not_lt hlimit)
  | case4 whole s₁ hwhole hinteger fraction s₂ hfraction exponent s₃ hexponent hreal =>
    intro h
    cases h
    exact .real (Binary64.isDouble_ofDecimal ..)

theorem sound_scanAtom (h : scanAtom s = .ok (v, after)) : Sound depth v := by
  rw [scanAtom] at h
  cases hword : scanWord s with
  | some found =>
    rw [hword] at h
    cases h
    obtain ⟨⟨word, value⟩, hmem, hfound⟩ := List.exists_of_findSome?_eq_some hword
    obtain ⟨rest, -, hfound⟩ := Option.map_eq_some_iff.1 hfound
    cases hfound
    have hwords : ∀ w ∈ words, Sound depth w.2 := by
      simp only [words, List.forall_mem_cons, List.not_mem_nil, false_imp_iff, implies_true,
        and_true]
      exact ⟨.null, .boolean, .boolean, .real trivial, .real trivial, .real trivial⟩
    exact hwords _ hmem
  | none =>
    rw [hword] at h
    cases hnumber : scanNumber s with
    | none =>
      rw [hnumber] at h
      cases h
    | some found =>
      rw [hnumber] at h
      cases h
      cases s with
      | nil => cases hnumber
      | cons c rest =>
        rw [scanNumber] at hnumber
        split_ifs at hnumber <;> exact sound_scanMagnitude hnumber

/-! ## Containers -/

theorem mem_put {m : Text × Json} (h : m ∈ put key v ms) : m = (key, v) ∨ m ∈ ms := by
  induction ms with
  | nil => exact .inl (List.mem_singleton.1 h)
  | cons m' ms ih =>
    rw [put] at h
    split_ifs at h
    · rcases List.mem_cons.1 h with rfl | h
      · exact .inl rfl
      · exact .inr (List.mem_cons_of_mem _ h)
    · rcases List.mem_cons.1 h with rfl | h
      · exact .inr List.mem_cons_self
      · exact (ih h).imp_right (List.mem_cons_of_mem _)

/-- A key that is there keeps its place. -/
theorem keys_put (key : Text) (v : Json) (ms : List (Text × Json)) :
    (put key v ms).map Prod.fst =
      if key ∈ ms.map Prod.fst then ms.map Prod.fst else ms.map Prod.fst ++ [key] := by
  induction ms with
  | nil => rfl
  | cons m ms ih =>
    rw [put]
    by_cases hm : m.1 = key
    · simp [hm]
    · simp only [if_neg hm, List.map_cons, ih, List.mem_cons, Ne.symm hm, false_or]
      split_ifs <;> rfl

theorem nodup_put (h : (ms.map Prod.fst).Nodup) : ((put key v ms).map Prod.fst).Nodup := by
  rw [keys_put]
  split_ifs with hkey
  · exact h
  · exact List.concat_eq_append ▸ List.Nodup.concat hkey h

/-- **No key of an object is there twice**, whatever its members are. -/
theorem sound_ofMembers (h : ∀ m ∈ ms, Sound depth m.2) : Sound (depth + 1) (ofMembers ms) := by
  have hfold (front : List (Text × Json)) (hdistinct : (front.map Prod.fst).Nodup)
      (hfront : ∀ m ∈ front, Sound depth m.2) :
      Sound (depth + 1) (object (ms.foldl (fun ms m => put m.1 m.2 ms) front)) := by
    induction ms generalizing front with
    | nil => exact .object hdistinct hfront
    | cons m ms ih =>
      rw [List.forall_mem_cons] at h
      refine ih h.2 _ (nodup_put hdistinct) fun m' hm' => ?_
      rcases mem_put hm' with rfl | hm'
      · exact h.1
      · exact hfront m' hm'
  exact hfold [] List.nodup_nil (by simp)

/-- What a scanner finds is sound. -/
def Yields (value : Scanner) (depth : Nat) : Prop :=
  ∀ s v after, value s = .ok (v, after) → Sound depth v

section
variable {value : Scanner}

theorem sound_scanElements (hvalue : Yields value depth)
    (h : scanElements value fuel s = .ok (vs, after)) : ∀ v ∈ vs, Sound depth v := by
  induction fuel generalizing s vs with
  | zero => cases h
  | succ fuel ih =>
    obtain ⟨⟨v, s₁⟩, hv, h⟩ := of_bind_ok h
    have hfirst := hvalue _ _ _ hv
    dsimp only at h
    cases hs₁ : skipSpace s₁ with
    | nil =>
      rw [hs₁] at h
      cases h
    | cons c s₂ =>
      rw [hs₁] at h
      dsimp only at h
      split_ifs at h
      · cases h
        exact List.forall_mem_singleton.2 hfirst
      · obtain ⟨⟨vs', s₃⟩, hvs, h⟩ := of_bind_ok h
        cases h
        exact List.forall_mem_cons.2 ⟨hfirst, ih hvs⟩

theorem sound_scanMembers (hvalue : Yields value depth)
    (h : scanMembers value fuel s = .ok (ms, after)) : ∀ m ∈ ms, Sound depth m.2 := by
  induction fuel generalizing s ms with
  | zero => cases h
  | succ fuel ih =>
    obtain ⟨⟨k, s₁⟩, -, h⟩ := of_bind_ok h
    obtain ⟨⟨v, s₂⟩, hv, h⟩ := of_bind_ok h
    have hfirst := hvalue _ _ _ hv
    dsimp only at h
    cases hs₂ : skipSpace s₂ with
    | nil =>
      rw [hs₂] at h
      cases h
    | cons c s₃ =>
      rw [hs₂] at h
      dsimp only at h
      split_ifs at h
      · cases h
        exact List.forall_mem_singleton.2 hfirst
      · obtain ⟨⟨ms', s₄⟩, hms, h⟩ := of_bind_ok h
        cases h
        exact List.forall_mem_cons.2 ⟨hfirst, ih hms⟩

theorem sound_scanArray (hvalue : Yields value depth)
    (h : scanArray value fuel s = .ok (v, after)) : Sound (depth + 1) v := by
  rw [scanArray] at h
  cases hs : skipSpace s with
  | nil =>
    rw [hs] at h
    cases h
  | cons c rest =>
    rw [hs] at h
    dsimp only at h
    split_ifs at h
    · cases h
      exact .array (by simp)
    · obtain ⟨⟨vs, s₁⟩, hvs, h⟩ := of_map_ok h
      cases h
      exact .array (sound_scanElements hvalue hvs)

theorem sound_scanObject (hvalue : Yields value depth)
    (h : scanObject value fuel s = .ok (v, after)) : Sound (depth + 1) v := by
  rw [scanObject] at h
  cases hs : skipSpace s with
  | nil =>
    rw [hs] at h
    cases h
  | cons c rest =>
    rw [hs] at h
    dsimp only at h
    split_ifs at h
    · cases h
      exact .object List.nodup_nil (by simp)
    · obtain ⟨⟨ms, s₁⟩, hms, h⟩ := of_map_ok h
      cases h
      exact sound_ofMembers (sound_scanMembers hvalue hms)

/-- The containers of a value are read by another scanner, and nothing else of it is. -/
theorem sound_scanWith {inner? : Option Scanner} (hbare : inner? = none → depth = 0)
    (hinner : ∀ inner ∈ inner?, ∃ d, depth = d + 1 ∧ Yields inner d) :
    Yields (scanWith inner? fuel) depth := by
  intro s v after h
  cases s with
  | nil => cases h
  | cons c rest =>
    simp only [scanWith] at h
    split_ifs at h
    · cases hstring : scanString rest with
      | none =>
        rw [hstring] at h
        cases h
      | some found =>
        rw [hstring] at h
        cases h
        exact .string
    · cases inner? with
      | none => cases h
      | some inner =>
        obtain ⟨d, rfl, hvalue⟩ := hinner inner rfl
        exact sound_scanArray hvalue h
    · cases inner? with
      | none => cases h
      | some inner =>
        obtain ⟨d, rfl, hvalue⟩ := hinner inner rfl
        exact sound_scanObject hvalue h
    · exact sound_scanAtom h

end

theorem yields_scanValue (fuel depth : Nat) : Yields (scanValue fuel depth) depth := by
  induction depth with
  | zero => exact sound_scanWith (by simp) (by simp)
  | succ depth ih => exact sound_scanWith (by simp) (by simpa using ih)

/-- **What is read is sound.** -/
theorem sound_of_read (h : read t = .ok v) : Sound nestingLimit v := by
  rw [read] at h
  cases hscan : scanValue t.length nestingLimit (skipSpace t) with
  | error e =>
    rw [hscan] at h
    cases h
  | ok found =>
    obtain ⟨v', after⟩ := found
    rw [hscan] at h
    dsimp only at h
    split_ifs at h
    cases h
    exact yields_scanValue _ _ _ _ _ hscan

end Json

end AgentWorkshop
