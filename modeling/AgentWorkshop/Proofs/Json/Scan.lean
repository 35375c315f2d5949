import AgentWorkshop.Json.Printer
import AgentWorkshop.Proofs.Text.Numeral
import Mathlib.Tactic.IntervalCases

/-!
# Scanning what was written

The reader goes through a text with one scanner for each kind of part. Each takes exactly
the part that was written and leaves what follows: the signs of a string (`Spells`) and a
numeral (`scanNumber_ofInt`). Two surrogates of a pair stay apart as long as they are not
both written by number (`joinSigns_numbered`).
-/

namespace AgentWorkshop

namespace Json

open Text

variable {c d : CodePoint} {s t rest written : Text} {signs : List Sign}

/-! ## Strings -/

/-- The written text stands for the signs: in front of a string it adds them. -/
def Spells (written : Text) (signs : List Sign) : Prop :=
  ∀ s found after, scanSigns s = some (found, after) →
    scanSigns (written ++ s) = some (signs ++ found, after)

theorem Spells.append {written' : Text} {signs' : List Sign} (h : Spells written signs)
    (h' : Spells written' signs') : Spells (written ++ written') (signs ++ signs') := by
  intro s found after hs
  rw [List.append_assoc, List.append_assoc]
  exact h _ _ _ (h' _ _ _ hs)

theorem spells_nil : Spells [] [] := by
  intro s found after hs
  exact hs

theorem backslash_ne_quote : ('\\' : CodePoint) ≠ '"' := by
  decide

/-- A code point that needs no escape stands for itself. -/
theorem spells_plain (hquote : c ≠ '"') (hbackslash : c ≠ '\\') (hcontrol : ¬ c.val < 0x20) :
    Spells [c] [.plain c] := by
  intro s found after hs
  rw [List.singleton_append, scanSigns.eq_def]
  simp only [if_neg hquote, if_neg hbackslash, if_neg hcontrol, hs]
  rfl

/-- An escape by one letter stands for its code point. -/
theorem spells_letter {e : CodePoint} (he : letterEscape? e = some c) :
    Spells ['\\', e] [.plain c] := by
  have hu : e ≠ 'u' := by
    rintro rfl
    cases he
  intro s found after hs
  rw [List.cons_append, List.singleton_append, scanSigns.eq_def]
  simp only [if_neg backslash_ne_quote, if_true, if_neg hu, he, hs]
  rfl

/-- Four hexadecimal digits stand for the code point of that number. -/
theorem spells_numbered {n : Nat} (hn : n < 0x10000) (hc : c.val = n) :
    Spells (text "\\u" ++ ofHex 4 n) [.numbered c] := by
  intro s found after hs
  have hpoint : Fin.ofNat 0x110000 n = c := by
    rw [← hc]
    exact Fin.ofNat_val_eq_self c
  have hhex : hexPoint? (hexDigit (n / 0x1000)) (hexDigit (n / 0x100 % 16))
      (hexDigit (n / 0x10 % 16)) (hexDigit (n % 16)) = some c := by
    rw [hexPoint?, hexValue?_hexDigit _ (by omega), hexValue?_hexDigit _ (by omega),
      hexValue?_hexDigit _ (by omega), hexValue?_hexDigit _ (by omega), ← hpoint]
    simp only [Option.bind_eq_bind, Option.bind_some, Option.some.injEq]
    congr 1
    omega
  rw [ofHex_four hn]
  change scanSigns ('\\' :: 'u' :: hexDigit _ :: hexDigit _ :: hexDigit _ :: hexDigit _ :: s) = _
  rw [scanSigns.eq_def]
  simp only [if_neg backslash_ne_quote, if_true, hhex, hs]
  rfl

/-- The closing quote ends a string. -/
theorem scanString_of_spells (h : Spells written signs) :
    scanString (written ++ ('"' : CodePoint) :: rest) = some (joinSigns signs, rest) := by
  have hend : scanSigns (('"' : CodePoint) :: rest) = some ([], rest) := by
    rw [scanSigns.eq_def]
    rfl
  rw [scanString, h _ _ _ hend, List.append_nil]
  rfl

/-- **A code point is written so that it can be read**: as itself, by a letter or, if it is a
control, by its number. -/
theorem spells_printPoint (c : CodePoint) : ∃ sign, Spells (printPoint c) [sign] ∧
    (sign = .plain c ∨ sign = .numbered c ∧ c.val < 0x20) := by
  rw [printPoint]
  split_ifs with h₁ h₂ h₃ h₄ h₅ h₆ h₇
  · refine ⟨.plain c, spells_letter ?_, .inl rfl⟩
    rcases h₁ with rfl | rfl <;> rfl
  · exact ⟨.plain c, spells_letter (by rw [h₂]; rfl), .inl rfl⟩
  · exact ⟨.plain c, spells_letter (by rw [h₃]; rfl), .inl rfl⟩
  · exact ⟨.plain c, spells_letter (by rw [h₄]; rfl), .inl rfl⟩
  · exact ⟨.plain c, spells_letter (congrArg some (Fin.ext h₅.symm)), .inl rfl⟩
  · exact ⟨.plain c, spells_letter (congrArg some (Fin.ext h₆.symm)), .inl rfl⟩
  · exact ⟨.numbered c, spells_numbered (by omega) rfl, .inr ⟨rfl, h₇⟩⟩
  · exact ⟨.plain c, spells_plain (fun h => h₁ (.inl h)) (fun h => h₁ (.inr h)) h₇, .inl rfl⟩

@[simp] theorem joinSigns_plain : joinSigns (.plain c :: signs) = c :: joinSigns signs := by
  rw [joinSigns]

/-- A numbered sign stays apart unless it makes a pair with a numbered one after it. -/
theorem joinSigns_numbered (h : ∀ d after, signs = .numbered d :: after →
    ¬ (c.isHighSurrogate = true ∧ d.isLowSurrogate = true)) :
    joinSigns (.numbered c :: signs) = c :: joinSigns signs := by
  cases signs with
  | nil => rfl
  | cons sign after =>
    cases sign with
    | plain d => rw [joinSigns_plain, joinSigns]
    | numbered d => rw [joinSigns, if_neg (by simpa using h d after rfl)]

/-! ## Words and numerals -/

/-- The text cannot go on with a number: it ends, or goes on with a comma or a closing
bracket. -/
def EndsNumber (rest : Text) : Prop :=
  ∀ c ∈ rest.head?, c = ',' ∨ c = ']' ∨ c = '}'

theorem endsNumber_nil : EndsNumber [] := by
  simp [EndsNumber]

theorem endsNumber_cons (hc : c = ',' ∨ c = ']' ∨ c = '}') : EndsNumber (c :: rest) := by
  simpa [EndsNumber] using hc

theorem EndsNumber.not_digit (h : EndsNumber rest) :
    rest.takeWhile CodePoint.isAsciiDigit = [] ∧ rest.dropWhile CodePoint.isAsciiDigit = rest := by
  cases rest with
  | nil => exact ⟨rfl, rfl⟩
  | cons c rest =>
    have hc : c.isAsciiDigit = false := by
      rcases h c rfl with rfl | rfl | rfl <;> rfl
    rw [List.takeWhile_cons, List.dropWhile_cons, hc]
    exact ⟨rfl, rfl⟩

/-- A number that ends has neither a fraction nor an exponent. -/
theorem EndsNumber.scan (h : EndsNumber rest) :
    scanFraction rest = ([], rest) ∧ scanExponent rest = (none, rest) := by
  cases rest with
  | nil => exact ⟨rfl, rfl⟩
  | cons c rest =>
    have hc : c ≠ '.' ∧ ¬ (c = 'e' ∨ c = 'E') := by
      rcases h c rfl with rfl | rfl | rfl <;> decide
    exact ⟨if_neg hc.1, if_neg hc.2⟩

/-- The digits of a numeral are its integer part. -/
theorem scanIntegerPart_ofNat (n : Nat) (h : EndsNumber rest) :
    scanIntegerPart (ofNat n ++ rest) = (ofNat n, rest) := by
  obtain ⟨d, digits, hdigits, hd, hzero, hall⟩ := ofNat_cases n
  rw [hdigits, List.cons_append, scanIntegerPart]
  by_cases hd₀ : d = 0
  · rw [(hzero hd₀).2, hd₀]
    rfl
  · have hne : hexDigit d ≠ '0' := by
      intro hd'
      have hval := congrArg Fin.val hd'
      rw [val_hexDigit d hd] at hval
      change 0x30 + d = 0x30 at hval
      omega
    rw [if_neg hne, scanDigits, ← List.cons_append, ← hdigits,
      List.takeWhile_append_of_pos fun _ => isAsciiDigit_of_mem_ofNat,
      List.dropWhile_append_of_pos fun _ => isAsciiDigit_of_mem_ofNat, h.not_digit.1,
      h.not_digit.2, List.append_nil]

theorem scanMagnitude_ofNat (negative : Bool) {n : Nat} (hn : (ofNat n).length ≤ digitLimit)
    (h : EndsNumber rest) : scanMagnitude negative (ofNat n ++ rest) =
      some (.integer (if negative then -n else n), rest) := by
  obtain ⟨d, digits, hdigits, -⟩ := ofNat_cases n
  rw [scanMagnitude, scanIntegerPart_ofNat n h]
  rw [hdigits]
  simp only [h.scan.1, h.scan.2]
  rw [← hdigits, if_neg (by omega), digitsValue_ofNat]

/-- **A numeral is scanned as its integer**, if it has no more digits than are read. -/
theorem scanNumber_ofInt {n : Int} (hn : (ofNat n.natAbs).length ≤ digitLimit)
    (h : EndsNumber rest) : scanNumber (ofInt n ++ rest) = some (.integer n, rest) := by
  cases n with
  | ofNat n =>
    obtain ⟨d, digits, hdigits, hd, -⟩ := ofNat_cases n
    have hne : hexDigit d ≠ '-' := by
      intro hd'
      have := isAsciiDigit_hexDigit d hd
      rw [hd'] at this
      cases this
    have hscan := scanMagnitude_ofNat (n := n) false hn h
    rw [hdigits, List.cons_append] at hscan
    rw [ofInt, hdigits, List.cons_append, scanNumber, if_neg hne]
    exact hscan
  | negSucc n =>
    rw [ofInt, List.cons_append, scanNumber, if_pos rfl]
    exact scanMagnitude_ofNat true hn h

/-- A text that starts with a digit starts with no word. -/
theorem scanWord_digit {d : Nat} (hd : d < 10) : scanWord (hexDigit d :: s) = none := by
  interval_cases d <;> rfl

theorem scanWord_minus_digit {d : Nat} (hd : d < 10) :
    scanWord ('-' :: hexDigit d :: s) = none := by
  interval_cases d <;> rfl

/-- **An integer is scanned back.** -/
theorem scanAtom_ofInt {n : Int} (hn : (ofNat n.natAbs).length ≤ digitLimit)
    (h : EndsNumber rest) : scanAtom (ofInt n ++ rest) = .ok (.integer n, rest) := by
  have hword : scanWord (ofInt n ++ rest) = none := by
    cases n with
    | ofNat n =>
      obtain ⟨d, digits, hdigits, hd, -⟩ := ofNat_cases n
      rw [ofInt, hdigits]
      exact scanWord_digit hd
    | negSucc n =>
      obtain ⟨d, digits, hdigits, hd, -⟩ := ofNat_cases (n + 1)
      rw [ofInt, hdigits]
      exact scanWord_minus_digit hd
  rw [scanAtom, hword, scanNumber_ofInt hn h]
  rfl

/-- So are the words. -/
theorem scanAtom_null : scanAtom (text "null" ++ rest) = .ok (.null, rest) :=
  rfl

theorem scanAtom_boolean {b : Bool} :
    scanAtom (text (if b then "true" else "false") ++ rest) = .ok (.boolean b, rest) := by
  cases b <;> rfl

end Json

end AgentWorkshop
