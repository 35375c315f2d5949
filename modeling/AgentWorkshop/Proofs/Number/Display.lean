import AgentWorkshop.Number.Display
import AgentWorkshop.Proofs.Number.Binary64
import AgentWorkshop.Proofs.Text.Numeral

/-!
# What numbers are written with

However a number is written, no sign of it is anything but a digit, a sign before a number or an
exponent, a point or a letter of the few words (`Numeric`). So a number breaks no line, and
starts no tag.
-/

namespace AgentWorkshop

/-- The code points that numbers are written with. -/
def CodePoint.isNumeric (c : CodePoint) : Bool :=
  c.isAsciiDigit || (text "+-.aefins").contains c

namespace Text

variable {s t : Text}

/-- The text has digits, signs, points and the letters of a number only. -/
def Numeric (t : Text) : Prop :=
  ∀ c ∈ t, c.isNumeric = true

-- Only the code points of the text are to be looked at, not all that there are.
instance (t : Text) : Decidable (Numeric t) :=
  List.decidableBAll (fun c : CodePoint => c.isNumeric = true) t

theorem numeric_append : Numeric (t ++ s) ↔ Numeric t ∧ Numeric s :=
  List.forall_mem_append

/-- Nothing else is in it. -/
theorem Numeric.not_mem {c : CodePoint} (h : Numeric t) (hc : c.isNumeric = false) : c ∉ t := by
  intro hmem
  rw [h c hmem] at hc
  cases hc

theorem Numeric.take (h : Numeric t) (n : Nat) : Numeric (t.take n) :=
  fun c hc => h c (List.mem_of_mem_take hc)

theorem Numeric.drop (h : Numeric t) (n : Nat) : Numeric (t.drop n) :=
  fun c hc => h c (List.mem_of_mem_drop hc)

theorem numeric_ofNat (n : Nat) : Numeric (ofNat n) := by
  intro c hc
  rw [CodePoint.isNumeric, isAsciiDigit_of_mem_ofNat hc, Bool.true_or]

theorem numeric_ofInt (n : Int) : Numeric (ofInt n) := by
  cases n with
  | ofNat n => exact numeric_ofNat n
  | negSucc n => exact List.forall_mem_cons.2 ⟨by decide, numeric_ofNat _⟩

theorem numeric_zeros (n : Nat) : Numeric (List.replicate n ('0' : CodePoint)) := by
  intro c hc
  rw [List.eq_of_mem_replicate hc]
  decide

theorem Numeric.padZeros (h : Numeric t) (width : Nat) : Numeric (Text.padZeros width t) :=
  numeric_append.2 ⟨numeric_zeros _, h⟩

end Text

open Text

namespace FloatLayout

/-- The digits of a decimal, with a point or an exponent among them. -/
theorem numeric_write (l : FloatLayout) (d : Decimal) : Numeric (l.write d) := by
  have hdigits := numeric_ofNat d.digits
  rw [write]
  split
  · decide
  split
  · rw [plain]
    split
    · exact numeric_append.2 ⟨numeric_append.2 ⟨by decide, numeric_zeros _⟩, hdigits⟩
    split
    · exact numeric_append.2 ⟨numeric_append.2 ⟨hdigits, numeric_zeros _⟩, by decide⟩
    · exact numeric_append.2 ⟨numeric_append.2 ⟨hdigits.take _, by decide⟩, hdigits.drop _⟩
  · rw [scientific]
    refine numeric_append.2 ⟨numeric_append.2 ⟨numeric_append.2 ⟨hdigits.take 1, ?_⟩, ?_⟩,
      (numeric_ofNat _).padZeros _⟩
    · split
      · decide
      · exact numeric_append.2 ⟨by decide, hdigits.drop 1⟩
    · split <;> decide

end FloatLayout

namespace Binary64

theorem numeric_signed (negative : Bool) {t : Text} (h : Numeric t) :
    Numeric (signed negative t) := by
  cases negative
  · exact h
  · exact List.forall_mem_cons.2 ⟨by decide, h⟩

theorem numeric_fixed (places : Nat) (x : Binary64) : Numeric (x.fixed places) := by
  cases x with
  | nan =>
    rw [fixed]
    decide
  | infinite negative => exact numeric_signed negative (by decide)
  | finite negative m q =>
    exact numeric_signed negative (numeric_append.2
      ⟨numeric_append.2 ⟨numeric_ofNat _, by decide⟩, (numeric_ofNat _).padZeros _⟩)

theorem numeric_count (x : Binary64) : Numeric x.count := by
  rw [count]
  cases x.toInt? with
  | some n => exact numeric_ofInt n
  | none =>
    cases x with
    | nan =>
      dsimp only [display]
      decide
    | infinite negative => exact numeric_signed negative (by decide)
    | finite negative m q => exact numeric_signed negative (FloatLayout.numeric_write _ _)

/-- An integer of 53 bits is written with its digits. -/
theorem count_ofInt {n : Int} (h : n.natAbs ≤ 2 ^ 53) : (ofInt n).count = Text.ofInt n := by
  rw [count, toInt?_ofInt h]

end Binary64

end AgentWorkshop
