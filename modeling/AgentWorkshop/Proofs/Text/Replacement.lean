import AgentWorkshop.Proofs.Text.Occurrence
import AgentWorkshop.Proofs.Text.Utf8
import Mathlib.Data.List.Infix

/-!
# Replacing the first occurrence

`Text.replaceFirst` replaces the leftmost of the places where a text occurs in another
(`firstReplaced_replaceFirst`). In UTF-8 a text occurs exactly where its bytes do
(`Utf8.occurrence_of_encoded`), so what is replaced in the text is replaced in the bytes
(`FirstReplaced.encoded`). Line endings are where the two part: a text whose line endings were
made alike holds no carriage return, so it is the text that it was made from exactly if that
held none.
-/

namespace AgentWorkshop

/-! ## The leftmost occurrence -/

section FirstReplaced

variable {α : Type} {old new before after before' after' whole result result' : List α} {x : α}

/-- The leftmost place where a list occurs in another, told by what stands before and after
it. -/
structure FirstAt (old before after whole : List α) : Prop where
  occurs : whole = before ++ old ++ after
  first : ∀ before' after', whole = before' ++ old ++ after' → before.length ≤ before'.length

/-- The leftmost occurrence of a list is replaced by another one and all else is kept; where it
does not occur, all is kept. -/
def FirstReplaced (old new whole result : List α) : Prop :=
  (∃ before after, FirstAt old before after whole ∧ result = before ++ new ++ after) ∨
    ¬ old <:+: whole ∧ result = whole

theorem FirstAt.unique (h : FirstAt old before after whole)
    (h' : FirstAt old before' after' whole) : before = before' ∧ after = after' := by
  have hlength : before.length = before'.length :=
    Nat.le_antisymm (h.first _ _ h'.occurs) (h'.first _ _ h.occurs)
  have heq := h.occurs.symm.trans h'.occurs
  rw [List.append_assoc, List.append_assoc] at heq
  obtain ⟨hbefore, hrest⟩ := List.append_inj heq hlength
  exact ⟨hbefore, List.append_cancel_left hrest⟩

theorem FirstAt.isInfix (h : FirstAt old before after whole) : old <:+: whole :=
  ⟨before, after, h.occurs.symm⟩

/-- **What comes of a replacement is determined.** -/
theorem FirstReplaced.unique (h : FirstReplaced old new whole result)
    (h' : FirstReplaced old new whole result') : result = result' := by
  rcases h with ⟨before, after, hfirst, rfl⟩ | ⟨hnot, rfl⟩ <;>
    rcases h' with ⟨before', after', hfirst', rfl⟩ | ⟨hnot', rfl⟩
  · obtain ⟨rfl, rfl⟩ := hfirst.unique hfirst'
    rfl
  · exact absurd hfirst.isInfix hnot'
  · exact absurd hfirst'.isInfix hnot
  · rfl

/-- What the replaced list does not hold is kept. -/
theorem FirstReplaced.mem (h : FirstReplaced old new whole result) (hx : x ∈ whole)
    (hold : x ∉ old) : x ∈ result := by
  rcases h with ⟨before, after, hfirst, rfl⟩ | ⟨-, rfl⟩
  · rw [hfirst.occurs] at hx
    simp only [List.mem_append, hold, or_false] at hx
    rcases hx with hx | hx <;> simp [hx]
  · exact hx

/-- And nothing comes in but with the new list. -/
theorem FirstReplaced.mem_or_mem (h : FirstReplaced old new whole result) (hx : x ∈ result) :
    x ∈ whole ∨ x ∈ new := by
  rcases h with ⟨before, after, hfirst, rfl⟩ | ⟨-, rfl⟩
  · rw [hfirst.occurs]
    simp only [List.mem_append] at hx ⊢
    rcases hx with (hx | hx) | hx <;> simp [hx]
  · exact .inl hx

end FirstReplaced

namespace Text

variable {t : Text}

/-- **The leftmost occurrence is what is replaced.** -/
theorem firstReplaced_replaceFirst (old new t : Text) :
    FirstReplaced old new t (replaceFirst old new t) := by
  induction t with
  | nil =>
    rw [replaceFirst]
    cases old with
    | nil => exact .inl ⟨[], [], ⟨rfl, fun _ _ _ => Nat.zero_le _⟩, by simp⟩
    | cons c old => exact .inr ⟨by simp, rfl⟩
  | cons c rest ih =>
    rw [replaceFirst]
    cases hbegins : old.isPrefixOf? (c :: rest) with
    | some after =>
      rw [List.isPrefixOf?_eq_some_iff_append_eq] at hbegins
      exact .inl ⟨[], after, ⟨hbegins.symm, fun _ _ _ => Nat.zero_le _⟩, rfl⟩
    | none =>
      have hnot : ¬ old <+: c :: rest := by
        rintro ⟨after, hafter⟩
        rw [List.isPrefixOf?_eq_some_iff_append_eq.2 hafter] at hbegins
        cases hbegins
      rcases ih with ⟨before, after, hfirst, hresult⟩ | ⟨hnone, hresult⟩
      · refine .inl ⟨c :: before, after, ⟨by rw [hfirst.occurs]; rfl, ?_⟩, by rw [hresult]; rfl⟩
        intro before' after' heq
        cases before' with
        | nil => exact absurd ⟨after', heq.symm⟩ hnot
        | cons d before' =>
          obtain ⟨-, heq⟩ := List.cons.inj heq
          exact Nat.succ_le_succ (hfirst.first _ _ heq)
      · refine .inr ⟨?_, by rw [hresult]⟩
        rw [List.infix_cons_iff, not_or]
        exact ⟨hnot, hnone⟩

theorem isScalar_replaceFirst {old new : Text} (hnew : IsScalar new) (ht : IsScalar t) :
    IsScalar (replaceFirst old new t) := fun _ hc =>
  ((firstReplaced_replaceFirst old new t).mem_or_mem hc).elim (ht _) (hnew _)

/-! ## Line endings -/

/-- No carriage return is left where line endings are made alike. -/
theorem not_mem_normalizeNewlines (t : Text) : ('\r' : CodePoint) ∉ t.normalizeNewlines := by
  have hfeed : ('\r' : CodePoint) ≠ '\n' := by decide
  fun_induction normalizeNewlines t with
  | case1 => simp
  | case2 => simp [hfeed]
  | case3 c hc => simpa [eq_comm] using hc
  | case4 rest ih => simp [hfeed, ih]
  | case5 d rest hd ih => simp [hfeed, ih]
  | case6 c d rest hc ih => simp [Ne.symm hc, ih]

/-- A text without carriage returns has its line endings alike. -/
theorem normalizeNewlines_eq_self (h : ('\r' : CodePoint) ∉ t) : t.normalizeNewlines = t := by
  fun_induction normalizeNewlines t with
  | case1 => rfl
  | case2 => simp at h
  | case3 => rfl
  | case4 | case5 => simp at h
  | case6 c d rest hc ih => rw [ih (List.not_mem_of_not_mem_cons h)]

theorem isScalar_normalizeNewlines (h : IsScalar t) : IsScalar t.normalizeNewlines := by
  have hfeed : CodePoint.isSurrogate '\n' = false := by decide
  fun_induction normalizeNewlines t <;> simp_all

end Text

namespace Utf8

open Text

/-! ## Occurrences in the bytes -/

/-- The byte continues a code point. -/
def Continues (b : Byte) : Prop :=
  0x80 ≤ b.val ∧ b.val < 0xC0

/-- The bytes from 0x80 to 0xBF. -/
theorem continues_ofNat {n : Nat} (hn : n < 0x40) :
    Continues (Fin.ofNat 256 (0x80 + n)) := by
  rw [Continues, val_ofNat (by omega)]
  omega

theorem not_continues_ofNat {n : Nat} (hn : n < 256) (h : n < 0x80 ∨ 0xC0 ≤ n) :
    ¬ Continues (Fin.ofNat 256 n) := by
  rw [Continues, val_ofNat hn]
  omega

/-- **Only the first byte of a code point starts one.** -/
theorem encodePoint_eq_cons (c : CodePoint) :
    ∃ b tail, encodePoint c = b :: tail ∧ ¬ Continues b ∧ ∀ x ∈ tail, Continues x := by
  have hmax : c.val < 0x110000 := c.isLt
  rw [encodePoint]
  split_ifs
  · exact ⟨_, [], rfl, not_continues_ofNat (by omega) (by omega), by simp⟩
  · refine ⟨_, _, rfl, not_continues_ofNat (by omega) (by omega), ?_⟩
    simp only [List.forall_mem_singleton]
    exact continues_ofNat (by omega)
  · refine ⟨_, _, rfl, not_continues_ofNat (by omega) (by omega), ?_⟩
    simp only [List.forall_mem_cons]
    exact ⟨continues_ofNat (by omega), continues_ofNat (by omega), by simp⟩
  · refine ⟨_, _, rfl, not_continues_ofNat (by omega) (by omega), ?_⟩
    simp only [List.forall_mem_cons]
    exact ⟨continues_ofNat (by omega), continues_ofNat (by omega), continues_ofNat (by omega),
      by simp⟩

variable {s p : Text} {b : Byte} {before after rest rest' : Bytes} {c d : CodePoint}

/-- Two code points whose bytes start some bytes are one. -/
theorem encodePoint_inj (hc : c.isSurrogate = false) (hd : d.isSurrogate = false)
    (h : encodePoint c ++ rest = encodePoint d ++ rest') : c = d ∧ rest = rest' := by
  obtain ⟨b, tail, hbytes, hpiece⟩ := exists_piece_encodePoint hc
  obtain ⟨b', tail', hbytes', hpiece'⟩ := exists_piece_encodePoint hd
  rw [hbytes, hbytes', List.cons_append, List.cons_append, List.cons.injEq] at h
  obtain ⟨rfl, h⟩ := h
  have heq := hpiece rest
  rw [h, hpiece', Piece.mk.injEq, Except.ok.injEq] at heq
  exact ⟨heq.1.symm, (List.append_inj h heq.2.symm).2⟩

/-- A text whose bytes start the bytes of another starts it. -/
theorem prefix_of_encoded (hs : IsScalar s) (hp : IsScalar p)
    (h : p.flatMap encodePoint <+: s.flatMap encodePoint) : p <+: s := by
  induction p generalizing s with
  | nil => exact List.nil_prefix
  | cons c p ih =>
    rw [isScalar_cons] at hp
    obtain ⟨b, tail, hbytes, -⟩ := encodePoint_eq_cons c
    obtain ⟨rest, h⟩ := h
    cases s with
    | nil => simp [hbytes] at h
    | cons d s =>
      rw [isScalar_cons] at hs
      rw [List.flatMap_cons, List.flatMap_cons, List.append_assoc] at h
      obtain ⟨hfirst, hrest⟩ := encodePoint_inj hp.1 hs.1 h
      rw [hfirst, List.prefix_cons_inj]
      exact ih hs.2 hp.2 ⟨rest, hrest⟩

/-- **Where the bytes of a text occur, the text does.** The first of them starts a code point,
so what stands before them is made of whole ones. -/
theorem occurrence_of_encoded (hs : IsScalar s) (hp : IsScalar p) (hne : p ≠ [])
    (h : s.flatMap encodePoint = before ++ p.flatMap encodePoint ++ after) :
    ∃ front back, s = front ++ p ++ back ∧ front.flatMap encodePoint = before := by
  -- The induction takes the code points before the occurrence off the text one by one.
  induction s generalizing before with
  | nil =>
    obtain ⟨c, p, rfl⟩ := List.exists_cons_of_ne_nil hne
    obtain ⟨b, tail, hbytes, -⟩ := encodePoint_eq_cons c
    simp [hbytes] at h
  | cons d s ih =>
    cases before with
    | nil =>
      obtain ⟨back, hback⟩ := prefix_of_encoded hs hp ⟨after, h.symm⟩
      exact ⟨[], back, hback.symm, rfl⟩
    | cons x before =>
      obtain ⟨b, tail, hbytes, -, htail⟩ := encodePoint_eq_cons d
      obtain ⟨c, p', rfl⟩ := List.exists_cons_of_ne_nil hne
      obtain ⟨b', tail', hbytes', hstart, -⟩ := encodePoint_eq_cons c
      rw [List.flatMap_cons, hbytes, List.cons_append, List.cons_append, List.cons_append,
        List.cons.injEq] at h
      obtain ⟨rfl, h⟩ := h
      rw [List.append_assoc] at h
      -- All bytes of the first code point stand before the occurrence.
      obtain ⟨before', rfl⟩ : tail <+: before := by
        rcases List.prefix_or_prefix_of_prefix ⟨_, h⟩ (List.prefix_append before _) with
          hwhole | ⟨more, rfl⟩
        · exact hwhole
        cases more with
        | nil => rw [List.append_nil]
        | cons y more =>
          rw [List.append_assoc, List.append_cancel_left_eq, List.flatMap_cons, hbytes',
            List.cons_append, List.cons_append, List.cons_append, List.cons.injEq] at h
          obtain ⟨rfl, -⟩ := h
          exact absurd (htail y (by simp)) hstart
      rw [List.append_assoc, List.append_cancel_left_eq, ← List.append_assoc] at h
      obtain ⟨front, back, hs', hfront⟩ := ih (isScalar_cons.1 hs).2 h
      refine ⟨d :: front, back, by rw [hs']; rfl, ?_⟩
      rw [List.flatMap_cons, hfront, hbytes]
      rfl

/-- A carriage return is one byte, and part of no other code point. -/
theorem mem_encodePoint_iff : (0x0D : Byte) ∈ encodePoint c ↔ c = ('\r' : CodePoint) := by
  have hmax : c.val < 0x110000 := c.isLt
  have hreturn : c = ('\r' : CodePoint) ↔ c.val = 0x0D := Fin.ext_iff
  have hlarge {n : Nat} (hn : n < 256) (h : 0x80 ≤ n) : (0x0D : Byte) ≠ Fin.ofNat 256 n := by
    rw [ne_eq, Fin.ext_iff, val_ofNat hn]
    exact Nat.ne_of_lt (Nat.lt_of_lt_of_le (by decide) h)
  rw [encodePoint]
  split_ifs with h₁ h₂ h₃
  · rw [List.mem_singleton, hreturn, Fin.ext_iff, val_ofNat (by omega)]
    exact eq_comm
  all_goals
    simp only [List.mem_cons, List.not_mem_nil, or_false, hreturn]
    constructor
    · intro h
      repeat' rcases h with h | h
      all_goals exact absurd h (hlarge (by omega) (by omega))
    · omega

theorem mem_flatMap_encodePoint_iff :
    (0x0D : Byte) ∈ s.flatMap encodePoint ↔ ('\r' : CodePoint) ∈ s := by
  simp [List.mem_flatMap, mem_encodePoint_iff]

end Utf8

/-! ## What is replaced in the text is replaced in the bytes -/

section encoded

open Utf8 Text

variable {old new before after whole result : Text}

theorem FirstAt.encoded (hwhole : IsScalar whole) (hold : IsScalar old)
    (h : FirstAt old before after whole) :
    FirstAt (old.flatMap encodePoint) (before.flatMap encodePoint) (after.flatMap encodePoint)
      (whole.flatMap encodePoint) := by
  refine ⟨by rw [h.occurs, List.flatMap_append, List.flatMap_append], fun before' after' heq => ?_⟩
  by_cases hne : old = []
  · -- Nothing stands before what is empty.
    have hnothing := h.first [] whole (by simp [hne])
    rw [List.length_nil, Nat.le_zero, List.length_eq_zero_iff] at hnothing
    simp [hnothing]
  · obtain ⟨front, back, hfront, rfl⟩ := occurrence_of_encoded hwhole hold hne heq
    have hfirst : before <+: front := by
      have hbegins : before <+: whole := by
        rw [h.occurs, List.append_assoc]
        exact List.prefix_append _ _
      refine List.prefix_of_prefix_length_le hbegins ?_ (h.first _ _ hfront)
      rw [hfront, List.append_assoc]
      exact List.prefix_append _ _
    obtain ⟨more, rfl⟩ := hfirst
    rw [List.flatMap_append, List.length_append]
    exact Nat.le_add_right _ _

/-- **What is replaced in a text is replaced in its bytes.** -/
theorem FirstReplaced.encoded (hwhole : IsScalar whole) (hold : IsScalar old)
    (h : FirstReplaced old new whole result) :
    FirstReplaced (old.flatMap encodePoint) (new.flatMap encodePoint)
      (whole.flatMap encodePoint) (result.flatMap encodePoint) := by
  rcases h with ⟨before, after, hfirst, rfl⟩ | ⟨hnot, rfl⟩
  · refine .inl ⟨_, _, hfirst.encoded hwhole hold, ?_⟩
    rw [List.flatMap_append, List.flatMap_append]
  · refine .inr ⟨?_, rfl⟩
    rintro ⟨before, after, heq⟩
    have hne : old ≠ [] := by
      rintro rfl
      exact hnot List.nil_infix
    obtain ⟨front, back, hfront, -⟩ := occurrence_of_encoded hwhole hold hne heq.symm
    exact hnot ⟨front, back, hfront.symm⟩

variable {s : Text} {oldBytes newBytes bytes bytes' : Bytes}

/-- **What is replaced with line endings made alike** is replaced in the bytes if they hold no
carriage return. -/
theorem firstReplaced_of_not_mem (hs : encode s = .ok bytes) (hold : encode old = .ok oldBytes)
    (hnew : encode new = .ok newBytes)
    (hresult : encode (replaceFirst old new s.normalizeNewlines) = .ok bytes')
    (hreturn : 0x0D ∉ bytes) : FirstReplaced oldBytes newBytes bytes bytes' := by
  obtain ⟨hscalar, rfl⟩ := encode_eq_ok_iff.1 hs
  obtain ⟨holdScalar, rfl⟩ := encode_eq_ok_iff.1 hold
  obtain ⟨-, rfl⟩ := encode_eq_ok_iff.1 hnew
  obtain ⟨-, rfl⟩ := encode_eq_ok_iff.1 hresult
  rw [normalizeNewlines_eq_self (mt mem_flatMap_encodePoint_iff.2 hreturn)]
  exact (firstReplaced_replaceFirst old new s).encoded hscalar holdScalar

/-- What does not occur is not replaced there: the bytes are kept. -/
theorem eq_of_not_infix (hs : encode s = .ok bytes)
    (hresult : encode (replaceFirst old new s.normalizeNewlines) = .ok bytes')
    (hreturn : 0x0D ∉ bytes) (hnot : ¬ old <:+: s) : bytes' = bytes := by
  obtain ⟨-, hbytes⟩ := encode_eq_ok_iff.1 hs
  rw [hbytes, mem_flatMap_encodePoint_iff] at hreturn
  rw [normalizeNewlines_eq_self hreturn,
    (firstReplaced_replaceFirst old new s).unique (.inr ⟨hnot, rfl⟩), hs] at hresult
  cases hresult
  rfl

/-- And in no other bytes, unless carriage returns are what is replaced: they would be kept, but
none is left. -/
theorem not_firstReplaced_of_mem
    (hresult : encode (replaceFirst old new s.normalizeNewlines) = .ok bytes')
    (hnew : encode new = .ok newBytes) (hreturn : 0x0D ∈ bytes) (hold : 0x0D ∉ oldBytes)
    (hnone : 0x0D ∉ newBytes) : ¬ FirstReplaced oldBytes newBytes bytes bytes' := by
  intro hreplaced
  obtain ⟨-, rfl⟩ := encode_eq_ok_iff.1 hresult
  obtain ⟨-, rfl⟩ := encode_eq_ok_iff.1 hnew
  rcases (firstReplaced_replaceFirst old new s.normalizeNewlines).mem_or_mem
    (mem_flatMap_encodePoint_iff.1 (hreplaced.mem hreturn hold)) with hmem | hmem
  · exact not_mem_normalizeNewlines s hmem
  · exact hnone (mem_flatMap_encodePoint_iff.2 hmem)

end encoded

end AgentWorkshop
