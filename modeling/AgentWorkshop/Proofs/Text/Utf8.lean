import AgentWorkshop.Proofs.Text.Scalar

/-!
# Reading what UTF-8 wrote

The bytes of a scalar value are one piece, which is read as that value
(`exists_piece_encodePoint`); so a text of scalar values is read back from its bytes
(`decode_encode`). The other way round, a piece that is read as a value is the bytes of that
value (`encodePoint_of_piece`): what can be read was written by the text that it is read as
(`decode_eq_ok_iff`).
-/

namespace AgentWorkshop

namespace Utf8

open Text

variable {pass : Bool} {b : Byte} {tail rest : Bytes} {c : CodePoint}

/-- The bytes that a leading byte asks for make it a code point. -/
theorem piece_eq_ok (extra payload low high : Nat)
    (hlead : lead? pass b = some ⟨extra, payload, low, high⟩)
    (htail : continuation low high extra (tail ++ rest) = tail) (hlength : tail.length = extra)
    (hc : tail.foldl (fun n b => n * 0x40 + b.val % 0x40) payload = c.val) :
    piece pass b (tail ++ rest) = ⟨.ok c, tail.length⟩ := by
  have hpoint : Fin.ofNat 0x110000 c.val = c := Fin.ofNat_val_eq_self c
  simp only [piece, hlead, htail, hc, hlength, hpoint, if_true]

theorem continuation_cons {low high extra : Nat} (hlow : low ≤ b.val) (hhigh : b.val ≤ high) :
    continuation low high (extra + 1) (b :: rest) = b :: continuation 0x80 0xBF extra rest := by
  rw [continuation, if_pos ⟨hlow, hhigh⟩]

@[simp] theorem continuation_zero {low high : Nat} : continuation low high 0 rest = [] := by
  rw [continuation]

/-- A byte of eight bits is itself. -/
theorem val_ofNat {n : Nat} (h : n < 256) : (Fin.ofNat 256 n : Byte).val = n :=
  Nat.mod_eq_of_lt h

/-- The leading byte of three, told by the number that is written. -/
theorem lead?_three {n : Nat} (hn : n < 0x10000) (hgap : n < 0xD800 ∨ 0xE000 ≤ n) :
    ∃ low high, lead? false (Fin.ofNat 256 (0xE0 + n / 0x1000)) =
        some ⟨2, n / 0x1000, low, high⟩ ∧
      (0x800 ≤ n → low ≤ 0x80 + n / 0x40 % 0x40) ∧ 0x80 + n / 0x40 % 0x40 ≤ high := by
  have hb : (Fin.ofNat 256 (0xE0 + n / 0x1000) : Byte).val = 0xE0 + n / 0x1000 :=
    val_ofNat (by omega)
  rw [lead?, hb, if_neg (by omega), if_neg (by omega), if_neg (by omega)]
  by_cases hE0 : n / 0x1000 = 0
  · rw [if_pos (by omega), hE0]
    exact ⟨0xA0, 0xBF, rfl, by omega, by omega⟩
  rw [if_neg (by omega)]
  by_cases hED : n / 0x1000 = 0xD
  · rw [if_pos (by omega), hED]
    exact ⟨0x80, 0x9F, rfl, by omega, by omega⟩
  rw [if_neg (by omega), if_pos (by omega), Nat.add_sub_cancel_left]
  exact ⟨0x80, 0xBF, rfl, by omega, by omega⟩

/-- The leading byte of four, likewise. -/
theorem lead?_four {n : Nat} (hn : n < 0x110000) :
    ∃ low high, lead? false (Fin.ofNat 256 (0xF0 + n / 0x40000)) =
        some ⟨3, n / 0x40000, low, high⟩ ∧
      (0x10000 ≤ n → low ≤ 0x80 + n / 0x1000 % 0x40) ∧ 0x80 + n / 0x1000 % 0x40 ≤ high := by
  have hb : (Fin.ofNat 256 (0xF0 + n / 0x40000) : Byte).val = 0xF0 + n / 0x40000 :=
    val_ofNat (by omega)
  rw [lead?, hb, if_neg (by omega), if_neg (by omega), if_neg (by omega), if_neg (by omega),
    if_neg (by omega), if_neg (by omega)]
  by_cases hF0 : n / 0x40000 = 0
  · rw [if_pos (by omega), hF0]
    exact ⟨0x90, 0xBF, rfl, by omega, by omega⟩
  rw [if_neg (by omega)]
  by_cases hF4 : n / 0x40000 = 4
  · rw [if_neg (by omega), if_pos (by omega), hF4]
    exact ⟨0x80, 0x8F, rfl, by omega, by omega⟩
  rw [if_pos (by omega), Nat.add_sub_cancel_left]
  exact ⟨0x80, 0xBF, rfl, by omega, by omega⟩

/-- **The bytes of a scalar value are one piece**, whatever follows them. -/
theorem exists_piece_encodePoint (hc : c.isSurrogate = false) :
    ∃ b tail, encodePoint c = b :: tail ∧
      ∀ rest, piece false b (tail ++ rest) = ⟨.ok c, tail.length⟩ := by
  have hmax : c.val < 0x110000 := c.isLt
  have hgap : c.val < 0xD800 ∨ 0xE000 ≤ c.val := by
    simp only [CodePoint.isSurrogate, Bool.and_eq_false_iff, decide_eq_false_iff_not] at hc
    omega
  generalize hn : c.val = n at *
  -- One case for each number of bytes.
  rw [encodePoint, hn]
  split_ifs with h₁ h₂ h₃
  · refine ⟨_, _, rfl, fun rest => piece_eq_ok 0 n 0x80 0xBF ?_ ?_ rfl hn.symm⟩
    · rw [lead?, val_ofNat (by omega), if_pos h₁]
    · rfl
  · refine ⟨_, _, rfl, fun rest => piece_eq_ok 1 (n / 0x40) 0x80 0xBF ?_ ?_ rfl ?_⟩
    · rw [lead?, val_ofNat (by omega), if_neg (by omega), if_neg (by omega), if_pos (by omega)]
      simp
    · rw [List.cons_append, continuation_cons, continuation_zero] <;>
        rw [val_ofNat (by omega)] <;> omega
    · simp only [List.foldl_cons, List.foldl_nil]
      rw [val_ofNat (by omega)]
      omega
  · obtain ⟨low, high, hlead, hlow, hhigh⟩ := lead?_three h₃ hgap
    refine ⟨_, _, rfl, fun rest => piece_eq_ok _ _ _ _ hlead ?_ rfl ?_⟩
    · rw [List.cons_append, List.cons_append, continuation_cons, continuation_cons,
        continuation_zero] <;> rw [val_ofNat (by omega)] <;> omega
    · simp only [List.foldl_cons, List.foldl_nil]
      rw [val_ofNat (by omega), val_ofNat (by omega)]
      omega
  · obtain ⟨low, high, hlead, hlow, hhigh⟩ := lead?_four hmax
    refine ⟨_, _, rfl, fun rest => piece_eq_ok _ _ _ _ hlead ?_ rfl ?_⟩
    · rw [List.cons_append, List.cons_append, List.cons_append, continuation_cons,
        continuation_cons, continuation_cons, continuation_zero] <;>
        rw [val_ofNat (by omega)] <;> omega
    · simp only [List.foldl_cons, List.foldl_nil]
      rw [val_ofNat (by omega), val_ofNat (by omega), val_ofNat (by omega)]
      omega

/-- The bytes that belong to a piece are passed over. -/
theorem decodeFrom_skip (at_ : Nat) (tail rest : Bytes) :
    decodeFrom pass at_ tail.length (tail ++ rest) =
      decodeFrom pass (at_ + tail.length) 0 rest := by
  induction tail generalizing at_ with
  | nil => rfl
  | cons b tail ih =>
    rw [List.cons_append, List.length_cons, decodeFrom, ih]
    congr 1
    omega

/-- A text of scalar values is read back, wherever its bytes start. -/
theorem decodeFrom_encode {t : Text} (ht : IsScalar t) (at_ : Nat) :
    decodeFrom false at_ 0 (t.flatMap encodePoint) = .ok t := by
  induction t generalizing at_ with
  | nil => rfl
  | cons c t ih =>
    rw [isScalar_cons] at ht
    obtain ⟨b, tail, hbytes, hpiece⟩ := exists_piece_encodePoint ht.1
    rw [List.flatMap_cons, hbytes, List.cons_append, decodeFrom]
    simp only [hpiece, decodeFrom_skip, ih ht.2]
    rfl

/-- **What UTF-8 writes is read back.** -/
theorem decode_encode {t : Text} {bytes : Bytes} (h : encode t = .ok bytes) :
    decode bytes = .ok t := by
  obtain ⟨ht, rfl⟩ := encode_eq_ok_iff.1 h
  exact decodeFrom_encode ht 0

/-! ## Only what was written is read -/

variable {lead : Lead} {low high extra k : Nat}

/-- What a leading byte asks for, told by the byte. -/
theorem lead?_cases (h : lead? false b = some lead) :
    (b.val < 0x80 ∧ lead.extra = 0 ∧ lead.payload = b.val) ∨
    (0xC2 ≤ b.val ∧ b.val < 0xE0 ∧ lead.extra = 1 ∧ lead.payload = b.val - 0xC0 ∧
      0x80 ≤ lead.low ∧ lead.high ≤ 0xBF) ∨
    (0xE0 ≤ b.val ∧ b.val < 0xF0 ∧ lead.extra = 2 ∧ lead.payload = b.val - 0xE0 ∧
      0x80 ≤ lead.low ∧ lead.high ≤ 0xBF ∧ (b.val = 0xE0 → 0xA0 ≤ lead.low) ∧
      (b.val = 0xED → lead.high ≤ 0x9F)) ∨
    (0xF0 ≤ b.val ∧ b.val < 0xF5 ∧ lead.extra = 3 ∧ lead.payload = b.val - 0xF0 ∧
      0x80 ≤ lead.low ∧ lead.high ≤ 0xBF ∧ (b.val = 0xF0 → 0x90 ≤ lead.low) ∧
      (b.val = 0xF4 → lead.high ≤ 0x8F)) := by
  rw [lead?] at h
  simp only [Bool.false_eq_true, if_false] at h
  repeat' split at h
  all_goals cases h
  all_goals dsimp only
  all_goals omega

/-- A continuation that is complete starts with a byte in its range. -/
theorem continuation_succ (h : (continuation low high (extra + 1) rest).length = extra + 1) :
    ∃ c more, rest = c :: more ∧ low ≤ c.val ∧ c.val ≤ high ∧
      (continuation 0x80 0xBF extra more).length = extra ∧
      continuation low high (extra + 1) rest = c :: continuation 0x80 0xBF extra more := by
  cases rest with
  | nil => simp [continuation] at h
  | cons c more =>
    rw [continuation] at h ⊢
    by_cases hc : low ≤ c.val ∧ c.val ≤ high
    · rw [if_pos hc] at h ⊢
      exact ⟨c, more, rfl, hc.1, hc.2, by simpa using h, rfl⟩
    · rw [if_neg hc] at h
      simp at h

/-- What a piece that is a code point is made of. -/
theorem piece_ok (h : piece false b rest = ⟨.ok c, k⟩) :
    ∃ lead, lead? false b = some lead ∧ lead.extra = k ∧
      (continuation lead.low lead.high lead.extra rest).length = lead.extra ∧
      c = Fin.ofNat 0x110000 ((continuation lead.low lead.high lead.extra rest).foldl
        (fun n b => n * 0x40 + b.val % 0x40) lead.payload) := by
  rw [piece] at h
  cases hlead : lead? false b with
  | none =>
    rw [hlead] at h
    cases h
  | some lead =>
    rw [hlead] at h
    dsimp only at h
    split_ifs at h with hlength
    · cases h
      exact ⟨lead, rfl, rfl, hlength, rfl⟩
    all_goals cases h

/-- A byte told by its number. -/
theorem ofNat_eq {n : Nat} (h : n = b.val) : (Fin.ofNat 256 n : Byte) = b := by
  rw [h, Fin.ofNat_val_eq_self]

/-- **A piece that is read as a value is the bytes of that value.** -/
theorem encodePoint_of_piece (h : piece false b rest = ⟨.ok c, k⟩) :
    ∃ tail more, rest = tail ++ more ∧ tail.length = k ∧ encodePoint c = b :: tail ∧
      c.isSurrogate = false := by
  obtain ⟨lead, hlead, rfl, hlength, hc⟩ := piece_ok h
  have hpoint {n : Nat} (hn : n < 0x110000) : (Fin.ofNat 0x110000 n : CodePoint).val = n :=
    Nat.mod_eq_of_lt hn
  have hsurrogate (hgap : c.val < 0xD800 ∨ 0xE000 ≤ c.val) : c.isSurrogate = false := by
    simp only [CodePoint.isSurrogate, Bool.and_eq_false_iff, decide_eq_false_iff_not]
    omega
  -- One case for each number of bytes.
  rcases lead?_cases hlead with ⟨hb, hextra, hpayload⟩ | ⟨hb, hb', hextra, hpayload, hlow, hhigh⟩ |
    ⟨hb, hb', hextra, hpayload, hlow, hhigh, hE0, hED⟩ |
    ⟨hb, hb', hextra, hpayload, hlow, hhigh, hF0, hF4⟩ <;> rw [hextra] at hlength hc ⊢
  · rw [continuation_zero, List.foldl_nil, hpayload] at hc
    have hval : c.val = b.val := by rw [hc, hpoint (by omega)]
    refine ⟨[], rest, rfl, rfl, ?_, hsurrogate (by omega)⟩
    rw [encodePoint, hval, if_pos hb, ofNat_eq rfl]
  · obtain ⟨x, more, rfl, hx, hx', hlength, hmore⟩ := continuation_succ hlength
    rw [hmore, continuation_zero, hpayload] at hc
    simp only [List.foldl_cons, List.foldl_nil] at hc
    have hval : c.val = (b.val - 0xC0) * 0x40 + x.val % 0x40 := by rw [hc, hpoint (by omega)]
    refine ⟨[x], more, rfl, rfl, ?_, hsurrogate (by omega)⟩
    rw [encodePoint, hval, if_neg (by omega), if_pos (by omega), ofNat_eq (b := b) (by omega),
      ofNat_eq (b := x) (by omega)]
  · obtain ⟨x, more, rfl, hx, hx', hlength, hmore⟩ := continuation_succ hlength
    obtain ⟨y, more, rfl, hy, hy', hlength, hmore'⟩ := continuation_succ hlength
    rw [hmore, hmore', continuation_zero, hpayload] at hc
    simp only [List.foldl_cons, List.foldl_nil] at hc
    have hval : c.val = ((b.val - 0xE0) * 0x40 + x.val % 0x40) * 0x40 + y.val % 0x40 := by
      rw [hc, hpoint (by omega)]
    refine ⟨[x, y], more, rfl, rfl, ?_, hsurrogate (by omega)⟩
    rw [encodePoint, hval, if_neg (by omega), if_neg (by omega), if_pos (by omega),
      ofNat_eq (b := b) (by omega), ofNat_eq (b := x) (by omega), ofNat_eq (b := y) (by omega)]
  · obtain ⟨x, more, rfl, hx, hx', hlength, hmore⟩ := continuation_succ hlength
    obtain ⟨y, more, rfl, hy, hy', hlength, hmore'⟩ := continuation_succ hlength
    obtain ⟨z, more, rfl, hz, hz', hlength, hmore''⟩ := continuation_succ hlength
    rw [hmore, hmore', hmore'', continuation_zero, hpayload] at hc
    simp only [List.foldl_cons, List.foldl_nil] at hc
    have hval : c.val = (((b.val - 0xF0) * 0x40 + x.val % 0x40) * 0x40 + y.val % 0x40) * 0x40 +
        z.val % 0x40 := by
      rw [hc, hpoint (by omega)]
    refine ⟨[x, y, z], more, rfl, rfl, ?_, hsurrogate (by omega)⟩
    rw [encodePoint, hval, if_neg (by omega), if_neg (by omega), if_neg (by omega),
      ofNat_eq (b := b) (by omega), ofNat_eq (b := x) (by omega), ofNat_eq (b := y) (by omega),
      ofNat_eq (b := z) (by omega)]

/-- What is read from some place on was written by the text that it is read as. -/
theorem encode_of_decodeFrom {bytes : Bytes} {t : Text} (at_ : Nat)
    (h : decodeFrom false at_ 0 bytes = .ok t) : encode t = .ok bytes := by
  -- Each piece leaves fewer bytes to read.
  induction hn : bytes.length using Nat.strong_induction_on generalizing bytes t at_ with
  | _ n ih =>
    cases bytes with
    | nil =>
      cases h
      rfl
    | cons b rest =>
      rw [decodeFrom] at h
      cases hreading : (piece false b rest).reading with
      | error flaw =>
        rw [hreading] at h
        cases h
      | ok c =>
        rw [hreading] at h
        obtain ⟨tail, more, rfl, hlength, hbytes, hc⟩ :=
          encodePoint_of_piece (k := (piece false b rest).extra) (by rw [← hreading])
        rw [← hlength] at h
        dsimp only at h
        rw [decodeFrom_skip] at h
        cases hmore : decodeFrom false (at_ + 1 + tail.length) 0 more with
        | error piece =>
          rw [hmore] at h
          cases h
        | ok s =>
          rw [hmore] at h
          cases h
          have hshorter : more.length < n := by
            rw [← hn, List.length_cons, List.length_append]
            omega
          have hs := ih more.length hshorter _ hmore rfl
          obtain ⟨hscalar, rfl⟩ := encode_eq_ok_iff.1 hs
          rw [encode_eq_ok_iff, isScalar_cons, List.flatMap_cons, hbytes]
          exact ⟨⟨hc, hscalar⟩, rfl⟩

/-- **UTF-8 is read as the text that writes it**, and nothing else can be read. -/
theorem decode_eq_ok_iff {bytes : Bytes} {t : Text} :
    decode bytes = .ok t ↔ encode t = .ok bytes :=
  ⟨encode_of_decodeFrom 0, decode_encode⟩

end Utf8

end AgentWorkshop
