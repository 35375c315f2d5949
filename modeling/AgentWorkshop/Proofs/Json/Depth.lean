import AgentWorkshop.Json.Reader

/-!
# Documents nested too deep

Reading opens at most `Json.nestingLimit` containers, one inside the other, so a document of more
opening brackets than that cannot be read (`readDocument_brackets`).
-/

namespace AgentWorkshop

namespace Json

/-- **Reading opens no more containers than the limit.** -/
theorem scanValue_brackets {depth n : Nat} (h : depth < n) (fuel : Nat) :
    scanValue (fuel + 1) depth (List.replicate n '[') = .error (.tooDeep .array) := by
  induction depth generalizing n with
  | zero =>
    obtain ⟨n, rfl⟩ := Nat.exists_eq_add_one.2 h
    rfl
  | succ depth ih =>
    obtain ⟨n, rfl⟩ := Nat.exists_eq_add_one.2 (Nat.zero_lt_of_lt h)
    have hinner := ih (Nat.lt_of_succ_lt_succ h)
    obtain ⟨n, rfl⟩ := Nat.exists_eq_add_one.2 (Nat.zero_lt_of_lt (Nat.lt_of_succ_lt_succ h))
    have helements : scanElements (scanValue (fuel + 1) depth) (fuel + 1)
        (List.replicate (n + 1) '[') = .error (.tooDeep .array) := by
      rw [scanElements, hinner]
      rfl
    -- Behind the first bracket an array is read, and its first element fails.
    change (scanElements (scanValue (fuel + 1) depth) (fuel + 1)
      (List.replicate (n + 1) '[')).map _ = _
    rw [helements]
    rfl

/-- Brackets are themselves in UTF-8. -/
theorem decodeFrom_brackets (n at_ : Nat) :
    Utf8.decodeFrom true at_ 0 (List.replicate n 0x5B) = .ok (List.replicate n '[') := by
  induction n generalizing at_ with
  | zero => rfl
  | succ n ih =>
    have hpiece : Utf8.piece true 0x5B (List.replicate n 0x5B) =
        { reading := .ok '[', extra := 0 } := by
      rw [Utf8.piece]
      rfl
    rw [List.replicate_succ, Utf8.decodeFrom]
    simp only [hpiece, ih]
    rfl

/-- So a text of opening brackets, if there are more than the limit, is nested too deep. -/
theorem read_brackets {n : Nat} (h : nestingLimit < n) :
    read (List.replicate n '[') = .error (.tooDeep .array) := by
  obtain ⟨k, rfl⟩ := Nat.exists_eq_add_one.2 (Nat.zero_lt_of_lt h)
  have hspace : skipSpace (List.replicate (k + 1) ('[' : CodePoint)) =
      List.replicate (k + 1) ('[' : CodePoint) := rfl
  rw [read, hspace, List.length_replicate, scanValue_brackets h]

/-- And so is a document of them. -/
theorem readDocument_brackets {n : Nat} (h : nestingLimit < n) :
    readDocument (List.replicate n 0x5B) = .error (.tooDeep .array) := by
  obtain ⟨k, rfl⟩ : ∃ k, n = k + 5 := ⟨n - 5, by rw [nestingLimit] at h; omega⟩
  have hencoding : Document.decode? (List.replicate (k + 5) 0x5B) =
      (Utf8.decodeFrom true 0 0 (List.replicate (k + 5) 0x5B)).toOption := rfl
  rw [readDocument, hencoding, decodeFrom_brackets]
  exact read_brackets h

end Json

end AgentWorkshop
