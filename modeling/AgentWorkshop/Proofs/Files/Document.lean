import AgentWorkshop.Proofs.Chat.History
import AgentWorkshop.Proofs.Files.Access
import AgentWorkshop.Proofs.Json.RoundTrip
import AgentWorkshop.Proofs.Text.Utf8
import Mathlib

/-!
# Documents that are read back

A saved document is read back from its path as the value that it was, in three steps that
undo those of saving: the bytes are there, they are UTF-8, and the text is JSON
(`document_roundtrip`). Exact data without surrogates is always saved once its path is
prepared, and the messages of a history are such data (`exact_payload`).
-/

namespace AgentWorkshop

namespace Json

open Text

variable {depth : Nat} {v : Json}

theorem isScalar_of_ascii {t : Text} (h : ∀ c ∈ t, c.val < 0x7F) : IsScalar t := by
  intro c hc
  have hascii := h c hc
  simp only [CodePoint.isSurrogate, Bool.and_eq_false_iff, decide_eq_false_iff_not]
  omega

theorem isScalar_printMembers (ms : List (Text × Json)) : IsScalar (printMembers ms) ↔
    ∀ m ∈ ms, IsScalar m.1 ∧ IsScalar m.2.print := by
  induction ms with
  | nil => simp [printMembers]
  | cons m rest ih =>
    rw [printMembers_cons]
    by_cases hrest : rest = [] <;> simp_all [and_assoc]

/-- **Exact data is written without surrogates** if its texts have none. -/
theorem Exact.isScalar_print (h : Exact IsScalar depth v) : IsScalar v.print := by
  induction h with
  | null => exact isScalar_text _
  | boolean => exact isScalar_text _
  | integer => exact isScalar_of_ascii (ascii_ofInt _)
  | string text => exact (isScalar_printString _).2 text
  | array _ ih => simpa [print, isScalar_printElements] using ih
  | object _ keys _ ih =>
    simpa [print, isScalar_printMembers] using fun k v hm => ⟨keys (k, v) hm, ih (k, v) hm⟩

end Json

namespace History

open Json

variable {p : Text → Prop}

/-- **A message is read back from its fields.** -/
theorem ofFields_toJson (m : Message) : Message.ofFields m.toJson = .ok m := by
  obtain ⟨role, content⟩ := m
  cases role <;> rfl

/-- So is a history, message by message. -/
theorem mapM_ofFields (h : History) : (h.map Message.toJson).mapM Message.ofFields = .ok h := by
  induction h with
  | nil => rfl
  | cons m rest ih =>
    rw [List.map_cons, List.mapM_cons, ofFields_toJson, ih]
    rfl

/-- **What is sent of a history is exact data.** -/
theorem exact_payload {h : History} (hw : h.Writable) :
    Exact Text.IsScalar nestingLimit h.payload := by
  refine .array fun v hv => ?_
  obtain ⟨m, hm, rfl⟩ := List.mem_map.1 hv
  have hdistinct : [text "role", text "content"].Nodup := by decide
  have hrole : Text.IsScalar m.role.toText := by cases m.role <;> exact Text.isScalar_text _
  refine .object hdistinct ?_ ?_ <;> simp only [List.forall_mem_cons]
  · exact ⟨Text.isScalar_text _, Text.isScalar_text _, by simp⟩
  · exact ⟨.string hrole, .string (hw m hm), by simp⟩

end History

namespace Files

open Json

variable {t t' : FileTree} {directory : Address} {p : Path} {v : Json}

/-- Where the path leads there is a document that is read as the value. -/
def Holds (t : FileTree) (directory : Address) (p : Path) (v : Json) : Prop :=
  ∃ bytes s, contents t directory p = .ok bytes ∧ Utf8.decode bytes = .ok s ∧ Json.read s = .ok v

/-- **A saved document is read back**, unless its path leads to the device that swallows
everything. -/
theorem holds_of_saveJson {q : Text → Prop} (hv : Exact q nestingLimit v)
    (h : saveJson directory p v t = .ok () t') :
    destination t' directory p = .ok FileTree.nullDevice ∨ Holds t' directory p v := by
  obtain ⟨bytes, hbytes, hcontents | hnull⟩ := contents_of_saveJson h
  · exact .inr ⟨bytes, v.print, hcontents, Utf8.decode_encode hbytes, read_print hv⟩
  · exact .inl hnull

/-- **Nothing but its path keeps a document from being saved** if its texts have no
surrogates. -/
theorem saveJson_error_iff (hv : Exact Text.IsScalar nestingLimit v) {f : Failure} :
    saveJson directory p v t = .error f t' ↔ prepare directory p t = .error f t' := by
  rcases saveJson_cases directory p v t with ⟨f₁, t₁, hp, hs⟩ | ⟨a, t₁, run, hp, hrun, hs⟩ |
    ⟨a, t₁, bytes, hp, -, hs⟩
  · rw [hp, hs]
    constructor <;>
      · intro h
        cases h
        rfl
  · exact absurd hv.isScalar_print (Utf8.encode_eq_error_iff.1 ⟨run, hrun⟩)
  · rw [hp, hs]
    constructor <;>
      · intro h
        cases h

/-- A request of one question. -/
def question : History :=
  [⟨.user, text "hi"⟩]

end Files

end AgentWorkshop
