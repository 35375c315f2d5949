import AgentWorkshop.Json.Reader
import AgentWorkshop.Proofs.Files.Effects
import AgentWorkshop.Proofs.Text.Scalar
import Mathlib

/-!
# Saving over an earlier document

A document that is saved holds its whole text. What was there before is lost only if the file of
the path can be opened and the text then cannot be written into it (`Empties`): its directories
were made, the file was emptied, and a surrogate is met. Whatever else keeps a document from being
saved leaves every file as it was (`saveJson_spares_iff`).
-/

namespace AgentWorkshop

namespace Files

open FileTree

variable {t t' t₁ : FileTree} {directory a b : Address} {p : Path} {v : Json} {f : Failure}
variable {bytes old : Bytes} {names : List Text}

/-! ## Trees that grow -/

/-- Names lead to a file as long as it stands there and the directories above it do. -/
theorem follow_of_grows (hgrows : t.Grows t')
    (h : follow t directory names = .ok (.taken a (.file old))) :
    follow t' directory names = .ok (.taken a (.file old)) := by
  have hkept {b : Address} {e : Entry} (hb : t.get? b = some e) : t'.get? b = some e := by
    rcases hgrows b with hsame | ⟨hfree, -⟩
    · rw [hsame, hb]
    · rw [hfree] at hb
      cases hb
  -- Directories that are made come to stand where names led nowhere before.
  induction names generalizing directory with
  | nil => cases h
  | cons name rest ih =>
    rw [follow_cons] at h ⊢
    by_cases hup : name = up
    · rw [if_pos hup] at h ⊢
      exact ih h
    rw [if_neg hup] at h ⊢
    by_cases hlong : nameLimit < byteCount name
    · rw [if_pos hlong] at h
      cases h
    rw [if_neg hlong] at h ⊢
    rcases hg : t.get? (directory ++ [name]) with _ | entry
    · rw [hg] at h
      cases rest <;> cases h
    rw [hkept hg]
    rw [hg] at h
    cases rest with
    | nil => exact h
    | cons next rest =>
      cases entry with
      | directory => exact ih h
      | file => cases h

/-- **What could be read can be read** after directories were made. -/
theorem contents_of_grows (hgrows : t.Grows t') (h : contents t directory p = .ok old) :
    contents t' directory p = .ok old := by
  have hp := hasNull_of_contents h
  rw [contents, hp, if_neg Bool.false_ne_true, locate_eq] at h ⊢
  by_cases hlong : pathLimit ≤ byteCount p.toText
  · rw [if_pos hlong] at h
    cases h
  rw [if_neg hlong] at h ⊢
  rcases hl : follow t (start directory p.anchor) p.parts with e | ⟨a, _ | was⟩ | a <;>
    rw [hl] at h <;> cases h
  rw [follow_of_grows hgrows hl]

/-! ## What saving destroys -/

/-- Every file stands as it did and no other one does, and what could be read is read. -/
structure Spares (directory : Address) (t t' : FileTree) : Prop where
  files : ∀ a bytes, t'.get? a = some (.file bytes) ↔ t.get? a = some (.file bytes)
  contents : ∀ p old, contents t directory p = .ok old → contents t' directory p = .ok old

theorem spares_of_grows (h : t.Grows t') : Spares directory t t' :=
  ⟨fun _ _ => h.file_iff, fun _ _ => contents_of_grows h⟩

/-- **Saving empties a file**: the path is ready and the text of the value holds a surrogate.
At the device that swallows everything there is nothing to lose, and an empty file stays one. -/
structure Empties (directory : Address) (p : Path) (v : Json) (t : FileTree) (a : Address) :
    Prop where
  ready : ∃ t₁, prepare directory p t = .ok a t₁
  unwritable : ¬ v.print.IsScalar
  kept : a ≠ nullDevice
  filled : t.get? a ≠ some (.file [])

/-- Filling a file of a tree that has grown changes that file alone. -/
theorem file_iff_of_fill (hgrows : t.Grows t₁) (hb : b ≠ a) :
    (t₁.fill a old).get? b = some (.file bytes) ↔ t.get? b = some (.file bytes) := by
  rw [get?_fill_of_ne hb, hgrows.file_iff]

/-- What is filled at the destination of a path stands there. -/
theorem get?_fill_of_destination (h : destination t directory p = .ok a) (ha : a ≠ nullDevice) :
    (t.fill a bytes).get? a = some (.file bytes) :=
  get?_fill_self (get?_of_ends (ends_follow h)).1 ha bytes

/-- The file that is emptied is empty, and no other one is touched. -/
theorem Empties.outcome (h : Empties directory p v t a) :
    ∃ run t', saveJson directory p v t = .error (.unencodable run) t' ∧
      contents t' directory p = .ok [] ∧ t'.get? a = some (.file []) ∧
      ∀ b, b ≠ a → ∀ bytes, t'.get? b = some (.file bytes) ↔ t.get? b = some (.file bytes) := by
  obtain ⟨t₁, hready⟩ := h.ready
  have hgrows : t.Grows t₁ := keeps_prepare.ok hready
  have hd := prepare_ok hready
  rcases saveJson_cases directory p v t with ⟨f, t₂, hprepare, -⟩ |
    ⟨c, t₂, run, hprepare, -, hsave⟩ | ⟨c, t₂, bytes, -, hbytes, -⟩
  · rw [hready] at hprepare
    cases hprepare
  · rw [hready] at hprepare
    cases hprepare
    exact ⟨run, _, hsave, contents_fill [] hd h.kept, get?_fill_of_destination hd h.kept,
      fun b hb bytes => file_iff_of_fill hgrows hb⟩
  · exact absurd (Utf8.encode_eq_ok_iff.1 hbytes).1 h.unwritable

/-- A text that cannot be written empties no file but at the device, or where one was empty. -/
theorem grows_of_not_empties {run : Utf8.Unencodable}
    (hprepare : prepare directory p t = .ok a t₁) (hrun : Utf8.encode v.print = .error run)
    (hnone : ¬ ∃ a, Empties directory p v t a) : t.Grows (t₁.fill a []) := by
  have hgrows : t.Grows t₁ := keeps_prepare.ok hprepare
  by_cases hnull : a = nullDevice
  · rwa [fill, if_pos hnull]
  -- Nothing is lost where an empty file is emptied again.
  have hempty : t.get? a = some (.file []) := by
    by_contra hfilled
    exact hnone ⟨a, ⟨t₁, hprepare⟩, Utf8.encode_eq_error_iff.1 ⟨run, hrun⟩, hnull, hfilled⟩
  intro b
  by_cases hb : b = a
  · rw [hb, get?_fill_of_destination (prepare_ok hprepare) hnull, hempty]
    exact .inl rfl
  · rw [get?_fill_of_ne hb]
    exact hgrows b

/-- **Saving destroys nothing unless it empties a file.** Once it succeeds the file of the path
holds the whole text, whatever was there before, and the other files are as they were; and where
it fails they all are, exactly if none was emptied. -/
theorem saveJson_spares_iff (directory : Address) (p : Path) (v : Json) (t : FileTree) :
    (∀ t', saveJson directory p v t = .ok () t' → ∃ a bytes,
      destination t' directory p = .ok a ∧ Utf8.encode v.print = .ok bytes ∧
      (a = nullDevice ∨ contents t' directory p = .ok bytes) ∧
      ∀ b, b ≠ a → ∀ other, t'.get? b = some (.file other) ↔ t.get? b = some (.file other)) ∧
    (∀ f t', saveJson directory p v t = .error f t' →
      (Spares directory t t' ↔ ¬ ∃ a, Empties directory p v t a)) ∧
    ∀ a, Empties directory p v t a → ∃ run t',
      saveJson directory p v t = .error (.unencodable run) t' ∧
      contents t' directory p = .ok [] ∧ t'.get? a = some (.file []) ∧
      ∀ b, b ≠ a → ∀ other, t'.get? b = some (.file other) ↔ t.get? b = some (.file other) := by
  refine ⟨fun t' hsaved => ?_, fun f t' hsaved => ?_, fun a h => h.outcome⟩
  · rcases saveJson_cases directory p v t with ⟨f, t₁, -, hs⟩ | ⟨a, t₁, run, -, -, hs⟩ |
      ⟨a, t₁, bytes, hprepare, hbytes, hs⟩ <;> rw [hs] at hsaved <;> cases hsaved
    have hd := prepare_ok hprepare
    refine ⟨a, bytes, destination_fill bytes hd, hbytes, ?_, fun b hb other =>
      file_iff_of_fill (keeps_prepare.ok hprepare) hb⟩
    by_cases hnull : a = nullDevice
    · exact .inl hnull
    · exact .inr (contents_fill bytes hd hnull)
  constructor
  · rintro hspares ⟨a, h⟩
    obtain ⟨run, t₂, hs, -, hempty, -⟩ := h.outcome
    rw [hs] at hsaved
    cases hsaved
    exact h.filled ((hspares.files a []).1 hempty)
  · intro hnone
    rcases saveJson_cases directory p v t with ⟨f₁, t₁, hprepare, hs⟩ |
      ⟨a, t₁, run, hprepare, hrun, hs⟩ | ⟨a, t₁, bytes, -, -, hs⟩ <;>
      rw [hs] at hsaved <;> cases hsaved
    · exact spares_of_grows (keeps_prepare.error hprepare).1
    · exact spares_of_grows (grows_of_not_empties hprepare hrun hnone)

/-- The path of some notes. -/
def notes : Path :=
  .ofText (text "notes.json")

/-- A tree with notes in it. -/
def noted : FileTree :=
  .place .empty [text "notes.json"] (.file ((text "[1]").flatMap Utf8.encodePoint))

set_option maxRecDepth 4000 in
/-- Notes are written over by an empty list. -/
theorem notes_replaced : ∃ t' bytes, saveJson [] notes (.array []) noted = .ok () t' ∧
    Utf8.encode (text "[]") = .ok bytes ∧ contents t' [] notes = .ok bytes := by
  obtain ⟨t', hsaved, hgoal⟩ : ∃ t', saveJson [] notes (.array []) noted = .ok () t' ∧
      destination t' [] notes = .ok [text "notes.json"] := ⟨_, by cbv, by cbv⟩
  obtain ⟨a, bytes, ha, hbytes, hnull | hcontents, -⟩ :=
    (saveJson_spares_iff [] notes (.array []) noted).1 t' hsaved
  · rw [hgoal] at ha
    exact absurd ((Except.ok.inj ha).trans hnull) (by decide)
  · exact ⟨t', bytes, hsaved, hbytes, hcontents⟩

set_option maxRecDepth 4000 in
/-- **An object with a surrogate is read, cannot be saved, and leaves nothing of the notes.** -/
theorem notes_emptied : ∃ v f t',
    Json.read (text "\x7b\"a\": \"\\ud800\"\x7d") = .ok v ∧
    contents noted [] notes = .ok ((text "[1]").flatMap Utf8.encodePoint) ∧
    saveJson [] notes v noted = .error f t' ∧ contents t' [] notes = .ok [] :=
  ⟨.object [(text "a", .string [⟨0xD800, by decide⟩])], _, _, by cbv, by cbv, by cbv, by cbv⟩

end Files

end AgentWorkshop
