import AgentWorkshop.Project.Create
import AgentWorkshop.Proofs.Text.Scalar
import Mathlib.Data.List.TakeWhile

/-!
# Names in a project

A name that is accepted is one part of a path, and leads down (`ofText_of_accepts`). A
pattern without signs admits itself and nothing else (`admits_ofText`), so with the usual
settings two names are left out of a template (`isLeftOut_usual`).
-/

namespace AgentWorkshop

namespace Glob

/-- The code point stands for itself in a pattern. -/
def isPlain (c : CodePoint) : Bool :=
  c ≠ '*' && c ≠ '?' && c ≠ '['

variable {t : Text}

theorem parse_plain (h : t.all isPlain = true) : parse t.length t = t.map .point := by
  induction t with
  | nil => rfl
  | cons c rest ih =>
    rw [List.all_cons, Bool.and_eq_true] at h
    obtain ⟨hc, hrest⟩ := h
    obtain ⟨⟨hrun, hany⟩, hlist⟩ : (c ≠ '*' ∧ c ≠ '?') ∧ c ≠ '[' := by
      simpa only [isPlain, Bool.and_eq_true, decide_eq_true_eq] using hc
    rw [List.length_cons, parse, if_neg hrun, if_neg hany, if_neg hlist, ih hrest, List.map_cons]

theorem admits_points (t name : Text) : admits (t.map .point) name = decide (name = t) := by
  induction t generalizing name with
  | nil => cases name <;> rfl
  | cons c rest ih =>
    cases name with
    | nil => rfl
    | cons d name =>
      rw [List.map_cons, admits, ih, GlobPart.admits]
      · simp
      · simp

/-- **A pattern without signs** admits itself alone. -/
theorem admits_ofText (h : t.all isPlain = true) (name : Text) :
    (ofText t).admits name = decide (name = t) := by
  rw [ofText, parse_plain h, admits_points]

end Glob

/-- No part of a list is lost where separators are put between the parts. -/
theorem mem_intersperse {α : Type} {separator x : α} {parts : List α} (h : x ∈ parts) :
    x ∈ parts.intersperse separator := by
  fun_induction List.intersperse separator parts with
  | case1 => cases h
  | case2 => exact h
  | case3 first rest hrest ih =>
    rcases List.mem_cons.1 h with rfl | h
    · exact List.mem_cons_self
    · exact List.mem_cons_of_mem _ (List.mem_cons_of_mem _ (ih h))

namespace Path

/-- **A path stays without U+0000** if it goes on with a text without it. -/
theorem hasNull_child {p : Path} {t : Text} (hp : p.hasNull = false) (ht : t.contains 0 = false) :
    (p.child t).hasNull = false := by
  have hparts : ∀ part ∈ partsOf t, part.contains 0 = false := by
    intro part hpart
    rw [List.contains_eq_mem, decide_eq_false_iff_not] at ht ⊢
    refine fun hc => ht ?_
    have hjoined : List.intercalate [('/' : CodePoint)] (t.splitOn ('/' : CodePoint)) = t :=
      List.intercalate_splitOn _
    rw [← hjoined, List.intercalate, List.mem_flatten]
    exact ⟨part, mem_intersperse (List.mem_filter.1 hpart).1, hc⟩
  rw [child, join]
  cases (ofText t).anchor with
  | here =>
    rw [hasNull, List.any_append, Bool.or_eq_false_iff]
    exact ⟨hp, by simpa [ofText] using hparts⟩
  | top | doubleTop => simpa [hasNull, ofText] using hparts

end Path

namespace ProjectName

variable {name : Text}

/-- An accepted name has no code point but those of names and a line feed. -/
theorem mem_of_accepts (h : accepts name = true) {c : CodePoint} (hc : c ∈ name) :
    admits c = true ∨ c = '\n' := by
  rw [← List.takeWhile_append_dropWhile (p := admits) (l := name), List.mem_append] at hc
  rcases hc with hc | hc
  · exact .inl (List.mem_takeWhile_imp hc)
  · rw [accepts] at h
    rcases hrest : name.dropWhile admits with _ | ⟨d, _ | ⟨d', rest⟩⟩ <;> rw [hrest] at h hc
    · cases hc
    · simp_all
    · cases h

theorem ne_nil_of_accepts (h : accepts name = true) : name ≠ [] := by
  rintro rfl
  cases h

/-- No slash and no dot is in it. -/
theorem not_mem_of_accepts (h : accepts name = true) :
    ('/' : CodePoint) ∉ name ∧ ('.' : CodePoint) ∉ name := by
  constructor <;>
  · intro hc
    rcases mem_of_accepts h hc with hadmits | hfeed
    · exact absurd hadmits (by decide)
    · exact absurd hfeed (by decide)

/-- It is in ASCII, and no carriage return is in it. -/
theorem val_lt_of_accepts (h : accepts name = true) {c : CodePoint} (hc : c ∈ name) :
    c.val < 0x80 ∧ c ≠ ('\r' : CodePoint) := by
  rcases mem_of_accepts h hc with hadmits | rfl
  · have hreturn : admits ('\r' : CodePoint) = false := by decide
    refine ⟨?_, ?_⟩
    · have hscore : ('_' : CodePoint).val < 0x80 := by decide
      have hhyphen : ('-' : CodePoint).val < 0x80 := by decide
      simp only [admits, CodePoint.isAsciiLetter, CodePoint.isAsciiSmall,
        CodePoint.isAsciiCapital, CodePoint.isAsciiDigit, Bool.or_eq_true, Bool.and_eq_true,
        decide_eq_true_eq] at hadmits
      rcases hadmits with (((hsmall | hcapital) | hdigit) | rfl) | rfl <;> omega
    · rintro rfl
      rw [hreturn] at hadmits
      cases hadmits
  · decide

/-- So it can be written. -/
theorem isScalar_of_accepts (h : accepts name = true) : name.IsScalar := by
  intro c hc
  have hascii := (val_lt_of_accepts h hc).1
  simp only [CodePoint.isSurrogate, Bool.and_eq_false_iff, decide_eq_false_iff_not]
  omega

/-- And it does not lead up. -/
theorem ne_up_of_accepts (h : accepts name = true) : name ≠ Files.up := by
  rintro rfl
  exact (not_mem_of_accepts h).2 (by decide)

/-- **An accepted name is one part of a path.** -/
theorem ofText_of_accepts (h : accepts name = true) : Path.ofText name = ⟨.here, [name]⟩ := by
  obtain ⟨hslash, hdot⟩ := not_mem_of_accepts h
  have hanchor : Path.anchorOf name = .here := by
    obtain ⟨c, rest, rfl⟩ := List.exists_cons_of_ne_nil (ne_nil_of_accepts h)
    have hc : decide (c = '/') = false := decide_eq_false (List.ne_of_not_mem_cons hslash).symm
    rw [Path.anchorOf, List.takeWhile_cons, hc]
    rfl
  have hparts : Path.partsOf name = [name] := by
    have hne : name ≠ text "." := by
      rintro rfl
      exact hdot (by decide)
    rw [Path.partsOf, List.splitOn_eq_singleton hslash]
    simp [ne_nil_of_accepts h, hne]
  rw [Path.ofText, hanchor, hparts]

/-- The path of a project goes on with its name. -/
theorem child_of_accepts (h : accepts name = true) (directory : Path) :
    directory.child name = ⟨directory.anchor, directory.parts ++ [name]⟩ := by
  rw [Path.child, ofText_of_accepts h]
  rfl

/-- And is without U+0000. -/
theorem hasNull_child_of_accepts (h : accepts name = true) {directory : Path}
    (hdirectory : directory.hasNull = false) : (directory.child name).hasNull = false := by
  refine Path.hasNull_child hdirectory ?_
  rw [List.contains_eq_mem, decide_eq_false_iff_not]
  intro hmem
  rcases mem_of_accepts h hmem with hadmits | hfeed
  · exact absurd hadmits (by decide)
  · exact absurd hfeed (by decide)

end ProjectName

namespace Project

/-- **With the usual settings** two names are left out of a template. -/
theorem isLeftOut_usual {settings : ScaffoldSettings}
    (h : settings.gitignoreSource = ScaffoldSettings.usual.gitignoreSource) :
    isLeftOut settings =
      fun name => decide (name = text "gitignore" ∨ name = text "__pycache__") := by
  funext name
  have hplain : (text "gitignore").all Glob.isPlain = true := by decide
  have husual : settings.gitignoreSource = text "gitignore" := h
  rw [isLeftOut, husual, Glob.admits_ofText hplain, Bool.decide_or]

end Project

end AgentWorkshop
