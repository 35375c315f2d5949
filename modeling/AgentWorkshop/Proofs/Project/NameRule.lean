import AgentWorkshop.Proofs.Project.Course
import AgentWorkshop.Proofs.Project.Names

/-!
# Which names a project may have

A name is a text of letters, digits, underscores and hyphens of ASCII (`IsName`). Those are
accepted, and so is a name with one line feed after it (`accepts_iff`); every other text is
refused before anything is done. A project that is made stands directly in its directory, under
exactly the text that was accepted (`name_rule`), line feed included.
-/

namespace AgentWorkshop

namespace ProjectName

variable {name : Text} {c : CodePoint}

/-- A letter, a digit, an underscore or a hyphen. -/
def IsNamePoint (c : CodePoint) : Prop :=
  (('A' : CodePoint) ≤ c ∧ c ≤ 'Z') ∨ (('a' : CodePoint) ≤ c ∧ c ≤ 'z') ∨
    (('0' : CodePoint) ≤ c ∧ c ≤ '9') ∨ c = '_' ∨ c = '-'

/-- A text that has such code points only, and at least one. -/
structure IsName (t : Text) : Prop where
  nonempty : t ≠ []
  points : ∀ c ∈ t, IsNamePoint c

/-- A name with a line feed after it. -/
def IsNameAndFeed (t : Text) : Prop :=
  ∃ name, IsName name ∧ t = name ++ [('\n' : CodePoint)]

/-! ## What is accepted -/

theorem admits_iff : admits c = true ↔ IsNamePoint c := by
  simp only [admits, CodePoint.isAsciiLetter, CodePoint.isAsciiSmall, CodePoint.isAsciiCapital,
    CodePoint.isAsciiDigit, Bool.or_eq_true, Bool.and_eq_true, decide_eq_true_eq]
  -- Both sides are the same four alternatives, the two ranges of letters the other way round.
  constructor
  · rintro ((((hsmall | hcapital) | hdigit) | hunderscore) | hhyphen)
    · exact .inr (.inl hsmall)
    · exact .inl hcapital
    · exact .inr (.inr (.inl hdigit))
    · exact .inr (.inr (.inr (.inl hunderscore)))
    · exact .inr (.inr (.inr (.inr hhyphen)))
  · rintro (hcapital | hsmall | hdigit | hunderscore | hhyphen)
    · exact .inl (.inl (.inl (.inr hcapital)))
    · exact .inl (.inl (.inl (.inl hsmall)))
    · exact .inl (.inl (.inr hdigit))
    · exact .inl (.inr hunderscore)
    · exact .inr hhyphen

theorem accepts_of_isName (h : IsName name) : accepts name = true := by
  have hadmits : ∀ c ∈ name, admits c = true := by
    intro c hc
    exact admits_iff.2 (h.points c hc)
  have hrest : name.dropWhile admits = [] := List.dropWhile_eq_nil_iff.2 hadmits
  rw [accepts, hrest]
  simpa using h.nonempty

theorem accepts_of_isNameAndFeed (h : IsNameAndFeed name) : accepts name = true := by
  obtain ⟨base, hbase, rfl⟩ := h
  have hadmits : ∀ c ∈ base, admits c = true := by
    intro c hc
    exact admits_iff.2 (hbase.points c hc)
  have hrest : (base ++ [('\n' : CodePoint)]).dropWhile admits = [('\n' : CodePoint)] :=
    List.dropWhile_append_of_pos hadmits
  rw [accepts, hrest]
  simpa using hbase.nonempty

/-- **The texts that are accepted**: names, and names with a line feed after them. -/
theorem accepts_iff : accepts name = true ↔ IsName name ∨ IsNameAndFeed name := by
  refine ⟨fun h => ?_, fun h => h.elim accepts_of_isName accepts_of_isNameAndFeed⟩
  have hsplit := List.takeWhile_append_dropWhile (p := admits) (l := name)
  have hpoints : ∀ c ∈ name.takeWhile admits, IsNamePoint c := by
    intro c hc
    exact admits_iff.1 (List.mem_takeWhile_imp hc)
  rw [accepts] at h
  rcases hrest : name.dropWhile admits with _ | ⟨d, _ | ⟨d', rest⟩⟩ <;> rw [hrest] at h hsplit
  · rw [List.append_nil] at hsplit
    rw [hsplit] at hpoints
    exact .inl ⟨by simpa using h, hpoints⟩
  · obtain ⟨hfeed, hlength⟩ : d = '\n' ∧ name.length ≠ 1 := by simpa using h
    refine .inr ⟨name.takeWhile admits, ⟨?_, hpoints⟩, by rw [← hfeed, hsplit]⟩
    -- A line feed by itself is too short.
    intro hnone
    rw [hnone] at hsplit
    exact hlength (by rw [← hsplit]; rfl)
  · cases h

theorem check_eq_ok_iff : check name = .ok name ↔ IsName name ∨ IsNameAndFeed name := by
  rw [← accepts_iff, check]
  split <;> simp_all

theorem check_eq_error_iff :
    check name = .error (.badName name) ↔ ¬ (IsName name ∨ IsNameAndFeed name) := by
  rw [← accepts_iff, check]
  split <;> simp_all

end ProjectName

/-! ## Where a project stands -/

namespace Project

open ProjectName

variable {settings : ScaffoldSettings} {directory path : Path} {tpl : Template} {name : Text}
variable {w w' : Workshop}

/-- A project that is made has an accepted name, and its path is that of the name. -/
theorem path_of_create (h : create settings directory tpl name w = .ok path w') :
    accepts name = true ∧ path = directory.child name := by
  cases haccepts : accepts name with
  | false =>
    rw [create_of_not_accepts haccepts] at h
    cases h
  | true =>
    refine ⟨rfl, ?_⟩
    rw [create_of_accepts haccepts, Step.bind_apply] at h
    cases hfurnish : furnish settings (settings.templateDir.child tpl.directory)
        (directory.child name) name w with
    | error f w₁ =>
      rw [hfurnish] at h
      cases h
    | ok _ w₁ =>
      rw [hfurnish] at h
      dsimp only at h
      rw [setUp, Step.bind_apply] at h
      cases hperform : perform (setUpSteps settings directory (directory.child name)) w₁ with
      | error f w₂ =>
        rw [hperform] at h
        cases h
      | ok _ w₂ =>
        rw [hperform] at h
        cases h
        rfl

end Project

namespace ProjectName

open Project

/-- **The rule for names.** A text is returned as it is exactly if it is a name or a name with a
line feed after it, and refused otherwise; a refused text changes nothing. For an accepted one
the path of the project goes on from the directory with that text as its one further part, and
that is the path of every project that is made. -/
theorem name_rule (name : Text) :
    (check name = .ok name ↔ IsName name ∨ IsNameAndFeed name) ∧
    (check name = .error (.badName name) ↔ ¬ (IsName name ∨ IsNameAndFeed name)) ∧
    ∀ (settings : ScaffoldSettings) (directory : Path) (tpl : Template) (w : Workshop),
      (¬ (IsName name ∨ IsNameAndFeed name) →
        create settings directory tpl name w = .error (.badName name) w) ∧
      (IsName name ∨ IsNameAndFeed name →
        directory.child name = ⟨directory.anchor, directory.parts ++ [name]⟩) ∧
      ∀ path w', create settings directory tpl name w = .ok path w' →
        (IsName name ∨ IsNameAndFeed name) ∧
          path.parent = directory ∧ path.parts.getLast? = some name := by
  refine ⟨check_eq_ok_iff, check_eq_error_iff, fun settings directory tpl w => ⟨?_, ?_, ?_⟩⟩
  · intro hrefused
    rw [← accepts_iff, Bool.not_eq_true] at hrefused
    exact create_of_not_accepts hrefused tpl
  · intro haccepted
    exact child_of_accepts (accepts_iff.2 haccepted) directory
  · intro path w' hcreate
    obtain ⟨haccepts, rfl⟩ := path_of_create hcreate
    rw [child_of_accepts haccepts]
    refine ⟨accepts_iff.1 haccepts, ?_, List.getLast?_concat⟩
    rw [Path.parent, List.dropLast_concat]

/-- **A line feed passes**, and gets into the name of a directory. -/
theorem feed_is_accepted :
    check (text "demo\n") = .ok (text "demo\n") ∧ ¬ IsName (text "demo\n") ∧
      (⟨.here, []⟩ : Path).child (text "demo\n") = ⟨.here, [text "demo\n"]⟩ := by
  refine ⟨rfl, fun hname => ?_, by decide⟩
  have hfeed : IsNamePoint '\n' := hname.points _ (by decide)
  exact absurd (admits_iff.2 hfeed) (by decide)

end ProjectName

end AgentWorkshop
