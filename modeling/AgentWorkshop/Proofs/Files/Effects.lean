import AgentWorkshop.Proofs.Bounds
import AgentWorkshop.Proofs.Files.Arrival

/-!
# What work on files changes, and how it fails

Looking at files leaves them alone, making directories makes them where nothing stood and changes
nothing else (`FileTree.Grows`), also if it breaks off, and whatever is done with files fails by
one of the causes of `Failure.OfFiles`.
-/

namespace AgentWorkshop

/-- The causes by which work on files fails. -/
inductive Failure.OfFiles : Failure → Prop
  | system (e : SystemError) : OfFiles (.system e)
  | nullByte : OfFiles .nullByte
  | unencodable (run : Utf8.Unencodable) : OfFiles (.unencodable run)
  | undecodable (piece : Utf8.Undecodable) : OfFiles (.undecodable piece)
  | deepPath : OfFiles .deepPath
  | deepTree : OfFiles .deepTree

/-- From one tree to the other, directories were made where nothing stood. -/
def FileTree.Grows (t t' : FileTree) : Prop :=
  ∀ b, t'.get? b = t.get? b ∨ t.get? b = none ∧ t'.get? b = some .directory

namespace FileTree

variable {t t' u : FileTree} {a b : Address}

theorem Grows.refl (t : FileTree) : Grows t t :=
  fun _ => .inl rfl

theorem Grows.trans (h : Grows t u) (h' : Grows u t') : Grows t t' := by
  intro b
  rcases h' b with hlater | ⟨hfree, hmade⟩
  · rw [hlater]
    exact h b
  · rcases h b with hsame | ⟨-, hmade'⟩
    · exact .inr ⟨hsame ▸ hfree, hmade⟩
    · rw [hfree] at hmade'
      cases hmade'

theorem grows_set (h : t.get? a = none) : Grows t (t.set a .directory) := by
  intro b
  by_cases hb : b = a
  · have hne : a ≠ [] := by
      rintro rfl
      cases h
    rw [hb]
    exact .inr ⟨h, get?_set_self hne⟩
  · exact .inl (get?_set_of_ne hb)

/-- Files stay, and none comes into being. -/
theorem Grows.file_iff (h : Grows t t') {bytes : Bytes} :
    t'.get? a = some (.file bytes) ↔ t.get? a = some (.file bytes) := by
  rcases h a with hsame | ⟨hfree, hmade⟩
  · rw [hsame]
  · rw [hfree, hmade]
    simp

end FileTree

namespace Files

open Step

variable {α β : Type} {directory : Address} {p : Path} {t : FileTree}
variable {R : FileTree → FileTree → Prop}

/-- The action keeps to what `R` allows, and fails as work on files does. -/
abbrev Keeps (R : FileTree → FileTree → Prop) (act : FileAction α) : Prop :=
  Within R (fun _ => Failure.OfFiles) act

theorem composes_eq : Composes (· = ·) fun _ : FileTree => Failure.OfFiles :=
  ⟨fun _ => rfl, Eq.trans, fun _ h => h⟩

theorem composes_grows : Composes FileTree.Grows fun _ => Failure.OfFiles :=
  ⟨FileTree.Grows.refl, FileTree.Grows.trans, fun _ h => h⟩

/-- Anything may happen to the files. -/
theorem composes_true : Composes (fun _ _ => True) fun _ : FileTree => Failure.OfFiles :=
  ⟨fun _ => trivial, fun _ _ => trivial, fun _ h => h⟩

/-- What leaves the files alone does not make directories either. -/
theorem Keeps.grows {act : FileAction α} (h : Keeps (· = ·) act) : Keeps FileTree.Grows act :=
  h.mono (fun t _ heq => heq ▸ FileTree.Grows.refl t) fun _ _ hf => hf

theorem Keeps.free {act : FileAction α} (h : Keeps R act) : Keeps (fun _ _ => True) act :=
  h.mono (fun _ _ _ => trivial) fun _ _ hf => hf

/-! ## Looking -/

theorem ofFiles_of_contents {f : Failure} (h : contents t directory p = .error f) : f.OfFiles := by
  by_cases hp : p.hasNull = true
  · rw [contents, if_pos hp] at h
    cases h
    exact .nullByte
  · obtain ⟨e, rfl⟩ := contents_error (Bool.not_eq_true _ ▸ hp) h
    exact .system e

theorem ofFiles_of_destination {f : Failure} (h : destination t directory p = .error f) :
    f.OfFiles := by
  by_cases hp : p.hasNull = true
  · rw [destination, if_pos hp] at h
    cases h
    exact .nullByte
  · obtain ⟨e, rfl⟩ := destination_error (Bool.not_eq_true _ ▸ hp) h
    exact .system e

theorem keeps_find : Keeps (· = ·) (find directory p) := by
  intro t
  rw [find_apply]
  by_cases hp : p.hasNull = true
  · rw [if_pos hp]
    exact ⟨rfl, .nullByte⟩
  · rw [if_neg hp]
    cases locate t directory p with
    | ok place => exact rfl
    | error e => exact ⟨rfl, .system _⟩

theorem keeps_isDirectory : Keeps (· = ·) (isDirectory directory p) := by
  intro t
  rcases isDirectory_apply directory p t with ⟨found, hfound, -⟩ | ⟨f, hfound⟩
  · rw [hfound]
    exact rfl
  · rw [hfound, (isDirectory_error hfound).1]
    exact ⟨rfl, .system _⟩

theorem keeps_read : Keeps (· = ·) (read directory p) := by
  intro t
  rw [read_apply]
  cases hc : contents t directory p with
  | ok bytes => exact rfl
  | error f => exact ⟨rfl, ofFiles_of_contents hc⟩

theorem keeps_target : Keeps (· = ·) (target directory p) := by
  intro t
  rw [target_apply]
  cases hd : destination t directory p with
  | ok a => exact rfl
  | error f => exact ⟨rfl, ofFiles_of_destination hd⟩

theorem keeps_readText : Keeps (· = ·) (readText directory p) := by
  refine composes_eq.bind keeps_read fun bytes => ?_
  cases Utf8.decode bytes with
  | ok s => exact composes_eq.pure _
  | error piece => exact composes_eq.throw fun _ => .undecodable piece

/-! ## Making directories -/

theorem keeps_makeDirectory : Keeps FileTree.Grows (makeDirectory directory p) := by
  intro t
  rcases makeDirectory_cases directory p t with ⟨a, hfree, hmake⟩ | ⟨f, hmake⟩
  · rw [hmake]
    exact FileTree.grows_set (made_set hfree).2.2
  · rw [hmake]
    refine ⟨.refl t, ?_⟩
    by_cases hp : p.hasNull = true
    · rw [makeDirectory, Step.bind_apply, find_apply, if_pos hp] at hmake
      cases hmake
      exact .nullByte
    · obtain ⟨e, rfl⟩ := makeDirectory_error (Bool.not_eq_true _ ▸ hp) hmake
      exact .system e

theorem keeps_allowExisting (existing : Bool) {f : Failure} (hf : f.OfFiles) :
    Keeps (· = ·) (allowExisting existing directory p f) := by
  cases f with
  | system e =>
    refine composes_eq.bind keeps_isDirectory fun found => ?_
    split
    · exact composes_eq.pure _
    · exact composes_eq.throw fun _ => hf
  | _ => exact composes_eq.throw fun _ => hf

theorem keeps_makeDirectory_allow (directory : Address) (p : Path) (existing : Bool) :
    Keeps FileTree.Grows
      (tryCatch (makeDirectory directory p) (allowExisting existing directory p)) :=
  composes_grows.rescue keeps_makeDirectory fun _ _ hf => (keeps_allowExisting existing hf).grows

theorem keeps_makeDirectoriesUp (existing : Bool) (anchor : Anchor) (levels : Nat)
    (names : List Text) :
    Keeps FileTree.Grows (makeDirectoriesUp existing directory anchor levels names) := by
  -- Each step makes the directories above first, with one level less.
  induction names generalizing existing levels with
  | nil => exact keeps_makeDirectory_allow directory _ existing
  | cons name above ih =>
    refine composes_grows.rescue keeps_makeDirectory fun f _ hf => ?_
    split
    · refine composes_grows.guarded (composes_grows.throw fun _ => .deepPath) ?_
      exact composes_grows.bind (ih true (levels - 1)) fun _ =>
        keeps_makeDirectory_allow directory _ existing
    · exact (keeps_allowExisting existing hf).grows

/-- **Making the directories of a path**, also if it breaks off. -/
theorem keeps_makeDirectories (existing : Bool) :
    Keeps FileTree.Grows (makeDirectories existing directory p) :=
  keeps_makeDirectoriesUp existing _ _ _

/-- So preparing a path for its file leaves every file as it is. -/
theorem keeps_prepare : Keeps FileTree.Grows (prepare directory p) :=
  composes_grows.bind (keeps_makeDirectories true) fun _ => keeps_target.grows

/-! ## Writing and copying -/

theorem keeps_write (bytes : Bytes) : Keeps (fun _ _ => True) (write directory p bytes) :=
  composes_true.bind keeps_target.free fun _ => within_modify fun _ => trivial

theorem keeps_writeText (s : Text) : Keeps (fun _ _ => True) (writeText directory p s) := by
  refine composes_true.bind keeps_target.free fun a =>
    composes_true.bind (within_modify fun _ => trivial) fun _ => ?_
  cases Utf8.encode s with
  | ok bytes => exact within_modify fun _ => trivial
  | error run => exact composes_true.throw fun _ => .unencodable run

theorem keeps_saveJson (v : Json) : Keeps (fun _ _ => True) (saveJson directory p v) :=
  composes_true.bind (keeps_makeDirectories true).free fun _ => keeps_writeText _

theorem keeps_copyTree {ignored : Text → Bool} {levels : Nat} {source goal : Path}
    {sourceAddress goalAddress : Address} :
    Keeps (fun _ _ => True) (copyTree ignored levels source goal sourceAddress goalAddress) := by
  intro t
  cases hcopy : copyTree ignored levels source goal sourceAddress goalAddress t with
  | ok faults t' => exact trivial
  | error f t' =>
    rw [(copyTree_error hcopy).1]
    exact ⟨trivial, .deepTree⟩

theorem keeps_copyFile {source goal : Path} :
    Keeps (fun _ _ => True) (copyFile directory source goal) := by
  rw [copyFile]
  refine composes_true.guarded (composes_true.throw fun _ => .nullByte) ?_
  refine composes_true.bind composes_true.get fun t => ?_
  split
  · exact composes_true.pure _
  refine composes_true.rescue ?_ fun f _ hf => ?_
  · exact composes_true.bind keeps_read.free fun _ => composes_true.bind (keeps_write _) fun _ =>
      composes_true.pure _
  · cases f with
    | system e => exact composes_true.pure _
    | _ => exact composes_true.throw fun _ => hf

end Files

end AgentWorkshop
