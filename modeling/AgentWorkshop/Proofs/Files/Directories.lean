import AgentWorkshop.Proofs.Files.Access
import Mathlib.Data.List.Basic
import Mathlib.Data.List.Induction
import Mathlib.Tactic.ByContra

/-!
# Making directories

Making the directories of a path adds directories and nothing else, each where a beginning
of the path leads (`Made`); what stood there stays, and a tree in which everything stands in
a directory remains one (`FileTree.Rooted`). A directory that may not be there already is
new (`makeDirectories_fresh`).
-/

namespace AgentWorkshop

namespace FileTree

/-- Whatever stands somewhere stands in a directory. -/
def Rooted (t : FileTree) : Prop :=
  ∀ a n, t.get? (a ++ [n]) ≠ none → t.get? a = some .directory

variable {t : FileTree} {a b : Address} {n : Text}

/-- It is enough to look at the entries. -/
theorem rooted_of_entries (h : ∀ e ∈ t.entries, t.get? e.1.dropLast = some .directory) :
    t.Rooted := by
  intro a n hthere
  obtain ⟨e, hmem⟩ := (get?_ne_none_iff (by simp)).1 hthere
  have habove := h _ hmem
  rwa [List.dropLast_concat] at habove

/-- The directory above a directory is one. -/
theorem Rooted.dropLast (hr : t.Rooted) (ha : t.get? a = some .directory) :
    t.get? a.dropLast = some .directory := by
  rcases a.eq_nil_or_concat' with rfl | ⟨b, n, rfl⟩
  · exact ha
  · rw [List.dropLast_concat]
    exact hr b n (by rw [ha]; simp)

/-- Nothing stands below a free address. -/
theorem Rooted.get?_append (hr : t.Rooted) (ha : t.get? a = none) (rest : Address) :
    t.get? (a ++ rest) = none := by
  induction rest using List.reverseRecOn with
  | nil => rwa [List.append_nil]
  | append_singleton rest n ih =>
    by_contra h
    rw [← List.append_assoc] at h
    rw [hr _ _ h] at ih
    cases ih

/-- And above what stands somewhere everything is a directory. -/
theorem Rooted.get?_of_append (hr : t.Rooted) {rest : Address} (hne : rest ≠ [])
    (h : t.get? (a ++ rest) ≠ none) : t.get? a = some .directory := by
  induction rest using List.reverseRecOn with
  | nil => exact absurd rfl hne
  | append_singleton rest n ih =>
    rw [← List.append_assoc] at h
    have habove := hr _ _ h
    by_cases hrest : rest = []
    · rwa [hrest, List.append_nil] at habove
    · exact ih hrest (by rw [habove]; simp)

/-- An entry that is put into a directory stands in one. -/
theorem Rooted.set (hr : t.Rooted) (hb : t.get? b = some .directory) {e : Entry}
    (he : e = .directory ∨ ∀ m, t.get? (b ++ [n] ++ [m]) = none) : (t.set (b ++ [n]) e).Rooted := by
  intro x m hx
  by_cases heq : x ++ [m] = b ++ [n]
  · obtain ⟨rfl, -⟩ := List.append_inj' heq rfl
    rwa [get?_set_of_ne (by simp)]
  · rw [get?_set_of_ne heq] at hx
    have hdir := hr x m hx
    by_cases hxa : x = b ++ [n]
    · rcases he with rfl | hfree
      · rw [hxa, get?_set_self (by simp)]
      · rw [hxa] at hx
        exact absurd (hfree m) hx
    · rwa [get?_set_of_ne hxa]

end FileTree

namespace Files

/-! ## Walks -/

/-- The names lead from one directory to another. -/
inductive Walks (t : FileTree) : Address → List Text → Address → Prop
  | stay {directory : Address} : Walks t directory [] directory
  | up {directory a : Address} {rest : List Text} (h : Walks t directory.dropLast rest a) :
    Walks t directory (up :: rest) a
  | down {directory a : Address} {name : Text} {rest : List Text} (hname : name ≠ Files.up)
    (hshort : ¬ nameLimit < byteCount name)
    (hthere : t.get? (directory ++ [name]) = some .directory)
    (h : Walks t (directory ++ [name]) rest a) : Walks t directory (name :: rest) a

variable {t t' : FileTree} {here directory a b : Address} {names more : List Text} {name : Text}
variable {p : Path} {anchor : Anchor}

/-- **Further names lead on** from where a walk ends. -/
theorem Walks.follow_append (h : Walks t directory names a) (more : List Text) :
    follow t directory (names ++ more) = follow t a more := by
  induction h with
  | stay => rfl
  | up _ ih => rw [List.cons_append, follow_cons, if_pos rfl, ih]
  | @down directory a name rest hname hshort hthere _ ih =>
    rw [List.cons_append, follow_cons, if_neg hname, if_neg hshort, hthere, ← ih]
    cases hrest : rest ++ more with
    | nil => rfl
    | cons => rfl

theorem Walks.follow (h : Walks t directory names a) :
    follow t directory names = .ok (.taken a .directory) := by
  have h := h.follow_append []
  rwa [List.append_nil] at h

/-- A free place is a free name in a directory that a walk leads to. -/
def FreeAt (t : FileTree) (directory : Address) (names : List Text) (a : Address) : Prop :=
  ∃ front b name, names = front ++ [name] ∧ a = b ++ [name] ∧ Walks t directory front b ∧
    name ≠ up ∧ ¬ nameLimit < byteCount name ∧ t.get? a = none

/-- **How names lead to a directory or to a free place**: by a walk, and to a free place by
one name more. -/
theorem walks_of_follow :
    (follow t directory names = .ok (.taken a .directory) → Walks t directory names a) ∧
    (follow t directory names = .ok (.free a) → FreeAt t directory names a) := by
  induction names generalizing directory with
  | nil =>
    constructor <;> intro h <;> cases h
    exact .stay
  | cons name rest ih =>
    rw [follow_cons]
    by_cases hup : name = up
    · rw [if_pos hup, hup]
      refine ⟨fun h => .up (ih.1 h), fun h => ?_⟩
      obtain ⟨front, b, last, rfl, ha, hwalk, hlast⟩ := ih.2 h
      exact ⟨up :: front, b, last, rfl, ha, .up hwalk, hlast⟩
    rw [if_neg hup]
    by_cases hlong : nameLimit < byteCount name
    · rw [if_pos hlong]
      constructor <;> intro h <;> cases h
    rw [if_neg hlong]
    rcases hg : t.get? (directory ++ [name]) with _ | _ | old
    · cases rest with
      | nil =>
        constructor <;> intro h <;> cases h
        exact ⟨[], directory, name, rfl, rfl, .stay, hup, hlong, hg⟩
      | cons => constructor <;> intro h <;> cases h
    · cases rest with
      | nil =>
        constructor <;> intro h <;> cases h
        exact .down hup hlong hg .stay
      | cons next rest =>
        refine ⟨fun h => .down hup hlong hg (ih.1 h), fun h => ?_⟩
        obtain ⟨front, b, last, hrest, ha, hwalk, hlast⟩ := ih.2 h
        rw [hrest]
        exact ⟨name :: front, b, last, rfl, ha, .down hup hlong hg hwalk, hlast⟩
    · cases rest <;> constructor <;> intro h <;> cases h

/-- A walk is one in every tree that has the same directories. -/
theorem Walks.mono (hkept : ∀ b, t.get? b = some .directory → t'.get? b = some .directory)
    (h : Walks t directory names a) : Walks t' directory names a := by
  induction h with
  | stay => exact .stay
  | up _ ih => exact .up ih
  | down hname hshort hthere _ ih => exact .down hname hshort (hkept _ hthere) ih

/-- A walk from a directory ends in one. -/
theorem Walks.get? (hr : t.Rooted) (hdirectory : t.get? directory = some .directory)
    (h : Walks t directory names a) : t.get? a = some .directory := by
  induction h with
  | stay => exact hdirectory
  | up _ ih => exact ih (hr.dropLast hdirectory)
  | down _ _ hthere _ ih => exact ih hthere

/-- A directory that is made in a free place is where the names lead. -/
theorem FreeAt.walks (h : FreeAt t directory names a) :
    Walks (t.set a .directory) directory names a := by
  obtain ⟨front, b, name, rfl, rfl, hwalk, hname, hshort, hfree⟩ := h
  have hkept : ∀ c, t.get? c = some .directory →
      (t.set (b ++ [name]) .directory).get? c = some .directory := by
    intro c hc
    rwa [FileTree.get?_set_of_ne]
    rintro rfl
    rw [hfree] at hc
    cases hc
  have hlast : Walks (t.set (b ++ [name]) .directory) b [name] (b ++ [name]) :=
    .down hname hshort (FileTree.get?_set_self (by simp)) .stay
  exact walks_of_follow.1 (((hwalk.mono hkept).follow_append [name]).trans hlast.follow)

/-- Names none of which leads up lead below where they start. -/
theorem Walks.eq_append (h : Walks t directory names a) (hnames : Files.up ∉ names) :
    a = directory ++ names := by
  induction h with
  | stay => rw [List.append_nil]
  | up => exact absurd List.mem_cons_self hnames
  | down _ _ _ _ ih => rw [ih (List.not_mem_of_not_mem_cons hnames), ← List.append_cons]

/-- What the place at an address is. -/
def placeAt (t : FileTree) (a : Address) : Place :=
  match t.get? a with
  | some entry => .taken a entry
  | none => .free a

/-- So whatever is found by them is the place that they spell. -/
theorem follow_eq_placeAt (hup : up ∉ names) (hne : names ≠ []) {place : Place}
    (h : follow t directory names = .ok place) : place = placeAt t (directory ++ names) := by
  induction names generalizing directory with
  | nil => exact absurd rfl hne
  | cons name rest ih =>
    obtain ⟨hname, hrest⟩ := List.ne_and_not_mem_of_not_mem_cons hup
    rw [follow_cons, if_neg hname.symm] at h
    by_cases hlong : nameLimit < byteCount name
    · rw [if_pos hlong] at h
      cases h
    rw [if_neg hlong] at h
    cases rest with
    | nil =>
      rw [placeAt]
      cases hg : t.get? (directory ++ [name]) <;> rw [hg] at h <;> cases h <;> rfl
    | cons next rest =>
      rcases hg : t.get? (directory ++ [name]) with _ | _ | old <;> rw [hg] at h
      · cases h
      · rw [List.append_cons]
        exact ih hrest (List.cons_ne_nil _ _) h
      · cases h

/-! ## Places -/

/-- Where a path starts. -/
def start (here : Address) : Anchor → Address
  | .here => here
  | _ => []

theorem locate_eq : locate t here p = if pathLimit ≤ byteCount p.toText then .error .nameTooLong
    else follow t (start here p.anchor) p.parts := by
  rw [locate]
  cases p.anchor <;> rfl

/-- The names of a path lead to where a file may be written. -/
theorem ends_follow (h : destination t here p = .ok a) :
    Ends (Files.follow t (start here p.anchor) p.parts) a := by
  have hends := ends_of_destination h
  rw [locate_eq] at hends
  by_cases hlong : pathLimit ≤ byteCount p.toText
  · rw [if_pos hlong] at hends
    rcases hends with h | ⟨bytes, h⟩ <;> cases h
  · rwa [if_neg hlong] at hends

/-- A file is written to no directory. -/
theorem get?_of_destination (h : destination t here p = .ok a) : t.get? a ≠ some .directory :=
  (get?_of_ends (ends_follow h)).2

/-- The path leads to a directory at the address. -/
def Leads (t : FileTree) (here : Address) (p : Path) (a : Address) : Prop :=
  locate t here p = .ok (.taken a .directory)

theorem leads_iff : Leads t here p a ↔
    ¬ pathLimit ≤ byteCount p.toText ∧ Walks t (start here p.anchor) p.parts a := by
  rw [Leads, locate_eq]
  by_cases hlong : pathLimit ≤ byteCount p.toText
  · simp [hlong]
  · rw [if_neg hlong]
    exact ⟨fun h => ⟨hlong, walks_of_follow.1 h⟩, fun h => h.2.follow⟩

/-- And to one only. -/
theorem Leads.unique (h : Leads t here p a) (h' : Leads t here p b) : a = b := by
  rw [Leads, h] at h'
  cases h'
  rfl

theorem Leads.mono (hkept : ∀ b, t.get? b = some .directory → t'.get? b = some .directory)
    (h : Leads t here p a) : Leads t' here p a :=
  leads_iff.2 ⟨(leads_iff.1 h).1, (leads_iff.1 h).2.mono hkept⟩

theorem get?_start (hhere : t.get? here = some .directory) (anchor : Anchor) :
    t.get? (start here anchor) = some .directory := by
  cases anchor
  · exact hhere
  · rfl
  · rfl

/-- In a tree where everything stands in a directory, a path leads to what is there. -/
theorem Leads.get? (hr : t.Rooted) (hhere : t.get? here = some .directory)
    (h : Leads t here p a) : t.get? a = some .directory :=
  (leads_iff.1 h).2.get? hr (get?_start hhere _)

/-- **What is found below a directory** stands at the address below that the names spell. -/
theorem Leads.locate_below (h : Leads t here p a) (hup : up ∉ more) (hne : more ≠ [])
    {place : Place} (hplace : locate t here ⟨p.anchor, p.parts ++ more⟩ = .ok place) :
    place = placeAt t (a ++ more) := by
  rw [locate_eq] at hplace
  dsimp only at hplace
  by_cases hlong : pathLimit ≤ byteCount (Path.toText ⟨p.anchor, p.parts ++ more⟩)
  · rw [if_pos hlong] at hplace
    cases hplace
  · rw [if_neg hlong, (leads_iff.1 h).2.follow_append] at hplace
    exact follow_eq_placeAt hup hne hplace

/-- A file that is read below a directory. -/
theorem Leads.get?_of_contents (h : Leads t here p a) (hup : up ∉ more) (hne : more ≠ [])
    {bytes : Bytes} (hread : contents t here ⟨p.anchor, p.parts ++ more⟩ = .ok bytes) :
    t.get? (a ++ more) = some (.file bytes) := by
  rw [contents, hasNull_of_contents hread, if_neg Bool.false_ne_true] at hread
  rcases hl : locate t here ⟨p.anchor, p.parts ++ more⟩ with e | ⟨b, _ | old⟩ | b <;>
    rw [hl] at hread <;> cases hread
  have hplace := h.locate_below hup hne hl
  rw [placeAt] at hplace
  cases hg : t.get? (a ++ more) <;> rw [hg] at hplace <;> cases hplace
  rfl

/-- A file that is written below a directory. -/
theorem Leads.eq_of_destination (h : Leads t here p a) (hup : up ∉ more) (hne : more ≠ [])
    (hwrite : destination t here ⟨p.anchor, p.parts ++ more⟩ = .ok b) : b = a ++ more := by
  rcases ends_of_destination hwrite with hl | ⟨bytes, hl⟩ <;>
    have hplace := h.locate_below hup hne hl <;> rw [placeAt] at hplace <;>
    cases hg : t.get? (a ++ more) <;> rw [hg] at hplace <;> cases hplace <;> rfl

/-- A beginning of a path leads above where the path leads, if no name leads up. -/
theorem Leads.above {front : List Text} (h : Leads t here ⟨anchor, front⟩ a)
    (h' : Leads t' here ⟨anchor, names⟩ b) (hfront : front <+: names) (hup : up ∉ names) :
    a <+: b := by
  rw [(leads_iff.1 h).2.eq_append fun hmem => hup (hfront.subset hmem),
    (leads_iff.1 h').2.eq_append hup]
  exact (List.prefix_append_right_inj _).2 hfront

/-- A path to a free place. -/
theorem freeAt_of_locate (h : locate t here p = .ok (.free a)) :
    ¬ pathLimit ≤ byteCount p.toText ∧ FreeAt t (start here p.anchor) p.parts a := by
  rw [locate_eq] at h
  by_cases hlong : pathLimit ≤ byteCount p.toText
  · rw [if_pos hlong] at h
    cases h
  · rw [if_neg hlong] at h
    exact ⟨hlong, walks_of_follow.2 h⟩

/-! ## Directories that are made -/

/-- From one tree to the other only directories were made, each where a beginning of the
names leads. -/
structure Made (here : Address) (anchor : Anchor) (names : List Text) (t t' : FileTree) :
    Prop where
  made : ∀ b, t'.get? b = t.get? b ∨ t.get? b = none ∧ t'.get? b = some .directory ∧
    ∃ front, front ≠ [] ∧ front <+: names ∧ Leads t' here ⟨anchor, front⟩ b
  rooted : t.Rooted → t.get? here = some .directory → t'.Rooted

/-- What stood there stays. -/
theorem Made.kept (h : Made here anchor names t t') {e : Entry} (hb : t.get? b = some e) :
    t'.get? b = some e := by
  rcases h.made b with hsame | ⟨hnone, -⟩
  · rw [hsame, hb]
  · rw [hnone] at hb
    cases hb

theorem Made.refl : Made here anchor names t t :=
  ⟨fun _ => .inl rfl, fun hr _ => hr⟩

/-- More directories may be made for a path that goes on. -/
theorem Made.trans {t'' : FileTree} {names' : List Text} (h : Made here anchor names t t')
    (h' : Made here anchor names' t' t'') (hnames : names <+: names') :
    Made here anchor names' t t'' := by
  refine ⟨fun b => ?_, fun hr hhere => h'.rooted (h.rooted hr hhere) (h.kept hhere)⟩
  rcases h'.made b with hsame | ⟨hnone, hmade, front, hne, hfront, hleads⟩
  · rw [hsame]
    rcases h.made b with hsame | ⟨hnone, hmade, front, hne, hfront, hleads⟩
    · exact .inl hsame
    · exact .inr ⟨hnone, hmade, front, hne, hfront.trans hnames, hleads.mono fun c => h'.kept⟩
  · rcases h.made b with hsame | ⟨hnone', hmade', -⟩
    · exact .inr ⟨by rw [← hsame, hnone], hmade, front, hne, hfront, hleads⟩
    · rw [hnone] at hmade'
      cases hmade'

/-- One directory is made in a free place. -/
theorem made_set (h : locate t here ⟨anchor, names⟩ = .ok (.free a)) :
    Made here anchor names t (t.set a .directory) ∧
      Leads (t.set a .directory) here ⟨anchor, names⟩ a ∧ t.get? a = none := by
  obtain ⟨hshort, hfree⟩ := freeAt_of_locate h
  have hleads : Leads (t.set a .directory) here ⟨anchor, names⟩ a :=
    leads_iff.2 ⟨hshort, hfree.walks⟩
  obtain ⟨front, b, name, hnames, rfl, hwalk, -, -, hnone⟩ := hfree
  have hne : names ≠ [] := by
    change names = front ++ [name] at hnames
    rw [hnames]
    simp
  refine ⟨⟨fun c => ?_, fun hr hhere => ?_⟩, hleads, hnone⟩
  · by_cases hc : c = b ++ [name]
    · rw [hc]
      exact .inr ⟨hnone, FileTree.get?_set_self (by simp), names, hne, List.prefix_rfl, hleads⟩
    · exact .inl (FileTree.get?_set_of_ne hc)
  · exact hr.set (hwalk.get? hr (get?_start hhere _)) (.inl rfl)

section
variable {existing : Bool} {f : Failure}

theorem makeDirectory_cases (here : Address) (p : Path) (t : FileTree) :
    (∃ a, locate t here p = .ok (.free a) ∧
      makeDirectory here p t = .ok () (t.set a .directory)) ∨
    ∃ f, makeDirectory here p t = .error f t := by
  rw [makeDirectory, Step.bind_apply, find_apply]
  by_cases hp : p.hasNull = true
  · rw [if_pos hp]
    exact .inr ⟨_, rfl⟩
  rw [if_neg hp]
  rcases hl : locate t here p with e | ⟨a, entry⟩ | a
  · exact .inr ⟨_, rfl⟩
  · exact .inr ⟨_, rfl⟩
  · exact .inl ⟨a, rfl, rfl⟩

/-- Looking for a directory changes nothing, whatever comes of it. -/
theorem isDirectory_apply (here : Address) (p : Path) (t : FileTree) :
    (∃ found, isDirectory here p t = .ok found t ∧ (found = true → ∃ a, Leads t here p a)) ∨
    ∃ f, isDirectory here p t = .error f t := by
  rw [isDirectory]
  by_cases hp : p.hasNull = true
  · rw [if_pos hp]
    exact .inl ⟨false, rfl, by simp⟩
  rw [if_neg hp]
  simp only [Step.bind_apply, Step.get_apply]
  rcases hl : locate t here p with e | ⟨a, _ | bytes⟩ | a
  · cases e
    all_goals first | exact .inr ⟨_, rfl⟩ | exact .inl ⟨false, rfl, by simp⟩
  · exact .inl ⟨true, rfl, fun _ => ⟨a, hl⟩⟩
  · exact .inl ⟨false, rfl, by simp⟩
  · exact .inl ⟨false, rfl, by simp⟩

/-- A path that leads to a directory is found. -/
theorem Leads.find (h : Leads t here p a) (hnull : p.hasNull = false) :
    find here p t = .ok (.taken a .directory) t := by
  rw [Leads] at h
  rw [find_apply, hnull, if_neg Bool.false_ne_true, h]

/-- And a directory that is found has a path that leads to it. -/
theorem leads_of_isDirectory (h : isDirectory here p t = .ok true t') :
    p.hasNull = false ∧ ∃ a, Leads t here p a := by
  refine ⟨?_, ?_⟩
  · by_contra hnull
    rw [Bool.not_eq_false] at hnull
    rw [isDirectory, if_pos hnull] at h
    cases h
  · rcases isDirectory_apply here p t with ⟨found, hfound, hleads⟩ | ⟨f, hfound⟩ <;>
      rw [hfound] at h <;> cases h
    exact hleads rfl

/-- A failure is passed over only where the path may lead to a directory that exists. -/
theorem allowExisting_ok (h : allowExisting existing here p f t = .ok () t') :
    t' = t ∧ existing = true := by
  cases f with
  | system e =>
    rw [allowExisting] at h
    simp only [Step.bind_apply] at h
    rcases isDirectory_apply here p t with ⟨found, hfound, -⟩ | ⟨f', hfound⟩
    · rw [hfound] at h
      cases existing <;> cases found <;> cases h
      exact ⟨rfl, rfl⟩
    · rw [hfound] at h
      cases h
  | _ => cases h

/-- The last directory is made in a free place, after those above it. -/
def MadeLast (here : Address) (anchor : Anchor) (names : List Text) (t t' : FileTree) : Prop :=
  ∃ t₁ a, Made here anchor names t t₁ ∧ t₁.get? a = none ∧ t' = t₁.set a .directory ∧
    Leads t' here ⟨anchor, names⟩ a

/-- Making a directory that may be there already. -/
theorem makeDirectory_allow_ok (h : tryCatch (makeDirectory here ⟨anchor, names⟩)
      (allowExisting existing here ⟨anchor, names⟩) t = .ok () t') :
    Made here anchor names t t' ∧ (existing = false → MadeLast here anchor names t t') := by
  rw [catch_apply] at h
  rcases makeDirectory_cases here ⟨anchor, names⟩ t with ⟨a, hfree, hmake⟩ | ⟨f, hmake⟩
  · rw [hmake] at h
    cases h
    obtain ⟨hmade, hleads, hnone⟩ := made_set hfree
    exact ⟨hmade, fun _ => ⟨t, a, .refl, hnone, rfl, hleads⟩⟩
  · rw [hmake] at h
    obtain ⟨rfl, hexisting⟩ := allowExisting_ok h
    exact ⟨.refl, fun hnew => by rw [hexisting] at hnew; cases hnew⟩

/-- **Making a directory and those above it.** -/
theorem makeDirectoriesUp_ok {levels : Nat}
    (h : makeDirectoriesUp existing here anchor levels names t = .ok () t') :
    Made here anchor names.reverse t t' ∧
      (existing = false → MadeLast here anchor names.reverse t t') := by
  -- Going up, the names get fewer and the directory above may be there already.
  induction names generalizing existing levels t' with
  | nil => exact makeDirectory_allow_ok h
  | cons name above ih =>
    rw [makeDirectoriesUp, catch_apply] at h
    rcases makeDirectory_cases here ⟨anchor, (name :: above).reverse⟩ t with
      ⟨a, hfree, hmake⟩ | ⟨f, hmake⟩
    · rw [hmake] at h
      cases h
      obtain ⟨hmade, hleads, hnone⟩ := made_set hfree
      exact ⟨hmade, fun _ => ⟨t, a, .refl, hnone, rfl, hleads⟩⟩
    rw [hmake] at h
    dsimp only at h
    by_cases hmissing : f.isMissingEntry = true
    · rw [if_pos hmissing] at h
      by_cases hlevels : levels ≤ 1
      · rw [if_pos hlevels] at h
        cases h
      rw [if_neg hlevels] at h
      simp only [Step.bind_apply] at h
      cases habove : makeDirectoriesUp true here anchor (levels - 1) above t with
      | error f t₁ =>
        rw [habove] at h
        cases h
      | ok u t₁ =>
        rw [habove] at h
        obtain ⟨hmade, hlast⟩ := makeDirectory_allow_ok h
        have hbefore := (ih habove).1
        have hstart : above.reverse <+: (name :: above).reverse := by
          rw [List.reverse_cons]
          exact List.prefix_append _ _
        refine ⟨hbefore.trans hmade hstart, fun hnew => ?_⟩
        obtain ⟨t₂, a, hmade₂, hlast⟩ := hlast hnew
        exact ⟨t₂, a, hbefore.trans hmade₂ hstart, hlast⟩
    · rw [if_neg hmissing] at h
      obtain ⟨rfl, hexisting⟩ := allowExisting_ok h
      exact ⟨.refl, fun hnew => by rw [hexisting] at hnew; cases hnew⟩

/-- **The directories of a path are made** where beginnings of it lead. -/
theorem made_of_makeDirectories (h : makeDirectories existing here p t = .ok () t') :
    Made here p.anchor p.parts t t' := by
  simpa using (makeDirectoriesUp_ok h).1

/-- **A directory that may not be there already is new**, and empty. -/
theorem makeDirectories_fresh (h : makeDirectories false here p t = .ok () t') :
    ∃ a, t.get? a = none ∧ Leads t' here p a ∧
      (t.Rooted → t.get? here = some .directory → ∀ rel, rel ≠ [] → t'.get? (a ++ rel) = none) := by
  have hlast := (makeDirectoriesUp_ok h).2 rfl
  rw [List.reverse_reverse] at hlast
  obtain ⟨t₁, a, hmade, hnone, rfl, hleads⟩ := hlast
  refine ⟨a, ?_, hleads, fun hr hhere rel hrel => ?_⟩
  · by_contra hthere
    obtain ⟨e, he⟩ := Option.ne_none_iff_exists'.1 hthere
    rw [hmade.kept he] at hnone
    cases hnone
  · rw [FileTree.get?_set_of_ne (by simpa using hrel)]
    exact (hmade.rooted hr hhere).get?_append hnone rel

theorem isMissingEntry_failure (e : Errno) (p : Path) :
    (failure e p).isMissingEntry = decide (e = .noEntry) := by
  cases e <;> rfl

/-- A failure to make a directory that may not be there is passed on, and looking whether it is
there fails in no other way. -/
theorem allowExisting_apply (hnull : p.hasNull = false) {e : Errno}
    (hplace : (∃ a entry, locate t here p = .ok (.taken a entry)) ∨ locate t here p = .error e) :
    allowExisting false here p (failure e p) t = .error (failure e p) t := by
  have hlook : (∃ found, isDirectory here p t = .ok found t) ∨
      isDirectory here p t = .error (failure e p) t := by
    rw [isDirectory, hnull, if_neg Bool.false_ne_true]
    simp only [Step.bind_apply, Step.get_apply]
    rcases hplace with ⟨a, _ | bytes, hplace⟩ | hplace <;> rw [hplace]
    · exact .inl ⟨true, rfl⟩
    · exact .inl ⟨false, rfl⟩
    · cases e <;> first | exact .inr rfl | exact .inl ⟨false, rfl⟩
  have hpass : allowExisting false here p (failure e p) t =
      (do
        let _ ← isDirectory here p
        throw (failure e p) : FileAction Unit) t := rfl
  rw [hpass, Step.bind_apply]
  rcases hlook with ⟨found, hlook⟩ | hlook <;> rw [hlook]
  rfl

/-- **A directory is made where its path leads to a free place**; otherwise nothing is changed,
unless a directory above it is missing. -/
theorem makeDirectories_apply (hnull : p.hasNull = false) (hne : p.parts ≠ [])
    (habove : locate t here p ≠ .error .noEntry) :
    makeDirectories false here p t = match locate t here p with
      | .ok (.free a) => .ok () (t.set a .directory)
      | .ok (.taken _ _) => .error (failure .exists p) t
      | .error e => .error (failure e p) t := by
  obtain ⟨name, names, hparts⟩ := List.exists_cons_of_ne_nil (List.reverse_ne_nil_iff.2 hne)
  have hp : (⟨p.anchor, (name :: names).reverse⟩ : Path) = p := by
    rw [← hparts, List.reverse_reverse]
  rw [makeDirectories, hparts, makeDirectoriesUp, hp, catch_apply, makeDirectory,
    Step.bind_apply, find_apply, hnull, if_neg Bool.false_ne_true]
  cases hplace : locate t here p with
  | ok place =>
    cases place with
    | free a => rfl
    | taken a entry => exact allowExisting_apply hnull (.inl ⟨a, entry, hplace⟩)
  | error e =>
    have hmissing : ¬ (failure e p).isMissingEntry = true := by
      rw [isMissingEntry_failure, decide_eq_true_eq]
      rintro rfl
      exact habove hplace
    dsimp only
    rw [if_neg hmissing]
    exact allowExisting_apply hnull (.inr hplace)

end

end Files

end AgentWorkshop
