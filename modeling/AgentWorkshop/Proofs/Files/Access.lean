import AgentWorkshop.Files.Document
import AgentWorkshop.Proofs.Action
import AgentWorkshop.Proofs.Files.Tree

/-!
# Reading and writing by path

What reading a path gives is `Files.contents`, and the file that writing to it
fills is `Files.destination`; both depend on the tree alone. Whatever is
written at the destination of a path is read from the path afterwards
(`contents_fill`), because all the names before the last lead through
directories, which writing a file leaves alone. Saving a document fails in
three ways and no others (`saveJson_cases`, `prepare_error`): the operating
system objects, the path is deeper than directories are made, or the text
holds surrogates.
-/

namespace AgentWorkshop

namespace Files

/-- What reading a path gives. -/
def contents (t : FileTree) (directory : Address) (p : Path) : Except Failure Bytes :=
  if p.hasNull then .error .nullByte
  else
    match locate t directory p with
    | .ok (.taken _ (.file bytes)) => .ok bytes
    | .ok (.taken _ .directory) => .error (failure .isDirectory p)
    | .ok (.free _) => .error (failure .noEntry p)
    | .error e => .error (failure e p)

/-- The address of the file that writing to a path fills. -/
def destination (t : FileTree) (directory : Address) (p : Path) : Except Failure Address :=
  if p.hasNull then .error .nullByte
  else
    match locate t directory p with
    | .ok (.taken address (.file _)) => .ok address
    | .ok (.taken _ .directory) => .error (failure .isDirectory p)
    | .ok (.free address) => .ok address
    | .error e => .error (failure e p)

/-- Makes the directories that a path needs; the answer is the file that writing
to the path fills. -/
def prepare (directory : Address) (p : Path) : FileAction Address := do
  makeDirectories true directory p.parent
  target directory p

variable {t t' : FileTree} {directory : Address} {p : Path}

/-! ## Looking -/

theorem find_apply : find directory p t =
    if p.hasNull then .error .nullByte t
    else match locate t directory p with
      | .ok place => .ok place t
      | .error e => .error (failure e p) t := by
  rw [find]
  by_cases h : p.hasNull = true
  · rw [if_pos h, if_pos h]
    rfl
  · rw [if_neg h, if_neg h]
    simp only [Step.bind_apply, Step.get_apply]
    cases locate t directory p <;> rfl

/-- Reading gives the contents and changes nothing. -/
theorem read_apply : read directory p t = match contents t directory p with
    | .ok bytes => .ok bytes t
    | .error f => .error f t := by
  rw [read, Step.bind_apply, find_apply, contents]
  by_cases h : p.hasNull = true
  · rw [if_pos h, if_pos h]
  · rw [if_neg h, if_neg h]
    rcases locate t directory p with e | ⟨a, _ | bytes⟩ | a <;> rfl

/-- Finding where to write changes nothing. -/
theorem target_apply : target directory p t = match destination t directory p with
    | .ok address => .ok address t
    | .error f => .error f t := by
  rw [target, Step.bind_apply, find_apply, destination]
  by_cases h : p.hasNull = true
  · rw [if_pos h, if_pos h]
  · rw [if_neg h, if_neg h]
    rcases locate t directory p with e | ⟨a, _ | bytes⟩ | a <;> rfl

theorem target_ok {address : Address} (h : target directory p t = .ok address t') :
    t' = t ∧ destination t directory p = .ok address := by
  rw [target_apply] at h
  cases hd : destination t directory p with
  | error f => rw [hd] at h; cases h
  | ok a =>
    rw [hd] at h
    cases h
    exact ⟨rfl, rfl⟩

/-- A path without U+0000 can be read, or the operating system says why not. -/
theorem contents_error (hp : p.hasNull = false) {f : Failure}
    (h : contents t directory p = .error f) : ∃ e, f = .system e := by
  rw [contents, hp, if_neg Bool.false_ne_true] at h
  rcases hl : locate t directory p with e | ⟨a, _ | bytes⟩ | a <;> rw [hl] at h <;> cases h
  all_goals exact ⟨_, rfl⟩

/-- And written to, or the operating system says why not. -/
theorem destination_error (hp : p.hasNull = false) {f : Failure}
    (h : destination t directory p = .error f) : ∃ e, f = .system e := by
  rw [destination, hp, if_neg Bool.false_ne_true] at h
  rcases hl : locate t directory p with e | ⟨a, _ | bytes⟩ | a <;> rw [hl] at h <;> cases h
  all_goals exact ⟨_, rfl⟩

/-- A path that can be read is one without U+0000. -/
theorem hasNull_of_contents {bytes : Bytes} (h : contents t directory p = .ok bytes) :
    p.hasNull = false := by
  cases hp : p.hasNull with
  | false => rfl
  | true =>
    rw [contents, if_pos hp] at h
    cases h

/-- And so is one that can be written to. -/
theorem hasNull_of_destination {address : Address} (h : destination t directory p = .ok address) :
    p.hasNull = false := by
  cases hp : p.hasNull with
  | false => rfl
  | true =>
    rw [destination, if_pos hp] at h
    cases h

/-! ## Reading what was written -/

theorem follow_cons (name : Text) (rest : List Text) : follow t directory (name :: rest) =
    if name = up then follow t directory.dropLast rest
    else if nameLimit < byteCount name then .error .nameTooLong
    else match t.get? (directory ++ [name]), rest with
      | some entry, [] => .ok (.taken (directory ++ [name]) entry)
      | none, [] => .ok (.free (directory ++ [name]))
      | some .directory, rest => follow t (directory ++ [name]) rest
      | some (.file _), _ => .error .notDirectory
      | none, _ => .error .noEntry :=
  follow.eq_def t directory (name :: rest)

/-- One of the names that lead nowhere because one is too long is. -/
theorem exists_of_follow_tooLong {names : List Text}
    (h : follow t directory names = .error .nameTooLong) :
    ∃ name ∈ names, nameLimit < byteCount name := by
  induction names generalizing directory with
  | nil => cases h
  | cons name rest ih =>
    rw [follow_cons] at h
    by_cases hlong : nameLimit < byteCount name
    · exact ⟨name, List.mem_cons_self, hlong⟩
    rw [if_neg hlong] at h
    suffices hrest : ∃ d, follow t d rest = .error .nameTooLong by
      obtain ⟨d, hrest⟩ := hrest
      obtain ⟨other, hmem, hother⟩ := ih hrest
      exact ⟨other, List.mem_cons_of_mem _ hmem, hother⟩
    by_cases hup : name = up
    · rw [if_pos hup] at h
      exact ⟨_, h⟩
    rw [if_neg hup] at h
    cases rest with
    | nil => cases hg : t.get? (directory ++ [name]) <;> rw [hg] at h <;> cases h
    | cons next rest =>
      rcases hg : t.get? (directory ++ [name]) with _ | _ | old <;> rw [hg] at h
      · cases h
      · exact ⟨_, h⟩
      · cases h

/-- **A path that is too long** is so as a whole or in one name. -/
theorem long_of_locate (h : locate t directory p = .error .nameTooLong) :
    pathLimit ≤ byteCount p.toText ∨ ∃ name ∈ p.parts, nameLimit < byteCount name := by
  rw [locate] at h
  by_cases hlong : pathLimit ≤ byteCount p.toText
  · exact .inl hlong
  rw [if_neg hlong] at h
  cases hanchor : p.anchor <;> rw [hanchor] at h <;> exact .inr (exists_of_follow_tooLong h)

/-- Where a file may be written, as names lead there. -/
def Ends (place : Except Errno Place) (address : Address) : Prop :=
  place = .ok (.free address) ∨ ∃ bytes, place = .ok (.taken address (.file bytes))

/-- What stands where a file may be written is no directory. -/
theorem get?_of_ends {names : List Text} {address : Address}
    (h : Ends (follow t directory names) address) :
    address ≠ [] ∧ t.get? address ≠ some .directory := by
  induction names generalizing directory with
  | nil => rcases h with h | ⟨bytes, h⟩ <;> cases h
  | cons name rest ih =>
    rw [follow_cons] at h
    by_cases hup : name = up
    · rw [if_pos hup] at h
      exact ih h
    rw [if_neg hup] at h
    by_cases hlong : nameLimit < byteCount name
    · rw [if_pos hlong] at h
      rcases h with h | ⟨bytes, h⟩ <;> cases h
    rw [if_neg hlong] at h
    rcases hg : t.get? (directory ++ [name]) with _ | _ | old <;> rw [hg] at h
    · cases rest with
      | nil =>
        rcases h with h | ⟨bytes, h⟩ <;> cases h
        exact ⟨by simp, by simp [hg]⟩
      | cons => rcases h with h | ⟨bytes, h⟩ <;> cases h
    · cases rest with
      | nil => rcases h with h | ⟨bytes, h⟩ <;> cases h
      | cons => exact ih h
    · cases rest with
      | nil =>
        rcases h with h | ⟨bytes, h⟩ <;> cases h
        exact ⟨by simp, by simp [hg]⟩
      | cons => rcases h with h | ⟨bytes, h⟩ <;> cases h

/-- Names that lead to a file lead to what stands there. -/
theorem get?_of_follow {names : List Text} {a : Address} {bytes : Bytes}
    (h : follow t directory names = .ok (.taken a (.file bytes))) :
    t.get? a = some (.file bytes) := by
  induction names generalizing directory with
  | nil => cases h
  | cons name rest ih =>
    rw [follow_cons] at h
    by_cases hup : name = up
    · rw [if_pos hup] at h
      exact ih h
    rw [if_neg hup] at h
    by_cases hlong : nameLimit < byteCount name
    · rw [if_pos hlong] at h
      cases h
    rw [if_neg hlong] at h
    cases rest with
    | nil =>
      cases hg : t.get? (directory ++ [name]) <;> rw [hg] at h <;> cases h
      exact hg
    | cons next rest =>
      rcases hg : t.get? (directory ++ [name]) with _ | _ | old <;> rw [hg] at h
      · cases h
      · exact ih h
      · cases h

/-- **Names lead to a file after it was written there.** Every name but the
last leads to a directory, and a file is not written over one. -/
theorem follow_set {names : List Text} {address : Address} (bytes : Bytes)
    (h : Ends (follow t directory names) address) :
    follow (t.set address (.file bytes)) directory names =
      .ok (.taken address (.file bytes)) := by
  have hfree := get?_of_ends h
  induction names generalizing directory with
  | nil => rcases h with h | ⟨bytes, h⟩ <;> cases h
  | cons name rest ih =>
    rw [follow_cons] at h ⊢
    by_cases hup : name = up
    · rw [if_pos hup] at h ⊢
      exact ih h
    rw [if_neg hup] at h ⊢
    by_cases hlong : nameLimit < byteCount name
    · rw [if_pos hlong] at h
      rcases h with h | ⟨bytes, h⟩ <;> cases h
    rw [if_neg hlong] at h ⊢
    cases rest with
    | nil =>
      have haddress : address = directory ++ [name] := by
        rcases hg : t.get? (directory ++ [name]) with _ | _ | old <;> rw [hg] at h <;>
          rcases h with h | ⟨bytes, h⟩ <;> cases h
        all_goals rfl
      rw [haddress, FileTree.get?_set_self (by simp)]
    | cons next rest =>
      rcases hg : t.get? (directory ++ [name]) with _ | _ | old <;> rw [hg] at h
      · rcases h with h | ⟨bytes, h⟩ <;> cases h
      · -- A directory stands here, so this is not where the file was written.
        have hne : directory ++ [name] ≠ address := by
          rintro rfl
          exact hfree.2 hg
        rw [FileTree.get?_set_of_ne hne, hg]
        exact ih h
      · rcases h with h | ⟨bytes, h⟩ <;> cases h

theorem ends_of_destination {address : Address} (h : destination t directory p = .ok address) :
    Ends (locate t directory p) address := by
  rw [destination] at h
  by_cases hp : p.hasNull = true
  · rw [if_pos hp] at h
    cases h
  rw [if_neg hp] at h
  rcases hl : locate t directory p with e | ⟨a, _ | bytes⟩ | a <;> rw [hl] at h <;> cases h
  · exact .inr ⟨bytes, rfl⟩
  · exact .inl rfl

/-- **A file that is read is the one that would be written.** -/
theorem destination_of_contents {bytes : Bytes} (h : contents t directory p = .ok bytes) :
    ∃ a, destination t directory p = .ok a ∧ t.get? a = some (.file bytes) := by
  have hp := hasNull_of_contents h
  rw [contents, hp, if_neg Bool.false_ne_true] at h
  rw [destination, hp, if_neg Bool.false_ne_true]
  rcases hl : locate t directory p with e | ⟨a, _ | old⟩ | a <;> rw [hl] at h <;> cases h
  refine ⟨a, rfl, ?_⟩
  rw [locate] at hl
  by_cases hlong : pathLimit ≤ byteCount p.toText
  · rw [if_pos hlong] at hl
    cases hl
  rw [if_neg hlong] at hl
  cases hanchor : p.anchor <;> rw [hanchor] at hl <;> exact get?_of_follow hl

/-- A path leads to a file after it was written there. -/
theorem locate_set {address : Address} (bytes : Bytes)
    (h : Ends (locate t directory p) address) :
    locate (t.set address (.file bytes)) directory p = .ok (.taken address (.file bytes)) := by
  rw [locate] at h ⊢
  by_cases hlong : pathLimit ≤ byteCount p.toText
  · rw [if_pos hlong] at h
    rcases h with h | ⟨bytes, h⟩ <;> cases h
  rw [if_neg hlong] at h ⊢
  cases hanchor : p.anchor <;> rw [hanchor] at h <;> exact follow_set bytes h

/-- **What is written to a path is read from it**, except at the device that
swallows everything. -/
theorem contents_fill {address : Address} (bytes : Bytes)
    (h : destination t directory p = .ok address) (hnull : address ≠ FileTree.nullDevice) :
    contents (t.fill address bytes) directory p = .ok bytes := by
  rw [FileTree.fill, if_neg hnull, contents, hasNull_of_destination h, if_neg Bool.false_ne_true,
    locate_set bytes (ends_of_destination h)]

/-- And it is written to the same place the next time. -/
theorem destination_fill {address : Address} (bytes : Bytes)
    (h : destination t directory p = .ok address) :
    destination (t.fill address bytes) directory p = .ok address := by
  rw [FileTree.fill]
  split
  · exact h
  · rw [destination, hasNull_of_destination h, if_neg Bool.false_ne_true,
      locate_set bytes (ends_of_destination h)]

/-! ## Reading and writing texts -/

/-- Reading a text gives what the contents are decoded to, with its line endings made alike, and
changes nothing. -/
theorem readText_apply : readText directory p t = match contents t directory p with
    | .error f => .error f t
    | .ok bytes => match Utf8.decode bytes with
      | .ok s => .ok s.normalizeNewlines t
      | .error piece => .error (.undecodable piece) t := by
  rw [readText, Step.bind_apply, read_apply]
  cases contents t directory p with
  | error f => rfl
  | ok bytes =>
    dsimp only
    cases Utf8.decode bytes <;> rfl

/-- Writing a text fills the file of its path, with nothing if the text holds surrogates. -/
theorem writeText_apply (s : Text) :
    writeText directory p s t = match destination t directory p with
      | .error f => .error f t
      | .ok address => match Utf8.encode s with
        | .ok bytes => .ok () (t.fill address bytes)
        | .error run => .error (.unencodable run) (t.fill address []) := by
  rw [writeText, Step.bind_apply, target_apply]
  cases destination t directory p with
  | error f => rfl
  | ok address =>
    simp only [Step.bind_apply, Step.modify_apply]
    cases Utf8.encode s with
    | error run => rfl
    | ok bytes => simp only [Step.modify_apply, FileTree.fill_fill]

/-- A text that is read is in the contents, and reading it changes nothing. -/
theorem readText_ok {m : Text} (h : readText directory p t = .ok m t') :
    t' = t ∧ ∃ bytes s, contents t directory p = .ok bytes ∧ Utf8.decode bytes = .ok s ∧
      m = s.normalizeNewlines := by
  rw [readText_apply] at h
  cases hbytes : contents t directory p with
  | error f =>
    rw [hbytes] at h
    cases h
  | ok bytes =>
    rw [hbytes] at h
    dsimp only at h
    cases hdecoded : Utf8.decode bytes with
    | error piece =>
      rw [hdecoded] at h
      cases h
    | ok s =>
      rw [hdecoded] at h
      cases h
      exact ⟨rfl, bytes, s, rfl, hdecoded, rfl⟩

/-- A text that is written fills the file of its path. -/
theorem writeText_ok {s : Text} (h : writeText directory p s t = .ok () t') :
    ∃ address bytes, destination t directory p = .ok address ∧ Utf8.encode s = .ok bytes ∧
      t' = t.fill address bytes := by
  rw [writeText_apply] at h
  cases hd : destination t directory p with
  | error f =>
    rw [hd] at h
    cases h
  | ok address =>
    rw [hd] at h
    dsimp only at h
    cases hencoded : Utf8.encode s with
    | error run =>
      rw [hencoded] at h
      cases h
    | ok bytes =>
      rw [hencoded] at h
      cases h
      exact ⟨address, bytes, rfl, rfl, rfl⟩

/-! ## Making directories -/

section
variable {existing : Bool} {f : Failure}

theorem catch_apply {α : Type} {act : FileAction α} {rescue : Failure → FileAction α} :
    tryCatch act rescue t = match act t with
      | .ok a t => .ok a t
      | .error f t => rescue f t := by
  change EStateM.tryCatch act rescue t = _
  delta EStateM.tryCatch
  cases act t <;> rfl

theorem makeDirectory_error (hp : p.hasNull = false)
    (h : makeDirectory directory p t = .error f t') : ∃ e, f = .system e := by
  rw [makeDirectory, Step.bind_apply, find_apply, hp, if_neg Bool.false_ne_true] at h
  rcases hl : locate t directory p with e | ⟨a, entry⟩ | a <;> rw [hl] at h <;> cases h
  all_goals exact ⟨_, rfl⟩

/-- Looking for a directory fails by the length of its path only. -/
theorem isDirectory_error (h : isDirectory directory p t = .error f t') :
    f = failure .nameTooLong p ∧ locate t directory p = .error .nameTooLong := by
  rw [isDirectory] at h
  by_cases hp : p.hasNull = true
  · rw [if_pos hp] at h
    cases h
  rw [if_neg hp] at h
  simp only [Step.bind_apply, Step.get_apply] at h
  rcases hl : locate t directory p with e | ⟨a, _ | bytes⟩ | a <;> rw [hl] at h
  · cases e <;> cases h
    exact ⟨rfl, rfl⟩
  all_goals cases h

theorem allowExisting_error {e : SystemError}
    (h : allowExisting existing directory p (.system e) t = .error f t') :
    ∃ e, f = .system e := by
  rw [allowExisting] at h
  simp only [Step.bind_apply] at h
  cases hd : isDirectory directory p t with
  | error f' t'' =>
    rw [hd] at h
    cases h
    exact ⟨_, (isDirectory_error hd).1⟩
  | ok found t'' =>
    rw [hd] at h
    cases existing <;> cases found <;> cases h
    all_goals exact ⟨e, rfl⟩

/-- Making a directory that may be there already fails by the operating system. -/
theorem makeDirectory_allow_error (hp : p.hasNull = false)
    (h : tryCatch (makeDirectory directory p) (allowExisting existing directory p) t =
      .error f t') : ∃ e, f = .system e := by
  rw [catch_apply] at h
  cases hm : makeDirectory directory p t with
  | ok a t'' => rw [hm] at h; cases h
  | error f' t'' =>
    rw [hm] at h
    obtain ⟨e, rfl⟩ := makeDirectory_error hp hm
    exact allowExisting_error h

/-- **Making directories fails by the operating system or by depth**, and by
depth only if there are as many names as levels. -/
theorem makeDirectoriesUp_error {anchor : Anchor} {names : List Text} {levels : Nat}
    (hnames : ∀ name ∈ names, name.contains 0 = false)
    (h : makeDirectoriesUp existing directory anchor levels names t = .error f t') :
    (∃ e, f = .system e) ∨ f = .deepPath ∧ levels ≤ names.length := by
  -- The names stand in reverse, so each step of the induction goes one directory up and
  -- uses up one level. The answer for an existing directory differs from step to step.
  induction names generalizing existing levels t with
  | nil => exact .inl (makeDirectory_allow_error rfl h)
  | cons name above ih =>
    have hp : Path.hasNull ⟨anchor, (name :: above).reverse⟩ = false := by
      simpa [Path.hasNull, and_comm] using hnames
    rw [makeDirectoriesUp, catch_apply] at h
    cases hm : makeDirectory directory ⟨anchor, (name :: above).reverse⟩ t with
    | ok a t'' => rw [hm] at h; cases h
    | error f' t'' =>
      rw [hm] at h
      obtain ⟨e, rfl⟩ := makeDirectory_error hp hm
      dsimp only at h
      by_cases hmissing : (Failure.system e).isMissingEntry = true
      · rw [if_pos hmissing] at h
        by_cases hlevels : levels ≤ 1
        · rw [if_pos hlevels] at h
          cases h
          exact .inr ⟨rfl, by simp only [List.length_cons]; omega⟩
        rw [if_neg hlevels] at h
        simp only [Step.bind_apply] at h
        cases ha : makeDirectoriesUp true directory anchor (levels - 1) above t'' with
        | ok a t₃ =>
          rw [ha] at h
          exact .inl (makeDirectory_allow_error hp h)
        | error f₂ t₃ =>
          rw [ha] at h
          cases h
          rcases ih (fun n hn => hnames n (List.mem_cons_of_mem _ hn)) ha with hs | ⟨hd, hl⟩
          · exact .inl hs
          · exact .inr ⟨hd, by simp only [List.length_cons]; omega⟩
      · rw [if_neg hmissing] at h
        exact .inl (allowExisting_error h)

/-- Making the directories of a path, likewise. -/
theorem makeDirectories_error (hp : p.hasNull = false)
    (h : makeDirectories existing directory p t = .error f t') :
    (∃ e, f = .system e) ∨ f = .deepPath ∧ madeLimit ≤ p.parts.length := by
  have hnames : ∀ name ∈ p.parts.reverse, name.contains 0 = false := by
    simpa [Path.hasNull] using hp
  simpa using makeDirectoriesUp_error hnames h

theorem hasNull_parent (hp : p.hasNull = false) : p.parent.hasNull = false := by
  simp only [Path.hasNull, Path.parent, List.any_eq_false] at hp ⊢
  exact fun name hname => hp name (List.dropLast_subset _ hname)

end

/-! ## Saving a document -/

/-- **Preparing a path fails by the operating system or by depth**, and by depth
only if the path is deeper than directories are made. -/
theorem prepare_error (hp : p.hasNull = false) {f : Failure}
    (h : prepare directory p t = .error f t') :
    (∃ e, f = .system e) ∨ f = .deepPath ∧ madeLimit < p.parts.length := by
  rw [prepare, Step.bind_apply] at h
  cases hm : makeDirectories true directory p.parent t with
  | ok a t'' =>
    rw [hm] at h
    dsimp only at h
    rw [target_apply] at h
    cases hd : destination t'' directory p with
    | ok address => rw [hd] at h; cases h
    | error f' =>
      rw [hd] at h
      cases h
      exact .inl (destination_error hp hd)
  | error f' t'' =>
    rw [hm] at h
    cases h
    rcases makeDirectories_error (hasNull_parent hp) hm with he | ⟨hd, hl⟩
    · exact .inl he
    · simp only [Path.parent, List.length_dropLast] at hl
      have : 0 < madeLimit := by decide
      exact .inr ⟨hd, by omega⟩

/-- A prepared path leads to the file that was found for it. -/
theorem prepare_ok {address : Address} (h : prepare directory p t = .ok address t') :
    destination t' directory p = .ok address := by
  rw [prepare, Step.bind_apply] at h
  cases hm : makeDirectories true directory p.parent t with
  | error f t'' => rw [hm] at h; cases h
  | ok a t'' =>
    rw [hm] at h
    obtain ⟨rfl, hd⟩ := target_ok h
    exact hd

/-- **The three ways in which saving a document goes.** The path cannot be
prepared; or its file is left empty, because the text holds surrogates; or its
file holds the text. -/
theorem saveJson_cases (directory : Address) (p : Path) (v : Json) (t : FileTree) :
    (∃ f t', prepare directory p t = .error f t' ∧
      saveJson directory p v t = .error f t') ∨
    (∃ address t' run, prepare directory p t = .ok address t' ∧
      Utf8.encode v.print = .error run ∧
      saveJson directory p v t = .error (.unencodable run) (t'.fill address [])) ∨
    (∃ address t' bytes, prepare directory p t = .ok address t' ∧
      Utf8.encode v.print = .ok bytes ∧
      saveJson directory p v t = .ok () (t'.fill address bytes)) := by
  rw [prepare, saveJson, Step.bind_apply, Step.bind_apply]
  cases makeDirectories true directory p.parent t with
  | error f t' => exact .inl ⟨f, t', rfl, rfl⟩
  | ok a t' =>
    dsimp only
    rw [target_apply, writeText_apply]
    cases destination t' directory p with
    | error f => exact .inl ⟨f, t', rfl, rfl⟩
    | ok address =>
      dsimp only
      cases Utf8.encode v.print with
      | error run => exact .inr (.inl ⟨address, t', run, rfl, rfl, rfl⟩)
      | ok bytes => exact .inr (.inr ⟨address, t', bytes, rfl, rfl, rfl⟩)

theorem hasNull_of_saveJson {v : Json} (h : saveJson directory p v t = .ok () t') :
    p.hasNull = false := by
  rcases saveJson_cases directory p v t with ⟨f, t₁, -, hs⟩ | ⟨a, t₁, run, -, -, hs⟩ |
    ⟨a, t₁, bytes, hprepare, -, hs⟩ <;> rw [hs] at h <;> cases h
  exact hasNull_of_destination (prepare_ok hprepare)

/-- **A saved document is read back byte by byte**, unless its path leads to the
device that swallows everything. -/
theorem contents_of_saveJson {v : Json} (h : saveJson directory p v t = .ok () t') :
    ∃ bytes, Utf8.encode v.print = .ok bytes ∧
      (contents t' directory p = .ok bytes ∨
        destination t' directory p = .ok FileTree.nullDevice) := by
  rcases saveJson_cases directory p v t with ⟨f, t₁, -, hs⟩ | ⟨a, t₁, run, -, -, hs⟩ |
    ⟨a, t₁, bytes, hprepare, hbytes, hs⟩ <;> rw [hs] at h <;> cases h
  have hd := prepare_ok hprepare
  refine ⟨bytes, hbytes, ?_⟩
  by_cases hnull : a = FileTree.nullDevice
  · rw [hnull] at hd ⊢
    exact .inr (by rw [FileTree.fill, if_pos rfl]; exact hd)
  · exact .inl (contents_fill bytes hd hnull)

end Files

end AgentWorkshop
