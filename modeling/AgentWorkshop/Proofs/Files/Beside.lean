import AgentWorkshop.Proofs.Abreast
import AgentWorkshop.Proofs.Files.Copy

/-!
# Work in one directory

What is done in one directory leaves everything beside it as it is (`Beside`). And what is done
there depends on little: on what stands in it and on what is read elsewhere. So if two trees
hold the same in that directory (`Matched`), and the same where something is read (`Shared`),
then copying, reading and writing go abreast in them, though the trees may differ wherever
else. That holds of a copy that fails midway as well: names are listed in the same order.
-/

namespace AgentWorkshop

namespace FileTree

variable {t : FileTree} {a d : Address} {e : Entry}

/-- What is read off the entries one by one does not change with an entry that is passed
over. -/
theorem filterMap_set {β : Type} {f : Address × Entry → Option β} (hf : ∀ e, f (a, e) = none) :
    (t.set a e).entries.filterMap f = t.entries.filterMap f := by
  rw [set, List.filterMap_cons_none (hf e), erase, List.filterMap_filter]
  refine List.filterMap_congr fun x _ => ?_
  by_cases hx : x.1 = a
  · obtain ⟨a', e'⟩ := x
    cases hx
    simp [hf]
  · simp [hx]

/-- An entry that is put elsewhere does not change which names are in a directory, nor their
order. -/
theorem names_set (h : ∀ n, d ++ [n] ≠ a) : (t.set a e).names d = t.names d := by
  simp only [names, under, List.filterMap_filterMap]
  -- A name is read off an entry that stands right in the directory, which this one does not.
  refine filterMap_set fun e => ?_
  rcases hstart : d.isPrefixOf? a with _ | _ | ⟨n, _ | ⟨m, rest⟩⟩
  · rfl
  · rfl
  · exact absurd (List.isPrefixOf?_eq_some_iff_append_eq.1 hstart) (h n)
  · rfl

/-- From one tree to the other nothing changed but at an address and below it. -/
structure Beside (g : Address) (b u : FileTree) : Prop where
  get? : ∀ a, ¬ g <+: a → u.get? a = b.get? a
  names : ∀ d, (∀ n, ¬ g <+: d ++ [n]) → u.names d = b.names d

variable {g : Address} {b b' u u' : FileTree}

theorem Beside.refl (g : Address) (b : FileTree) : Beside g b b :=
  ⟨fun _ _ => rfl, fun _ _ => rfl⟩

theorem Beside.set (h : Beside g b u) (y : Address) (e : Entry) :
    Beside g b (u.set (g ++ y) e) where
  get? a ha := by
    rw [get?_set_of_ne, h.get? a ha]
    rintro rfl
    exact ha (List.prefix_append g y)
  names d hd := by
    rw [names_set, h.names d hd]
    rintro n heq
    exact hd n (heq ▸ List.prefix_append g y)

/-- Two trees hold the same at an address and below it, where there is a directory; beside it
each is as another tree is. -/
structure Matched (g : Address) (b b' u u' : FileTree) : Prop where
  left : Beside g b u
  right : Beside g b' u'
  there : u.get? g = some .directory
  same : ∀ y, u'.get? (g ++ y) = u.get? (g ++ y)

/-- An entry that is put into both leaves them matched. -/
theorem Matched.set (hg : g ≠ []) (h : Matched g b b' u u') (y : Address) {e : Entry}
    (he : y = [] → e = .directory) : Matched g b b' (u.set (g ++ y) e) (u'.set (g ++ y) e) where
  left := h.left.set y e
  right := h.right.set y e
  there := by
    by_cases hy : y = []
    · rw [hy, List.append_nil, get?_set_self hg, he hy]
    · rw [get?_set_of_ne (by simpa using hy), h.there]
  same z := by
    by_cases hz : g ++ z = g ++ y
    · rw [hz, get?_set_self (by simp [hg]), get?_set_self (by simp [hg])]
    · rw [get?_set_of_ne hz, get?_set_of_ne hz, h.same]

theorem Matched.fill (hg : g ≠ []) (h : Matched g b b' u u') {y : Address} (hy : y ≠ [])
    (bytes : Bytes) : Matched g b b' (u.fill (g ++ y) bytes) (u'.fill (g ++ y) bytes) := by
  rw [FileTree.fill, FileTree.fill]
  split
  · exact h
  · exact h.set hg y fun hnil => absurd hnil hy

/-- Two trees hold the same below an address, in the same order, and nothing there is below
another address. -/
structure Shared (source g : Address) (b b' : FileTree) : Prop where
  get? : ∀ x, b'.get? (source ++ x) = b.get? (source ++ x)
  names : ∀ x, b'.names (source ++ x) = b.names (source ++ x)
  apart : ∀ x y, source ++ x ≠ g ++ y

/-- Work in one directory leaves what is apart from it. -/
theorem Beside.shared {source : Address} (h : Beside g b u)
    (hapart : ∀ x y, source ++ x ≠ g ++ y) : Shared source g b u where
  get? x := h.get? _ fun ⟨y, hy⟩ => hapart x y hy.symm
  names x := h.names _ fun n ⟨y, hy⟩ => by
    rw [List.append_assoc] at hy
    exact hapart _ y hy.symm
  apart := hapart

theorem Shared.matched {source : Address} (h : Shared source g b b')
    (hm : Matched g b b' u u') : Shared source g u u' where
  get? x := by
    rw [(hm.right.shared h.apart).get?, h.get?, (hm.left.shared h.apart).get?]
  names x := by
    rw [(hm.right.shared h.apart).names, h.names, (hm.left.shared h.apart).names]
  apart := h.apart

end FileTree

namespace Files

open FileTree Step

variable {t t' : FileTree} {here directory a : Address} {names more : List Text} {name : Text}
variable {p q r : Path}

/-! ## Ways -/

/-- Where a name leads from a directory. -/
def stride (directory : Address) (name : Text) : Address :=
  if name = up then directory.dropLast else directory ++ [name]

/-- The addresses that names lead by, with the first and the last of them. -/
def way (directory : Address) : List Text → List Address
  | [] => [directory]
  | name :: rest => directory :: way (stride directory name) rest

theorem mem_way_self (directory : Address) (names : List Text) :
    directory ∈ way directory names := by
  cases names <;> simp [way]

/-- **What names lead to depends on what stands on their way**, and on nothing else. -/
theorem follow_congr (h : ∀ a ∈ way directory names, t'.get? a = t.get? a) :
    follow t' directory names = follow t directory names := by
  -- Each name is looked for at the next address on the way.
  induction names generalizing directory with
  | nil => rfl
  | cons name rest ih =>
    have hrest := ih fun a ha => h a (List.mem_cons_of_mem _ ha)
    have hnext : t'.get? (stride directory name) = t.get? (stride directory name) :=
      h _ (List.mem_cons_of_mem _ (mem_way_self _ _))
    rw [follow_cons, follow_cons]
    by_cases hup : name = up
    · rw [stride, if_pos hup] at hrest
      rw [if_pos hup, if_pos hup, hrest]
    · rw [stride, if_neg hup] at hrest hnext
      rw [if_neg hup, if_neg hup, hnext]
      cases rest <;> rcases t.get? (directory ++ [name]) with _ | _ | bytes <;> simp only [hrest]

/-- Names none of which leads up lead by addresses below. -/
theorem prefix_of_mem_way (hup : up ∉ names) (ha : a ∈ way directory names) : directory <+: a := by
  induction names generalizing directory with
  | nil =>
    obtain rfl := List.mem_singleton.1 ha
    exact List.prefix_rfl
  | cons name rest ih =>
    obtain ⟨hname, hrest⟩ := List.ne_and_not_mem_of_not_mem_cons hup
    rcases List.mem_cons.1 ha with rfl | ha
    · exact List.prefix_rfl
    · rw [stride, if_neg hname.symm] at ha
      exact (List.prefix_append _ _).trans (ih hrest ha)

/-- They come to the address that they spell, and all of their way is above it. -/
theorem end_of_way (hup : up ∉ names) : names.foldl stride directory = directory ++ names ∧
    ∀ a ∈ way directory names, a <+: directory ++ names := by
  induction names generalizing directory with
  | nil => simp [way]
  | cons name rest ih =>
    obtain ⟨hname, hrest⟩ := List.ne_and_not_mem_of_not_mem_cons hup
    have hstride : stride directory name = directory ++ [name] := if_neg hname.symm
    obtain ⟨hend, hway⟩ := @ih (directory ++ [name]) hrest
    rw [← List.append_cons] at hend hway
    rw [List.foldl_cons, way, hstride]
    exact ⟨hend, List.forall_mem_cons.2 ⟨List.prefix_append _ _, hway⟩⟩

/-- The end of a way is on it. -/
theorem foldl_mem_way (directory : Address) (names : List Text) :
    names.foldl stride directory ∈ way directory names := by
  induction names generalizing directory with
  | nil => simp [way]
  | cons name rest ih => exact List.mem_cons_of_mem _ (ih _)

/-- **Names lead to the end of their way**, if they lead anywhere. -/
theorem eq_foldl_of_follow (h : follow t directory names = .ok (.free a) ∨
    ∃ entry, follow t directory names = .ok (.taken a entry)) :
    a = names.foldl stride directory := by
  induction names generalizing directory with
  | nil =>
    rcases h with h | ⟨entry, h⟩
    · cases h
    · cases h
      rfl
  | cons name rest ih =>
    rw [follow_cons] at h
    rw [List.foldl_cons, stride]
    by_cases hup : name = up
    · rw [if_pos hup] at h ⊢
      exact ih h
    rw [if_neg hup] at h ⊢
    by_cases hlong : nameLimit < byteCount name
    · rw [if_pos hlong] at h
      rcases h with h | ⟨entry, h⟩ <;> cases h
    rw [if_neg hlong] at h
    -- More names may follow only under a directory, and then they lead on from there.
    cases rest with
    | nil =>
      rcases h with h | ⟨entry, h⟩ <;> cases hg : t.get? (directory ++ [name]) <;>
        rw [hg] at h <;> cases h <;> rfl
    | cons next rest =>
      rcases hg : t.get? (directory ++ [name]) with _ | _ | old <;> rw [hg] at h
      · rcases h with h | ⟨entry, h⟩ <;> cases h
      · exact ih h
      · rcases h with h | ⟨entry, h⟩ <;> cases h

/-- So a walk ends where its way does. -/
theorem Walks.eq_foldl (h : Walks t directory names a) : a = names.foldl stride directory :=
  eq_foldl_of_follow (.inr ⟨_, h.follow⟩)

/-- **What is found below a directory** depends on what stands in it. -/
theorem Leads.locate_congr (h : Leads t here p a) (h' : Leads t' here p a)
    (hsame : ∀ y, t'.get? (a ++ y) = t.get? (a ++ y)) (hup : up ∉ more) :
    locate t' here ⟨p.anchor, p.parts ++ more⟩ = locate t here ⟨p.anchor, p.parts ++ more⟩ := by
  rw [locate_eq, locate_eq, (leads_iff.1 h).2.follow_append, (leads_iff.1 h').2.follow_append,
    follow_congr fun c hc => ?_]
  obtain ⟨y, rfl⟩ := prefix_of_mem_way hup hc
  exact hsame y

/-! ## Copying -/

section
variable {source g : Address} {b b' u u' : FileTree} {ignored : Text → Bool}

theorem matched_opened (hg : g ≠ []) (h : Matched g b b' u u') (y : Address) :
    Matched g b b' (opened u (g ++ y)) (opened u' (g ++ y)) := by
  rw [opened, opened, h.same]
  split
  · exact h.set hg y fun _ => rfl
  · exact h

/-- **Copies go abreast**, as far as they get. -/
theorem abreast_copyTree (hg : g ≠ []) (h : Shared source g b b') (levels : Nat) (p q : Path)
    (x y : Address) :
    Abreast (Matched g b b') (copyTree ignored levels p q (source ++ x) (g ++ y))
      (copyTree ignored levels p q (source ++ x) (g ++ y)) := by
  -- Both trees list the same names in the same order, and each is copied as in the other.
  induction levels generalizing p q x y with
  | zero => exact abreast_throw _
  | succ levels ih =>
    intro u u' hm
    have hshared := h.matched hm
    have hnames : copiedNames ignored u' (source ++ x) = copiedNames ignored u (source ++ x) := by
      rw [copiedNames, copiedNames, hshared.names]
    have hentry (name : Text) : Abreast (Matched g b b')
        (copyEntry ignored levels p q (source ++ x) (g ++ y) u name)
        (copyEntry ignored levels p q (source ++ x) (g ++ y) u' name) := by
      have hlisted : u'.get? (source ++ x ++ [name]) = u.get? (source ++ x ++ [name]) := by
        rw [List.append_assoc, hshared.get?]
      have hbelow := ih (entryPath p name) (entryPath q name) (x ++ [name]) (y ++ [name])
      rw [← List.append_assoc, ← List.append_assoc] at hbelow
      rw [copyEntry, copyEntry, hlisted]
      split
      · exact abreast_pure _
      split
      · refine (abreast_modify fun v v' hv => ?_).bind fun _ => abreast_pure _
        rw [List.append_assoc]
        exact hv.set hg _ fun hnil => absurd hnil (by simp)
      · exact hbelow
    rw [copyTree_apply, copyTree_apply, hnames]
    exact ((Abreast.mapM hentry _).bind fun _ => abreast_pure _) _ _ (matched_opened hg hm y)

end

/-! ## Reading and writing -/

section
variable {R : FileTree → FileTree → Prop}

/-- The path leads to the same in related trees. -/
def Level (R : FileTree → FileTree → Prop) (here : Address) (p : Path) : Prop :=
  ∀ u u', R u u' → locate u' here p = locate u here p

/-- The file of a path can be filled in related trees. -/
def Fillable (R : FileTree → FileTree → Prop) (here : Address) (p : Path) : Prop :=
  ∀ u u' a bytes, R u u' → destination u here p = .ok a → R (u.fill a bytes) (u'.fill a bytes)

variable {u u' : FileTree}

theorem Level.contents (h : Level R here p) (hu : R u u') :
    contents u' here p = contents u here p := by
  rw [Files.contents, Files.contents, h u u' hu]

theorem Level.destination (h : Level R here p) (hu : R u u') :
    destination u' here p = destination u here p := by
  rw [Files.destination, Files.destination, h u u' hu]

theorem abreast_read (h : Level R here p) : Abreast R (read here p) (read here p) := by
  intro u u' hu
  rw [read_apply, read_apply, h.contents hu]
  cases Files.contents u here p with
  | ok bytes => exact .ok hu
  | error f => exact .error hu

/-- **Reading a text** goes abreast where the path leads to the same. -/
theorem abreast_readText (h : Level R here p) :
    Abreast R (readText here p) (readText here p) := by
  refine (abreast_read h).bind fun bytes => ?_
  split
  · exact abreast_pure _
  · exact abreast_throw _

/-- And so does writing one, where its file can be filled. -/
theorem abreast_writeText (h : Level R here p) (hfill : Fillable R here p) (s : Text) :
    Abreast R (writeText here p s) (writeText here p s) := by
  intro u u' hu
  rw [writeText_apply, writeText_apply, h.destination hu]
  cases hd : Files.destination u here p with
  | error f => exact .error hu
  | ok a =>
    dsimp only
    cases Utf8.encode s with
    | error run => exact .error (hfill u u' a [] hu hd)
    | ok bytes => exact .ok (hfill u u' a bytes hu hd)

theorem abreast_write (h : Level R here p) (hfill : Fillable R here p) (bytes : Bytes) :
    Abreast R (write here p bytes) (write here p bytes) := by
  intro u u' hu
  rw [write, Step.bind_apply, Step.bind_apply, target_apply, target_apply, h.destination hu]
  cases hd : Files.destination u here p with
  | error f => exact .error hu
  | ok a => exact .ok (hfill u u' a bytes hu hd)

/-- Looking for a directory goes abreast where the path leads to the same. -/
theorem abreast_isDirectory (h : Level R here p) :
    Abreast R (isDirectory here p) (isDirectory here p) := by
  rw [isDirectory]
  split
  · exact abreast_pure _
  intro u u' hu
  simp only [Step.bind_apply, Step.get_apply, h u u' hu]
  rcases locate u here p with e | ⟨a, _ | bytes⟩ | a
  · cases e <;> first | exact .ok hu | exact .error hu
  all_goals exact .ok hu

theorem abreast_catch {α : Type} {act act' : FileAction α} {rescue : Failure → FileAction α}
    (h : Abreast R act act') (hrescue : ∀ f, Abreast R (rescue f) (rescue f)) :
    Abreast R (tryCatch act rescue) (tryCatch act' rescue) := by
  intro u u' hu
  have hends := h u u' hu
  rw [catch_apply, catch_apply]
  generalize act u = r, act' u' = r' at hends
  cases hends with
  | ok hu => exact .ok hu
  | error hu => exact hrescue _ _ _ hu

/-- **Copying a file** goes abreast where both paths lead to the same. -/
theorem abreast_copyFile (hp : Level R here p) (hq : Level R here q) (hfill : Fillable R here q) :
    Abreast R (copyFile here p q) (copyFile here p q) := by
  intro u u' hu
  have hsame : sameEntry here p q u' = sameEntry here p q u := by
    rw [sameEntry, sameEntry, hp u u' hu, hq u u' hu]
  rw [copyFile]
  split
  · exact .error hu
  simp only [Step.bind_apply, Step.get_apply, hsame]
  split
  · exact .ok hu
  refine abreast_catch ((abreast_read hp).bind fun bytes => (abreast_write hq hfill bytes).bind
    fun _ => abreast_pure _) (fun f => ?_) u u' hu
  cases f with
  | system e => exact abreast_pure _
  | _ => exact abreast_throw _

end

end Files

end AgentWorkshop
