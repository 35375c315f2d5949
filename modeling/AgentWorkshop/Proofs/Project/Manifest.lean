import AgentWorkshop.Proofs.Project.Furnishing
import AgentWorkshop.Proofs.Text.Replacement

/-!
# What becomes of the manifest

The manifest of a project is the template's with the leftmost placeholder replaced by the name,
but it is read and written as a text, with its line endings made alike. So it is rewritten byte by
byte exactly if the template's holds no carriage return (`manifest_rewritten`).
-/

namespace AgentWorkshop

namespace Project

open Files (Leads up)

variable {settings : ScaffoldSettings} {here : Address} {directory template project : Path}
variable {tpl : Template} {name : Text} {w : Workshop} {t : FileTree} {names : List Text}

/-- The manifest of a project lies below it, under these names, which are not those of its
`.gitignore` nor of the device that swallows everything. -/
structure ManifestAt (settings : ScaffoldSettings) (names : List Text) : Prop where
  path : ∀ project : Path,
    manifestPath settings project = ⟨project.anchor, project.parts ++ names⟩
  down : up ∉ names
  nonempty : names ≠ []
  notIgnore : names ≠ [text ".gitignore"]
  notNull : names ≠ [text "null"]

/-- As usual it is the `Cargo.toml` of `agent-template`. -/
theorem manifestAt_usual (hdirectory : settings.manifestDir = ScaffoldSettings.usual.manifestDir)
    (hname : settings.manifestName = ScaffoldSettings.usual.manifestName) :
    ManifestAt settings manifestNames where
  path project := by
    rw [manifestPath, hdirectory, hname]
    exact congrArg (Path.mk project.anchor) (List.append_assoc _ _ _)
  down := by decide
  nonempty := by decide
  notIgnore := by decide
  notNull := by decide

namespace Furnishing

variable (F : Furnishing settings here template project name t) {bytes : Bytes}
variable (hmanifest : ManifestAt settings names)
include hmanifest

theorem place_eq : F.place = F.goal ++ names := by
  refine (F.hgoal.mono fun _ => F.get?_ignoring_directory).eq_of_destination hmanifest.down
    hmanifest.nonempty ?_
  rw [← hmanifest.path]
  exact F.hplace

/-- **The manifest that is read is the template's.** -/
theorem contents_eq (hfile : t.get? (F.source ++ names) = some (.file bytes)) :
    F.contents = bytes := by
  have hread := F.get?_place
  rw [F.place_eq hmanifest, F.get?_ignoring hmanifest.notIgnore] at hread
  cases hleft : names.any (isLeftOut settings) with
  | true =>
    rw [F.get?_copied_eq_none hleft] at hread
    cases hread
  | false =>
    rw [F.get?_copied hfile hleft] at hread
    cases hread
    rfl

/-- The project's directory was not there, so it is not that of the device. -/
theorem place_ne_nullDevice : F.place ≠ FileTree.nullDevice := by
  rw [F.place_eq hmanifest, FileTree.nullDevice]
  intro hnull
  rcases List.append_eq_cons_iff.1 hnull with ⟨hgoal, -⟩ | ⟨goal', hgoal, hrest⟩
  · -- The top is a directory in every tree.
    have hnew := F.hnew
    rw [hgoal] at hnew
    cases hnew
  · rcases List.append_eq_singleton_iff.1 hrest.symm with ⟨-, hnames⟩ | ⟨-, hnames⟩
    · exact hmanifest.notNull hnames
    · exact hmanifest.nonempty hnames

theorem get?_furnished_manifest :
    F.furnished.get? (F.goal ++ names) = some (.file F.written) := by
  rw [← F.place_eq hmanifest]
  exact F.get?_furnished_place (F.place_ne_nullDevice hmanifest)

end Furnishing

/-- An accepted name is written without carriage returns. -/
theorem encode_of_accepts (haccepts : ProjectName.accepts name = true) :
    ∃ bytes, Utf8.encode name = .ok bytes ∧ 0x0D ∉ bytes := by
  refine ⟨name.flatMap Utf8.encodePoint,
    Utf8.encode_eq_ok_iff.2 ⟨ProjectName.isScalar_of_accepts haccepts, rfl⟩, ?_⟩
  rw [Utf8.mem_flatMap_encodePoint_iff]
  exact fun hc => (ProjectName.val_lt_of_accepts haccepts hc).2 rfl

/-- **What becomes of a manifest that can be read.** Once a command of the set-up is run, the
project's manifest is the template's, read as a text with its line endings made alike, with the
leftmost placeholder replaced by the name. In bytes:

* without carriage returns in the template's manifest, its bytes are kept but for the leftmost
  bytes of the placeholder, which become those of the name; if the placeholder does not occur
  all are kept;
* with one of them, they are not, if none is in the placeholder. -/
theorem manifest_rewritten (settings : ScaffoldSettings) (directory : Path) (tpl : Template)
    (name : Text) (hmanifest : ManifestAt settings names) (hr : w.files.Rooted)
    (hhere : w.files.get? w.directory = some .directory)
    (hlaunched : ((create settings directory tpl name).after w).launches ≠ w.launches) :
    ∃ made source goal l rest newBytes,
      Files.makeDirectories false w.directory (directory.child name) w.files = .ok () made ∧
      Leads made w.directory (settings.templateDir.child tpl.directory) source ∧
      Leads made w.directory (directory.child name) goal ∧
      ((create settings directory tpl name).after w).launches = w.launches ++ l :: rest ∧
      (w.Untouching → ((create settings directory tpl name).after w).files = l.files) ∧
      Utf8.encode name = .ok newBytes ∧
      ∀ bytes, w.files.get? (source ++ names) = some (.file bytes) →
        ∃ manifest result rewritten, Utf8.encode manifest = .ok bytes ∧
          l.files.get? (goal ++ names) = some (.file rewritten) ∧
          Utf8.encode result = .ok rewritten ∧
          FirstReplaced settings.placeholder name manifest.normalizeNewlines result ∧
          (0x0D ∉ bytes → ¬ settings.placeholder <:+: manifest → rewritten = bytes) ∧
          ∀ oldBytes, Utf8.encode settings.placeholder = .ok oldBytes →
            (0x0D ∉ bytes → FirstReplaced oldBytes newBytes bytes rewritten) ∧
            (0x0D ∈ bytes → 0x0D ∉ oldBytes →
              ¬ FirstReplaced oldBytes newBytes bytes rewritten) := by
  obtain ⟨t, haccepts, hfurnished, ⟨rest, hrest⟩, hfiles⟩ := furnished_of_launched hlaunched
  obtain ⟨F, hF⟩ := exists_furnishing hr hhere hfurnished
  obtain ⟨newBytes, hnew, hnone⟩ := encode_of_accepts haccepts
  refine ⟨F.made, F.source, F.goal, firstLaunch directory name w t, rest, newBytes, F.hmade,
    F.hsource, F.hgoal, hrest, hfiles, hnew, fun bytes hfile => ?_⟩
  -- What was read after the template was copied is what stood there before.
  have hcontents := F.contents_eq hmanifest hfile
  subst hcontents
  refine ⟨F.manifest, _, F.written, F.hmanifest, ?_, F.hwritten,
    Text.firstReplaced_replaceFirst _ _ _, fun hreturn hnot => ?_, fun oldBytes hold =>
    ⟨firstReplaced_of_not_mem F.hmanifest hold hnew F.hwritten,
      fun hreturn hkept => not_firstReplaced_of_mem F.hwritten hnew hreturn hkept hnone⟩⟩
  · rw [firstLaunch, ← hF]
    exact F.get?_furnished_manifest hmanifest
  · exact eq_of_not_infix F.hmanifest F.hwritten hreturn hnot

/-! ## In the small workshop -/

/-- A literal can be written. -/
theorem encode_text (s : String) :
    Utf8.encode (text s) = .ok ((text s).flatMap Utf8.encodePoint) :=
  Utf8.encode_eq_ok_iff.2 ⟨Text.isScalar_text s, rfl⟩

/-- Of two placeholders the second is kept. -/
theorem manifest_rewritten_twice : ∃ w' oldBytes newBytes bytes rewritten,
    create trial ⟨.here, []⟩ .llmChat (text "p") (yard bytes) =
      .ok (Path.child ⟨.here, []⟩ (text "p")) w' ∧
    Utf8.encode (text "agent-template agent-template") = .ok bytes ∧
    Utf8.encode (text "agent-template") = .ok oldBytes ∧ Utf8.encode (text "p") = .ok newBytes ∧
    w'.files.get? [text "p", text "agent-template", text "Cargo.toml"] = some (.file rewritten) ∧
    FirstReplaced oldBytes newBytes bytes rewritten := by
  have hbytes := encode_text "agent-template agent-template"
  have hreplaced : Text.replaceFirst trial.placeholder (text "p")
      (text "agent-template agent-template").normalizeNewlines = text "p agent-template" := by cbv
  obtain ⟨w', hcreated, -⟩ := yard_created hbytes
    ((congrArg Utf8.encode hreplaced).trans (encode_text _))
  obtain ⟨made, source, goal, l, rest, newBytes, hmade, hsource, hgoal, -, hfiles, hnew, hall⟩ :=
    manifest_rewritten trial ⟨.here, []⟩ .llmChat (text "p") (manifestAt_usual rfl rfl)
      (rooted_plot _) rfl (launched_of_created hcreated)
  obtain ⟨rfl, rfl⟩ := plot_places hmade hsource hgoal
  obtain ⟨manifest, result, rewritten, -, hthere, -, -, -, hbytewise⟩ :=
    hall _ (plot_manifest _)
  rw [Action.after_ok hcreated] at hfiles
  refine ⟨w', _, newBytes, _, rewritten, hcreated, hbytes, encode_text _, hnew, ?_,
    (hbytewise _ (encode_text _)).1 ?_⟩
  · rw [hfiles fun _ _ _ => rfl]
    exact hthere
  · rw [Utf8.mem_flatMap_encodePoint_iff]
    decide

/-- **A line ending is not kept.** -/
theorem line_ending_lost : ∃ w' oldBytes newBytes bytes rewritten,
    create trial ⟨.here, []⟩ .llmChat (text "p") (yard bytes) =
      .ok (Path.child ⟨.here, []⟩ (text "p")) w' ∧
    Utf8.encode (text "agent-template\r\n") = .ok bytes ∧
    Utf8.encode (text "agent-template") = .ok oldBytes ∧ Utf8.encode (text "p") = .ok newBytes ∧
    w'.files.get? [text "p", text "agent-template", text "Cargo.toml"] = some (.file rewritten) ∧
    Utf8.encode (text "p\n") = .ok rewritten ∧
    ¬ FirstReplaced oldBytes newBytes bytes rewritten := by
  have hbytes := encode_text "agent-template\r\n"
  have hreplaced : Text.replaceFirst trial.placeholder (text "p")
      (text "agent-template\r\n").normalizeNewlines = text "p\n" := by cbv
  have hwritten := (congrArg Utf8.encode hreplaced).trans (encode_text _)
  obtain ⟨w', hcreated, hthere, -⟩ := yard_created hbytes hwritten
  refine ⟨w', _, _, _, _, hcreated, hbytes, encode_text _, encode_text _, hthere, encode_text _,
    not_firstReplaced_of_mem hwritten (encode_text _) ?_ ?_ ?_⟩ <;>
    rw [Utf8.mem_flatMap_encodePoint_iff] <;> decide

end Project

end AgentWorkshop
