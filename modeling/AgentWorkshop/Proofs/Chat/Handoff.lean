import AgentWorkshop.Proofs.Chat.Turn
import AgentWorkshop.Proofs.Files.Beside
import AgentWorkshop.Proofs.Files.PathText
import AgentWorkshop.Shell.Run
import Mathlib

/-!
# The files that a session shares with its build

A session names its request and its response by the texts of two paths, and the build reads these
texts where it runs. Both name one file exactly if the names lead from either directory to one
address (`Files.Meets`): always if the path has an anchor or the build runs where the session does,
and for a path from another directory never, unless names in it lead up (`Files.Handover`,
`turn_handoff`).
-/

namespace AgentWorkshop

namespace Files

variable {u : FileTree} {here there a b : Address} {p : Path}

/-! ## One path from two directories -/

/-- From both directories the names of the path lead to one address. -/
def Meets (here there : Address) (p : Path) : Prop :=
  p.parts.foldl stride (start here p.anchor) = p.parts.foldl stride (start there p.anchor)

/-- A file stands where the names lead. -/
theorem eq_foldl_of_destination (h : destination u here p = .ok a) :
    a = p.parts.foldl stride (start here p.anchor) := by
  rcases ends_follow h with hfree | ⟨bytes, htaken⟩
  · exact eq_foldl_of_follow (.inl hfree)
  · exact eq_foldl_of_follow (.inr ⟨_, htaken⟩)

/-- **Two files of a path are one** exactly if the names meet. -/
theorem destination_eq_iff (h : destination u here p = .ok a) (h' : destination u there p = .ok b) :
    a = b ↔ Meets here there p := by
  rw [eq_foldl_of_destination h, eq_foldl_of_destination h', Meets]

/-- Names without an anchor, none of which leads up, meet from one directory only. -/
theorem meets_iff (hanchor : p.anchor = .here) (hup : up ∉ p.parts) :
    Meets here there p ↔ there = here := by
  rw [Meets, hanchor, start, (end_of_way hup).1, (end_of_way hup).1, List.append_left_inj]
  exact eq_comm

/-- A path that starts alike leads to the same. -/
theorem locate_of_start (h : p.anchor ≠ .here ∨ there = here) :
    locate u there p = locate u here p := by
  have hstart : start there p.anchor = start here p.anchor := by
    rcases h with h | rfl
    · cases hanchor : p.anchor
      · exact absurd hanchor h
      · rfl
      · rfl
    · rfl
  rw [locate_eq, locate_eq, hstart]

/-- **What the text of a path names from another directory.** It is the same file in every tree if
the path has an anchor or the directories are one; in any case it is exactly if the names meet; and
without an anchor and names that lead up it is from the same directory only. -/
structure Handover (here there : Address) (p : Path) (t : Text) : Prop where
  same : p.anchor ≠ .here ∨ there = here → ∀ u,
    destination u there (.ofText t) = destination u here p ∧
    contents u there (.ofText t) = contents u here p
  meets : ∀ u a b, destination u here p = .ok a → destination u there (.ofText t) = .ok b →
    (a = b ↔ Meets here there p)
  apart : p.anchor = .here → up ∉ p.parts → (Meets here there p ↔ there = here)

theorem handover (hp : p.IsWritten) (here there : Address) : Handover here there p p.toText where
  same hstart u := by
    rw [Path.ofText_toText hp, destination, destination, contents, contents,
      locate_of_start hstart]
    exact ⟨rfl, rfl⟩
  meets u a b h h' := by
    rw [Path.ofText_toText hp] at h'
    exact destination_eq_iff h h'
  apart := meets_iff

end Files

/-! ## Settings -/

namespace ChatSettings

/-- Both paths have names such as a text can give. -/
structure IsWritten (c : ChatSettings) : Prop where
  input : c.inputPath.IsWritten
  output : c.outputPath.IsWritten

theorem isWritten_usual : usual.IsWritten :=
  ⟨Path.isWritten_ofText _, Path.isWritten_ofText _⟩

/-- A path in a field has. -/
theorem isWritten_of_read {v : Json} {name : Text} {usual p : Path} (husual : usual.IsWritten)
    (h : Field.read v name usual Field.toPath = .ok p) : p.IsWritten := by
  rw [Field.read] at h
  cases hfield : v.member? name with
  | none =>
    rw [hfield] at h
    cases h
    exact husual
  | some field =>
    rw [hfield] at h
    cases field <;> cases h
    exact Path.isWritten_ofText _

/-- **The paths of all settings have**, whether these are read from fields ... -/
theorem isWritten_of_ofFields {v : Json} {c : ChatSettings} (h : ofFields v = .ok c) :
    c.IsWritten := by
  rw [ofFields] at h
  rcases hinput : Field.read v (text "input_path") usual.inputPath Field.toPath with _ | input <;>
    rw [hinput] at h
  · cases h
  rcases houtput : Field.read v (text "output_path") usual.outputPath Field.toPath with
    _ | output <;> rw [houtput] at h
  · cases h
  rcases hcommand : Field.read v (text "build_command") usual.buildCommand Field.toText with
    _ | command <;> rw [hcommand] at h
  · cases h
  rcases hmarker : Field.read v (text "compiling_marker") usual.compilingMarker Field.toText with
    _ | marker <;> rw [hmarker] at h
  · cases h
  cases h
  exact ⟨isWritten_of_read isWritten_usual.input hinput,
    isWritten_of_read isWritten_usual.output houtput⟩

/-- ... or from the environment. -/
theorem isWritten_ofEnvironment (env : Environment) : (ofEnvironment env).IsWritten := by
  constructor
  · rw [ofEnvironment]
    cases env.nonEmpty? (text "WASP_INPUT_PATH") with
    | none => exact isWritten_usual.input
    | some t => exact Path.isWritten_ofText t
  · rw [ofEnvironment]
    cases env.nonEmpty? (text "WASP_OUTPUT_PATH") with
    | none => exact isWritten_usual.output
    | some t => exact Path.isWritten_ofText t

end ChatSettings

/-! ## Turns -/

namespace Session

open Files

variable {s : Session} {w : Workshop} {m : Text} {t : FileTree} {d : Address}

/-- **A build is handed the files of its session**, whatever the settings. Once the request of a
turn is written, the agent is built once, in the directory `d` and with the texts of both paths. If
these have an anchor or `d` is the working directory of the session, which it is without another
one for the build, the build finds the request where its text leads, and the session reads what the
build left where the other one leads. What else they name there is as `Files.Handover` says. -/
theorem turn_handoff (hpaths : s.settings.IsWritten) (said : Json.WithinReach m)
    (written : s.request w m = .ok () t)
    (hstart : Shell.startDirectory t w.directory s.invocation.directory = .ok d) :
    ((s.turn m).after w).launches =
      w.launches ++ [⟨s.invocation, t, .processing, asked w m⟩] ∧
    (s.directory = none ∨ s.directory = some [] → d = w.directory) ∧
    ∃ input output bytes,
      s.invocation.bindings =
        [(text "WASP_INPUT_PATH", input), (text "WASP_OUTPUT_PATH", output)] ∧
      Utf8.encode (asked w m).payload.print = .ok bytes ∧
      (s.settings.inputPath.anchor ≠ .here ∨ d = w.directory →
        contents t d (.ofText input) = .ok bytes ∨
          destination t d (.ofText input) = .ok FileTree.nullDevice) ∧
      (s.settings.outputPath.anchor ≠ .here ∨ d = w.directory →
        contents (s.built w t).1 d (.ofText output) = s.reply w t) ∧
      Handover w.directory d s.settings.inputPath input ∧
      Handover w.directory d s.settings.outputPath output := by
  have hin := handover hpaths.input w.directory d
  have hout := handover hpaths.output w.directory d
  obtain ⟨bytes, hbytes, hrequest⟩ := contents_of_saveJson written
  -- The session reads the response in the tree that the build left, so the handover of its path
  -- is used there, and that of the request in the tree in which the build starts.
  refine ⟨launches_of_written said written, ?_, _, _, bytes, rfl, hbytes, fun h => ?_,
    fun h => (hout.same h _).2, hin, hout⟩
  · rintro (hnone | hempty)
    · rw [invocation, hnone] at hstart
      exact (Except.ok.inj hstart).symm
    · rw [invocation, hempty] at hstart
      exact (Except.ok.inj hstart).symm
  · obtain ⟨hdestination, hcontents⟩ := hin.same h t
    rwa [hcontents, hdestination]

/-- A session whose files have these paths, and whose agent is built in `sub`. -/
def remote (input output : String) : Session :=
  { settings :=
      { inputPath := .ofText (text input)
        outputPath := .ofText (text output)
        buildCommand := text "make"
        compilingMarker := text "Compiling" }
    directory := some (text "sub") }

/-- A directory with another one in it. -/
def withSub : Workshop :=
  .initial (.place .empty [text "sub"] .directory) [] fun _ => .idle

set_option maxRecDepth 4000 in
/-- From the other directory, paths from the top lead to the files of the session. -/
theorem remote_handoff : ∃ t bytes,
    (remote "/in" "/out").request withSub (text "hi") = .ok () t ∧
    Shell.startDirectory t [] (some (text "sub")) = .ok [text "sub"] ∧
    (contents t [text "sub"] (.ofText (text "/in")) = .ok bytes ∨
      destination t [text "sub"] (.ofText (text "/in")) = .ok FileTree.nullDevice) := by
  obtain ⟨t, written, hstart⟩ : ∃ t,
      (remote "/in" "/out").request withSub (text "hi") = .ok () t ∧
        Shell.startDirectory t [] (some (text "sub")) = .ok [text "sub"] := ⟨_, by cbv, by cbv⟩
  have said : Json.WithinReach (text "hi") := Json.withinReach_of_malformed rfl
  obtain ⟨-, -, input, output, bytes, hbindings, -, hrequest, -⟩ :=
    turn_handoff ⟨Path.isWritten_ofText _, Path.isWritten_ofText _⟩ said written hstart
  have hinput : input = text "/in" := (Prod.mk.inj (List.cons.inj hbindings).1).2.symm
  rw [hinput] at hrequest
  exact ⟨t, bytes, written, hstart, hrequest (.inl (by decide))⟩

set_option maxRecDepth 4000 in
/-- **From the other directory, the same names lead to another file.** -/
theorem remote_astray : ∃ t,
    (remote "in" "out").request withSub (text "hi") = .ok () t ∧
    Shell.startDirectory t [] (some (text "sub")) = .ok [text "sub"] ∧
    (remote "in" "out").invocation.bindings =
      [(text "WASP_INPUT_PATH", text "in"), (text "WASP_OUTPUT_PATH", text "out")] ∧
    destination t [] (.ofText (text "in")) = .ok [text "in"] ∧
    destination t [text "sub"] (.ofText (text "in")) = .ok [text "sub", text "in"] :=
  ⟨_, by cbv, by cbv, by cbv, by cbv, by cbv⟩

end Session

end AgentWorkshop
