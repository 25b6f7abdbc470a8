import ContainerBuild.Proofs.Draft.Independence
import ContainerBuild.Proofs.Path.Display
import ContainerBuild.Proofs.Path.Parts
import ContainerBuild.Proofs.Recipe.Staging

/-!
# The directory that the build tool is given

The build tool is given the staging directory as its last argument. Staged entries are placed
strictly below that directory, and the manifest directly in it. Arguments are text and directories
need not be: below a contexts root that is no text, the tool is given another directory.

* `Draft.toolDirectory_of_runs` — the tool is given the directory that was staged exactly if the
  contexts root is text.
* `Draft.toolDirectory_notText` — a draft of which the tool is given another directory.
-/

namespace ContainerBuild

open ContainerBuild.Path (Component)

namespace Draft

variable {ω : Type} [Workspace ω]

/-- If the manifest's name is a single normal component, then the manifest lies directly in the
staging directory. -/
theorem parent?_manifestPath {d : Draft} {file : Bytes}
    (hfile : (Path.ofString d.settings.manifestName).components = [.normal file]) :
    ∃ parent, d.manifestPath.parent? = some parent ∧ parent.same d.recipe.basePath = true := by
  obtain ⟨hrelative, hlead⟩ := Path.lead_of_normal (p := .ofString d.settings.manifestName) (by
    rw [hfile]
    simp [Component.isNormal])
  have hpath : d.manifestPath.components = d.recipe.basePath.components ++ [.normal file] := by
    rw [← hfile]
    exact Path.components_join_of_lead _ hrelative hlead
  obtain ⟨parent, hparent, hcomponents⟩ := Path.parent?_eq_some hpath (by simp)
  exact ⟨parent, hparent, by simp [Path.same, hcomponents]⟩

/-- Wherever calls lead a draft, its staged entries are placed strictly below the staging directory,
and the manifest directly in it if its name is a single normal component. The last argument of the
build tool is read back as the staging directory exactly if the contexts root is text. -/
theorem toolDirectory_of_runs {settings : Settings} {name os : String} {new d : Draft}
    {calls : List Call} (hcreate : Draft.create settings name os = .ok new)
    (hruns : Runs ω new calls d) :
    (∃ argument, d.buildCommand.args.getLast? = some argument ∧
      ((Path.ofString argument).same d.recipe.basePath = true ↔ settings.contextsRoot.IsText)) ∧
    (∀ target path, d.recipe.stagingPath? target = some path →
      target.components ≠ [] ∧
        path.components = d.recipe.basePath.components ++ target.components) ∧
    ∀ file, (Path.ofString settings.manifestName).components = [.normal file] →
      ∃ parent, d.manifestPath.parent? = some parent ∧
        parent.same d.recipe.basePath = true := by
  obtain ⟨hbase, hsettings⟩ := basePath_of_runs hcreate hruns
  refine ⟨⟨d.recipe.basePath.display, rfl, ?_⟩, fun _ _ => Recipe.components_stagingPath,
    fun file hfile => parent?_manifestPath (hsettings ▸ hfile)⟩
  obtain ⟨image, himage, -⟩ := create_eq_ok hcreate
  obtain ⟨segments, hname⟩ := (checkName_eq_ok_iff name).1 (Image.checked_eq_ok himage).1
  -- the name of an image is a relative text, so only the contexts root may fail to be one
  rw [Path.same_display_iff, hbase]
  exact Path.isText_join_iff _ hname.lead_ofString.1

/-- A draft below the built-in contexts root is built in the directory that was staged. -/
theorem toolDirectory_of_runs_builtin :
    ∃ new argument, Draft.create {} "a" "linux" = .ok new ∧
      Runs Rehearsal new copyingCalls (copying "a") ∧
      (copying "a").buildCommand.args.getLast? = some argument ∧
      (Path.ofString argument).same (copying "a").recipe.basePath = true := by
  obtain ⟨new, hcreate, hruns⟩ : ∃ new, Draft.create {} "a" "linux" = .ok new ∧
      Runs Rehearsal new copyingCalls (copying "a") :=
    ⟨_, by rfl, .cons (w := {}) rfl (.cons (w := {}) rfl (.nil _))⟩
  obtain ⟨⟨argument, hargument, hsame⟩, -⟩ := toolDirectory_of_runs hcreate hruns
  exact ⟨new, argument, hcreate, hruns, hargument, hsame.2 ⟨_, rfl⟩⟩

/-- Below a contexts root that ends with a byte that is no text, the build tool is given another
directory. -/
theorem toolDirectory_notText :
    let settings : Settings := { contextsRoot := ⟨[0x72, 0xFF]⟩ }
    settings.validate = .ok () ∧ ∃ d argument, Draft.create settings "app" "linux" = .ok d ∧
      d.buildCommand.args.getLast? = some argument ∧
      (Path.ofString argument).same d.recipe.basePath = false := by
  intro settings
  exact ⟨by decide +kernel, _, _, by rfl, rfl, by decide +kernel⟩

end Draft

end ContainerBuild
