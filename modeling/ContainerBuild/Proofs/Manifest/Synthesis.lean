import ContainerBuild.Proofs.Draft.Call
import ContainerBuild.Proofs.Recipe.Steps
import ContainerBuild.Rehearsal

/-!
# What a manifest is made of

A draft is described by calls in any order. Its manifest depends only on the lines that the applied
procedures pushed to each queue, in the order in which they came, on the name of the image that was
set last, and on the name of the image that was selected last for installers.

* `stepsOf r calls` — the steps that the calls take on a recipe, in order.
* `lastSource calls` — the image that the calls set last.
* `preview_of_runs` — the lines of the manifest, and when two descriptions have the same one.
-/

namespace ContainerBuild

/-- The name of the image that a source stands for. -/
def ImageSource.name : ImageSource → String
  | image i => i.name
  | named name => name

/-- Resolving a source keeps its name. -/
theorem ImageSource.name_resolve {source : ImageSource} {os : String} {i : Image}
    (h : source.resolve os = .ok i) : i.name = source.name := by
  cases source with
  | image i' =>
    cases h
    rfl
  | named name =>
    obtain ⟨-, -, rfl⟩ := Image.checked_eq_ok h
    rfl

/-- The manifest with these lines in its queues, built on an image called `source`, with installers
on an image called `installersSource` if that is another one. -/
def Manifest.ofQueues (lines : Queue → List String) (source : String)
    (installersSource : Option String) : Manifest :=
  let main : Stage := { source, instructions := lines .build ++ lines .clean }
  if lines .installers = [] then ⟨[main]⟩
  else ⟨[⟨installersSource.getD source, some "installers", lines .installers⟩, main]⟩

/-- A manifest depends on the queues of its recipe and on the names of two images. -/
theorem Manifest.ofRecipe_eq_ofQueues (r : Recipe) (source : Image) :
    Manifest.ofRecipe r source =
      ofQueues r.queue source.name (r.installersImage.map Image.name) := by
  simp only [ofRecipe, ofQueues, Recipe.queue, List.isEmpty_iff, Option.getD_map]
  rfl

/-- The installers stage, if there are installers, and then the main stage. -/
theorem Manifest.lines_ofQueues (lines : Queue → List String) (source : String)
    (installersSource : Option String) :
    (ofQueues lines source installersSource).lines =
      (if lines .installers = [] then []
        else ("FROM " ++ installersSource.getD source ++ " AS installers") :: lines .installers) ++
      ("FROM " ++ source) :: (lines .build ++ lines .clean) := by
  by_cases h : lines .installers = []
  · simp [ofQueues, Manifest.lines, Stage.header, h]
  · have hlabel : " AS " ++ "installers" = " AS installers" := rfl
    simp [ofQueues, Manifest.lines, Stage.header, h, String.append_assoc, hlabel]

/-- Installers have a stage exactly when there are some. -/
theorem Manifest.hasInstallersStage_ofQueues (lines : Queue → List String) (source : String)
    (installersSource : Option String) :
    (ofQueues lines source installersSource).hasInstallersStage = true ↔
      lines .installers ≠ [] := by
  by_cases h : lines .installers = [] <;>
    simp [ofQueues, hasInstallersStage, installersLabel, h]

namespace Draft

variable {ω : Type} [Workspace ω]

/-- The source that a call sets, if it sets one. -/
def Call.source? : Call → Option ImageSource
  | setSource source => some source
  | _ => none

/-- The source that calls set last. -/
def lastSource (calls : List Call) : Option ImageSource :=
  (calls.filterMap Call.source?).getLast?

/-- The steps that the procedures of the calls take on a recipe, in order. A procedure sees the
recipe that the earlier ones left. -/
def stepsOf (r : Recipe) : List Call → List Step
  | [] => []
  | .execute p :: calls => p.steps r ++ stepsOf (r.apply p) calls
  | _ :: calls => stepsOf r calls

/-- The recipe after a run has taken the steps of its calls. -/
theorem recipe_of_runs {d d' : Draft} {calls : List Call} (hruns : Runs ω d calls d') :
    d'.recipe = d.recipe.takeAll (stepsOf d.recipe calls) := by
  induction hruns with
  | nil d => rfl
  | cons hcall _ ih =>
    rw [ih]
    rcases perform_cases hcall with ⟨_, _, rfl, -, -, rfl⟩ | ⟨p, rfl, -, rfl⟩ | ⟨rfl, rfl⟩ |
      ⟨rfl, rfl⟩
    · rfl
    · -- `stepsOf` follows the recipe, since the steps of a procedure depend on it
      rw [stepsOf, Recipe.takeAll_append]
      rfl
    · rfl
    · rfl

/-- The name of the image that a draft is built on is that of the source that was set last. -/
theorem sourceName_of_runs {d d' : Draft} {calls : List Call} (hruns : Runs ω d calls d') :
    d'.source?.map Image.name =
      ((lastSource calls).map ImageSource.name).or (d.source?.map Image.name) := by
  induction hruns with
  | nil d => simp [lastSource]
  | @cons d d₁ d₂ call calls w hcall _ ih =>
    -- one call replaces the name or keeps it, so the later of two names counts
    have hstep : d₁.source?.map Image.name =
        (call.source?.map ImageSource.name).or (d.source?.map Image.name) := by
      rcases perform_cases hcall with ⟨source, image, rfl, -, hresolve, rfl⟩ | ⟨_, rfl, -, rfl⟩ |
        ⟨rfl, rfl⟩ | ⟨rfl, rfl⟩
      · simp [Call.source?, ImageSource.name_resolve hresolve]
      · simp [Call.source?]
      · simp [Call.source?]
      · simp [Call.source?]
    rw [ih, hstep, lastSource, lastSource, getLast?_filterMap_cons, Option.map_or, Option.or_assoc]

/-- The manifest after a run that has set a source. -/
theorem preview_eq_ofQueues {settings : Settings} {name os : String} {d₀ d : Draft}
    {calls : List Call} {source : ImageSource}
    (hcreate : Draft.create settings name os = .ok d₀) (hruns : Runs ω d₀ calls d)
    (hsource : lastSource calls = some source) :
    d.preview = .ok (.ofQueues (fun q => pushed q (stepsOf d₀.recipe calls)) source.name
      ((lastSelected (stepsOf d₀.recipe calls)).map Image.name)) := by
  have hname := sourceName_of_runs hruns
  -- a source was set, so what the new draft had does not matter
  simp only [hsource, Option.map_some, Option.some_or, Option.map_eq_some_iff] at hname
  obtain ⟨image, himage, hname⟩ := hname
  have hempty (q : Queue) : d₀.recipe.queue q = [] := by
    obtain ⟨_, -, rfl⟩ := create_eq_ok hcreate
    cases q <;> rfl
  have hnone : d₀.recipe.installersImage = none := by
    obtain ⟨_, -, rfl⟩ := create_eq_ok hcreate
    rfl
  have hqueues : d.recipe.queue = fun q => pushed q (stepsOf d₀.recipe calls) := by
    funext q
    rw [recipe_of_runs hruns, Recipe.queue_takeAll, hempty, List.nil_append]
  rw [preview, himage]
  simp only [Manifest.ofRecipe_eq_ofQueues, hqueues, hname]
  rw [recipe_of_runs hruns, Recipe.installersImage_takeAll, hnone, Option.or_none]

/-- After calls that have set a source, the manifest is made of the lines that were pushed to each
queue, in order, of the name of the source that was set last, and of the name of the image that was
selected last for installers. The draft keeps the name, the platform and the staging directory with
which it was created, and every other description that agrees on those lines and names, on
whatever draft, in whatever order its calls come, has the same manifest. -/
theorem preview_of_runs {settings : Settings} {name os : String} {d₀ d : Draft}
    {calls : List Call} {source : ImageSource}
    (hcreate : Draft.create settings name os = .ok d₀) (hruns : Runs ω d₀ calls d)
    (hsource : lastSource calls = some source) :
    let steps := stepsOf d₀.recipe calls
    let selected := (lastSelected steps).map Image.name
    (∃ manifest, d.preview = .ok manifest ∧
      manifest.lines =
        (if pushed .installers steps = [] then []
          else ("FROM " ++ selected.getD source.name ++ " AS installers") ::
            pushed .installers steps) ++
        ("FROM " ++ source.name) :: (pushed .build steps ++ pushed .clean steps) ∧
      manifest.render = "\n".intercalate manifest.lines ∧
      (manifest.hasInstallersStage = true ↔ pushed .installers steps ≠ [])) ∧
    (d.recipe.name = name ∧ d.recipe.os = os ∧
      d.recipe.basePath = settings.contextsRoot.join (.ofString name)) ∧
    ∀ {settings' : Settings} {name' os' : String} {d₀' d' : Draft} {calls' : List Call}
      {source' : ImageSource}, Draft.create settings' name' os' = .ok d₀' →
      Runs ω d₀' calls' d' → lastSource calls' = some source' →
      (∀ q, pushed q (stepsOf d₀'.recipe calls') = pushed q steps) →
      source'.name = source.name →
      (lastSelected (stepsOf d₀'.recipe calls')).map Image.name = selected →
      d'.preview = d.preview := by
  intro steps selected
  have hpreview := preview_eq_ofQueues hcreate hruns hsource
  refine ⟨⟨_, hpreview, Manifest.lines_ofQueues .., rfl,
    Manifest.hasInstallersStage_ofQueues ..⟩, ?_, ?_⟩
  · obtain ⟨hname, hos, hbase⟩ := d₀.recipe.identity_takeAll steps
    obtain ⟨_, -, rfl⟩ := create_eq_ok hcreate
    rw [recipe_of_runs hruns]
    exact ⟨hname, hos, hbase⟩
  · intro settings' name' os' d₀' d' calls' source' hcreate' hruns' hsource' hlines hname hselected
    rw [hpreview, preview_eq_ofQueues hcreate' hruns' hsource', hname, hselected, funext hlines]

/-- Calls that set the source first and push all lines at once. -/
def sourceFirst : List Call :=
  [.setSource (.named "base"), .execute ⟨"all", fun _ => [.installer "RUN i", .build "RUN b"]⟩]

/-- Calls that push the same lines in the other order and replace an earlier source at the end. -/
def sourceLast : List Call :=
  [.execute ⟨"build", fun _ => [.build "RUN b"]⟩, .setSource (.named "old"),
    .execute ⟨"install", fun _ => [.installer "RUN i"]⟩, .setSource (.named "base")]

/-- Both descriptions have the same manifest, in two stages. -/
theorem preview_of_runs_interleaved :
    ∃ d₀ d d' : Draft, Draft.create {} "app" "linux" = .ok d₀ ∧
      Runs Rehearsal d₀ sourceFirst d ∧ Runs Rehearsal d₀ sourceLast d' ∧
      d'.preview = d.preview ∧
      ∃ manifest, d.preview = .ok manifest ∧
        manifest.lines = ["FROM base AS installers", "RUN i", "FROM base", "RUN b"] := by
  obtain ⟨d₀, hcreate⟩ : ∃ d₀, Draft.create {} "app" "linux" = .ok d₀ := ⟨_, by rfl⟩
  obtain ⟨d, hruns⟩ : ∃ d, Runs Rehearsal d₀ sourceFirst d := by
    cases hcreate
    exact ⟨_, .cons (w := {}) rfl (.cons (w := {}) rfl (.nil _))⟩
  obtain ⟨d', hruns'⟩ : ∃ d', Runs Rehearsal d₀ sourceLast d' := by
    cases hcreate
    exact ⟨_, .cons (w := {}) rfl (.cons (w := {}) rfl (.cons (w := {}) rfl
      (.cons (w := {}) rfl (.nil _))))⟩
  obtain ⟨⟨manifest, hpreview, hlines, -, -⟩, -, hsame⟩ := preview_of_runs hcreate hruns rfl
  have hpushed (q : Queue) : pushed q (stepsOf d₀.recipe sourceLast) =
      pushed q (stepsOf d₀.recipe sourceFirst) := by
    cases q <;> rfl
  exact ⟨d₀, d, d', hcreate, hruns, hruns', hsame hcreate hruns' rfl hpushed rfl rfl,
    manifest, hpreview, hlines⟩

end Draft

end ContainerBuild
