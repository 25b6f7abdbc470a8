import ContainerBuild.Application
import ContainerBuild.Proofs.Draft.Call

/-!
# The draft of a command line

A command line describes an image by its names and installers alone, so the draft that it stands
for can be written down: nothing is staged, installers add lines to the instructions that build, and
the only way to fail is a name or platform that is not well formed.

* `described` — the draft for names that have been checked.
* `describe_eq` — a command line describes that draft, or one of its names is refused.
* `ImageArguments.IsWellFormed` — the names and the platform of a command line are accepted.
* `describe_of_isWellFormed`, `describe_of_not_isWellFormed` — what a command line describes.
* `draft?` — the draft of a command line, if its settings and names are accepted.
-/

namespace ContainerBuild

/-- A name and a platform that are accepted make up an image. -/
theorem Image.checked_of_ok {origin : Origin} {name os : String} (hname : checkName name = .ok ())
    (hos : checkOs os = .ok ()) : checked origin name os = .ok ⟨origin, name, os⟩ := by
  simp [checked, hname, hos, bind, Except.bind]

/-- The names and the platform of a command line are accepted. -/
structure ImageArguments.IsWellFormed (a : ImageArguments) : Prop where
  /-- The name of the image is. -/
  name : checkName a.name = .ok ()
  /-- The platform is. -/
  os : checkOs a.os = .ok ()
  /-- The name of the image that it is built on is. -/
  source : checkName a.source = .ok ()
  /-- The name of the image for installers is, if one is given. -/
  installersImage : ∀ name, a.installersImage = some name → checkName name = .ok ()

namespace Application

/-- The image that the command line selects for installers, if it selects one. -/
def selected (a : ImageArguments) : Except NameFault (Option Image) :=
  match a.installersImage with
  | none => .ok none
  | some name => (Image.imported name a.os).map some

/-- The draft of a command line of which the names have been checked. -/
def described (s : Settings) (a : ImageArguments) (image source : Image)
    (installersImage : Option Image) : Draft where
  image := image
  source? := some source
  recipe := { Recipe.create a.name a.os s.contextsRoot with
    installersImage
    build := a.installers.map Installer.instruction }
  state := .sourceSet
  settings := s

/-- On an open draft, installers append their instructions to those that build. -/
theorem foldlM_installers (installers : List Installer) {d : Draft}
    (hopen : d.state.isOpen = true) :
    installers.foldlM (fun d i => d.execute i.procedure) d =
      .ok { d with recipe := { d.recipe with
        build := d.recipe.build ++ installers.map Installer.instruction } } := by
  induction installers generalizing d with
  | nil => simp [pure, Except.pure]
  | cons i rest ih =>
    have hstep : d.execute i.procedure = .ok { d with recipe := { d.recipe with
        build := d.recipe.build ++ [i.instruction] } } := Draft.execute_of_isOpen hopen _
    have hrest := ih (d := { d with recipe := { d.recipe with
        build := d.recipe.build ++ [i.instruction] } }) hopen
    rw [List.foldlM_cons, hstep]
    simpa [bind, Except.bind] using hrest

/-- The selection of an image for installers refuses a bad name and changes nothing else. -/
theorem withInstallersImage_eq (a : ImageArguments) {d : Draft} (hopen : d.state.isOpen = true)
    (hnone : d.recipe.installersImage = none) :
    withInstallersImage a d =
      match selected a with
      | .error fault => .error (.badName fault)
      | .ok installersImage => .ok { d with recipe := { d.recipe with installersImage } } := by
  cases hname : a.installersImage with
  | none =>
    have hsame : { d.recipe with installersImage := none } = d.recipe := by rw [← hnone]
    simp only [withInstallersImage, selected, hname, hsame]
  | some name =>
    simp only [withInstallersImage, selected, hname]
    cases Image.imported name a.os with
    | error fault => rfl
    | ok image => exact Draft.execute_of_isOpen hopen _

/-- A command line describes the draft of its names, unless one of them is refused: that of the
image, of the image that it is built on, or of the image for installers, in this order. -/
theorem describe_eq (s : Settings) (a : ImageArguments) :
    describe s a =
      match Image.checked .built a.name a.os, Image.imported a.source a.os, selected a with
      | .error fault, _, _ => .error (.badName fault)
      | .ok _, .error fault, _ => .error (.badName fault)
      | .ok _, .ok _, .error fault => .error (.badName fault)
      | .ok image, .ok source, .ok installersImage =>
        .ok (described s a image source installersImage) := by
  simp only [describe, Draft.create]
  cases himage : Image.checked .built a.name a.os with
  | error fault => rfl
  | ok image =>
    obtain ⟨-, -, rfl⟩ := Image.checked_eq_ok himage
    simp only [bind, Except.bind]
    rw [Draft.setSource_of_isOpen rfl, ImageSource.resolve]
    cases Image.imported a.source a.os with
    | error fault => rfl
    | ok source =>
      dsimp only
      rw [withInstallersImage_eq a rfl rfl]
      cases selected a with
      | error fault => rfl
      | ok installersImage => exact foldlM_installers a.installers rfl

/-! ### Command lines that are accepted -/

/-- The draft that a command line describes if its names and its platform are accepted. -/
def draftOf (s : Settings) (a : ImageArguments) : Draft :=
  described s a ⟨.built, a.name, a.os⟩ ⟨.imported, a.source, a.os⟩
    (a.installersImage.map fun name => ⟨.imported, name, a.os⟩)

theorem selected_of_isWellFormed {a : ImageArguments} (h : a.IsWellFormed) :
    selected a = .ok (a.installersImage.map fun name => ⟨.imported, name, a.os⟩) := by
  unfold selected
  cases hname : a.installersImage with
  | none => rfl
  | some name =>
    have himage : Image.imported name a.os = .ok ⟨.imported, name, a.os⟩ :=
      Image.checked_of_ok (h.installersImage name hname) h.os
    simp only [himage]
    rfl

/-- A command line of which names and platform are accepted describes its draft. -/
theorem describe_of_isWellFormed (s : Settings) {a : ImageArguments} (h : a.IsWellFormed) :
    describe s a = .ok (draftOf s a) := by
  have hsource : Image.imported a.source a.os = .ok ⟨.imported, a.source, a.os⟩ :=
    Image.checked_of_ok h.source h.os
  rw [describe_eq, Image.checked_of_ok h.name h.os, hsource, selected_of_isWellFormed h]
  rfl

/-- An image for installers that is selected has been accepted. -/
theorem checkName_of_selected {a : ImageArguments} {installersImage : Option Image}
    (h : selected a = .ok installersImage) {name : String} (hname : a.installersImage = some name) :
    checkName name = .ok () := by
  rw [selected, hname] at h
  cases himage : Image.imported name a.os with
  | error fault => simp [himage, Except.map] at h
  | ok image => exact (Image.checked_eq_ok himage).1

/-- A command line with a name or a platform that is not accepted is refused for that. -/
theorem describe_of_not_isWellFormed (s : Settings) {a : ImageArguments} (h : ¬a.IsWellFormed) :
    ∃ fault, describe s a = .error (.badName fault) := by
  rw [describe_eq]
  split
  next fault _ => exact ⟨fault, rfl⟩
  next fault _ _ => exact ⟨fault, rfl⟩
  next fault _ _ _ => exact ⟨fault, rfl⟩
  next image source installersImage himage hsource hselected =>
    -- nothing was refused, so everything had been accepted
    obtain ⟨hname, hos, -⟩ := Image.checked_eq_ok himage
    obtain ⟨hsource, -, -⟩ := Image.checked_eq_ok hsource
    exact absurd ⟨hname, hos, hsource, fun _ => checkName_of_selected hselected⟩ h

/-- The draft of a command line, if its settings can be used and its names are well formed. -/
def draft? (e : Environment) (a : ImageArguments) (buildTool : Option String) : Option Draft :=
  match (settingsFor e a buildTool).validate with
  | .error _ => none
  | .ok () => (describe (settingsFor e a buildTool) a).toOption

/-- An accepted command line has settings that can be used and describes its draft. -/
theorem draft?_eq_some {e : Environment} {a : ImageArguments} {buildTool : Option String}
    {d : Draft} (h : draft? e a buildTool = some d) :
    (settingsFor e a buildTool).validate = .ok () ∧
      describe (settingsFor e a buildTool) a = .ok d := by
  simp only [draft?] at h
  split at h
  · cases h
  next hvalid =>
    refine ⟨hvalid, ?_⟩
    cases hdescribe : describe (settingsFor e a buildTool) a with
    | error error => simp [hdescribe, Except.toOption] at h
    | ok d' =>
      rw [hdescribe] at h
      cases h
      rfl

/-- A command line that is not accepted has settings that cannot be used, or describes no draft. -/
theorem draft?_eq_none {e : Environment} {a : ImageArguments} {buildTool : Option String}
    (h : draft? e a buildTool = none) :
    (∃ fault, (settingsFor e a buildTool).validate = .error fault) ∨
      (settingsFor e a buildTool).validate = .ok () ∧
        ∃ error, describe (settingsFor e a buildTool) a = .error error := by
  simp only [draft?] at h
  split at h
  next fault hinvalid => exact .inl ⟨fault, hinvalid⟩
  next hvalid =>
    refine .inr ⟨hvalid, ?_⟩
    cases hdescribe : describe (settingsFor e a buildTool) a with
    | error error => exact ⟨error, rfl⟩
    | ok d => simp [hdescribe, Except.toOption] at h

/-- A draft is described only if all names are accepted. -/
theorem described_of_draft? {e : Environment} {a : ImageArguments} {buildTool : Option String}
    {d : Draft} (h : draft? e a buildTool = some d) :
    a.IsWellFormed ∧ d = draftOf (settingsFor e a buildTool) a := by
  have hdescribe := (draft?_eq_some h).2
  by_cases hformed : a.IsWellFormed
  · rw [describe_of_isWellFormed _ hformed] at hdescribe
    exact ⟨hformed, (Except.ok.inj hdescribe).symm⟩
  · obtain ⟨fault, hrefused⟩ := describe_of_not_isWellFormed (settingsFor e a buildTool) hformed
    rw [hrefused] at hdescribe
    cases hdescribe

/-- The draft of an accepted command line has a source image, and nothing is staged for it. -/
theorem sourced_of_draft? {e : Environment} {a : ImageArguments} {buildTool : Option String}
    {d : Draft} (h : draft? e a buildTool = some d) :
    ∃ source, d.phase = .sourced source ∧ d.recipe.staged = [] := by
  obtain ⟨-, rfl⟩ := described_of_draft? h
  exact ⟨_, rfl, rfl⟩

end Application

end ContainerBuild
