import ContainerBuild.Draft
import ContainerBuild.Proofs.Image.Name
import ContainerBuild.Proofs.Text.Splitting

/-!
# Reading a manifest back

The text of a manifest tells its stages apart, with their sources, labels and instructions. Every
stage opens with a header, which no instruction looks like. A header is one line, and its source
ends at the first space, because the names of images have neither spaces nor line feeds.

* `IsInstruction` — the lines that cannot be taken for a header or for two lines.
* `Image.Accepted` — the images whose names were checked.
* `Stage.header_inj` — a header tells its source and its label.
* `Manifest.eq_of_lines` — the lines of a manifest tell its stages.
* `Manifest.eq_of_render` — manifests of recipes with the same text are the same.
-/

namespace ContainerBuild

/-- The line is a single one, and no stage opens with it. -/
structure IsInstruction (line : String) : Prop where
  /-- It has no line feed. -/
  oneLine : '\n' ∉ line.toList
  /-- It does not start as a header does. -/
  notHeader : ¬"FROM ".toList <+: line.toList

/-- The image was imported, or a draft of it was created. -/
inductive Image.Accepted : Image → Prop
  /-- The image exists elsewhere. -/
  | imported {name os : String} {image : Image} (h : Image.imported name os = .ok image) :
    Accepted image
  /-- The image is built here. -/
  | created {settings : Settings} {name os : String} {d : Draft}
    (h : Draft.create settings name os = .ok d) : Accepted d.image

/-- The names in the recipe were checked, and its lines are instructions. -/
structure Recipe.IsPlain (r : Recipe) : Prop where
  /-- The installers run on an image that was accepted, if on one of their own. -/
  installersImage : ∀ image, r.installersImage = some image → image.Accepted
  /-- Every line in a queue is an instruction. -/
  instructions : ∀ line ∈ r.installers ++ r.build ++ r.clean, IsInstruction line

/-- The stage can be told from its lines. -/
structure Stage.IsPlain (s : Stage) : Prop where
  /-- The source ends at the first space. -/
  source : ' ' ∉ s.source.toList
  /-- The header is a single line. -/
  oneLine : '\n' ∉ s.header.toList
  /-- The lines below the header are instructions. -/
  instructions : ∀ line ∈ s.instructions, IsInstruction line

/-! ### Names -/

/-- An image is accepted only under a name of the grammar. -/
theorem Image.Accepted.isName {image : Image} (h : image.Accepted) :
    ∃ segments, IsName image.name segments := by
  rw [← checkName_eq_ok_iff]
  cases h with
  | imported h =>
    obtain ⟨hname, -, rfl⟩ := checked_eq_ok h
    exact hname
  | created h =>
    unfold Draft.create at h
    split at h
    next => cases h
    next image hchecked =>
      obtain ⟨hname, -, rfl⟩ := checked_eq_ok hchecked
      cases h
      exact hname

/-- The name of an accepted image has neither spaces nor line feeds. -/
theorem Image.Accepted.notMem_name {image : Image} (h : image.Accepted) {c : Char}
    (hc : isNameChar c = false) : c ∉ image.name.toList := by
  obtain ⟨segments, hname⟩ := h.isName
  intro hmem
  rw [hname.isNameChar hmem] at hc
  cases hc

/-! ### Headers -/

namespace Stage

/-- What follows the source in a header. -/
def labelText : Option String → List Char
  | none => []
  | some label => " AS ".toList ++ label.toList

theorem toList_header (s : Stage) :
    s.header.toList = "FROM ".toList ++ (s.source.toList ++ labelText s.label) := by
  unfold header labelText
  cases s.label <;> simp

/-- A header starts with the word that no instruction starts with. -/
theorem isHeader (s : Stage) : "FROM ".toList <+: s.header.toList := by
  rw [toList_header]
  exact List.prefix_append ..

/-- A label starts with a space, if there is one. -/
theorem head?_labelText {label : Option String} {c : Char}
    (hc : (labelText label).head? = some c) : c = ' ' := by
  cases label with
  | none => cases hc
  | some label => exact (Option.some.inj hc).symm

theorem labelText_injective : Function.Injective labelText := by
  intro label label' h
  cases label <;> cases label' <;> simp_all [labelText, String.toList_inj]

/-- A header tells its source and its label, if the source has no spaces. -/
theorem header_inj {s s' : Stage} (hs : ' ' ∉ s.source.toList) (hs' : ' ' ∉ s'.source.toList)
    (h : s.header = s'.header) : s.source = s'.source ∧ s.label = s'.label := by
  have hheader := congrArg String.toList h
  rw [toList_header, toList_header, List.append_cancel_left_eq] at hheader
  -- the source goes on to the first space, which is that of the label
  have hsource {l : List Char} (hl : ' ' ∉ l) : ∀ c ∈ l, (c != ' ') = true := fun c hc => by
    simpa using ne_of_mem_of_not_mem hc hl
  have hlabel (label : Option String) (c : Char) (hc : (labelText label).head? = some c) :
      (c != ' ') = false := by
    rw [head?_labelText hc]
    rfl
  obtain ⟨hsources, hlabels⟩ :=
    Text.append_inj_of_stop (hsource hs) (hsource hs') (hlabel _) (hlabel _) hheader
  exact ⟨String.toList_inj.1 hsources, labelText_injective hlabels⟩

end Stage

/-! ### Manifests -/

namespace Manifest

/-- The lines of stages tell the stages. -/
theorem eq_of_lines {m m' : Manifest} (hm : ∀ s ∈ m.stages, s.IsPlain)
    (hm' : ∀ s ∈ m'.stages, s.IsPlain) (h : m.lines = m'.lines) : m = m' := by
  obtain ⟨stages⟩ := m
  obtain ⟨stages'⟩ := m'
  rw [Manifest.mk.injEq]
  dsimp only [lines] at hm hm' h
  -- the lines that follow the instructions of a stage start with the header of the next one
  let isBelow : String → Bool := fun line => decide ¬"FROM ".toList <+: line.toList
  have hinstruction {s : Stage} (hs : s.IsPlain) : ∀ line ∈ s.instructions, isBelow line = true :=
    fun line hline => decide_eq_true (hs.instructions line hline).notHeader
  have hnext (stages : List Stage) (line : String)
      (hline : (stages.flatMap fun s => s.header :: s.instructions).head? = some line) :
      isBelow line = false := by
    cases stages with
    | nil => cases hline
    | cons s rest =>
      obtain rfl : s.header = line := Option.some.inj hline
      exact decide_eq_false (not_not_intro s.isHeader)
  -- stage by stage: the headers are equal, and so are the instructions up to the next header
  induction stages generalizing stages' with
  | nil =>
    cases stages' with
    | nil => rfl
    | cons s' rest' => simp at h
  | cons s rest ih =>
    cases stages' with
    | nil => simp at h
    | cons s' rest' =>
      rw [List.forall_mem_cons] at hm hm'
      simp only [List.flatMap_cons, List.cons_append, List.cons.injEq] at h
      obtain ⟨hsource, hlabel⟩ := Stage.header_inj hm.1.source hm'.1.source h.1
      obtain ⟨hlines, hrest⟩ := Text.append_inj_of_stop (hinstruction hm.1) (hinstruction hm'.1)
        (hnext rest) (hnext rest') h.2
      have hstage : s = s' := by
        cases s
        cases s'
        simp_all
      rw [hstage, ih hm.2 rest' hm'.2 hrest]

/-- The text of stages tells the stages. -/
theorem eq_of_plain {m m' : Manifest} (hm : ∀ s ∈ m.stages, s.IsPlain)
    (hm' : ∀ s ∈ m'.stages, s.IsPlain) (hne : m.stages ≠ []) (hne' : m'.stages ≠ [])
    (h : m.render = m'.render) : m = m' := by
  have hcut {m : Manifest} (hm : ∀ s ∈ m.stages, s.IsPlain) (hne : m.stages ≠ []) :
      Text.splitLines m.render = m.lines := by
    apply Text.splitLines_joinLines
    · obtain ⟨s, rest, hstages⟩ := List.exists_cons_of_ne_nil hne
      simp [lines, hstages]
    · intro line hline
      obtain ⟨s, hs, hline⟩ := List.mem_flatMap.1 hline
      rcases List.mem_cons.1 hline with rfl | hline
      · exact (hm s hs).oneLine
      · exact ((hm s hs).instructions line hline).oneLine
  apply eq_of_lines hm hm'
  rw [← hcut hm hne, h, hcut hm' hne']

/-- The stages of a recipe's manifest can be told from their lines, if the names and lines in the
recipe were checked. -/
theorem isPlain_of_recipe {r : Recipe} {source : Image} (hr : r.IsPlain)
    (hsource : source.Accepted) : ∀ s ∈ (ofRecipe r source).stages, s.IsPlain := by
  have hplain {image : Image} (himage : image.Accepted) (label : Option String)
      (hlabel : '\n' ∉ Stage.labelText label) (instructions : List String)
      (hlines : ∀ line ∈ instructions, line ∈ r.installers ++ r.build ++ r.clean) :
      (⟨image.name, label, instructions⟩ : Stage).IsPlain := by
    refine ⟨himage.notMem_name (by decide), ?_, fun line hline =>
      hr.instructions line (hlines line hline)⟩
    have hfrom : '\n' ∉ "FROM ".toList := by decide
    rw [Stage.toList_header, List.mem_append, List.mem_append]
    exact not_or.2 ⟨hfrom, not_or.2 ⟨himage.notMem_name (by decide), hlabel⟩⟩
  have hmain := hplain hsource none List.not_mem_nil (r.build ++ r.clean) (by simp +contextual)
  have hinstallers : (r.installersImage.getD source).Accepted := by
    cases himage : r.installersImage with
    | none => exact hsource
    | some image => exact hr.installersImage image himage
  unfold ofRecipe
  dsimp only
  split
  · exact List.forall_mem_singleton.2 hmain
  · refine List.forall_mem_cons.2 ⟨?_, List.forall_mem_singleton.2 hmain⟩
    exact hplain hinstallers _ (by decide) _ (by simp +contextual)

/-- Recipes whose names were checked, and whose lines are instructions, have the same manifest if
they have the same text, so no stage is lost, gained or changed by writing it. Every header is a
single line, and that of a stage without a label is not the header of any stage with one. -/
theorem eq_of_render {r r' : Recipe} {source source' : Image} (hr : r.IsPlain) (hr' : r'.IsPlain)
    (hsource : source.Accepted) (hsource' : source'.Accepted) :
    ((ofRecipe r source).render = (ofRecipe r' source').render →
      ofRecipe r source = ofRecipe r' source') ∧
    ∀ stage ∈ (ofRecipe r source).stages, '\n' ∉ stage.header.toList ∧
      (stage.label = none → ∀ other label lines,
        stage.header ≠ Stage.header ⟨other, some label, lines⟩) := by
  have hplain := isPlain_of_recipe hr hsource
  have hstages (r : Recipe) (source : Image) : (ofRecipe r source).stages ≠ [] := by
    unfold ofRecipe
    dsimp only
    split <;> exact List.cons_ne_nil _ _
  refine ⟨eq_of_plain hplain (isPlain_of_recipe hr' hsource') (hstages r source)
    (hstages r' source'), ?_⟩
  intro stage hstage
  refine ⟨(hplain stage hstage).oneLine, fun hlabel other label lines heq => ?_⟩
  -- the space in front of the label would be one of the source
  have hheader := congrArg String.toList heq
  rw [Stage.toList_header, Stage.toList_header, List.append_cancel_left_eq, hlabel] at hheader
  apply (hplain stage hstage).source
  rw [show stage.source.toList = stage.source.toList ++ Stage.labelText none by
    simp [Stage.labelText], hheader]
  simp [Stage.labelText]

/-- A recipe with an empty line in two of its queues and installers on an image of their own. -/
def twoStages : Recipe :=
  { Recipe.create "app" "linux" (.ofString "ctx") with
    installersImage := some ⟨.imported, "base", "linux"⟩
    installers := ["RUN i", ""], build := ["RUN b"], clean := [""] }

/-- A recipe that has the same lines, with the empty one among those that build. -/
def cleanedInBuild : Recipe :=
  { Recipe.create "other" "linux" (.ofString "ctx") with
    installers := ["RUN i", ""], build := ["RUN b", ""] }

/-- Two recipes with the same text have the same manifest, in two stages, although one builds on an
image of a draft and the other on one that was imported. -/
theorem eq_of_render_twoStages :
    let built : Image := ⟨.built, "base", "linux"⟩
    let imported : Image := ⟨.imported, "base", "linux"⟩
    twoStages.IsPlain ∧ cleanedInBuild.IsPlain ∧ built.Accepted ∧ imported.Accepted ∧
      (ofRecipe twoStages built).stages.length = 2 ∧
      ofRecipe twoStages built = ofRecipe cleanedInBuild imported := by
  intro built imported
  have hlines : ∀ line ∈ ["RUN i", "", "RUN b", ""], IsInstruction line := by
    have hline {line : String} (h : '\n' ∉ line.toList ∧ ¬"FROM ".toList <+: line.toList) :
        IsInstruction line := ⟨h.1, h.2⟩
    intro line hmem
    exact hline ((by decide : ∀ line ∈ ["RUN i", "", "RUN b", ""],
      '\n' ∉ line.toList ∧ ¬"FROM ".toList <+: line.toList) line hmem)
  have himported : imported.Accepted := @Image.Accepted.imported "base" "linux" _ (by rfl)
  have hbuilt : built.Accepted := @Image.Accepted.created {} "base" "linux" _ (by rfl)
  have hplain : twoStages.IsPlain := ⟨fun image h => Option.some.inj h ▸ himported, hlines⟩
  have hplain' : cleanedInBuild.IsPlain := ⟨nofun, hlines⟩
  obtain ⟨heq, -⟩ := eq_of_render hplain hplain' hbuilt himported
  exact ⟨hplain, hplain', hbuilt, himported, by rfl, heq (by rfl)⟩

end Manifest

end ContainerBuild
