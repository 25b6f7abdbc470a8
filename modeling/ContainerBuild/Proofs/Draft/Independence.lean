import ContainerBuild.Proofs.Draft.Confinement
import ContainerBuild.Proofs.Draft.Session
import ContainerBuild.Proofs.Image.Name
import ContainerBuild.Proofs.Store.Agreement

/-!
# Builds that do not disturb each other

Drafts that were created under the same settings are staged below one contexts root. If neither name
continues the other by further segments, their staging directories are apart, and as long as no
entry is copied from the other draft's directory or from a directory above it, building one draft
makes no difference to the other, in either order.

A name may continue another one. Then the one staging directory lies inside the other, and can even
be where the manifest of the other draft goes, so that only the first of the two builds succeeds.

* `Draft.Undisturbed d other r` — building `other` first or last makes no difference to `d`.
* `Draft.undisturbed_of_names` — when it makes none, for either of two drafts.
* `Draft.build_nestedNames` — a draft that cannot be built after another one.
-/

namespace ContainerBuild

open ContainerBuild.Path (Component)
open ContainerBuild.Memory (Apart Agrees Confined)

/-- Where the entry is copied from, if it is a copy. -/
def StagedEntry.source? : StagedEntry → Option Path
  | file source _ => some source
  | directory source _ => some source
  | document _ _ => none

/-! ### Builds on stores that agree -/

section Agreement

variable {place : List Component} {m m' m₁ : Memory}

/-- Placing an entry outside of a place, from outside of it, answers the same on stores that
agree. -/
theorem Memory.Agrees.place_eq (h : Agrees place m m') {entry : StagedEntry} {path : Path}
    (hsource : ∀ source, entry.source? = some source → m.Outside place source)
    (hpath : m.Outside place path) {answer : Except StoreFault Unit}
    (hstep : m.place entry path = (answer, m₁)) :
    ∃ m₁', m'.place entry path = (answer, m₁') ∧ Agrees place m₁ m₁' := by
  cases entry with
  | file source _ => exact h.copyFile (hsource source rfl) hpath hstep
  | directory source _ => exact h.copyDir (hsource source rfl) hpath hstep
  | document _ value => exact h.writeText hpath hstep

/-- Entries that can be placed in one store can be placed in every store that agrees with it. -/
theorem Recipe.Placed.agrees {r : Recipe} {entries : List StagedEntry} {requests : List Request}
    (hplaced : r.Placed entries m requests m₁) (h : Agrees place m m')
    (hbase : m.Outside place r.basePath)
    (hsources : ∀ entry ∈ entries, ∀ source, entry.source? = some source →
      m.Outside place source) :
    ∃ m₁', r.Placed entries m' requests m₁' ∧ Agrees place m₁ m₁' := by
  induction hplaced generalizing m' with
  | nil m => exact ⟨m', .nil m', h⟩
  | @cons entry rest path m m₁ m₂ requests htarget hplace hrest ih =>
    obtain ⟨hrelative, -, rfl⟩ := Recipe.stagingPath?_eq_some htarget
    obtain ⟨m₁', hplace', h₁⟩ :=
      h.place_eq (hsources entry List.mem_cons_self) (hbase.join hrelative) hplace
    -- placing the entry leaves the root from which the others are located
    have hconfined := m.place_confined entry (m.under_nil (r.basePath.join entry.target))
    rw [hplace] at hconfined
    obtain ⟨m₂', hplaced', h₂⟩ := ih h₁ (hconfined.outside hbase) fun other hother source hsource =>
      hconfined.outside (hsources other (List.mem_cons_of_mem entry hother) source hsource)
    exact ⟨m₂', .cons htarget hplace' hplaced', h₂⟩

/-- A course of a build outside of a place is open on every store that agrees, if the tool answers
the same there. -/
theorem Draft.Builds.agrees {d : Draft} {s s' s₁ : Script} {answer : Except BuildError Unit}
    {requests : List Request} (hcourse : d.Builds m s answer m₁ s₁ requests)
    (hmanifest : (Path.ofString d.settings.manifestName).isAbsolute = false)
    (h : Agrees place m m') (hbase : m.Outside place d.recipe.basePath)
    (hsources : ∀ entry ∈ d.recipe.staged, ∀ source, entry.source? = some source →
      m.Outside place source)
    (htool : s'.next.toolAnswer d.buildCommand = s.next.toolAnswer d.buildCommand) :
    ∃ m₁' s₁', d.Builds m' s' answer m₁' s₁' requests ∧ Agrees place m₁ m₁' := by
  -- staging leaves the root from which paths are located
  have hroot {entries : List StagedEntry} {requests : List Request} {m₂ : Memory}
      (hplaced : d.recipe.Placed entries m requests m₂) : Confined [] m m₂ :=
    .of_placed (m.under_nil _) hplaced
  cases hcourse with
  | @badTarget before after entry _ _ hstaged hplaced htarget =>
    obtain ⟨m₁', hplaced', h₁⟩ := hplaced.agrees h hbase fun other hother =>
      hsources other (by rw [hstaged]; exact List.mem_append_left _ hother)
    exact ⟨m₁', s', .badTarget hstaged hplaced' htarget, h₁⟩
  | @notPlaced before after entry path cause _ m₂ _ hstaged hplaced htarget hplace =>
    obtain ⟨m₂', hplaced', h₂⟩ := hplaced.agrees h hbase fun other hother =>
      hsources other (by rw [hstaged]; exact List.mem_append_left _ hother)
    obtain ⟨hrelative, -, rfl⟩ := Recipe.stagingPath?_eq_some htarget
    have hentry : ∀ source, entry.source? = some source → m₂.Outside place source :=
      fun source hsource =>
        (hroot hplaced).outside (hsources entry (by rw [hstaged]; simp) source hsource)
    have hpath := (hroot hplaced).outside (hbase.join hrelative)
    obtain ⟨m₁', hplace', h₁⟩ := h₂.place_eq hentry hpath hplace
    exact ⟨m₁', s', .notPlaced hstaged hplaced' htarget hplace', h₁⟩
  | @notWritten manifest cause _ _ hplaced hpreview hwrite =>
    obtain ⟨m₁', hplaced', h₁⟩ := hplaced.agrees h hbase hsources
    have hpath : m₁.Outside place d.manifestPath :=
      (hroot hplaced).outside (hbase.join hmanifest)
    -- a manifest that one store refuses is refused by the other one
    obtain ⟨m₂', hwrite', -⟩ := h₁.writeText hpath (Prod.ext hwrite rfl)
    exact ⟨m₁', s', .notWritten hplaced' hpreview (by rw [hwrite']), h₁⟩
  | @ran manifest _ m₂ _ hplaced hpreview hwrite =>
    obtain ⟨m₂', hplaced', h₂⟩ := hplaced.agrees h hbase hsources
    have hpath : m₂.Outside place d.manifestPath :=
      (hroot hplaced).outside (hbase.join hmanifest)
    obtain ⟨m₁', hwrite', h₁⟩ := h₂.writeText hpath hwrite
    rw [← htool]
    exact ⟨m₁', _, .ran hplaced' hpreview hwrite', h₁⟩

end Agreement

/-! ### Scripts in which every run succeeds -/

/-- Every outcome to come is exit code zero. -/
def Script.Succeeds (s : Script) : Prop :=
  ∀ outcome ∈ s.pending, ∃ stdout stderr, outcome = .exits 0 stdout stderr

/-- The next run of such a script succeeds. -/
theorem Script.Succeeds.next {s : Script} (h : s.Succeeds) (c : Command) :
    s.next.toolAnswer c = .ok () := by
  rw [Scripted.toolAnswer_eq_ok_iff, Script.next]
  cases hpending : s.pending with
  | nil => exact ⟨"", "", rfl⟩
  | cons outcome rest => exact h outcome (by rw [hpending]; exact List.mem_cons_self)

namespace Draft

/-- A build leaves such a script. -/
theorem succeeds_of_build (d : Draft) {r : Rehearsal} (h : r.script.Succeeds) :
    (d.build r).2.2.script.Succeeds := by
  rcases d.script_of_build r with ⟨-, -, hscript⟩ | ⟨-, hscript⟩
  · rw [hscript]
    exact fun outcome houtcome => h outcome (List.mem_of_mem_tail houtcome)
  · rwa [hscript]

/-! ### Undisturbed builds -/

/-- A build outside of a place answers the same in rehearsals that agree apart from the place, and
leaves rehearsals that do. -/
theorem agrees_of_build {d : Draft} (hvalid : d.settings.validate = .ok ()) {r r' : Rehearsal}
    {place : List Component} (h : Agrees place r.memory r'.memory)
    (hbase : r.memory.Outside place d.recipe.basePath)
    (hsources : ∀ entry ∈ d.recipe.staged, ∀ source, entry.source? = some source →
      r.memory.Outside place source)
    (hscript : r.script.Succeeds) (hscript' : r'.script.Succeeds) :
    (d.build r').1 = (d.build r).1 ∧
      Agrees place (d.build r).2.2.memory (d.build r').2.2.memory := by
  rcases d.sourced_or_refused with ⟨source, hphase⟩ | ⟨error, d', -, hrefused⟩
  · obtain ⟨-, hsource⟩ := phase_eq_sourced_iff.1 hphase
    obtain ⟨answer, m₁, s₁, requests, hcourse⟩ := exists_builds hsource r.memory r.script
    -- the scripts may differ in which outcomes are left, but all of them are successes
    have htool : r'.script.next.toolAnswer d.buildCommand =
        r.script.next.toolAnswer d.buildCommand := by
      rw [hscript.next, hscript'.next]
    obtain ⟨m₁', s₁', hcourse', h₁⟩ :=
      hcourse.agrees (Settings.isAbsolute_manifestName hvalid) h hbase hsources htool
    obtain ⟨_, hbuild, -⟩ := build_of_builds hphase hcourse
    obtain ⟨_, hbuild', -⟩ := build_of_builds hphase hcourse'
    rw [hbuild, hbuild']
    exact ⟨rfl, h₁⟩
  · -- a refusal does not depend on the store
    rw [hrefused r, hrefused r']
    exact ⟨rfl, h⟩

/-- Building another draft makes no difference to a draft, be it built first or last. -/
structure Undisturbed (d other : Draft) (r : Rehearsal) : Prop where
  /-- After the other build, this one answers what it answers without it. -/
  answer_eq : (d.build (other.build r).2.2).1 = (d.build r).1
  /-- After the other build, this one leaves what it leaves without it in the staging directory. -/
  held_eq : (d.build (other.build r).2.2).2.2.memory.held
      (r.memory.locate d.recipe.basePath).components =
    (d.build r).2.2.memory.held (r.memory.locate d.recipe.basePath).components
  /-- What this build left in the staging directory stays as it is during the other one. -/
  kept_eq : (other.build (d.build r).2.2).2.2.memory.held
      (r.memory.locate d.recipe.basePath).components =
    (d.build r).2.2.memory.held (r.memory.locate d.recipe.basePath).components

/-- No entry of the draft is copied from the staging directory of the other one, from inside of it
or from above it. -/
def CopiesApart (d other : Draft) (m : Memory) : Prop :=
  ∀ entry ∈ d.recipe.staged, ∀ source, entry.source? = some source →
    Apart (m.locate other.recipe.basePath).components (m.locate source).components

/-- A draft is not disturbed by another one if the staging directories are apart and nothing is
copied from the other one. -/
theorem undisturbed_of_apart {d other : Draft} {r : Rehearsal}
    (hvalid : d.settings.validate = .ok ()) (hvalid' : other.settings.validate = .ok ())
    (hsorted : r.memory.Sorted) (hsettles : r.memory.Settles d.recipe.basePath)
    (hsettles' : r.memory.Settles other.recipe.basePath)
    (hapart : Apart (r.memory.locate other.recipe.basePath).components
      (r.memory.locate d.recipe.basePath).components)
    (hcopies : d.CopiesApart other r.memory) (hscript : r.script.Succeeds) :
    d.Undisturbed other r := by
  -- the other build leaves a rehearsal that agrees with the one before it
  have hother := confined_of_build hvalid' (r := r) hsettles'.under
  obtain ⟨hanswer, hagrees⟩ := agrees_of_build hvalid (hother.agrees hsorted)
    (hsettles.under.outside hapart)
    (fun entry hentry source hsource => hsettles'.outside (hcopies entry hentry source hsource))
    hscript (other.succeeds_of_build hscript)
  -- and it does so after this build, too
  have hfirst := confined_of_build hvalid (r := r) hsettles.under
  have hlast := confined_of_build hvalid' (hfirst.under hsettles'.under)
  exact ⟨hanswer, hagrees.held_eq hapart, (hlast.agrees (hfirst.sorted hsorted)).held_eq hapart⟩

end Draft

/-! ### Names apart -/

/-- The staging directory of a name is located at its segments below the contexts root. -/
theorem IsName.components_locate {name : String} {segments : List String}
    (h : IsName name segments) (m : Memory) (os : String) (root : Path) :
    (m.locate (Recipe.create name os root).basePath).components =
      (m.locate root).components ++ segments.map fun segment => .normal (Utf8.encode segment) := by
  rw [← h.components_basePath os (m.locate root)]
  exact congrArg Path.components (m.locate_join root h.lead_ofString.1)

/-- The staging directory of a name settles where the contexts root does. -/
theorem IsName.settles {name : String} {segments : List String} (h : IsName name segments)
    {m : Memory} {root : Path} (hroot : m.Settles root) (os : String) :
    m.Settles (Recipe.create name os root).basePath := by
  have hlocate : m.locate (Recipe.create name os root).basePath =
      (Recipe.create name os (m.locate root)).basePath := m.locate_join root h.lead_ofString.1
  unfold Memory.Settles
  rw [hlocate, h.components_locate, h.components_basePath, hroot]

/-- If neither name continues the other one, their staging directories are apart. -/
theorem IsName.apart {name name' : String} {segments segments' : List String}
    (h : IsName name segments) (h' : IsName name' segments')
    (hsegments : ¬segments <+: segments' ∧ ¬segments' <+: segments) (m : Memory)
    (os os' : String) (root : Path) :
    Apart (m.locate (Recipe.create name os root).basePath).components
      (m.locate (Recipe.create name' os' root).basePath).components := by
  rw [h.components_locate, h'.components_locate]
  unfold Memory.Apart
  rw [List.prefix_append_right_inj, List.prefix_append_right_inj,
    List.prefix_map_iff_of_injective normal_encode_injective,
    List.prefix_map_iff_of_injective normal_encode_injective]
  exact hsegments

namespace Draft

variable {ω : Type} [Workspace ω]

/-- Wherever calls lead a draft, it keeps the staging directory of its name, and the settings. -/
theorem basePath_of_runs {settings : Settings} {name os : String} {new d : Draft}
    {calls : List Call} (hcreate : Draft.create settings name os = .ok new)
    (hruns : Runs ω new calls d) :
    d.recipe.basePath = (Recipe.create name os settings.contextsRoot).basePath ∧
      d.settings = settings := by
  have hkept : d.recipe.basePath = new.recipe.basePath ∧ d.settings = new.settings := by
    clear hcreate
    induction hruns with
    | nil d => exact ⟨rfl, rfl⟩
    | cons hcall _ ih =>
      obtain ⟨-, hbase, hsettings⟩ := identity_of_perform hcall
      exact ⟨ih.1.trans hbase, ih.2.trans hsettings⟩
  obtain ⟨image, -, rfl⟩ := create_eq_ok hcreate
  exact hkept

/-- Two drafts that were created under the same settings, for names of which neither continues the
other one by further segments, do not disturb each other, whatever calls have led to them, unless an
entry of one is copied from the staging directory of the other or from above it. Each build gives
the same answer and leaves the same in its staging directory as without the other build, be that
one before it or after it. -/
theorem undisturbed_of_names {settings : Settings} {name name' os os' : String}
    {segments segments' : List String} {new new' d d' : Draft} {calls calls' : List Call}
    (hvalid : settings.validate = .ok ())
    (hname : IsName name segments) (hname' : IsName name' segments')
    (hsegments : ¬segments <+: segments' ∧ ¬segments' <+: segments)
    (hcreate : Draft.create settings name os = .ok new)
    (hcreate' : Draft.create settings name' os' = .ok new')
    (hruns : Runs ω new calls d) (hruns' : Runs ω new' calls' d') (r : Rehearsal)
    (hsorted : r.memory.Sorted) (hsettles : r.memory.Settles settings.contextsRoot)
    (hcopies : d.CopiesApart d' r.memory) (hcopies' : d'.CopiesApart d r.memory)
    (hscript : r.script.Succeeds) : d.Undisturbed d' r ∧ d'.Undisturbed d r := by
  obtain ⟨hbase, hsettings⟩ := basePath_of_runs hcreate hruns
  obtain ⟨hbase', hsettings'⟩ := basePath_of_runs hcreate' hruns'
  -- both staging directories lie at the segments of the names below the same contexts root
  have hapart := hname.apart hname' hsegments r.memory os os' settings.contextsRoot
  have hown := hname.settles hsettles os
  have hown' := hname'.settles hsettles os'
  rw [← hbase, ← hbase'] at hapart
  rw [← hbase] at hown
  rw [← hbase'] at hown'
  have hvalid₁ : d.settings.validate = .ok () := hsettings ▸ hvalid
  have hvalid₂ : d'.settings.validate = .ok () := hsettings' ▸ hvalid
  exact ⟨undisturbed_of_apart hvalid₁ hvalid₂ hsorted hown hown' hapart.symm hcopies hscript,
    undisturbed_of_apart hvalid₂ hvalid₁ hsorted hown' hown hapart hcopies' hscript⟩

/-- A draft that copies the file `/h` and has a source image. -/
def copying (name : String) : Draft where
  image := ⟨.built, name, "linux"⟩
  recipe :=
    { Recipe.create name "linux" (.ofString ".dockercontexts") with
      staged := [.file ⟨[0x2F, 0x68]⟩ ⟨[0x66]⟩] }
  source? := some ⟨.imported, "base", "linux"⟩
  state := .sourceSet
  settings := {}

/-- Calls that lead to such a draft. -/
def copyingCalls : List Call :=
  [.execute ⟨"copy", fun _ => [.stage (.file ⟨[0x2F, 0x68]⟩ ⟨[0x66]⟩)]⟩, .setSource (.named "base")]

/-- A rehearsal in which that file is stored. -/
def withFile : Rehearsal := { memory := ({} : Memory).addFile ⟨[0x2F, 0x68]⟩ "text" }

/-- Drafts of the names `a` and `b` that copy the same file do not disturb each other, and both
builds succeed. -/
theorem undisturbed_of_names_copying :
    (∃ new, Draft.create {} "a" "linux" = .ok new ∧
        Runs Rehearsal new copyingCalls (copying "a")) ∧
      (∃ new, Draft.create {} "b" "linux" = .ok new ∧
        Runs Rehearsal new copyingCalls (copying "b")) ∧
      ((copying "a").build ((copying "b").build withFile).2.2).1.isOk = true ∧
      ((copying "b").build ((copying "a").build withFile).2.2).1.isOk = true := by
  obtain ⟨new, hcreate, hruns⟩ : ∃ new, Draft.create {} "a" "linux" = .ok new ∧
      Runs Rehearsal new copyingCalls (copying "a") :=
    ⟨_, by rfl, .cons (w := {}) rfl (.cons (w := {}) rfl (.nil _))⟩
  obtain ⟨new', hcreate', hruns'⟩ : ∃ new, Draft.create {} "b" "linux" = .ok new ∧
      Runs Rehearsal new copyingCalls (copying "b") :=
    ⟨_, by rfl, .cons (w := {}) rfl (.cons (w := {}) rfl (.nil _))⟩
  have hname : IsName "a" ["a"] := isName_of_letter rfl ((isAlphanum_iff 'a').1 rfl)
  have hname' : IsName "b" ["b"] := isName_of_letter rfl ((isAlphanum_iff 'b').1 rfl)
  -- an empty store is sorted, and storing a file keeps it so
  have hsorted : withFile.memory.Sorted :=
    (Memory.addFile_confined {} "text" List.nil_prefix).sorted List.Pairwise.nil
  have hsettles : withFile.memory.Settles ({} : Settings).contextsRoot := by
    unfold Memory.Settles
    decide
  have hcopies {name other : String}
      (hapart : Apart (withFile.memory.locate (copying other).recipe.basePath).components
        (withFile.memory.locate ⟨[0x2F, 0x68]⟩).components) :
      (copying name).CopiesApart (copying other) withFile.memory := by
    intro entry hentry source hsource
    obtain rfl := List.mem_singleton.1 hentry
    obtain rfl := Option.some.inj hsource
    exact hapart
  obtain ⟨hfirst, hsecond⟩ := undisturbed_of_names (by rfl) hname hname' (by decide) hcreate hcreate'
    hruns hruns' withFile hsorted hsettles (hcopies (by decide)) (hcopies (by decide))
    (by simp [Script.Succeeds, withFile])
  refine ⟨⟨new, hcreate, hruns⟩, ⟨new', hcreate', hruns'⟩, ?_, ?_⟩
  · rw [hfirst.answer_eq]
    decide
  · rw [hsecond.answer_eq]
    decide

/-- A draft of the name `app` is built after one of the name `app/Dockerfile`, of which the staging
directory lies where the manifest of the first draft goes. Both have a source image and nothing is
staged, but the build fails, although it succeeds if the other draft is not built. -/
theorem build_nestedNames :
    ∃ new new' d d' : Draft, ({} : Settings).validate = .ok () ∧
      Draft.create {} "app" "linux" = .ok new ∧
      Draft.create {} "app/Dockerfile" "linux" = .ok new' ∧
      Runs Rehearsal new [.setSource (.named "base")] d ∧
      Runs Rehearsal new' [.setSource (.named "base")] d' ∧
      d.recipe.staged = [] ∧ d'.recipe.staged = [] ∧
      (d.build ({} : Rehearsal)).1 = .ok () ∧
      (d.build (d'.build ({} : Rehearsal)).2.2).1 ≠ (d.build ({} : Rehearsal)).1 := by
  refine ⟨_, _, _, _, by rfl, by rfl, by rfl, .cons (w := {}) rfl (.nil _),
    .cons (w := {}) rfl (.nil _), rfl, rfl, by rfl, fun hsame => ?_⟩
  have hok := congrArg Except.isOk hsame
  revert hok
  decide

end Draft

end ContainerBuild
