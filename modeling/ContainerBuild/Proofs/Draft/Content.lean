import ContainerBuild.Proofs.Draft.Confinement
import ContainerBuild.Proofs.Store.Copying

/-!
# What a build leaves in the staging directory

After a build that succeeds, the manifest and every staged entry can be read back: a document as its
text, a file as what its source held when the build started, a directory as the files that it held
then. An entry may be written over by a later one, and by the manifest, which comes last. Only those
that write to the very place do so; everything else that the build writes leaves it.

This needs sources that the build itself does not change, and a staging directory that settles.
Below a relative root that leads somewhere, the store does not find its own files again.

* `StagedEntry.Covers own place` — placing the entry at its own place may write a file at another.
* `Recipe.Placed.grows` — entries write files where they cover, and nothing else changes.
* `Recipe.Placed.stores` — what an entry stores, in terms of what was stored before the build.
* `Draft.content_of_build` — what is read back after a build.
* `Draft.build_manifestNotFound` — a manifest that is not read back, below a relative root.
-/

namespace ContainerBuild

open ContainerBuild.Path (Component)
open ContainerBuild.Memory (Apart Confined Grows)

/-- The place is one at which the entry writes a file when it is placed at its own: the same one,
or for a directory any at or below it. -/
def StagedEntry.Covers (own place : List Component) : StagedEntry → Prop
  | directory _ _ => own <+: place
  | file _ _ => place = own
  | document _ _ => place = own

/-! ### Placing one entry -/

namespace Memory

/-- Writing an entry at a path that settles puts a file there, and directories elsewhere. -/
theorem Settles.allows_at {m : Memory} {path : Path} (h : m.Settles path) (e : MemoryEntry) :
    m.Allows (fun place put => put = .directory ∨ place = (m.locate path).components) path e := by
  intro _ place put hwrites
  rw [h.entryPlace_eq] at hwrites
  rcases hwrites with ⟨hplace, -⟩ | ⟨-, hput⟩
  · exact .inr hplace
  · exact .inl hput

/-- Placing an entry puts files where it covers, and directories elsewhere. -/
theorem place_grows (m : Memory) (entry : StagedEntry) {path : Path} (hsettles : m.Settles path) :
    Grows (fun place put => put = .directory ∨ entry.Covers (m.locate path).components place) m
      (m.place entry path).2 := by
  cases entry with
  | file source _ => exact m.copyFile_grows fun _ _ => hsettles.allows_at _
  | document _ value => exact m.writeText_grows (hsettles.allows_at _)
  | directory source _ =>
    -- everything that is copied lies at or below the target
    refine m.copyDir_grows (fun _ place put hwrites => .inl ?_) fun e q hq _ place put hwrites => ?_
    · exact hwrites.elim And.right And.right
    · rw [(hsettles.locate.join hq).entryPlace_eq, m.locate_join _ hq] at hwrites
      rcases hwrites with ⟨rfl, -⟩ | ⟨-, hput⟩
      · right
        show (m.locate path).components <+: _
        rw [← hsettles]
        exact Path.components_prefix_join _ hq
      · exact .inl hput

end Memory

/-! ### Placing all entries -/

variable {r : Recipe} {m m' : Memory}

/-- Entries that can be placed are placed one after the other. -/
theorem Recipe.Placed.split {earlier later : List StagedEntry} {entry : StagedEntry}
    {requests : List Request} (h : r.Placed (earlier ++ entry :: later) m requests m') :
    ∃ path m₁ m₂ before after, r.stagingPath? entry.target = some path ∧
      r.Placed earlier m before m₁ ∧ m₁.place entry path = (.ok (), m₂) ∧
        r.Placed later m₂ after m' := by
  induction earlier generalizing m requests with
  | nil =>
    cases h with
    | cons htarget hplace hrest => exact ⟨_, m, _, [], _, htarget, .nil m, hplace, hrest⟩
  | cons first earlier ih =>
    cases h with
    | cons htarget hplace hrest =>
      obtain ⟨path, m₁, m₂, before, after, hpath, hearlier, hentry, hlater⟩ := ih hrest
      exact ⟨path, m₁, m₂, _, after, hpath, .cons htarget hplace hearlier, hentry, hlater⟩

/-- A staged entry writes a file at the place. -/
def StagedEntry.WritesAt (r : Recipe) (m : Memory) (place : List Component) (entry : StagedEntry) :
    Prop :=
  ∃ path, r.stagingPath? entry.target = some path ∧ entry.Covers (m.locate path).components place

/-- Placing entries puts files where one of them writes, and directories elsewhere. -/
theorem Recipe.Placed.grows {entries : List StagedEntry} {requests : List Request}
    (hbase : m.Settles r.basePath) (h : r.Placed entries m requests m') :
    Grows (fun place put => put = .directory ∨ ∃ entry ∈ entries, entry.WritesAt r m place)
      m m' := by
  induction h with
  | nil m => exact .refl m
  | @cons entry rest path m m₁ m₂ requests htarget hplace hrest ih =>
    have hsettles : m.Settles path := by
      obtain ⟨hrelative, -, rfl⟩ := Recipe.stagingPath?_eq_some htarget
      exact hbase.join hrelative
    have hfirst := m.place_grows entry hsettles
    rw [hplace] at hfirst
    have hothers := ih (hfirst.settles hbase)
    unfold StagedEntry.WritesAt at hothers
    rw [hfirst.locate_eq] at hothers
    refine (hfirst.mono fun place put hput => ?_).trans (hothers.mono fun place put hput => ?_)
    · exact hput.imp_right fun hcovers => ⟨entry, List.mem_cons_self, path, htarget, hcovers⟩
    · exact hput.imp_right fun ⟨other, hother, hwrites⟩ =>
        ⟨other, List.mem_cons_of_mem entry hother, hwrites⟩

/-- Placing entries leaves what is stored outside the staging directory, and stores no file
there. -/
theorem Memory.Confined.file_iff {place other : List Component} (h : Confined place m m')
    (helse : ¬place <+: other) (content : String) :
    m'.lookup other = some (.file content) ↔ m.lookup other = some (.file content) := by
  by_cases hchanged : m'.lookup other = m.lookup other
  · rw [hchanged]
  · rcases h.changed other hchanged with hbelow | ⟨-, hnone, hdirectory⟩
    · exact absurd hbelow helse
    · simp [hnone, hdirectory]

/-- What an entry stores that is placed after others, in terms of what was stored before all of
them: its text, what its source held, or the files below its source. -/
theorem Recipe.Placed.stores {earlier : List StagedEntry} {entry : StagedEntry} {path : Path}
    {m₂ m₃ : Memory} {requests : List Request} (hearlier : r.Placed earlier m requests m₂)
    (hsorted : m.Sorted) (hbase : m.Settles r.basePath)
    (hpath : r.stagingPath? entry.target = some path)
    (hentry : m₂.place entry path = (.ok (), m₃)) :
    match entry with
    | .document _ value => m₃.lookup (m.locate path).components = some (.file value.pretty)
    | .file source _ => ¬(m.locate r.basePath).components <+: (m.locate source).components →
        ∃ content, m.readText source = .ok content ∧
          m₃.lookup (m.locate path).components = some (.file content)
    | .directory source _ =>
      Apart (m.locate r.basePath).components (m.locate source).components →
        ∀ rest content, rest ≠ [] →
          m.lookup ((m.locate source).components ++ rest) = some (.file content) →
            m₃.lookup ((m.locate path).components ++ rest) = some (.file content) := by
  -- the earlier entries stay inside the staging directory, so the sources outside are as before
  have hgrown := hearlier.grows hbase
  have hconfined := Confined.of_placed hbase.under hearlier
  have hsettles : m₂.Settles path := by
    obtain ⟨hrelative, -, rfl⟩ := Recipe.stagingPath?_eq_some hpath
    exact hgrown.settles (hbase.join hrelative)
  rw [← hgrown.locate_eq]
  cases entry with
  | document _ value => exact Memory.lookup_writeText hsettles hentry
  | file source _ =>
    intro houtside
    obtain ⟨content, hsource, hfile⟩ := Memory.lookup_copyFile hsettles hentry
    rw [hgrown.locate_eq] at houtside
    rw [Memory.readText_eq_ok_iff, hgrown.locate_eq, hconfined.file_iff houtside,
      ← Memory.readText_eq_ok_iff] at hsource
    exact ⟨content, hsource, hfile⟩
  | directory source _ =>
    intro hapart rest content hrest hfile
    refine Memory.lookup_copyDir (hgrown.sorted hsorted) hsettles ?_ hentry hrest ?_
    · exact fun hnil => hapart.2 (hnil ▸ List.nil_prefix)
    · rw [hgrown.locate_eq] at hapart hfile ⊢
      rw [hconfined.file_iff fun hbelow =>
        (hapart.below (List.prefix_append _ rest)).1 hbelow]
      exact hfile

namespace Draft

/-! ### Builds that succeed -/

/-- A build that succeeds placed all entries, wrote the manifest and ran the tool. -/
theorem placed_of_build {d : Draft} {r : Rehearsal} (hok : (d.build r).1 = .ok ()) :
    ∃ manifest placed m₁, (d.build r).2.1.preview = .ok manifest ∧
      d.recipe.Placed d.recipe.staged r.memory placed m₁ ∧
        m₁.writeText d.manifestPath manifest.render = (.ok (), (d.build r).2.2.memory) := by
  rcases d.build_cases r with ⟨error, d', -, hrefused⟩ |
    ⟨source, answer, m', s', requests, hphase, hcourse, hanswer, rfl, -⟩
  · rw [hrefused] at hok
    cases hok
  · obtain rfl : answer = .ok () := hanswer.symm.trans hok
    have hpreview : d.preview = .ok (.ofRecipe d.recipe source) :=
      preview_of_source (phase_eq_sourced_iff.1 hphase).2
    have hfinal : (d.build r).2.1.preview = d.preview := by
      rw [(build_course d source hphase r).1]
      rfl
    -- of the courses that a build can go, one ends well unless the tool fails
    generalize hafter : (Except.ok () : Except BuildError Unit) = answer at hcourse
    cases hcourse with
    | badTarget => cases hafter
    | notPlaced => cases hafter
    | notWritten => cases hafter
    | @ran manifest placed m₁ _ hplaced hmanifest hwrite =>
      exact ⟨manifest, placed, m₁, hfinal.trans hmanifest, hplaced, hwrite⟩

/-- Neither the manifest nor one of the entries is written at the place. -/
def Spares (d : Draft) (m : Memory) (entries : List StagedEntry) (place : List Component) : Prop :=
  place ≠ (m.locate d.manifestPath).components ∧
    ∀ entry ∈ entries, ¬entry.WritesAt d.recipe m place

/-- The manifest of a staging directory that settles settles. -/
theorem settles_manifestPath {d : Draft} (h : m.Settles d.recipe.basePath) :
    m.Settles d.manifestPath := by
  cases habsolute : (Path.ofString d.settings.manifestName).isAbsolute with
  | false => exact h.join habsolute
  | true =>
    rw [Memory.settles_iff, Memory.isAbsolute_locate]
    left
    rw [show d.manifestPath = .ofString d.settings.manifestName from if_pos habsolute, habsolute]
    rfl

/-- Once an entry stored a file, the file stays unless a later entry or the manifest is written at
its place. -/
theorem file_eq_of_spares {d : Draft} {m₂ m₁ after : Memory} {later : List StagedEntry}
    {requests : List Request} (hbase : m₂.Settles d.recipe.basePath)
    (hlater : d.recipe.Placed later m₂ requests m₁) {text : String}
    (hwrite : m₁.writeText d.manifestPath text = (.ok (), after)) {place : List Component}
    (hspares : d.Spares m₂ later place) {content : String}
    (hfile : m₂.lookup place = some (.file content)) :
    after.lookup place = some (.file content) := by
  -- both steps put files, each at its own places, and these are spared
  have hplaced := hlater.grows hbase
  have hstaged : m₁.lookup place = some (.file content) := by
    refine hplaced.file_eq hfile ?_
    rintro other (hput | ⟨entry, hentry, hwrites⟩)
    · cases hput
    · exact hspares.2 entry hentry hwrites
  have hwritten := m₁.writeText_grows
    ((hplaced.settles (settles_manifestPath hbase)).allows_at (.file text))
  rw [hwrite] at hwritten
  refine hwritten.file_eq hstaged ?_
  rintro other (hput | hplace)
  · cases hput
  · exact hspares.1 (hplaced.locate_eq ▸ hplace)

/-- After a build that succeeds, the manifest is read back at its path. A staged entry that no later
one writes over, and the manifest neither, is read back too: a document as its text, a file as what
the source held when the build started, unless the source lies in the staging directory, and a
directory as the files that it held then, unless it holds the staging directory or lies inside. -/
theorem content_of_build (d : Draft) (r : Rehearsal) (hsorted : r.memory.Sorted)
    (hsettles : r.memory.Settles d.recipe.basePath) (hok : (d.build r).1 = .ok ()) :
    let before := r.memory
    let after := (d.build r).2.2.memory
    let base := (before.locate d.recipe.basePath).components
    (∃ manifest, (d.build r).2.1.preview = .ok manifest ∧
      after.readText d.manifestPath = .ok manifest.render) ∧
    ∀ earlier entry later, d.recipe.staged = earlier ++ entry :: later →
      ∃ path, d.recipe.stagingPath? entry.target = some path ∧
        ∀ p, d.Spares before later (before.locate p).components →
          match entry with
          | .document _ value =>
            (before.locate p).components = (before.locate path).components →
              after.readText p = .ok value.pretty
          | .file source _ => ¬base <+: (before.locate source).components →
            (before.locate p).components = (before.locate path).components →
              ∃ content, before.readText source = .ok content ∧ after.readText p = .ok content
          | .directory source _ => Apart base (before.locate source).components →
            ∀ rest content, rest ≠ [] →
              before.lookup ((before.locate source).components ++ rest) = some (.file content) →
              (before.locate p).components = (before.locate path).components ++ rest →
                after.readText p = .ok content := by
  intro before after base
  obtain ⟨manifest, placed, m₁, hpreview, hplaced, hwrite⟩ := placed_of_build hok
  have hstaging := hplaced.grows hsettles
  have hafter : after.locate = before.locate := by
    have hwrote : Memory.Wrote _ _ m₁ after :=
      Memory.wrote_of_writeEntry (e := .file manifest.render) hwrite
    exact (Memory.locate_of_root hwrote.root_eq).trans hstaging.locate_eq
  refine ⟨⟨manifest, hpreview, Memory.readText_eq_ok_iff.2 ?_⟩,
    fun earlier entry later hstaged => ?_⟩
  · rw [hafter, ← hstaging.locate_eq]
    exact Memory.lookup_writeText (hstaging.settles (settles_manifestPath hsettles)) hwrite
  -- the staged entries are placed in three parts: the earlier ones, this one, the later ones
  rw [hstaged] at hplaced
  obtain ⟨path, m₂, m₃, _, _, hpath, hearlier, hentry, hlater⟩ := hplaced.split
  refine ⟨path, hpath, fun p hspares => ?_⟩
  have hgrown := hearlier.grows hsettles
  -- what this entry stores stays, as neither the later ones nor the manifest are written there
  have hread {content : String} {place : List Component}
      (hp : (before.locate p).components = place) (hfile : m₃.lookup place = some (.file content)) :
      after.readText p = .ok content := by
    subst hp
    have hpathSettles : before.Settles path := by
      obtain ⟨hrelative, -, rfl⟩ := Recipe.stagingPath?_eq_some hpath
      exact hsettles.join hrelative
    have hown := m₂.place_grows entry (hgrown.settles hpathSettles)
    rw [hentry] at hown
    rw [Memory.readText_eq_ok_iff, hafter]
    refine file_eq_of_spares (hown.settles (hgrown.settles hsettles)) hlater hwrite ?_ hfile
    unfold Spares StagedEntry.WritesAt
    rw [hown.locate_eq, hgrown.locate_eq]
    exact hspares
  have hstores := hearlier.stores hsorted hsettles hpath hentry
  cases entry with
  | document _ value => exact fun hp => hread hp hstores
  | file source _ =>
    intro houtside hp
    obtain ⟨content, hsource, hfile⟩ := hstores houtside
    exact ⟨content, hsource, hread hp hfile⟩
  | directory source _ =>
    exact fun hapart rest content hrest hfile hp =>
      hread hp (hstores hapart rest content hrest hfile)

/-- A draft that is staged at `c/a`: a document at `d`, what `/s` holds at `e`, and `/f` at `d`. -/
def collecting : Draft where
  image := ⟨.built, "a", "linux"⟩
  recipe :=
    { Recipe.create "a" "linux" ⟨[0x63]⟩ with
      staged := [.document ⟨[0x64]⟩ .null, .directory ⟨[0x2F, 0x73]⟩ ⟨[0x65]⟩,
        .file ⟨[0x2F, 0x66]⟩ ⟨[0x64]⟩] }
  source? := some ⟨.imported, "base", "linux"⟩
  state := .sourceSet
  settings := { contextsRoot := ⟨[0x63]⟩, manifestName := "M" }

/-- The file comes after the document and is read back in its place, and the file `t/x` of `/s` is
read back at `e/t/x`. -/
theorem content_of_build_collecting :
    let memory := (({} : Memory).addFile ⟨[0x2F, 0x73, 0x2F, 0x74, 0x2F, 0x78]⟩ "held").addFile
      ⟨[0x2F, 0x66]⟩ "copied"
    let r : Rehearsal := { memory }
    let after := (collecting.build r).2.2.memory
    memory.Sorted ∧ memory.Settles collecting.recipe.basePath ∧ (collecting.build r).1 = .ok () ∧
      after.readText ⟨[0x63, 0x2F, 0x61, 0x2F, 0x64]⟩ = .ok "copied" ∧
      after.readText ⟨[0x63, 0x2F, 0x61, 0x2F, 0x65, 0x2F, 0x74, 0x2F, 0x78]⟩ = .ok "held" := by
  intro memory r after
  have hsorted : memory.Sorted := (Memory.addFile_wrote _ _ _).sorted
    ((Memory.addFile_wrote _ _ _).sorted List.Pairwise.nil)
  have hsettles : memory.Settles collecting.recipe.basePath := Memory.settles_of_root (by decide) _
  have hok : (collecting.build r).1 = .ok () := by decide +kernel
  obtain ⟨-, hread⟩ := content_of_build collecting r hsorted hsettles hok
  refine ⟨hsorted, hsettles, hok, ?_, ?_⟩
  · obtain ⟨path, hpath, hfile⟩ := hread [_, _] _ [] rfl
    obtain rfl := Option.some.inj hpath
    obtain ⟨content, hsource, hread⟩ := hfile ⟨[0x63, 0x2F, 0x61, 0x2F, 0x64]⟩
      ⟨by decide, by simp⟩ (by decide) (by decide)
    obtain rfl : "copied" = content := Except.ok.inj hsource
    exact hread
  · obtain ⟨path, hpath, hdirectory⟩ := hread [_] _ [_] rfl
    obtain rfl := Option.some.inj hpath
    refine hdirectory _ ⟨by decide, ?_⟩ (by decide) [.normal [0x74], .normal [0x78]] _ nofun
      (by decide) (by decide)
    -- the file that comes later is placed elsewhere
    intro entry hentry
    obtain rfl := List.mem_singleton.1 hentry
    rintro ⟨path, hpath, hcovers⟩
    obtain rfl := Option.some.inj hpath
    revert hcovers
    show ¬_ = _
    decide

/-- Below the relative root `m`, the build of a draft succeeds and its manifest is not found. -/
theorem build_manifestNotFound :
    let r : Rehearsal := { memory := { root := ⟨[0x6D]⟩ } }
    (staged.build r).1 = .ok () ∧
      (staged.build r).2.2.memory.readText staged.manifestPath =
        .error (.notFound ⟨[0x6D, 0x2F, 0x63, 0x2F, 0x61, 0x2F, 0x4D]⟩) := by
  intro r
  exact ⟨by decide +kernel, by decide +kernel⟩

end Draft

end ContainerBuild
