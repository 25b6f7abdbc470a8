import ContainerBuild.Proofs.Draft.Course

/-!
# Builds with an entry that is rejected

Staged entries are placed in order, and each target is checked when its turn comes. So a target that
is rejected keeps the build from placing what comes after it, from writing the manifest and from
running the tool, but not from placing what comes before.

* `Draft.builds_of_rejected` — the two courses of a build with an entry that is rejected.
* `Draft.build_of_rejected` — what such a build answers and leaves.
* `Draft.build_rejectedLate` — a build that leaves a file, and one that fails before the entry comes.
-/

namespace ContainerBuild.Draft

/-- Of the entries that have no place in the staging directory, one comes first. -/
theorem exists_first_rejected {r : Recipe} {entries : List StagedEntry}
    (h : ∃ entry ∈ entries, r.stagingPath? entry.target = none) :
    ∃ before entry after, entries = before ++ entry :: after ∧
      r.stagingPath? entry.target = none ∧
        ∀ earlier ∈ before, r.stagingPath? earlier.target ≠ none := by
  obtain ⟨rejected, hmem, hnone⟩ := h
  have hfind : (entries.find? fun entry => (r.stagingPath? entry.target).isNone).isSome = true :=
    List.find?_isSome.2 ⟨rejected, hmem, by simp [hnone]⟩
  obtain ⟨entry, hentry⟩ := Option.isSome_iff_exists.1 hfind
  obtain ⟨hrejected, before, after, hentries, hbefore⟩ := List.find?_eq_some_iff_append.1 hentry
  exact ⟨before, entry, after, hentries, by simpa using hrejected,
    by simpa [Option.isSome_iff_ne_none] using hbefore⟩

/-- A build with an entry that is rejected goes one of two courses: the entries before that one are
placed, or one of them cannot be. -/
theorem builds_of_rejected {d : Draft} {before after : List StagedEntry} {entry : StagedEntry}
    (hstaged : d.recipe.staged = before ++ entry :: after)
    (hrejected : d.recipe.stagingPath? entry.target = none)
    (hbefore : ∀ earlier ∈ before, d.recipe.stagingPath? earlier.target ≠ none) (m : Memory)
    (s : Script) :
    (∃ requests m', d.recipe.Placed before m requests m' ∧
      d.Builds m s (.error (.badTarget entry.target)) m' s requests) ∨
    ∃ earlier stopped later requests m' path cause m'', before = earlier ++ stopped :: later ∧
      d.recipe.Placed earlier m requests m' ∧
      d.recipe.stagingPath? stopped.target = some path ∧
      m'.place stopped path = (.error cause, m'') ∧
      d.Builds m s (.error (.notWritten path cause)) m'' s
        (requests ++ [stopped.request path]) := by
  rcases d.recipe.placed_or_stopped before m with ⟨requests, m', hplaced⟩ |
    ⟨earlier, stopped, later, requests, m', hsplit, hplaced,
      hnone | ⟨path, cause, m'', hpath, hplace⟩⟩
  · exact .inl ⟨requests, m', hplaced, .badTarget hstaged hplaced hrejected⟩
  · -- the entries before the rejected one have places
    exact absurd hnone (hbefore stopped (by simp [hsplit]))
  · have hentries : d.recipe.staged = earlier ++ stopped :: (later ++ entry :: after) := by
      rw [hstaged, hsplit, List.append_assoc, List.cons_append]
    exact .inr ⟨earlier, stopped, later, requests, m', path, cause, m'', hsplit, hplaced, hpath,
      hplace, .notPlaced hentries hplaced hpath hplace⟩

/-- Placing no entries leaves the store as it is. -/
theorem eq_of_placed_nil {r : Recipe} {m m' : Memory} {requests : List Request}
    (h : r.Placed [] m requests m') : m' = m := by
  cases h
  rfl

/-- A build fails if one of the staged entries is rejected, wherever it comes and whatever the
others are. It does not run the tool, and what it asks of the store and leaves there is what placing
the entries before the first rejected one does. If they can all be placed, then the rejected target
is told, and otherwise the place of the first that cannot be. So the rejected entry, what comes after
it and the manifest leave no trace, and nothing does if the rejected entry comes first. -/
theorem build_of_rejected (d : Draft) (source : Image) (hphase : d.phase = .sourced source)
    (r : Rehearsal)
    (hrejected : ∃ entry ∈ d.recipe.staged, d.recipe.stagingPath? entry.target = none) :
    let left := (d.build r).2.2.memory
    (d.build r).2.2.script = r.script ∧
    ∃ before entry after, d.recipe.staged = before ++ entry :: after ∧
      d.recipe.stagingPath? entry.target = none ∧
      (∀ earlier ∈ before, d.recipe.stagingPath? earlier.target ≠ none) ∧
      (before = [] → left = r.memory) ∧
      ((∃ requests, d.recipe.Placed before r.memory requests left ∧
          (d.build r).1 = .error (.badTarget entry.target) ∧ d.buildRequests r = requests) ∨
        ∃ earlier stopped later requests m' path cause, before = earlier ++ stopped :: later ∧
          d.recipe.Placed earlier r.memory requests m' ∧
          d.recipe.stagingPath? stopped.target = some path ∧
          m'.place stopped path = (.error cause, left) ∧
          (d.build r).1 = .error (.notWritten path cause) ∧
          d.buildRequests r = requests ++ [stopped.request path]) := by
  intro left
  obtain ⟨before, entry, after, hstaged, hnone, hbefore⟩ := exists_first_rejected hrejected
  have hcourse := (build_course d source hphase r).2
  rcases builds_of_rejected hstaged hnone hbefore r.memory r.script with
    ⟨requests, m', hplaced, hbuilds⟩ |
    ⟨earlier, stopped, later, requests, m', path, cause, m'', hsplit, hplaced, hpath, hplace,
      hbuilds⟩
  · obtain ⟨hanswer, rfl, hscript, hrequests⟩ := (hcourse _ _ _ _).1 hbuilds
    refine ⟨hscript, before, entry, after, hstaged, hnone, hbefore, ?_,
      .inl ⟨requests, hplaced, hanswer, hrequests⟩⟩
    rintro rfl
    exact eq_of_placed_nil hplaced
  · obtain ⟨hanswer, rfl, hscript, hrequests⟩ := (hcourse _ _ _ _).1 hbuilds
    refine ⟨hscript, before, entry, after, hstaged, hnone, hbefore, ?_,
      .inr ⟨earlier, stopped, later, requests, m', path, cause, hsplit, hplaced, hpath, hplace,
        hanswer, hrequests⟩⟩
    rintro rfl
    simp at hsplit

/-- A draft that stages the entries, then one that goes up, and then one at `z`. -/
def rejecting (entries : List StagedEntry) : Draft where
  image := ⟨.built, "app", "linux"⟩
  recipe :=
    { Recipe.create "app" "linux" ⟨[0x63]⟩ with
      staged := entries ++ [.document ⟨Path.dots⟩ .null, .document ⟨[0x7A]⟩ .null] }
  source? := some ⟨.imported, "base", "linux"⟩
  state := .sourceSet
  settings := { contextsRoot := ⟨[0x63]⟩ }

theorem exists_rejected (entries : List StagedEntry) :
    ∃ entry ∈ (rejecting entries).recipe.staged,
      (rejecting entries).recipe.stagingPath? entry.target = none :=
  ⟨.document ⟨Path.dots⟩ .null, by simp [rejecting], rfl⟩

/-- After a document at `a`, the entry that goes up is rejected. The document is the only file in the
store then, and the outcome that was scripted for the tool is still pending. -/
theorem build_of_rejected_second :
    let d := rejecting [.document ⟨[0x61]⟩ .null]
    let r : Rehearsal := { script := { pending := [.exits 1 "" ""] } }
    d.phase = .sourced ⟨.imported, "base", "linux"⟩ ∧
      (∃ entry ∈ d.recipe.staged, d.recipe.stagingPath? entry.target = none) ∧
      (d.build r).1 = .error (.badTarget ⟨Path.dots⟩) ∧ (d.build r).2.2.script = r.script ∧
      (d.build r).2.2.memory.files =
        [(r.memory.locate (d.recipe.basePath.join ⟨[0x61]⟩), Json.null.pretty)] := by
  intro d r
  have hrejected := exists_rejected [.document ⟨[0x61]⟩ .null]
  obtain ⟨hscript, -⟩ := build_of_rejected d _ rfl r hrejected
  exact ⟨rfl, hrejected, by rfl, hscript, by decide +kernel⟩

/-- A document at `a` stays if an entry after it is rejected, and a missing source that comes first is
what the build reports. -/
theorem build_rejectedLate :
    let written := rejecting [.document ⟨[0x61]⟩ .null]
    let missing := rejecting [.file ⟨[0x2F, 0x68]⟩ ⟨[0x61]⟩]
    let r : Rehearsal := {}
    (written.phase = .sourced ⟨.imported, "base", "linux"⟩ ∧
      (∃ entry ∈ written.recipe.staged, written.recipe.stagingPath? entry.target = none) ∧
      r.memory.files = [] ∧ (written.build r).2.2.memory.files ≠ []) ∧
    (missing.phase = .sourced ⟨.imported, "base", "linux"⟩ ∧
      (∃ entry ∈ missing.recipe.staged, missing.recipe.stagingPath? entry.target = none) ∧
      ∃ path cause, (missing.build r).1 = .error (.notWritten path cause)) := by
  intro written missing r
  exact ⟨⟨rfl, exists_rejected _, rfl, by decide +kernel⟩, rfl, exists_rejected _, _, _, by rfl⟩

end ContainerBuild.Draft
