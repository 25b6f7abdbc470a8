import ContainerBuild.Recipe

/-!
# What steps add up to

A recipe has three queues of instructions. Each step appends at most one line to one of them, or
stages an entry, or selects the image on which installers run. So after any steps a queue holds
what it held, followed by the lines that were meant for it, and of the selected images the last one
counts.

* `Recipe.queue_takeAll` — the lines of a queue after some steps.
* `Recipe.installersImage_takeAll` — the selected image after some steps.
* `Recipe.identity_takeAll` — steps leave the name, the platform and the staging directory.
-/

namespace ContainerBuild

/-- The queues of instructions. -/
inductive Queue where
  /-- The instructions of the installers stage. -/
  | installers
  /-- The instructions that build. -/
  | build
  /-- The instructions that clean up. -/
  | clean
  deriving DecidableEq, Repr

/-- The instructions in a queue. -/
def Recipe.queue (r : Recipe) : Queue → List String
  | .installers => r.installers
  | .build => r.build
  | .clean => r.clean

/-- The line that a step pushes to a queue, if it pushes one there. -/
def Step.line? : Queue → Step → Option String
  | .installers, installer line => some line
  | .build, build line => some line
  | .clean, clean line => some line
  | _, _ => none

/-- The image that a step selects for installers, if it selects one. -/
def Step.image? : Step → Option Image
  | installersImage image => some image
  | _ => none

/-- The lines that steps push to a queue, in order. -/
def pushed (q : Queue) (steps : List Step) : List String := steps.filterMap (Step.line? q)

/-- The image for installers that steps select last. -/
def lastSelected (steps : List Step) : Option Image := (steps.filterMap Step.image?).getLast?

/-- The last value that a list yields is that of its tail, if the tail yields one. -/
theorem getLast?_filterMap_cons {α β : Type} (f : α → Option β) (a : α) (l : List α) :
    ((a :: l).filterMap f).getLast? = (l.filterMap f).getLast?.or (f a) := by
  cases h : f a with
  | none => simp [h]
  | some b =>
    rw [List.filterMap_cons_some h, List.getLast?_cons]
    cases (l.filterMap f).getLast? <;> rfl

namespace Recipe

theorem takeAll_cons (r : Recipe) (step : Step) (steps : List Step) :
    r.takeAll (step :: steps) = (r.take step).takeAll steps := rfl

theorem takeAll_append (r : Recipe) (before after : List Step) :
    r.takeAll (before ++ after) = (r.takeAll before).takeAll after := by
  simp [takeAll, List.foldl_append]

/-- A step appends to a queue the line that it pushes there. -/
theorem queue_take (r : Recipe) (step : Step) (q : Queue) :
    (r.take step).queue q = r.queue q ++ (step.line? q).toList := by
  cases step <;> cases q <;> simp [take, queue, Step.line?]

/-- A queue holds what it held before, and then what the steps push there. -/
theorem queue_takeAll (r : Recipe) (steps : List Step) (q : Queue) :
    (r.takeAll steps).queue q = r.queue q ++ pushed q steps := by
  induction steps generalizing r with
  | nil => simp [takeAll, pushed]
  | cons step rest ih =>
    rw [takeAll_cons, ih, queue_take, List.append_assoc]
    congr 1
    cases h : step.line? q <;> simp [pushed, h]

/-- A step keeps the image for installers unless it selects one. -/
theorem installersImage_take (r : Recipe) (step : Step) :
    (r.take step).installersImage = step.image?.or r.installersImage := by
  cases step <;> simp [take, Step.image?]

/-- Of the images that were selected for installers, the last one counts. -/
theorem installersImage_takeAll (r : Recipe) (steps : List Step) :
    (r.takeAll steps).installersImage = (lastSelected steps).or r.installersImage := by
  induction steps generalizing r with
  | nil => simp [takeAll, lastSelected]
  | cons step rest ih =>
    rw [takeAll_cons, ih, installersImage_take, lastSelected, lastSelected,
      getLast?_filterMap_cons, Option.or_assoc]

/-- A step changes neither the name, nor the platform, nor the staging directory. -/
theorem identity_take (r : Recipe) (step : Step) :
    (r.take step).name = r.name ∧ (r.take step).os = r.os ∧
      (r.take step).basePath = r.basePath := by
  cases step <;> simp [take]

/-- Steps change neither the name, nor the platform, nor the staging directory. -/
theorem identity_takeAll (r : Recipe) (steps : List Step) :
    (r.takeAll steps).name = r.name ∧ (r.takeAll steps).os = r.os ∧
      (r.takeAll steps).basePath = r.basePath := by
  induction steps generalizing r with
  | nil => simp [takeAll]
  | cons step rest ih =>
    obtain ⟨hname, hos, hbase⟩ := ih (r.take step)
    obtain ⟨hname', hos', hbase'⟩ := r.identity_take step
    rw [takeAll_cons]
    exact ⟨hname.trans hname', hos.trans hos', hbase.trans hbase'⟩

end Recipe

end ContainerBuild
