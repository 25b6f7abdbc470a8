import ContainerBuild.Manifest
import ContainerBuild.Recipe.Procedure
import ContainerBuild.Run.Outcome
import ContainerBuild.Settings
import ContainerBuild.Store.Fault

/-! # Drafts

A draft describes an image until it is built. It starts without a source image, takes procedures,
and is finalized by the first build that is attempted with a source; from then on it only answers
questions. What it holds besides its state never depends on files or programs.
-/

namespace ContainerBuild

/-- Why an image could not be described or built. -/
inductive BuildError where
  /-- A name or platform is not well formed. -/
  | badName (fault : NameFault)
  /-- A staged entry would be placed outside the staging directory. -/
  | badTarget (target : Path)
  /-- The draft has no source image. -/
  | noSource
  /-- The draft has been built. -/
  | alreadyBuilt (image : String)
  /-- The draft has been built and cannot be changed by the operation. -/
  | closed (operation image : String)
  /-- The build tool did not succeed. -/
  | toolFailed (cause : RunError)
  /-- A file could not be placed in the staging directory. -/
  | notWritten (path : Path) (cause : StoreFault)
  deriving DecidableEq, Repr, Inhabited

namespace BuildError

/-- The four kinds of errors. -/
inductive Kind where
  /-- An argument is not acceptable. -/
  | invalidArgument
  /-- The operation does not fit the state of the draft. -/
  | invalidState
  /-- The build tool did not succeed. -/
  | toolFailure
  /-- A file could not be placed. -/
  | writeFailure
  deriving DecidableEq, Repr, Inhabited

/-- The kind of an error. -/
def kind : BuildError → Kind
  | badName _ | badTarget _ => .invalidArgument
  | noSource | alreadyBuilt _ | closed _ _ => .invalidState
  | toolFailed _ => .toolFailure
  | notWritten _ _ => .writeFailure

/-- The error in words. -/
def message : BuildError → String
  | badName fault => "Invalid argument: " ++ fault.message
  | badTarget target => "Invalid argument: staged file target " ++ target.quoted
      ++ " must be a relative path inside the staging directory"
  | noSource => "Invalid state: no source image"
  | alreadyBuilt image => "Invalid state: image '" ++ image ++ "' has already been built"
  | closed operation image => "Invalid state: cannot call " ++ operation ++ " on image '" ++ image
      ++ "' after it has been built"
  | toolFailed cause => "External build tool failed: " ++ cause.message
  | notWritten path cause =>
    "Failed to write " ++ path.quoted ++ " into the staging directory: " ++ cause.message

/-- The messages of the error and of what caused it. -/
def chain : BuildError → List String
  | toolFailed cause => message (toolFailed cause) :: cause.chain
  | notWritten path cause => message (notWritten path cause) :: cause.chain
  | error => [error.message]

end BuildError

/-- How far a draft is. -/
inductive DraftState where
  /-- No source image has been set. -/
  | created
  /-- A source image has been set, and the draft can still change. -/
  | sourceSet
  /-- A build was attempted. -/
  | finalized
  deriving DecidableEq, Repr, Inhabited

/-- Whether a draft in the state can still change. -/
def DraftState.isOpen : DraftState → Bool
  | finalized => false
  | _ => true

/-- The description of an image. Its state and its source image are set by different operations. -/
structure Draft where
  /-- The image that is described. -/
  image : Image
  /-- The image to build on, if one has been set. -/
  source? : Option Image := none
  /-- What goes into it. -/
  recipe : Recipe
  /-- How far the draft is. -/
  state : DraftState := .created
  /-- The settings under which it was created. -/
  settings : Settings

/-- How far a draft is, with the source image that it has then. -/
inductive Phase where
  /-- It has no source image. -/
  | created
  /-- It has a source image and can still change. -/
  | sourced (source : Image)
  /-- A build was attempted. -/
  | finalized (source : Image)
  deriving DecidableEq, Repr, Inhabited

namespace Phase

/-- Whether the draft can still change. -/
def isOpen : Phase → Bool
  | finalized _ => false
  | _ => true

/-- The state of a draft in the phase. -/
def state : Phase → DraftState
  | created => .created
  | sourced _ => .sourceSet
  | finalized _ => .finalized

/-- The source image of a draft in the phase. -/
def source? : Phase → Option Image
  | created => none
  | sourced source | finalized source => some source

end Phase

namespace Draft

/-- A draft without a source image. -/
def create (settings : Settings) (name os : String) : Except BuildError Draft :=
  match Image.checked .built name os with
  | .error fault => .error (.badName fault)
  | .ok image => .ok { image, recipe := .create name os settings.contextsRoot, settings }

/-- The phase of the draft, which tells its state and its source image at once. -/
def phase (d : Draft) : Phase :=
  match d.state, d.source? with
  | .sourceSet, some source => .sourced source
  | .finalized, some source => .finalized source
  | _, _ => .created

/-- A draft is in the second phase with a source image if it has that one and is in the second
state. -/
theorem phase_eq_sourced_iff {d : Draft} {source : Image} :
    d.phase = .sourced source ↔ d.state = .sourceSet ∧ d.source? = some source := by
  cases hstate : d.state <;> cases hsource : d.source? <;> simp [phase, hstate, hsource]

/-- Refuses an operation on a draft that has been built. -/
def ensureOpen (d : Draft) (operation : String) : Except BuildError Unit :=
  if d.state.isOpen then .ok () else .error (.closed operation d.image.name)

/-- The draft with an image to build on, in place of an earlier one. -/
def setSource (d : Draft) (source : ImageSource) : Except BuildError Draft := do
  d.ensureOpen "from"
  match source.resolve d.image.os with
  | .error fault => .error (.badName fault)
  | .ok image => .ok { d with source? := some image, state := .sourceSet }

/-- The draft with a procedure applied to its recipe. -/
def execute (d : Draft) (p : Procedure) : Except BuildError Draft := do
  d.ensureOpen "execute"
  .ok { d with recipe := d.recipe.apply p }

/-- The manifest, if there is a source image. -/
def preview (d : Draft) : Except BuildError Manifest :=
  match d.source? with
  | some source => .ok (.ofRecipe d.recipe source)
  | none => .error .noSource

/-- Where the manifest is written. -/
def manifestPath (d : Draft) : Path := d.recipe.resolve [.ofString d.settings.manifestName]

/-- The command that builds the image from the staging directory. -/
def buildCommand (d : Draft) : Command where
  program := d.settings.buildTool
  args := ["build", "-t", d.image.name, d.recipe.basePath.display]

/-- The options under which the build tool runs. -/
def buildOptions (d : Draft) : RunOptions :=
  if d.settings.capturesOutput then .captured else {}

end Draft

end ContainerBuild
