import ContainerBuild.Store.Fault

/-! # A file store in memory

Files and directories, sorted by the components of their paths. Relative paths are seen from the
store's root. Writing creates the directories above, unless the path lies at or below one that is
denied. Copying a directory copies what it holds once the target is there.
-/

namespace ContainerBuild

/-- What is stored at a path. -/
inductive MemoryEntry where
  /-- A file with its content. -/
  | file (content : String)
  /-- A directory. -/
  | directory
  deriving DecidableEq, Repr, Inhabited

/-- A file store in memory. -/
structure Memory where
  /-- Where relative paths start. -/
  root : Path := .ofString "/mock"
  /-- What is stored, sorted by components; each path is spelled as when it was first stored. -/
  entries : List (Path × MemoryEntry) := []
  /-- The paths at and below which nothing is written. -/
  denied : List Path := []
  deriving DecidableEq, Repr, Inhabited

namespace Memory

/-- The path seen from the root. -/
def locate (m : Memory) (p : Path) : Path := if p.isAbsolute then p else m.root.join p

/-- What is stored at the components of a path. -/
def lookup (m : Memory) (components : List Path.Component) : Option MemoryEntry :=
  (m.entries.find? fun stored => stored.1.components == components).map (·.2)

/-- Puts an entry at its place. An entry at the same components is replaced and keeps its
spelling. -/
def insert (p : Path) (e : MemoryEntry) : List (Path × MemoryEntry) → List (Path × MemoryEntry)
  | [] => [(p, e)]
  | stored :: rest =>
    if stored.1.components = p.components then (stored.1, e) :: rest
    else if Path.componentsBefore p.components stored.1.components then (p, e) :: stored :: rest
    else stored :: insert p e rest

/-- The store with an entry at a path. -/
def put (m : Memory) (p : Path) (e : MemoryEntry) : Memory :=
  { m with entries := insert p e m.entries }

/-- The store with a directory at the components, unless something is stored there. -/
def ensureDirectory (m : Memory) (components : List Path.Component) : Memory :=
  if (m.lookup components).isSome then m else m.put (.ofComponents components) .directory

/-- The store with directories at the components and all non-empty beginnings of them, where
nothing is stored. -/
def ensureDirectories (m : Memory) (components : List Path.Component) : Memory :=
  (List.range components.length).foldl
    (fun m n => m.ensureDirectory (components.take (n + 1))) m

/-- Stores a file, whatever is stored or denied there. -/
def addFile (m : Memory) (p : Path) (content : String) : Memory :=
  let p := m.locate p
  (m.ensureDirectories p.components.dropLast).put p (.file content)

/-- Denies writing at and below a path. -/
def deny (m : Memory) (p : Path) : Memory := { m with denied := m.locate p :: m.denied }

/-- Whether writing at the path is denied. -/
def isDenied (m : Memory) (p : Path) : Bool := m.denied.any p.startsWith

/-- Whether anything is stored at the path. -/
def contains (m : Memory) (p : Path) : Bool := (m.lookup (m.locate p).components).isSome

/-- Whether a directory is stored at the path. -/
def isDirectory (m : Memory) (p : Path) : Bool :=
  m.lookup (m.locate p).components == some .directory

/-- The content of the file at the path. -/
def readText (m : Memory) (p : Path) : Except StoreFault String :=
  let p := m.locate p
  match m.lookup p.components with
  | none => .error (.notFound p)
  | some .directory => .error (.notFile p)
  | some (.file content) => .ok content

/-- Creates a directory and those above it. -/
def createDirAll (m : Memory) (p : Path) : Except StoreFault Unit × Memory :=
  let p := m.locate p
  if m.isDenied p then (.error (.denied p), m) else (.ok (), m.ensureDirectories p.components)

/-- Writes a file, and creates the directories above it. -/
def writeText (m : Memory) (p : Path) (content : String) : Except StoreFault Unit × Memory :=
  let p := m.locate p
  if m.isDenied p then (.error (.denied p), m)
  else if m.isDirectory p then (.error (.isDirectory p), m)
  else (.ok (), m.addFile p content)

/-- Copies a file. -/
def copyFile (m : Memory) (source target : Path) : Except StoreFault Unit × Memory :=
  match m.readText source with
  | .error fault => (.error fault, m)
  | .ok content => m.writeText target content

/-- What is stored below the path. -/
def below (m : Memory) (p : Path) : List (Path × MemoryEntry) :=
  m.entries.filter fun stored => stored.1.startsWith p && !stored.1.same p

/-- Writes the entries, which lie below a path with `depth` components, at the same places below
the target, up to the first that cannot be written. -/
def writeAll (m : Memory) (depth : Nat) (target : Path) :
    List (Path × MemoryEntry) → Except StoreFault Unit × Memory
  | [] => (.ok (), m)
  | (p, e) :: rest =>
    let place := target.join (p.behind depth)
    let step :=
      match e with
      | .file content => m.writeText place content
      | .directory => m.createDirAll place
    match step with
    | (.error fault, m) => (.error fault, m)
    | (.ok (), m) => writeAll m depth target rest

/-- Copies what a directory holds. -/
def copyDir (m : Memory) (source target : Path) : Except StoreFault Unit × Memory :=
  let source := m.locate source
  let target := m.locate target
  if !m.isDirectory source then (.error (.notDirectory source), m)
  else
    match m.createDirAll target with
    | (.error fault, m) => (.error fault, m)
    | (.ok (), m) => m.writeAll source.components.length target (m.below source)

/-- The stored files with their contents, sorted by components. -/
def files (m : Memory) : List (Path × String) :=
  m.entries.filterMap fun stored =>
    match stored.2 with
    | .file content => some (stored.1, content)
    | .directory => none

end Memory

end ContainerBuild
