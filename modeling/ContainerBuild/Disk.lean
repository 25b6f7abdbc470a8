import ContainerBuild.Disk.Tree
import ContainerBuild.Store.Fault

/-! # Disks

A file store on a Unix system without links. Paths are walked name by name from the working
directory: dots stay, two dots go up, and every name that is followed by a slash must be that of a
directory. What the system says about a path that cannot be walked decides the fault of every
operation.
-/

namespace ContainerBuild

/-- A disk with a working directory. -/
structure Disk where
  /-- All directories and files. -/
  root : Tree := .empty
  /-- The working directory. -/
  cwd : Location := []
  /-- The length of the longest path that the system takes, if there is one. -/
  pathLimit : Option Nat := some 4095
  deriving Inhabited

namespace Disk

/-- The length of the longest name. -/
def nameLimit : Nat := 255

/-- The answer of an operation, with the disk that it leaves. -/
abbrev Result (α : Type) := Except SystemFault α × Disk

/-! ## Walking -/

/-- The directories and files that have been walked through, the last one first. -/
abbrev Trail := List (Bytes × Tree)

/-- Where the trail leads. -/
def Trail.location (trail : Trail) : Location := (trail.map (·.1)).reverse

/-- What a path leads to. -/
inductive Place where
  /-- A directory or file at the end of the trail. -/
  | found (trail : Trail) (tree : Tree)
  /-- A name that the directory at the end of the trail does not have. -/
  | missing (trail : Trail) (name : Bytes)

/-- The directory or file at the end of a trail. -/
def here (root : Tree) (trail : Trail) : Tree := (trail.head?.map (·.2)).getD root

/-- Walks through the segments. -/
def walk (root : Tree) (trail : Trail) : List Bytes → Except SystemFault Place
  | [] => .ok (.found trail (here root trail))
  | segment :: rest =>
    match here root trail with
    | .file _ => .error .notDirectory
    | .directory entries =>
      if segment = Path.dot then walk root trail rest
      else if segment = Path.dots then walk root trail.tail rest
      else if nameLimit < segment.length then .error .nameTooLong
      else
        match entries.lookup segment, rest with
        | some t, rest => walk root ((segment, t) :: trail) rest
        | none, [] => .ok (.missing trail segment)
        | none, _ :: _ => .error .noSuchFile

/-- The trail that leads to a location. -/
def trailTo (root : Tree) (trail : Trail) : Location → Trail
  | [] => trail
  | name :: rest =>
    match (here root trail).child? name with
    | some t => trailTo root ((name, t) :: trail) rest
    | none => trail

/-- Whether the path asks for a directory by a slash at its end. -/
def endsInSlash (p : Path) : Bool := p.bytes.getLast? == some Path.slash

/-- What a path leads to. -/
def place (d : Disk) (p : Path) : Except SystemFault Place :=
  if p.bytes.contains 0 then .error .zeroByte
  else if p.bytes.isEmpty then .error .noSuchFile
  else if d.pathLimit.any (· < p.bytes.length) then .error .nameTooLong
  else
    let start := if p.isAbsolute then [] else trailTo d.root [] d.cwd
    walk d.root start (p.segments.filter (· != []))

/-- The directory or file that a path leads to. A slash at the end asks for a directory. -/
def tree (d : Disk) (p : Path) : Except SystemFault Tree :=
  match d.place p with
  | .error fault => .error fault
  | .ok (.missing _ _) => .error .noSuchFile
  | .ok (.found _ t) =>
    if endsInSlash p && !t.isDirectory then .error .notDirectory else .ok t

/-! ## Questions -/

/-- Whether a path leads to something. -/
def contains (d : Disk) (p : Path) : Bool :=
  match d.tree p with
  | .ok _ => true
  | .error _ => false

/-- Whether a path leads to a directory. -/
def isDirectory (d : Disk) (p : Path) : Bool :=
  match d.tree p with
  | .ok t => t.isDirectory
  | .error _ => false

/-- The content of a file. -/
def readBytes (d : Disk) (p : Path) : Except SystemFault Bytes :=
  match d.tree p with
  | .error fault => .error fault
  | .ok (.directory _) => .error .isDirectory
  | .ok (.file content) => .ok content

/-- The content of a file as text. -/
def readText (d : Disk) (p : Path) : Except SystemFault String :=
  match d.readBytes p with
  | .error fault => .error fault
  | .ok content =>
    match Utf8.decode? content with
    | some s => .ok s
    | none => .error .notText

/-! ## Changes -/

/-- The disk with another tree at a location. -/
def put (d : Disk) (location : Location) (t : Tree) : Disk :=
  { d with root := d.root.put t location }

/-- Creates one directory. -/
def makeDirectory (d : Disk) (p : Path) : Result Unit :=
  match d.place p with
  | .error fault => (.error fault, d)
  | .ok (.found _ _) => (.error .fileExists, d)
  | .ok (.missing trail name) => (.ok (), d.put (trail.location ++ [name]) .empty)

/-- Opens a file for writing, which empties or creates it, and tells where it is. -/
def openFile (d : Disk) (p : Path) : Result Location :=
  match d.place p with
  | .error fault => (.error fault, d)
  | .ok (.found trail t) =>
    if t.isDirectory || endsInSlash p then (.error .isDirectory, d)
    else (.ok trail.location, d.put trail.location (.file []))
  | .ok (.missing trail name) =>
    if endsInSlash p then (.error .isDirectory, d)
    else
      let location := trail.location ++ [name]
      (.ok location, d.put location (.file []))

/-- Writes a file. -/
def writeBytes (d : Disk) (p : Path) (content : Bytes) : Result Unit :=
  match d.openFile p with
  | (.error fault, d) => (.error fault, d)
  | (.ok location, d) => (.ok (), d.put location (.file content))

/-- Creates the path, or the longest beginning of it that can be created, and tells which paths
behind that one are missing, the shortest first. At most `fuel` paths are tried. -/
def createFirst (fuel : Nat) (d : Disk) (missing : List Path) (p : Path) : Result (List Path) :=
  match fuel with
  | 0 => (.ok missing, d)
  | fuel + 1 =>
    if p.bytes.isEmpty then (.ok missing, d)
    else
      match d.makeDirectory p with
      | (.ok (), d) => (.ok missing, d)
      | (.error .noSuchFile, _) =>
        match p.parent? with
        | none => (.ok (p :: missing), d)
        | some parent => createFirst fuel d (p :: missing) parent
      | (.error fault, _) => if d.isDirectory p then (.ok missing, d) else (.error fault, d)

/-- Creates the directories, except those that are there. -/
def createEach (d : Disk) : List Path → Result Unit
  | [] => (.ok (), d)
  | p :: rest =>
    match d.makeDirectory p with
    | (.ok (), d) => createEach d rest
    | (.error fault, _) =>
      if fault == .fileExists && d.isDirectory p then createEach d rest else (.error fault, d)

/-- Creates a directory and those above it. -/
def createAll (d : Disk) (p : Path) : Result Unit :=
  match d.createFirst (p.components.length + 1) [] p with
  | (.error fault, d) => (.error fault, d)
  | (.ok missing, d) => d.createEach missing

/-! ## Operations of a file store -/

/-- The answer of an operation of a file store, with the disk that it leaves. -/
abbrev Outcome := Except StoreFault Unit × Disk

/-- Tells what was attempted when the system reported a fault. -/
def attempting (attempt : Attempt) (result : Result Unit) : Outcome :=
  match result with
  | (.ok (), d) => (.ok (), d)
  | (.error fault, d) => (.error (.failed attempt fault), d)

/-- Creates a directory and those above it. -/
def createDirAll (d : Disk) (p : Path) : Outcome :=
  attempting (.createDirectory p) (d.createAll p)

/-- Creates the directories above a path. -/
def createParents (d : Disk) (p : Path) : Outcome :=
  match p.parent? with
  | none => (.ok (), d)
  | some parent => if parent.bytes.isEmpty then (.ok (), d) else d.createDirAll parent

/-- Writes a file, and creates the directories above it. -/
def writeText (d : Disk) (p : Path) (content : String) : Outcome :=
  match d.createParents p with
  | (.error fault, d) => (.error fault, d)
  | (.ok (), d) => attempting (.writeFile p) (d.writeBytes p (Utf8.encode content))

/-- Copies the bytes of a file. The copy is emptied before the file is read, so a file that is
copied onto itself is empty afterwards. -/
def copyBytes (d : Disk) (source target : Path) : Result Unit :=
  match d.tree source with
  | .error fault => (.error fault, d)
  | .ok (.directory _) => (.error .notRegular, d)
  | .ok (.file _) =>
    match d.openFile target with
    | (.error fault, d) => (.error fault, d)
    | (.ok location, d) =>
      match d.readBytes source with
      | .error fault => (.error fault, d)
      | .ok content => (.ok (), d.put location (.file content))

/-- Copies a file, and creates the directories above the copy. -/
def copyFile (d : Disk) (source target : Path) : Outcome :=
  match d.createParents target with
  | (.error fault, d) => (.error fault, d)
  | (.ok (), d) => attempting (.copyFile source target) (d.copyBytes source target)

/-- Carries out one step for each name, up to the first that fails or does not end. -/
def forNames (step : Disk → Bytes → Option Outcome) (d : Disk) : List Bytes → Option Outcome
  | [] => some (.ok (), d)
  | name :: rest =>
    match step d name with
    | none => none
    | some (.error fault, d) => some (.error fault, d)
    | some (.ok (), d) => forNames step d rest

/-- Copies what a directory holds once the target is there, through at most `depth` directories. -/
def copyDirWithin (depth : Nat) (d : Disk) (source target : Path) : Option Outcome :=
  match depth with
  | 0 => none
  | depth + 1 =>
    if !d.isDirectory source then some (.error (.notDirectory source), d)
    else
      match d.createDirAll target with
      | (.error fault, d) => some (.error fault, d)
      | (.ok (), d) =>
        match d.tree source with
        | .error fault => some (.error (.failed (.readDirectory source) fault), d)
        | .ok t =>
          forNames (fun d name =>
            let inner := source.join ⟨name⟩
            let copy := target.join ⟨name⟩
            if d.isDirectory inner then copyDirWithin depth d inner copy
            else some (d.copyFile inner copy)) d t.names

/-- Copies what a directory holds. The path of the copy grows with every directory, so the longest
path that the system takes ends a copy of a directory into itself. -/
def copyDir (d : Disk) (source target : Path) : Outcome :=
  match copyDirWithin (d.pathLimit.getD 4095 + 2) d source target with
  | some outcome => outcome
  | none => (.error (.failed (.createDirectory target) .nameTooLong), d)

/-- What is below a directory: the paths seen from it, sorted by their bytes, with the contents of
files. -/
def listing (d : Disk) (location : Location) : List (Path × Option Bytes) :=
  let entries := ((d.root.at? location).map (Tree.descendants [])).getD []
  let shown := entries.map fun entry =>
    (Path.ofSegments entry.1,
      match entry.2 with
      | .file content => some content
      | .directory _ => none)
  shown.mergeSort fun a b => !Path.bytesBefore b.1.bytes a.1.bytes

end Disk

end ContainerBuild
