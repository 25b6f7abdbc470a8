import ContainerBuild.Environment
import ContainerBuild.Host.Shell
import ContainerBuild.Run.Child
import ContainerBuild.Workspace

/-! # Hosts

A workspace with a disk and programs. A command is started like a process: its working directory
must be there, and so must its program, which is found by name or by a path. What a process writes
to inherited streams goes to the streams of the host.
-/

namespace ContainerBuild

/-- A disk, an environment for processes, and what was written to the streams. -/
structure Host where
  /-- The files. -/
  disk : Disk := {}
  /-- The environment of processes. -/
  environment : Environment := {}
  /-- What was written to the standard output. -/
  stdout : Bytes := []
  /-- What was written to the standard error. -/
  journal : Journal := []
  deriving Inhabited

namespace Host

/-- Takes down an event. -/
def note (h : Host) (e : Event) : Host := { h with journal := h.journal ++ [.event e] }

/-- Puts the disk that an operation left in place of the old one. -/
def withDisk {α : Type} (h : Host) (result : α × Disk) : α × Host :=
  (result.1, { h with disk := result.2 })

/-- Where the host keeps its programs. -/
def programDirectory : Location := [bytes "bin"]

/-- The directory in which a host starts. -/
def startDirectory : Location := [bytes "work"]

/-- A host with its programs and an empty working directory. -/
def create (e : Environment) : Host :=
  let programs := programNames.map fun name => (bytes name, Tree.file [])
  { disk := {
      root := .directory [(bytes "bin", .directory programs), (bytes "work", .empty)]
      cwd := startDirectory }
    environment := e }

/-- What a process is started with. -/
structure Launch where
  /-- The program. -/
  program : String
  /-- The arguments. -/
  args : List String

/-- What the process of a command is started with. The shell gets the command as one line. -/
def launch (c : Command) : Launch :=
  if c.viaShell then ⟨"/bin/sh", ["-c", c.display]⟩ else ⟨c.program, c.args⟩

/-- Whether a text cannot be handed to a process. -/
def hasZero (s : String) : Bool := s.toList.contains '\x00'

/-- Whether something that the process is started with cannot be handed to it. -/
def hasZeroByte (l : Launch) (o : RunOptions) : Bool :=
  hasZero l.program || l.args.any hasZero
    || o.env.any (fun v => hasZero v.1 || hasZero v.2)
    || o.cwd.any fun p => p.bytes.contains 0

/-- The disk seen from the working directory of a process. -/
def enter (d : Disk) (cwd : Option Path) : Except SystemFault Disk :=
  match cwd with
  | none => .ok d
  | some p =>
    if p.bytes.isEmpty then .ok d
    else
      match d.place p with
      | .error fault => .error fault
      | .ok (.missing _ _) => .error .noSuchFile
      | .ok (.found _ (.file _)) => .error .notDirectory
      | .ok (.found trail (.directory _)) => .ok { d with cwd := trail.location }

/-- The name of the program at a path, if it is one that can be run. -/
def programAt (d : Disk) (p : Path) : Except SystemFault String :=
  match d.place p with
  | .error fault => .error fault
  | .ok (.missing _ _) => .error .noSuchFile
  | .ok (.found trail t) =>
    match trail.location with
    | [directory, name] =>
      if [directory] = programDirectory ∧ !t.isDirectory then .ok (Utf8.decodeLossy name)
      else .error .accessDenied
    | _ => .error (if !t.isDirectory && Disk.endsInSlash p then .notDirectory else .accessDenied)

/-- The name of the program that is started. A name without a slash is looked up among the
programs of the host. -/
def lookUp (d : Disk) (program : String) : Except SystemFault String :=
  if program.toList.contains '/' then programAt d (.ofString program)
  else if programNames.contains program then .ok program
  else .error .noSuchFile

/-- How often a shell may start another one. -/
def shellDepth : Nat := 32

/-- Runs a program that was found. `name` is what it was started as. -/
def execute (program : String) (name : Bytes) (args : List Bytes) (bindings : List (Bytes × Bytes))
    (d : Disk) : Ending :=
  match program? program with
  | some run => run args [] d
  | none => Shell.run shellDepth name args bindings d

/-- The variables of a process: those of the host, overridden by those of the run. -/
def bindings (h : Host) (o : RunOptions) : List (Bytes × Bytes) :=
  o.env.map (fun v => (bytes v.1, bytes v.2))
    ++ h.environment.bindings.map fun v => (bytes v.1, v.2)

/-- Starts the process of a command and reports how it ended. -/
def spawn (h : Host) (c : Command) (o : RunOptions) : ChildReport × Disk :=
  let l := launch c
  if hasZeroByte l o then (.refused "nul byte found in provided data", h.disk)
  else
    match enter h.disk o.cwd with
    | .error fault => (.refused fault.message, h.disk)
    | .ok d =>
      match lookUp d l.program with
      | .error fault => (.refused fault.message, h.disk)
      | .ok program =>
        let e := execute program (bytes l.program) (l.args.map bytes) (h.bindings o) d
        (.ended (e.status.map Int.ofNat) e.stdout e.stderr, { e.disk with cwd := h.disk.cwd })

/-- Lets a process write to the streams of the host, if it inherits them. -/
def inherit (h : Host) (o : RunOptions) (r : ChildReport) : Host :=
  match o.streams, r with
  | .inherited, .ended _ stdout stderr =>
    { h with
      stdout := h.stdout ++ stdout
      journal := h.journal ++ if stderr.isEmpty then [] else [.text (Utf8.decodeLossy stderr)] }
  | _, _ => h

/-- Runs a command. -/
def run (c : Command) (o : RunOptions) (h : Host) : Except RunError Output × Host :=
  let h := h.note ⟨.info, runTarget, "executing command", [("command", c.display)]⟩
  let h := h.note ⟨.debug, runTarget, "spawning process", []⟩
  let (report, disk) := h.spawn c o
  let h := { h with disk }.inherit o report
  let finished := report.finish c o
  let events := (finished.ignoredEvent? o).toList
  (finished.answer o, { h with journal := h.journal ++ events.map .event })

instance : Workspace Host where
  contains p h := h.disk.contains p
  isDirectory p h := h.disk.isDirectory p
  readText p h := (h.disk.readText p).mapError (StoreFault.failed (.readFile p))
  createDirAll p h := h.withDisk (h.disk.createDirAll p)
  writeText p content h := h.withDisk (h.disk.writeText p content)
  copyFile source target h := h.withDisk (h.disk.copyFile source target)
  copyDir source target h := h.withDisk (h.disk.copyDir source target)
  run := run
  record e h := h.note e

end Host

end ContainerBuild
