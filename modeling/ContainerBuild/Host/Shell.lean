import ContainerBuild.Host.Shell.Line

/-! # The shell of a host

Runs a script command by command. What a command writes goes to the streams of the shell, or where
its redirections turn it. A command that does not exist has the status 127, and a signal that the
shell sends to itself ends it without a status.
-/

namespace ContainerBuild.Host

/-- A running shell. -/
structure Shell where
  /-- The disk. -/
  disk : Disk
  /-- The variables. -/
  bindings : List (Bytes × Bytes) := []
  /-- What the shell was started as. -/
  name : Bytes
  /-- The parameters. -/
  parameters : List Bytes := []
  /-- The status of the last command. -/
  status : Nat := 0
  /-- What was written to the standard output. -/
  stdout : Bytes := []
  /-- What was written to the standard error. -/
  stderr : Bytes := []
  /-- How the shell ended, if it did: the exit code, unless a signal ended it. -/
  ended : Option (Option Nat) := none

namespace Shell

/-- The number of the process. -/
def processNumber : Bytes := bytes "4242"

/-- A number in decimal digits. -/
def digits (n : Nat) : Bytes := bytes (toString n)

/-- The value of a variable or parameter. -/
def value (s : Shell) (name : Bytes) : Bytes :=
  match name with
  | [b] =>
    if isDigit b then
      if b == byte '0' then s.name else (s.parameters[b.toNat - 49]?).getD []
    else if b == byte '$' then processNumber
    else if b == byte '?' then digits s.status
    else if b == byte '#' then digits s.parameters.length
    else if b == byte '@' || b == byte '*' then unwords s.parameters
    else (s.bindings.lookup name).getD []
  | name => (s.bindings.lookup name).getD []

/-- Whether the byte separates fields. -/
def isSeparator (b : UInt8) : Bool := b == 0x20 || b == 0x09 || b == 0x0A

/-- The fields of a word as far as they are read: those that are complete, and the one that is
not. -/
structure Fields where
  /-- The complete fields. -/
  complete : List Bytes := []
  /-- The field that is not complete, if one was started. -/
  open? : Option Bytes := none

namespace Fields

/-- Adds bytes to the field. -/
def add (f : Fields) (b : Bytes) : Fields := { f with open? := some (f.open?.getD [] ++ b) }

/-- Completes the field. -/
def close (f : Fields) : Fields := ⟨f.complete ++ f.open?.toList, none⟩

/-- Adds bytes that are split at blanks. -/
def addSplit (f : Fields) (b : Bytes) : Fields :=
  b.foldl (fun f b => if isSeparator b then f.close else f.add [b]) f

end Fields

/-- The fields of a word. -/
def fields (s : Shell) (w : Word) : List Bytes :=
  (w.foldl (fun (f : Fields) part =>
    match part with
    | .literal b => f.add b
    | .value name true => f.add (s.value name)
    | .value name false => f.addSplit (s.value name)) {}).close.complete

/-- The text of a word as one field. -/
def text (s : Shell) (w : Word) : Bytes :=
  w.flatMap fun
    | .literal b => b
    | .value name _ => s.value name

/-- Where a stream writes. -/
inductive Sink where
  /-- To the standard output of the shell. -/
  | stdout
  /-- To the standard error of the shell. -/
  | stderr
  /-- To the end of a file. -/
  | file (location : Location)
  deriving DecidableEq, Repr

/-- Where the streams of a command write, and what it reads. -/
structure Wiring where
  /-- Where the standard output goes. -/
  stdout : Sink := .stdout
  /-- Where the standard error goes. -/
  stderr : Sink := .stderr
  /-- What the command reads. -/
  input : Bytes := []

/-- Writes to a sink. -/
def write (s : Shell) (sink : Sink) (b : Bytes) : Shell :=
  match sink with
  | .stdout => { s with stdout := s.stdout ++ b }
  | .stderr => { s with stderr := s.stderr ++ b }
  | .file location =>
    match s.disk.root.at? location with
    | some (.file content) => { s with disk := s.disk.put location (.file (content ++ b)) }
    | _ => s

/-- A complaint of the shell, with what it was started as and the line. -/
def complaint (s : Shell) (line : Nat) (message : Bytes) : Bytes :=
  s.name ++ bytes (": " ++ toString line ++ ": ") ++ message ++ [0x0A]

/-- Opens a file to write to. -/
def openFile (s : Shell) (appends : Bool) (p : Path) : Disk.Result Location :=
  match appends, s.disk.readBytes p with
  | true, .ok content =>
    match s.disk.openFile p with
    | (.ok location, d) => (.ok location, d.put location (.file content))
    | failed => failed
  | _, _ => s.disk.openFile p

/-- What the shell says about a file that it cannot open or create. -/
def openFault (fault : SystemFault) (absent : String) : Bytes :=
  bytes <|
    match fault with
    | .noSuchFile | .notDirectory => absent
    | fault => faultText fault

/-- Turns the streams of a command, one after the other, or complains. -/
def wire (s : Shell) (line : Nat) (w : Wiring) : List Redirect → Except Bytes Wiring × Shell
  | [] => (.ok w, s)
  | .toStream stream other :: rest =>
    let sink := if other == 2 then w.stderr else w.stdout
    wire s line (if stream == 2 then { w with stderr := sink } else { w with stdout := sink }) rest
  | .toFile stream appends file :: rest =>
    let name := s.text file
    match s.openFile appends ⟨name⟩ with
    | (.error fault, d) =>
      (.error (s.complaint line (bytes "cannot create " ++ name ++ bytes ": "
        ++ openFault fault "Directory nonexistent")), { s with disk := d })
    | (.ok location, d) =>
      let sink := Sink.file location
      wire { s with disk := d } line
        (if stream == 2 then { w with stderr := sink } else { w with stdout := sink }) rest
  | .fromFile file :: rest =>
    let name := s.text file
    match s.disk.readBytes ⟨name⟩ with
    | .error fault =>
      (.error (s.complaint line (bytes "cannot open " ++ name ++ bytes ": "
        ++ openFault fault "No such file")), s)
    | .ok content => wire s line { w with input := content } rest

/-- The name and value of a word that sets a variable. -/
def assignment? (s : Shell) (w : Word) : Option (Bytes × Bytes) :=
  match w with
  | .literal b :: rest =>
    let name := b.takeWhile isNameByte
    let after := b.dropWhile isNameByte
    if name.head?.any isNameStart && after.head? == some (byte '=') then
      some (name, after.drop 1 ++ s.text rest)
    else none
  | _ => none

/-- Sets a variable. -/
def set (s : Shell) (name value : Bytes) : Shell :=
  { s with bindings := (name, value) :: s.bindings.filter (·.1 != name) }

/-- The signals that end a process. -/
def endingSignals : List String :=
  ["-9", "-15", "-2", "-1", "-6", "-KILL", "-TERM", "-INT", "-HUP", "-ABRT", "-SIGKILL", "-SIGTERM"]

/-- The text with the escapes of the shell's own `echo`, and without what follows the one that
stops. -/
def echoText (args : List Bytes) : Bytes :=
  let stops := args.head? == some (bytes "-n")
  let line := unwords (if stops then args.tail else args)
  unescape true line.length line ++ if stops then [] else [0x0A]

/-- A number in decimal digits, if the bytes spell one. -/
def number? (b : Bytes) : Option Nat := (Utf8.decode? b).bind String.toNat?

/-- What a shell is started with: its name, its script, and its parameters. -/
structure Start where
  /-- What the shell was started as. -/
  name : Bytes
  /-- The script. -/
  script : Bytes
  /-- The parameters. -/
  parameters : List Bytes

/-- What the arguments of a shell ask for, or what it says instead. -/
def start (name : Bytes) (args : List Bytes) (d : Disk) : Except Ending Start :=
  match args with
  | [] => .ok ⟨name, [], []⟩
  | first :: rest =>
    if first == bytes "-c" then
      match rest with
      | [] => .error {
          status := some 2, stderr := name ++ bytes ": 0: -c requires an argument\n", disk := d }
      | script :: more => .ok ⟨more.head?.getD name, script, more.tail⟩
    else
      match d.readBytes ⟨first⟩ with
      | .ok script => .ok ⟨first, script, rest⟩
      | .error fault => .error {
          status := some 2
          stderr := name ++ bytes ": 0: cannot open " ++ first ++ bytes ": "
            ++ openFault fault "No such file" ++ [0x0A]
          disk := d }

/-- Takes over what a program did. A signal counts as a status of its own. -/
def finish (s : Shell) (w : Wiring) (e : Ending) : Shell :=
  let s := { s with disk := e.disk }
  { (s.write w.stdout e.stdout).write w.stderr e.stderr with status := e.status.getD 137 }

/-- How a nested shell runs: its name, its arguments, the variables and the disk. -/
abbrev Nested := Bytes → List Bytes → List (Bytes × Bytes) → Disk → Ending

/-- Goes to another directory. -/
def goTo (s : Shell) (line : Nat) (w : Wiring) (target : Bytes) : Shell :=
  match s.disk.place ⟨target⟩ with
  | .ok (.found trail (.directory _)) =>
    { s with status := 0, disk := { s.disk with cwd := trail.location } }
  | _ =>
    let message := s.complaint line (bytes "cd: can't cd to " ++ target)
    { s.write w.stderr message with status := 2 }

/-- Sends a signal. One that reaches the shell itself and is not ignored ends it. -/
def signal (s : Shell) (args : List Bytes) : Shell :=
  let reaches := args.contains processNumber
  let ends := args == [processNumber] || args.any fun a =>
    endingSignals.contains (Utf8.decodeLossy a)
  if reaches && ends then { s with ended := some none }
  else { s with status := if reaches then 0 else 1 }

/-- Ends the shell with a status, or with that of the last command. -/
def leave (s : Shell) (line : Nat) (args : List Bytes) : Shell :=
  match args with
  | [] => { s with ended := some (some s.status) }
  | arg :: _ =>
    match number? arg with
    | some n => { s with ended := some (some (n % 256)) }
    | none =>
      let message := s.complaint line (bytes "exit: Illegal number: " ++ arg)
      { s with stderr := s.stderr ++ message, ended := some (some 2) }

/-- Runs a command that is wired and expanded. -/
def runWords (nested : Nested) (s : Shell) (line : Nat) (w : Wiring)
    (bindings : List (Bytes × Bytes)) (name : Bytes) (args : List Bytes) : Shell :=
  match Utf8.decodeLossy name with
  | ":" => { s with status := 0 }
  | "exit" => s.leave line args
  | "cd" => s.goTo line w (args.head?.getD [Path.slash])
  | "kill" => s.signal args
  | "echo" => { s.write w.stdout (echoText args) with status := 0 }
  | "sh" => s.finish w (nested name args bindings s.disk)
  | shown =>
    match program? shown with
    | some program => s.finish w (program args w.input s.disk)
    | none =>
      let message := s.complaint line (name ++ bytes ": not found")
      { s.write w.stderr message with status := 127 }

/-- Runs one command. Variables that are set in front of it are set for it alone. -/
def runSimple (nested : Nested) (s : Shell) (c : Simple) : Shell :=
  match s.wire c.line {} c.redirects with
  | (.error message, s) => { s with status := 2, stderr := s.stderr ++ message }
  | (.ok w, s) =>
    let settings := (c.words.takeWhile fun w => (s.assignment? w).isSome).filterMap s.assignment?
    let inner := settings.foldl (fun s v => s.set v.1 v.2) s
    match (c.words.drop settings.length).flatMap s.fields with
    | [] => { inner with status := 0 }
    | name :: args => runWords nested s c.line w inner.bindings name args

/-- Whether a command runs after a status. -/
def Joint.isDue (status : Nat) : Joint → Bool
  | .always => true
  | .afterSuccess => status == 0
  | .afterFailure => status != 0

/-- Runs the commands until the shell ends. -/
def runAll (nested : Nested) (s : Shell) (script : List Simple) : Shell :=
  script.foldl (fun s c =>
    if s.ended.isNone && Joint.isDue s.status c.joint then runSimple nested s c else s) s

/-- Runs a shell with its arguments; shells that it starts are nested at most `depth` times. -/
def run (depth : Nat) : Nested := fun name args bindings d =>
  match start name args d with
  | .error ending => ending
  | .ok first =>
    let nested : Nested :=
      match depth with
      | 0 => fun _ _ _ d => { status := some 2, disk := d }
      | depth + 1 => run depth
    let s := runAll nested
      { disk := d, bindings, name := first.name, parameters := first.parameters }
      (parseScript first.script)
    { status := s.ended.getD (some s.status), stdout := s.stdout, stderr := s.stderr
      disk := { s.disk with cwd := d.cwd } }

end Shell

end ContainerBuild.Host
