import ContainerBuild.Disk

/-! # Programs of a host

The small programs that a host offers besides its shell. A program sees its arguments, its input and
the disk; it answers with an exit code and with what it writes, and leaves the disk in a new state.
-/

namespace ContainerBuild.Host

/-- The bytes of a text. -/
def bytes (s : String) : Bytes := Utf8.encode s

/-- The byte of an ASCII character. -/
def byte (c : Char) : UInt8 := UInt8.ofNat c.toNat

/-- How a program ended, and what it did. -/
structure Ending where
  /-- The exit code, unless a signal ended the program. -/
  status : Option Nat := some 0
  /-- What it wrote to its standard output. -/
  stdout : Bytes := []
  /-- What it wrote to its standard error. -/
  stderr : Bytes := []
  /-- The disk that it left. -/
  disk : Disk

/-- What the programs say about a fault. -/
def faultText : SystemFault → String
  | .noSuchFile => "No such file or directory"
  | .accessDenied => "Permission denied"
  | .fileExists => "File exists"
  | .notDirectory => "Not a directory"
  | .isDirectory => "Is a directory"
  | .nameTooLong => "File name too long"
  | _ => "Invalid argument"

/-- The arguments with spaces between them. -/
def unwords (args : List Bytes) : Bytes := [0x20].intercalate args

/-- Writes the arguments and ends the line, unless the first one asks not to. -/
def echo (args : List Bytes) (d : Disk) : Ending :=
  match args with
  | first :: rest =>
    if first == bytes "-n" then { stdout := unwords rest, disk := d }
    else { stdout := unwords args ++ [0x0A], disk := d }
  | [] => { stdout := [0x0A], disk := d }

/-- The answer of one step with the failure of another behind it. -/
def Ending.addError (e : Ending) (status : Nat) (message : String) : Ending :=
  { e with status := some status, stderr := e.stderr ++ bytes (message ++ "\n") }

/-- Writes the contents of files. A dash, or no argument, stands for the input. -/
def cat (args : List Bytes) (input : Bytes) (d : Disk) : Ending :=
  (if args.isEmpty then [bytes "-"] else args).foldl (fun e name =>
    if name == bytes "-" then { e with stdout := e.stdout ++ input }
    else
      match d.readBytes ⟨name⟩ with
      | .ok content => { e with stdout := e.stdout ++ content }
      | .error fault =>
        e.addError 1 ("cat: " ++ Utf8.decodeLossy name ++ ": " ++ faultText fault))
    { disk := d }

/-- The names of a directory that are shown, each on a line. -/
def listing (t : Tree) : Bytes :=
  (t.names.filter fun name => name.head? != some (byte '.')).flatMap (· ++ [0x0A])

/-- Lists directories. -/
def ls (args : List Bytes) (d : Disk) : Ending :=
  let operands := args.filter fun a => a.head? != some (byte '-')
  let operands := if operands.isEmpty then [Path.dot] else operands
  operands.foldl (fun e name =>
    match d.tree ⟨name⟩ with
    | .ok (.directory entries) => { e with stdout := e.stdout ++ listing (.directory entries) }
    | .ok (.file _) => { e with stdout := e.stdout ++ name ++ [0x0A] }
    | .error fault =>
      e.addError 2 ("ls: cannot access '" ++ Utf8.decodeLossy name ++ "': " ++ faultText fault))
    { disk := d }

/-- The last name of a path. -/
def baseName (name : Bytes) : Bytes :=
  ((Path.segments ⟨name⟩).filter (· != [])).getLast?.getD name

/-- Copies a file, or files into a directory. -/
def cp (args : List Bytes) (d : Disk) : Ending :=
  let operands := args.filter fun a => a.head? != some (byte '-')
  let target := operands.getLast?.getD []
  operands.dropLast.foldl (fun e name =>
    let shown := Utf8.decodeLossy name
    match e.disk.readBytes ⟨name⟩ with
    | .error .isDirectory =>
      e.addError 1 ("cp: -r not specified; omitting directory '" ++ shown ++ "'")
    | .error fault => e.addError 1 ("cp: cannot stat '" ++ shown ++ "': " ++ faultText fault)
    | .ok content =>
      let copy : Path := if e.disk.isDirectory ⟨target⟩ then Path.join ⟨target⟩ ⟨baseName name⟩
        else ⟨target⟩
      match e.disk.writeBytes copy content with
      | (.ok (), d) => { e with disk := d }
      | (.error fault, d) => { e with disk := d }.addError 1
          ("cp: cannot create regular file '" ++ copy.display ++ "': " ++ faultText fault))
    { disk := d }

/-- Creates directories. -/
def mkdir (args : List Bytes) (d : Disk) : Ending :=
  let above := args.contains (bytes "-p")
  (args.filter fun a => a.head? != some (byte '-')).foldl (fun e name =>
    let result := if above then e.disk.createAll ⟨name⟩ else e.disk.makeDirectory ⟨name⟩
    match result with
    | (.ok (), d) => { e with disk := d }
    | (.error fault, d) => { e with disk := d }.addError 1
        ("mkdir: cannot create directory ‘" ++ Utf8.decodeLossy name ++ "’: " ++ faultText fault))
    { disk := d }

/-- Creates files that are not there. -/
def touch (args : List Bytes) (d : Disk) : Ending :=
  args.foldl (fun e name =>
    if e.disk.contains ⟨name⟩ then e
    else
      match e.disk.writeBytes ⟨name⟩ [] with
      | (.ok (), d) => { e with disk := d }
      | (.error fault, d) => { e with disk := d }.addError 1
          ("touch: cannot touch '" ++ Utf8.decodeLossy name ++ "': " ++ faultText fault))
    { disk := d }

/-- The working directory as a path. -/
def workingDirectory (d : Disk) : Bytes := Path.slash :: [Path.slash].intercalate d.cwd

/-! ## Formats -/

/-- The value of an octal digit. -/
def octal? (b : UInt8) : Option Nat :=
  if byte '0' ≤ b && b ≤ byte '7' then some (b.toNat - 48) else none

/-- The byte of at most `count` octal digits that follow a value, and the rest. -/
def readOctal (count value : Nat) : Bytes → UInt8 × Bytes
  | [] => (UInt8.ofNat value, [])
  | b :: rest =>
    match count, octal? b with
    | count + 1, some n => readOctal count (value * 8 + n) rest
    | _, _ => (UInt8.ofNat value, b :: rest)

/-- The byte that a letter stands for behind a backslash. -/
def escaped? (b : UInt8) : Option UInt8 :=
  [('a', 7), ('b', 8), ('f', 12), ('n', 10), ('r', 13), ('t', 9), ('v', 11), ('\\', 92)].findSome?
    fun e => if byte e.1 == b then some e.2 else none

/-- The text with its escapes replaced; `zero` tells whether an octal number starts with a zero that
does not count. -/
def unescape (zero : Bool) (fuel : Nat) : Bytes → Bytes
  | [] => []
  | [b] => [b]
  | b :: c :: rest =>
    match fuel with
    | 0 => b :: c :: rest
    | fuel + 1 =>
      if b != byte '\\' then b :: unescape zero fuel (c :: rest)
      else
        match escaped? c, octal? c with
        | some e, _ => e :: unescape zero fuel rest
        | none, some _ =>
          if zero && c != byte '0' then b :: c :: unescape zero fuel rest
          else
            let (value, rest) := readOctal 3 0 (if zero then rest else c :: rest)
            value :: unescape zero fuel rest
        | none, none => b :: c :: unescape zero fuel rest

/-- The format with its directives replaced by arguments, and the arguments that are left. -/
def fill (format : Bytes) (args : List Bytes) : Bytes × List Bytes :=
  match format with
  | [] => ([], args)
  | [b] => ([b], args)
  | b :: c :: rest =>
    if b == byte '%' then
      if c == byte '%' then
        let (out, args) := fill rest args
        (b :: out, args)
      else
        let (out, left) := fill rest args.tail
        (args.head?.getD [] ++ out, left)
    else
      let (out, args) := fill (c :: rest) args
      (b :: out, args)

/-- Fills the format until no argument is left. -/
def fillAll (fuel : Nat) (format : Bytes) (args : List Bytes) : Bytes :=
  match fuel with
  | 0 => []
  | fuel + 1 =>
    let (out, left) := fill format args
    if left.isEmpty || left.length == args.length then out else out ++ fillAll fuel format left

/-- Writes its further arguments in the format of the first. -/
def printf (args : List Bytes) (d : Disk) : Ending :=
  match args with
  | [] => { status := some 2, disk := d }
  | format :: rest =>
    { stdout := fillAll (rest.length + 1) (unescape false format.length format) rest, disk := d }

/-- What a program makes of its arguments, its input and the disk. -/
abbrev Program := List Bytes → Bytes → Disk → Ending

/-- The program of a name, apart from the shell. -/
def program? (name : String) : Option Program :=
  match name with
  | "true" => some fun _ _ d => { disk := d }
  | "false" => some fun _ _ d => { status := some 1, disk := d }
  | "echo" => some fun args _ d => echo args d
  | "cat" => some cat
  | "ls" => some fun args _ d => ls args d
  | "cp" => some fun args _ d => cp args d
  | "mkdir" => some fun args _ d => mkdir args d
  | "touch" => some fun args _ d => touch args d
  | "printf" => some fun args _ d => printf args d
  | "pwd" => some fun _ _ d => { stdout := workingDirectory d ++ [0x0A], disk := d }
  | _ => none

/-- The names of all programs. -/
def programNames : List String :=
  ["cat", "cp", "echo", "false", "ls", "mkdir", "printf", "pwd", "sh", "touch", "true"]

end ContainerBuild.Host
