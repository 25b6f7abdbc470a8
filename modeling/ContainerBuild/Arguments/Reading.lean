import ContainerBuild.Arguments.Grammar

/-! # Reading arguments

Arguments are read one after the other. A value is taken in when the next argument shows that it is
complete, so a fault in it is reported only if nothing before it is.
-/

namespace ContainerBuild.Arguments

/-- An option or argument whose value is not yet taken in. -/
structure Pending where
  /-- What the value is about. -/
  key : Key
  /-- The value, once it has been seen. -/
  bytes : Option Bytes := none
  deriving DecidableEq, Repr

/-- What has been read at one level. -/
structure Reading where
  /-- The arguments with their values, the first one first. -/
  taken : List (Key × Value) := []
  /-- The argument whose value is not yet taken in. -/
  pending : Option Pending := none
  /-- Whether two dashes have been seen, behind which nothing is an option. -/
  pastDashes : Bool := false
  /-- Whether the argument without a name has been seen. -/
  hasPositional : Bool := false
  deriving DecidableEq, Repr, Inhabited

/-- Takes the reading on, or refuses. -/
abbrev Answer := Except Refusal Reading

namespace Reading

/-- Whether an argument has been taken in. -/
def has (r : Reading) (key : Key) : Bool := r.taken.any fun taken => taken.1 == key

/-- Whether the next argument is the value of an option. -/
def awaitsValue (r : Reading) : Bool :=
  !r.pastDashes && r.pending.any fun p => p.bytes.isNone

/-- Takes an argument in. An option that is not repeatable is refused the second time. -/
def take (r : Reading) (key : Key) (value : Except Refusal Value) : Answer :=
  if r.has key && !key.isRepeatable then .error .argumentConflict
  else value.map fun v => { r with taken := r.taken ++ [(key, v)] }

/-- Takes the pending argument in. -/
def settle (r : Reading) : Answer :=
  match r.pending with
  | none => .ok r
  | some ⟨_, none⟩ => .error .invalidValue
  | some ⟨key, some bytes⟩ => { r with pending := none }.take key (key.value bytes)

/-- Takes a flag in. -/
def takeFlag (r : Reading) (key : Key) : Answer := do
  let r ← r.settle
  match key with
  | .help => .error .displayHelp
  | .version => .error .displayVersion
  | key => r.take key (.ok .given)

/-- Takes in an option that comes with its value. -/
def takeAttached (r : Reading) (key : Key) (bytes : Bytes) : Answer := do
  let r ← r.settle
  r.take key (key.value bytes)

/-- Starts an option whose value is the next argument. -/
def start (r : Reading) (key : Key) : Answer := do
  let r ← r.settle
  .ok { r with pending := some { key } }

/-- Reads an option by its long name; `bytes` follows the two dashes. -/
def readLong (scope : Scope) (r : Reading) (bytes : Bytes) : Answer :=
  let name := bytes.takeWhile (· != 0x3D)
  let attached := (bytes.dropWhile (· != 0x3D)).tail?
  match (Utf8.decode? name).bind scope.long? with
  | none => .error .unknownArgument
  | some key =>
    match key.takesValue, attached with
    | true, some value => r.takeAttached key value
    | true, none => r.start key
    | false, some _ => .error .tooManyValues
    | false, none => r.takeFlag key

/-- The value that follows a letter: an equals sign in front of it does not count. -/
def attachedValue? (bytes : Bytes) : Option Bytes :=
  match bytes with
  | [] => none
  | b :: rest => if b == 0x3D then some rest else some bytes

/-- Reads options by their letters. The first that takes a value takes the rest as its value. -/
def readShort (scope : Scope) (r : Reading) : List Utf8.Piece → Answer
  | [] => .ok r
  | .broken _ :: _ => .error .unknownArgument
  | .char c :: rest =>
    match scope.short? c with
    | none => .error .unknownArgument
    | some key =>
      if key.takesValue then
        match attachedValue? (rest.flatMap Utf8.Piece.bytes) with
        | some value => r.takeAttached key value
        | none => r.start key
      else
        match r.takeFlag key with
        | .error refusal => .error refusal
        | .ok r => readShort scope r rest

/-- Reads an argument that is no option. -/
def readPositional (scope : Scope) (r : Reading) (bytes : Bytes) : Answer :=
  match scope.positional? with
  | some key =>
    if r.hasPositional then .error .unknownArgument
    else do
      let r ← r.settle
      .ok { r with pending := some ⟨key, some bytes⟩, hasPositional := true }
  | none =>
    match scope with
    | .verb _ => .error .unknownArgument
    | .program =>
      let isVerb := (Utf8.decode? bytes).any fun s => (Verb.named? s).isSome || s == "help"
      .error (if r.pastDashes && isVerb then .unknownArgument else .invalidSubcommand)

/-- Reads one argument. -/
def read (scope : Scope) (r : Reading) (bytes : Bytes) : Answer :=
  if r.pastDashes then r.readPositional scope bytes
  else
    match bytes with
    | [0x2D, 0x2D] => .ok { r with pastDashes := true }
    | 0x2D :: 0x2D :: rest => r.readLong scope rest
    | 0x2D :: b :: rest => r.readShort scope (Utf8.pieces (b :: rest))
    | bytes =>
      match r.awaitsValue, r.pending with
      | true, some p => .ok { r with pending := some { p with bytes := some bytes } }
      | _, _ => r.readPositional scope bytes

/-- Checks what has been read at a level: flags that exclude each other, then what is missing. -/
def check (scope : Scope) (r : Reading) : Answer :=
  if r.has .verbose && r.has .quiet then .error .argumentConflict
  else if scope.required.all r.has then .ok r
  else .error .missingRequiredArgument

/-- Reads all arguments of a command. -/
def readVerb (v : Verb) (args : List Bytes) : Answer := do
  let r ← args.foldlM (read (.verb v)) {}
  (← r.settle).check (.verb v)

/-- The answer to the question for help with commands, which must exist. -/
def readHelp : List Bytes → Refusal
  | [] => .displayHelp
  | [name] =>
    if (Utf8.decode? name).any fun s => (Verb.named? s).isSome || s == "help" then .displayHelp
    else .invalidSubcommand
  | _ => .invalidSubcommand

/-- Reads the arguments of the program: what stands before the command, the command, and what
stands behind it. -/
def readProgram (r : Reading) : List Bytes → Except Refusal (Reading × Verb × Reading)
  | [] => do
    let r ← r.settle
    .error <|
      if r.taken.isEmpty then .displayHelpOnMissingArgumentOrSubcommand else .missingSubcommand
  | arg :: rest =>
    let name? := if r.pastDashes || r.awaitsValue then none else Utf8.decode? arg
    match name?.bind Verb.named?, name? with
    | some v, _ => do
      let inner ← readVerb v rest
      let outer ← (← r.settle).check .program
      .ok (outer, v, inner)
    | none, some "help" => .error (readHelp rest)
    | none, _ => do
      let r ← r.read .program arg
      readProgram r rest

end Reading

end ContainerBuild.Arguments
