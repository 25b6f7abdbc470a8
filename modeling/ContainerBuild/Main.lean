import ContainerBuild.Application
import ContainerBuild.Host

/-! # The command line

Reads the arguments and the environment, and shows what the application answers. Images are built on
a host of their own, so nothing outside of it is changed.
-/

open ContainerBuild

/-- The variables of the environment that count. -/
def variableNames : List String := [
  "IMAGESCRIPT_CONTEXTS_ROOT", "IMAGESCRIPT_MANIFEST_NAME", "IMAGESCRIPT_BUILD_TOOL",
  "IMAGESCRIPT_CAPTURE_OUTPUT", "IMAGESCRIPT_LOG_LEVEL", "IMAGESCRIPT_LOG_JSON", "RUST_LOG"]

/-- Reads the environment. -/
def readEnvironment : IO Environment := do
  let bindings ← variableNames.filterMapM fun name => do
    let value ← IO.getEnv name
    return value.map fun value => (name, Utf8.encode value)
  return ⟨bindings⟩

/-- Shows what was logged. -/
def showJournal (journal : Journal) : IO Unit := do
  for entry in journal do
    match entry with
    | .event event => IO.eprintln event.line
    | .text text => IO.eprint text

/-- Carries out a command line. -/
def main (args : List String) : IO UInt32 := do
  match Arguments.ofList (args.map Utf8.encode) with
  | .error refusal =>
    let reply := Application.refuse refusal
    IO.print reply.stdout
    if reply.code != 0 then IO.eprintln ("error: " ++ refusal.message?.getD refusal.kind)
    return UInt32.ofNat reply.code.toNat
  | .ok arguments =>
    let environment ← readEnvironment
    let (reply, host) := Application.run environment arguments (Host.create environment)
    let threshold := (Application.logSettings environment arguments).threshold environment
    showJournal (Application.logNotices environment arguments ++ host.journal.logged threshold)
    IO.print (Utf8.decodeLossy host.stdout ++ reply.stdout)
    return UInt32.ofNat reply.code.toNat
