import PklHost.Cli.Run

/-!
# The program

Reads the surroundings, runs the command line and writes what it printed. This program starts no other
one: a command that needs Pkl fails as it does where Pkl cannot be started.
-/

open PklHost

/-- The fault of starting a program. -/
def cannotStart : IoError := ⟨.other, "starting programs is not supported"⟩

/-- All octets of a stream. -/
partial def readAll (input : IO.FS.Stream) (acc : ByteArray) : IO ByteArray := do
  let octets ← input.read 65536
  if octets.isEmpty then return acc else readAll input (acc ++ octets)

/-- The environment variables that the program uses. -/
def readVariables : IO (List (String × String)) :=
  ["HOME", "PKL_EXEC"].filterMapM fun name => do
    return (← IO.getEnv name).map fun value => (name, value)

/-- The surroundings; standard input is read only if it is asked for. -/
def readSurroundings (words : List String) : IO Cli.Surroundings := do
  let stdin ← if words.contains "-" then readAll (← IO.getStdin) ByteArray.empty
    else pure ByteArray.empty
  return {
    environment := {
      vars := Dict.ofPairs (← readVariables)
      workingDir := FilePath.ofText (← IO.currentDir).toString }
    stdin := stdin.toList
    isTerminal := ← (← IO.getStdout).isTty
    serve := fun _ => .error cannotStart
    askVersion := fun _ => .notStarted cannotStart }

def main (words : List String) : IO UInt32 := do
  match Cli.run (← readSurroundings words) words with
  | none => return 1
  | some ending =>
    let output ← IO.getStdout
    output.write ⟨ending.stdout.toArray⟩
    output.flush
    (← IO.getStderr).putStr ending.stderr
    return UInt32.ofNat ending.code.number
