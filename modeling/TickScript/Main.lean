import TickScript.CommandLine.Run

/-! # The command

    Connects the pure command to the files, the environment and the outputs of the process.
-/

open TickScript

namespace TickScript.CommandLine

/-- The fault that an error of the file system stands for. -/
def fileFault : IO.Error → FileFault
  | .noFileOrDirectory .. => .notFound
  | .inappropriateType _ code _ => if code = 20 then .notDirectory else .isDirectory
  | e => .other (toString e)

/-- Reads a file. -/
def readFile (path : String) : IO (Except FileFault Bytes) := do
  try
    let content ← IO.FS.readBinFile path
    return .ok content.toList
  catch e => return .error (fileFault e)

/-- Whether there is a file; a directory counts. -/
def holdsFile (path : String) : IO Bool := do
  match ← readFile path with
  | .ok _ => return true
  | .error .isDirectory => return true
  | .error _ => return false

/-- The surroundings of this process. -/
def processHost : IO (Host IO) := do
  let overrides : Overrides :=
    ⟨← IO.getEnv "TICKVM_SAVE_DIR", ← IO.getEnv "TICKVM_LOG", ← IO.getEnv "TICKVM_POW_BIT_ORDER",
      ← IO.getEnv "TICKVM_MAX_LOOP_ITERATIONS"⟩
  return {
    files := ⟨readFile, holdsFile⟩
    settingsFile := ← IO.getEnv "TICKVM_CONFIG"
    overrides := overrides
    dataDir := dataDirectory (← IO.getEnv "XDG_DATA_HOME") (← IO.getEnv "HOME")
    workingDir := (← IO.currentDir).toString }

end TickScript.CommandLine

/-- Runs the command line. -/
def main (args : List String) : IO UInt32 := do
  let outcome ← CommandLine.run (← CommandLine.processHost) args
  IO.print outcome.output
  IO.eprint outcome.errors
  return UInt32.ofNat outcome.status
