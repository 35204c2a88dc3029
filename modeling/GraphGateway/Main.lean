import GraphGateway.CommandLine.Run

/-!
# The program

Reads the arguments, the environment and the one file that they may name, and prints what the
library answers.
-/

open GraphGateway

/-- The system's reason for a failure to read a file. -/
def ioReason : IO.Error → String
  | .noFileOrDirectory .. => noSuchFile
  | .permissionDenied _ code _ => s!"Permission denied (os error {code})"
  | .inappropriateType _ code _ => s!"Is a directory (os error {code})"
  | error => toString error

/-- Reads the settings at a path. -/
def loadSettings (path : String) : IO (Except SettingsError Settings) := do
  match ← (IO.FS.readBinFile path).toBaseIO with
  | .ok bytes => return Settings.ofBytes bytes
  | .error error => return .error (.unreadable (ioReason error))

def main (arguments : List String) : IO UInt32 := do
  let request := CommandLine.Request.parse (← IO.getEnv "CYPHER_BRIDGE_CONFIG") arguments
  let settings ← match request with
    | .run (some path) .. => loadSettings path
    | _ => pure (.ok {})
  let outcome := request.serve fun _ => settings
  (← IO.getStdout).putStr outcome.output
  (← IO.getStderr).putStr outcome.errors
  return outcome.exitCode
