import ArgScan.Program

/-!
# The command

The outer layer of the program: it takes the command line and the environment, reads the settings
file that the command line names, and passes on what the run gives.
-/

namespace ArgScan

/-- The working folder as far as a command needs it: the settings file, if it can be read. -/
def readFolder (argv : List String) : IO Files.Folder := do
  match CommandLine.Request.read Program.name argv with
  | .ok { command := some (.format path ..), .. } | .ok { command := some (.parse path ..), .. } =>
    try return .ofFiles [(path, ← IO.FS.readFile path)]
    catch _ => return {}
  | _ => return {}

end ArgScan

/-- Runs the program on the command line. -/
def main (argv : List String) : IO UInt32 := do
  let folder ← ArgScan.readFolder argv
  let environment ← IO.getEnv "ARGMATCH_LOG_MODE"
  match ArgScan.Program.run folder environment argv with
  | .ok response =>
    IO.print response.output
    IO.eprint response.errors
    return response.status.toUInt32
  | .error _ =>
    IO.eprintln "argmatch: the command was broken off"
    return 1
