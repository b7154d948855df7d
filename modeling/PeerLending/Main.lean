import PeerLending.Cli.Run

/-!
# The program

Reads the command line and the snapshot variable, reads the snapshot file the command names,
and prints what the run printed, ending with its status.
-/

open PeerLending.Cli

/-- The words the system uses for a failed read. -/
def readFailure (e : IO.Error) : String :=
  match e with
  | .noFileOrDirectory .. => "No such file or directory (os error 2)"
  | .permissionDenied .. => "Permission denied (os error 13)"
  | .inappropriateType .. => "Is a directory (os error 21)"
  | other => toString other

/-- The contents of a file, or why it could not be read. -/
def readText (path : String) : IO (Except String String) := do
  try
    return .ok (← IO.FS.readFile path)
  catch e =>
    return .error (readFailure e)

def main (args : List String) : IO UInt32 := do
  let env ← IO.getEnv snapshotVariable
  let result ← match parse args env with
    | .help text => pure (RunResult.mk 0 text "")
    | .usage text => pure (RunResult.mk 2 "" text)
    | .run inv => do
      let contents ← readText inv.command.snapshotPath
      pure (inv.run contents)
  IO.print result.stdout
  IO.eprint result.stderr
  return result.status.toUInt32
