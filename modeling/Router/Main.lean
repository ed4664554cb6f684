import Router.Cli

/-!
# The program

Reads the files of a command, runs it, and prints what it says.
-/

open Router

/-- The content of a file, or why there is none. -/
def readContent (path : String) : IO Cli.FileContent := do
  try
    return .ok (← IO.FS.readBinFile path)
  catch e =>
    match e with
    | .noFileOrDirectory .. => return .error .missing
    | e => return .error (.other (toString e))

/-- Runs a command. -/
def runCommand : Cli.Command → IO Cli.Outcome
  | .validate config => return Cli.validate config (← readContent config)
  | .replay config input ingress => return Cli.replay (← readContent config) input (← readContent input) ingress

/-- Runs the command of a command line and prints its outcome. -/
def main (args : List String) : IO UInt32 := do
  match Cli.command? args with
  | none =>
    IO.eprintln "usage: validate [--config FILE] | replay [--config FILE] --input FILE [--ingress NAME]"
    return 2
  | some command =>
    let outcome ← runCommand command
    outcome.stdout.forM IO.println
    outcome.stderr.forM IO.eprintln
    return outcome.code.toUInt32
