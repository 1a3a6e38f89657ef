import CiWorkflow.Command.Invocation
/-!
# The program

Reads the files that a command line names, runs it, and prints and writes what comes of it.
-/

namespace CiWorkflow.Program

/-- The contents of a file, or why it cannot be read. -/
def contents (file : String) : IO (Except String String) := do
  try
    return .ok (← IO.FS.readFile file)
  catch
    | .noFileOrDirectory .. => return .error "No such file or directory (os error 2)"
    | e => return .error e.toString

/-- Write files. Tells the first failure. -/
def writeAll : List (String × String) → IO (Option String)
  | [] => return none
  | (file, text) :: rest => do
    try
      IO.FS.writeFile file text
      writeAll rest
    catch e => return some ("Failed to write '" ++ file ++ "': " ++ e.toString)

/-- Run a command line, and tell the exit code. -/
def run (args : List String) : IO UInt32 := do
  let environment ← IO.getEnv "ACTIONFLOW_CONFIG"
  match Invocation.ofArguments? environment args with
  | none =>
    IO.eprintln "error: unexpected arguments\n\nFor more information, try '--help'."
    return 2
  | some i =>
    let read ← i.files.mapM fun file => return (file, ← contents file)
    let files : Files := fun file => (read.lookup file).getD (.error "not read")
    let outcome := i.run environment files
    let failure ← writeAll outcome.written
    IO.print outcome.output
    IO.eprint outcome.errors
    match failure with
    | some message =>
      IO.eprintln ("Error: " ++ message)
      return 1
    | none => return if outcome.failed then 1 else 0

end CiWorkflow.Program

def main (args : List String) : IO UInt32 := CiWorkflow.Program.run args
