import Baggage.Console.Run

/-!
# Baggage.Main

The **program**: reads the files that its arguments name, runs the call, and writes what comes of
it. Everything else is done by `Console.run`.
-/

namespace Baggage.Console

/-- The paths of the files that a call may read. -/
def Call.paths (call : Call) : List String :=
  call.config.toList ++ match call.command with
    | .solve file _ _ => [file]
    | .select file _ _ _ => [file]
    | .fare _ _ _ => []

/-- Why a file was not read, as the system tells it. -/
def fileError : IO.Error → FileError
  | .noFileOrDirectory _ _ _ => .notFound
  | e => .other (toString e)

/-- Reads a file. -/
def readFile (path : String) : IO (Except FileError String) := do
  try
    match String.fromUTF8? (← IO.FS.readBinFile path) with
    | some text => return .ok text
    | none => return .error .notText
  catch e => return .error (fileError e)

/-- What is around a call: its files as they are now, and the variables that matter. -/
def surroundings (arguments : List String) : IO Surroundings := do
  let paths := match Call.ofArguments arguments with
    | .ok call => call.paths
    | .error _ => []
  let texts ← paths.mapM fun path => return (path, ← readFile path)
  let port ← IO.getEnv "PORT"
  let shown ← IO.getEnv "RUST_LOG"
  return {
    files := fun path => (texts.lookup path).getD (.error .notFound)
    environment := fun name => match name with
      | "PORT" => port
      | "RUST_LOG" => shown
      | _ => none }

end Baggage.Console

/-- Runs the program with its arguments. -/
def main (arguments : List String) : IO UInt32 := do
  let ending := Baggage.Console.run (← Baggage.Console.surroundings arguments) arguments
  IO.print ending.output
  ending.log.forM fun line => IO.eprintln line.write
  return UInt32.ofNat ending.exit
