import TextRules.CommandLine
import TextRules.Server.Start

/-!
The program: evaluates a rule, checks a rule file, or starts a server. It has no listener of its own: a server that
    has started is told to stop when the standard input ends.
-/

namespace TextRules

/-- What the program prints when it is asked for help or for nothing that it knows. -/
def usage : String :=
  "Usage: rulestream <COMMAND>\n\nCommands:\n" ++
  "  serve  Start the classification server\n" ++
  "  eval   Evaluate one rule against one subject and print the verdict\n" ++
  "  check  Validate every rule in a YAML rule file\n" ++
  "  help   Print this message\n"

/-- The name of the program and its version. -/
def version : String := "rulestream 0.1.0"

/-- What is found under a path on the disk. -/
def findFile (path : String) : IO FileContent := do
  try
    return .bytes (← IO.FS.readBinFile path).toList
  catch
    | .noFileOrDirectory .. => return .missing
    | _ => return .unreadable

/-- Prints why a command has failed. -/
def printFailure (message : String) : IO Unit := do
  (← IO.getStderr).putStrLn ("Error: " ++ message)

/-- Prints what a command reports, and gives its exit status. -/
def finish (r : CommandReport) : IO UInt32 := do
  IO.print r.output
  match r.failure with
  | some e => printFailure e.message
  | none => pure ()
  return UInt32.ofNat r.status

/-- The lines that pass a filter. -/
def printLog (filter : LogFilter) (lines : List LogLine) : IO Unit := do
  for line in lines.filter filter.keeps do
    IO.println (line.level.name ++ " " ++ line.target ++ ": " ++ line.shown)

/-- Reads to the end of the standard input. -/
partial def awaitEnd (input : IO.FS.Stream) : IO Unit := do
  unless (← input.getLine).isEmpty do awaitEnd input

/-- A server from its start to its end. -/
def serve (options : ServeOptions) : IO UInt32 := do
  let token ← IO.getEnv "RULESTREAM_ADMIN_TOKEN"
  let options := options.withToken token
  let filter := LogFilter.ofSetting options.verbose none
  let start ← Start.run findFile options
  printLog filter start.log
  match start.outcome with
  | .error e =>
    printFailure e.message
    return 1
  | .ok _ =>
    awaitEnd (← IO.getStdin)
    printLog filter Server.stopLog
    return 0

end TextRules

open TextRules in
/-- The program, given its arguments. -/
def main (args : List String) : IO UInt32 := do
  match CommandLine.read args with
  | .ok (.serve options) => serve options
  | .ok (.eval rule subject) => finish (.ofEval rule subject)
  | .ok (.check path _) => finish (.ofCheck path (← findFile path))
  | .error e =>
    match e with
    | .versionAsked => IO.println version
    | .helpAsked => IO.print usage
    | _ => (← IO.getStderr).putStr usage
    return UInt32.ofNat e.status
