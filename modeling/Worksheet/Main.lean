import Worksheet.Command.Basic

/- Worksheet Main — the command line.

   Reads the arguments and the file, and prints what `Command.run` answers. -/
open Worksheet

/-- The text of a file, if there is one that can be read. -/
def readText? (path : String) : IO (Option String) := do
  try
    return some (← IO.FS.readFile path)
  catch _ => return none

def usage : String := "usage: worksheet (eval | recalc | check | order) FILE [OPTIONS]"

def main (args : List String) : IO UInt32 := do
  match Command.ofArgs? args with
  | none =>
    (← IO.getStderr).putStrLn usage
    return Command.usageCode.toUInt32
  | some command =>
    let outcome := command.run (← readText? command.file)
    (← IO.getStdout).putStr outcome.stdout
    (← IO.getStderr).putStr outcome.stderr
    return outcome.code.toUInt32
