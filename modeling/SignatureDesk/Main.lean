/-
The command line: `FILE [--format text|json]`.
-/
import SignatureDesk.Report.Command

namespace SignatureDesk.Report

/-- The text of a file, when there is one that can be read. -/
def contentsOf (path : String) : IO (Option String) := do
  try return some (← IO.FS.readFile path)
  catch _ => return none

/-- Prints how the command ended. -/
def Outcome.print (o : Outcome) : IO UInt32 := do
  match o with
  | .reported text => IO.print text
  | .failed line => IO.eprintln line
  | .misused => IO.eprintln "usage: FILE [--format text|json]"
  return o.exitCode

end SignatureDesk.Report

def main (arguments : List String) : IO UInt32 := do
  match SignatureDesk.Report.Command.ofArguments? arguments with
  | none => SignatureDesk.Report.Outcome.misused.print
  | some c => (c.run (← SignatureDesk.Report.contentsOf c.path)).print
