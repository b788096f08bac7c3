import Autopilot.CommandLine.Request
import Autopilot.CommandLine.Scenario

/-!
# The program

Carries out what the command line asks for: files are read and written here, and only
here.
-/

namespace Autopilot.CommandLine

/-- Lists the tokens of a file. -/
def runListing (request : ListingRequest) : IO UInt32 := do
  let listing := request.run (← IO.FS.readFile request.path)
  match request.output, listing.written with
  | some output, some written =>
    match directory? output with
    | some directory => IO.FS.createDirAll directory
    | none => pure ()
    IO.FS.writeFile output written
  | _, _ => pure ()
  IO.eprint listing.logged
  IO.print listing.shown
  return if listing.failed then 1 else 0

/-- Shows the sample scenarios. -/
def runSamples (verbose : Bool) : IO UInt32 := do
  match Scenario.performSamples with
  | .ok performance =>
    IO.eprint (sourcedLog verbose performance.log)
    IO.print performance.shown
    return 0
  | .error fault =>
    IO.eprintln fault.message
    return 1

end Autopilot.CommandLine

open Autopilot.CommandLine in
/-- Does what the arguments ask for. -/
def main (arguments : List String) : IO UInt32 := do
  match Request.ofArguments? arguments with
  | some (.tokens request) => runListing request
  | some (.samples verbose) => runSamples verbose
  | none =>
    IO.eprint usage
    return 2
