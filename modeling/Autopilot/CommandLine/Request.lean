import Autopilot.CommandLine.Listing

/-!
# Arguments of the command line

Two commands: `tokens` lists the tokens of a file, `samples` shows the sample scenarios.
With `-v` the log is shown too, and with `-o` the tokens are written to a file.
-/

namespace Autopilot.CommandLine

/-- What the command line asks for. -/
inductive Request where
  | tokens (request : ListingRequest)
  | samples (verbose : Bool)
deriving DecidableEq, Repr

/-- The options and the file names of the command `tokens`. -/
def listing? (request : ListingRequest) : List String → Option ListingRequest
  | [] => if request.path = "" then none else some request
  | "-v" :: rest => listing? { request with verbose := true } rest
  | "--verbose" :: rest => listing? { request with verbose := true } rest
  | "-o" :: output :: rest => listing? { request with output := some output } rest
  | "--output" :: output :: rest => listing? { request with output := some output } rest
  | path :: rest =>
    if request.path = "" then listing? { request with path := path } rest else none

/-- The request of a command line, if it is understood. -/
def Request.ofArguments? : List String → Option Request
  | "tokens" :: rest => (listing? ⟨"", none, false⟩ rest).map tokens
  | ["samples"] => some (samples false)
  | ["samples", "-v"] => some (samples true)
  | ["samples", "--verbose"] => some (samples true)
  | _ => none

/-- How the commands are used. -/
def usage : String :=
  "usage: tokens PATH [-o OUTPUT] [-v]\n       samples [-v]\n"

/-- The directory of a file, if its name holds one. -/
def directory? (path : String) : Option String :=
  let reversed := path.toList.reverse.dropWhile (· ≠ '/')
  match reversed.drop 1 with
  | [] => none
  | directory => some (String.ofList directory.reverse)

end Autopilot.CommandLine
