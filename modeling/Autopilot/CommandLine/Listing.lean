import Autopilot.Lexer.Basic
import Autopilot.Log
import Autopilot.Token.Table

/-!
# Listing the tokens of a file

The tokens of a file are listed on the screen or written to another file.  The listing
fails if the file holds characters that belong to no token.
-/

namespace Autopilot

/-- What a listing is asked to do. -/
structure ListingRequest where
  /-- The name of the file that is read. -/
  path : String
  /-- The file to which the tokens are written, if not to the screen. -/
  output : Option String
  /-- Whether the log is shown from the lowest level on. -/
  verbose : Bool
deriving DecidableEq, Repr

/-- The outcome of a listing. -/
structure Listing where
  /-- What appears on the screen. -/
  shown : String
  /-- What is logged. -/
  logged : String
  /-- What is written to the other file. -/
  written : Option String
  /-- Whether some character belongs to no token. -/
  failed : Bool
deriving DecidableEq, Repr

/-- The listing of the contents of a file. -/
def ListingRequest.run (request : ListingRequest) (contents : String) : Listing :=
  let (tokens, diagnostics) := tokenize (Text.withLineFeeds contents)
  let record : LogRecord := {
    level := .debug
    source := .tokens
    message := "Lexed " ++ request.path ++ ": " ++ toString tokens.length ++
      " tokens, " ++ toString diagnostics.length ++ " diagnostics" }
  let shown :=
    match request.output with
    | none => Text.endLines (Token.tableLines tokens (some diagnostics))
    | some output =>
      Text.endLines ["Wrote " ++ toString tokens.length ++ " tokens to " ++ output]
  { shown := shown
    logged := if request.verbose then Text.endLines [record.sourcedText] else ""
    written := request.output.map fun _ =>
      Text.endLines (Token.entryLines tokens diagnostics)
    failed := !diagnostics.isEmpty }

end Autopilot
