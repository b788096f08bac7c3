import Autopilot.Diagnostic.Basic
import Autopilot.Text.Padding
import Autopilot.Token.Basic

/-!
# Tables of tokens

A list of tokens is shown to a reader as a table with aligned columns or as a list of
numbered entries.
-/

namespace Autopilot

namespace Token

/-- One row of the table. -/
def row (index : Nat) (token : Token) : String :=
  Text.padLeft 3 '0' (toString index) ++ " " ++ Text.padRight 22 token.kind.name ++
    " at=" ++ token.position.pairText ++ " text=" ++ Text.quoted token.text

/-- One entry of the list. -/
def entry (index : Nat) (token : Token) : String :=
  "[" ++ toString index ++ "] kind=" ++ token.kind.name ++ " text=" ++
    Text.quoted token.text ++ " at=" ++ token.position.text

/-- The lines of a table of tokens, with the diagnostics below it if they are given. -/
def tableLines (tokens : List Token) (diagnostics : Option (List Diagnostic)) :
    List String :=
  tokens.mapIdx row ++
    match diagnostics with
    | none => []
    | some ds => ["", "Diagnostics:"] ++ ds.map fun d => "- " ++ d.render

/-- The entries of a list of tokens followed by diagnostics. -/
def entryLines (tokens : List Token) (diagnostics : List Diagnostic) : List String :=
  tokens.mapIdx entry ++ diagnostics.map Diagnostic.render

end Token

end Autopilot
