/-!
# Line breaks

A line of a text file ends with a line feed, with a carriage return, or with a carriage
return and a line feed.  Each of these is read as a line feed, and lines are written
with it.
-/

namespace Autopilot.Text

/-- The characters of a text, every line break being a line feed. -/
def unifyBreaks : List Char → List Char
  | [] => []
  | '\r' :: '\n' :: rest => '\n' :: unifyBreaks rest
  | c :: rest => (if c = '\r' then '\n' else c) :: unifyBreaks rest

/-- A text, every line break being a line feed. -/
def withLineFeeds (text : String) : String :=
  String.ofList (unifyBreaks text.toList)

/-- Lines, each ended by a line break. -/
def endLines (lines : List String) : String :=
  String.join (lines.map (· ++ "\n"))

end Autopilot.Text
