/-!
# Padding

Texts are brought to a width so that they stand in columns.  A text that is as long as
the width or longer is left alone.
-/

namespace Autopilot.Text

/-- A text brought to a width by adding a character in front. -/
def padLeft (width : Nat) (fill : Char) (text : String) : String :=
  String.ofList (List.replicate (width - text.length) fill) ++ text

/-- A text brought to a width by adding blanks behind. -/
def padRight (width : Nat) (text : String) : String :=
  text ++ String.ofList (List.replicate (width - text.length) ' ')

end Autopilot.Text
