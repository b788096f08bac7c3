import Autopilot.Reading
import Autopilot.Validation.Basic

/-!
# Sources

A source is a text that has been read once, with the rules it is checked against.  The
remarks of the check are found when they are first asked for and remembered.
-/

namespace Autopilot

/-- A text that has been read. -/
structure Source where
  text : String
  reading : Reading
  rules : Rules
  /-- The remarks of the check, once they have been asked for. -/
  remarks : Option (List Diagnostic)

namespace Source

/-- Reads a text. -/
def ofText (text : String) (rules : Option Rules) : Except Fault Source := do
  return ⟨text, ← Reading.ofText text, rules.getD Rules.none, none⟩

/-- The script of a source. -/
def script (source : Source) : Script := source.reading.script

/-- The number of characters of a source. -/
def length (source : Source) : Nat := source.text.length

/-- The remarks of the check, and the source that remembers them. -/
def check (source : Source) : Except Fault (List Diagnostic × Source) :=
  match source.remarks with
  | some remarks => .ok (remarks, source)
  | none => do
    let remarks ← source.rules.check source.script
    return (remarks, { source with remarks := some remarks })

end Source

end Autopilot
