import Autopilot.Cursor.Basic

/-!
# Lists of nodes

A list of nodes is read by reading one element after the other until the end of the
list or of the tokens.  After each element, read or not, the reader says whether to go
on.  A round that is to be followed by another one has to pass a token: otherwise the
list stalls, which is a fault.
-/

namespace Autopilot

/-- How a list of nodes is read. -/
structure NodeList (α : Type) where
  /-- Whether the list ends here. -/
  isAtEnd : Cursor → Bool
  /-- Reads an element. -/
  element : Cursor → Option α × Cursor
  /-- Whether to go on after an element, and from where. -/
  goOn : Option α → Cursor → Bool × Cursor

namespace NodeList

variable {α : Type}

/-- Whether no further element is to be read. -/
def isDone (list : NodeList α) (c : Cursor) : Bool :=
  c.isAt .eof || list.isAtEnd c

/-- One round: the element, whether to go on, and the cursor afterwards. -/
def round (list : NodeList α) (c : Cursor) : Option α × Bool × Cursor :=
  let element := list.element c
  (element.1, list.goOn element.1 element.2)

/-- The elements of the list at a cursor. -/
def read (list : NodeList α) (c : Cursor) : Except Fault (List α) × Cursor :=
  if list.isDone c then (.ok [], c)
  else
    match list.round c with
    | (element, false, c') => (.ok element.toList, c')
    | (element, true, c') =>
      if list.isDone c' then (.ok element.toList, c')
      else if _hprogress : c'.pending.length < c.pending.length then
        let following := list.read c'
        (following.1.map (element.toList ++ ·), following.2)
      else (.error (.stalled c'.current.describe), c')
termination_by c.pending.length

end NodeList

end Autopilot
