import Autopilot.Cursor.Basic

/-!
# Recovery

After a mistake the tokens up to the next place where a statement may start are
dropped.  Such a place is after a line break, or before a token of certain kinds.
-/

namespace Autopilot

/-- Where reading may be taken up again. -/
structure Recovery where
  /-- The kinds of tokens before which reading is taken up. -/
  resume : List TokenKind
  /-- Whether reading is taken up after a line break. -/
  lineBreak : Bool := true
deriving DecidableEq, Repr

/-- Why nothing was dropped. -/
inductive Recovery.Refusal where
  /-- There is nothing left. -/
  | atEnd
  /-- Reading can be taken up right here. -/
  | alreadyThere
deriving DecidableEq, Repr

/-- The name of a reason. -/
def Recovery.Refusal.name : Recovery.Refusal → String
  | atEnd => "eof"
  | alreadyThere => "already_recovered"

namespace Recovery

/-- The cursor at the next place where reading may be taken up, or at the end. -/
def discard (recovery : Recovery) (c : Cursor) : Cursor :=
  if _hend : c.isAt .eof then c
  else if recovery.lineBreak && c.isAt .newline then c.advance
  else if c.isAtAny recovery.resume then c
  else discard recovery c.advance
termination_by c.pending.length
decreasing_by
  exact Cursor.length_pending_advance_lt (by simpa using _hend)

/-- The cursor after dropping tokens, with a reason if none was dropped. -/
def recover (recovery : Recovery) (c : Cursor) : Option Refusal × Cursor :=
  if c.isAt .eof then (some .atEnd, c)
  else if c.isAtAny recovery.resume then (some .alreadyThere, c)
  else (none, recovery.discard c)

/-- Statements are taken up again after a line break, at `IF` and at `ELSE`. -/
def statement : Recovery where
  resume := [.ifWord, .elseWord]
  lineBreak := true

end Recovery

end Autopilot
