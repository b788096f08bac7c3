import Autopilot.Cursor.NodeList

/-!
# Loops over nodes

The loop that reads a list of nodes, for callbacks that may have a memory of their own, one
turn at a time.  Before every round it looks at the progress of its cursor: a round that
would start where the one before it started is not entered, and the loop stalls.

Nothing is known of the callbacks here, and so nothing of whether the loop ends.
-/

namespace Autopilot

/-- How nodes are read by callbacks that share a memory. -/
structure NodeLoop (σ α : Type) where
  /-- Whether the list ends here. -/
  isAtEnd : Cursor → σ → Bool × σ
  /-- Reads an element. -/
  element : Cursor → σ → Option α × Cursor × σ
  /-- Whether to go on after an element, and from where. -/
  goOn : Option α → Cursor → σ → Bool × Cursor × σ

namespace NodeLoop

variable {σ α : Type}

/-- A round that has been gone through. -/
structure Round (σ α : Type) where
  /-- Where an element was asked for. -/
  start : Cursor
  /-- The element, if one was read. -/
  element : Option α
  /-- Whether the loop was to go on. -/
  goesOn : Bool
  /-- The cursor after the round. -/
  next : Cursor
  /-- The memory of the callbacks after the round. -/
  memory : σ

/-- How far a loop has got. -/
structure Standing (σ α : Type) where
  /-- Where the last round started, if there was one. -/
  progress : Progress := {}
  /-- The elements so far. -/
  elements : List α := []
  /-- The rounds so far, in order. -/
  rounds : List (Round σ α) := []
  cursor : Cursor
  /-- The memory of the callbacks. -/
  memory : σ

/-- What has come of a loop. -/
structure Outcome (σ α : Type) where
  /-- The elements, or the fault that ended the loop. -/
  result : Except Fault (List α)
  cursor : Cursor
  /-- The memory of the callbacks. -/
  memory : σ
  /-- The rounds, in order. -/
  rounds : List (Round σ α)

/-- Whether no further element is to be read.  At the end token nobody is asked. -/
def isDone (loop : NodeLoop σ α) (c : Cursor) (memory : σ) : Bool × σ :=
  if c.isAt .eof then (true, memory) else loop.isAtEnd c memory

/-- One round: an element is asked for, and then whether to go on. -/
def round (loop : NodeLoop σ α) (c : Cursor) (memory : σ) : Round σ α :=
  let (element, c₁, memory₁) := loop.element c memory
  let (goesOn, c₂, memory₂) := loop.goOn element c₁ memory₁
  ⟨c, element, goesOn, c₂, memory₂⟩

/-- One turn: the loop ends, or it goes through a round and on. -/
def turn (loop : NodeLoop σ α) (s : Standing σ α) : Outcome σ α ⊕ Standing σ α :=
  let (done, memory) := loop.isDone s.cursor s.memory
  if done then .inl ⟨.ok s.elements, s.cursor, memory, s.rounds⟩
  else
    let (moved, mark) := s.progress.check s.cursor
    if moved then
      let round := loop.round s.cursor memory
      let elements := s.elements ++ round.element.toList
      let rounds := s.rounds ++ [round]
      if round.goesOn then .inr ⟨mark, elements, rounds, round.next, round.memory⟩
      else .inl ⟨.ok elements, round.next, round.memory, rounds⟩
    else .inl ⟨.error (.stalled s.cursor.current.describe), s.cursor, memory, s.rounds⟩

end NodeLoop

/-- A list of nodes, read by callbacks without a memory. -/
def NodeList.toLoop {α : Type} (list : NodeList α) : NodeLoop Unit α where
  isAtEnd := fun c _ => (list.isAtEnd c, ())
  element := fun c _ =>
    let (element, c) := list.element c
    (element, c, ())
  goOn := fun element c _ =>
    let (goesOn, c) := list.goOn element c
    (goesOn, c, ())

end Autopilot
