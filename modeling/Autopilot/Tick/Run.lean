import Autopilot.Log
import Autopilot.World.Basic

/-!
# Runs

A run is a computation in a world that writes a trace and keeps a log.  It gives a
result or stops with a fault; in both cases it leaves a world, and everything that it
wrote until then is kept.

Runs are put one after the other: the second one starts in the world that the first one
left, and what it writes follows what the first one wrote.
-/

namespace Autopilot

/-- What a computation leaves. -/
structure Trail (σ α : Type) where
  result : Except Fault α
  world : σ
  trace : List String
  log : List LogRecord

namespace Trail

variable {σ α β γ : Type}

/-- A trail written after what is already there. -/
def after (trail : Trail σ α) (trace : List String) (log : List LogRecord) :
    Trail σ α :=
  ⟨trail.result, trail.world, trace ++ trail.trace, log ++ trail.log⟩

/-- A trail continued from the value and the world that it gave. -/
def follow (trail : Trail σ α) (next : α → σ → Trail σ β) : Trail σ β :=
  match trail with
  | ⟨.error fault, world, trace, log⟩ => ⟨.error fault, world, trace, log⟩
  | ⟨.ok value, world, trace, log⟩ => (next value world).after trace log

/-- A trail continued if it stopped at an unknown name. -/
def rescue (trail : Trail σ α) (handle : NameKind → String → σ → Trail σ α) :
    Trail σ α :=
  match trail with
  | ⟨.error (.unknownName kind name), world, trace, log⟩ =>
    (handle kind name world).after trace log
  | trail => trail

theorem follow_follow (trail : Trail σ α) (next : α → σ → Trail σ β)
    (last : β → σ → Trail σ γ) :
    (trail.follow next).follow last =
      trail.follow fun value world => (next value world).follow last := by
  obtain ⟨result, world, trace, log⟩ := trail
  cases result with
  | error fault => rfl
  | ok value =>
    simp only [follow, after]
    obtain ⟨result', world', trace', log'⟩ := next value world
    cases result' <;> simp

end Trail

/-- A computation in a world. -/
def Run (σ α : Type) :=
  σ → Trail σ α

namespace Run

variable {σ α β γ : Type}

/-- The computation that only gives a value. -/
def give (value : α) : Run σ α := fun world =>
  ⟨.ok value, world, [], []⟩

/-- One computation after another one, which has to give a value first. -/
def andThen (first : Run σ α) (second : α → Run σ β) : Run σ β := fun world =>
  (first world).follow second

instance : Monad (Run σ) where
  pure := give
  bind := andThen

/-- Writes a line of the trace. -/
def write (line : String) : Run σ Unit := fun world =>
  ⟨.ok (), world, [line], []⟩

/-- Writes lines of the trace. -/
def writeAll (lines : List String) : Run σ Unit := fun world =>
  ⟨.ok (), world, lines, []⟩

/-- Keeps a record of a tick. -/
def record (level : LogLevel) (message : String) : Run σ Unit := fun world =>
  ⟨.ok (), world, [], [⟨level, .tick, message⟩]⟩

/-- Gives a value or stops with a fault. -/
def lift (result : Except Fault α) : Run σ α := fun world =>
  ⟨result, world, [], []⟩

/-- Accesses the world. -/
def access (access : Access σ α) : Run σ α := fun world =>
  let (result, world) := access world
  ⟨result, world, [], []⟩

/-- A computation that is followed by another one if it stops at an unknown name. -/
def rescue (run : Run σ α) (handle : NameKind → String → Run σ α) : Run σ α :=
  fun world => (run world).rescue handle

theorem give_andThen (value : α) (second : α → Run σ β) :
    andThen (give value) second = second value := rfl

theorem andThen_give (run : Run σ α) : andThen run give = run := by
  funext world
  unfold andThen
  obtain ⟨result, world', trace, log⟩ := run world
  cases result <;> simp [Trail.follow, Trail.after, give]

theorem andThen_assoc (first : Run σ α) (second : α → Run σ β) (third : β → Run σ γ) :
    andThen (andThen first second) third =
      andThen first fun value => andThen (second value) third := by
  funext world
  exact (first world).follow_follow second third

end Run

end Autopilot
