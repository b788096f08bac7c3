import Autopilot.Proofs.Tick.Statement
import Autopilot.World.Drone

/-!
# Worlds that lookups do not change

In a world that no lookup changes, evaluating a condition leaves the world as it is, so
that a command is reached in the world in which its statement was tried.
-/

namespace Autopilot

/-- Looking something up, whether it is known or not, leaves the world as it is. -/
structure World.IsSteady (σ : Type) [World σ] : Prop where
  flag : ∀ (name : String) (world : σ), (World.flag name world).2 = world
  number : ∀ (name : String) (world : σ), (World.number name world).2 = world

theorem Drone.isSteady : World.IsSteady Drone where
  flag _ _ := rfl
  number _ _ := rfl

namespace Run

variable {σ α β : Type}

/-- A run leaves every world as it is. -/
def Keeps (run : Run σ α) : Prop :=
  ∀ world, (run world).world = world

theorem keeps_pure (value : α) : (pure value : Run σ α).Keeps := by
  intro world
  rfl

theorem keeps_write (line : String) : (write line : Run σ Unit).Keeps := by
  intro world
  rfl

theorem keeps_lift (result : Except Fault α) : (lift result : Run σ α).Keeps := by
  intro world
  rfl

theorem keeps_access {access : Access σ α} (h : ∀ world, (access world).2 = world) :
    (Run.access access).Keeps :=
  h

theorem Keeps.bind {first : Run σ α} {second : α → Run σ β} (hfirst : first.Keeps)
    (hsecond : ∀ value, (second value).Keeps) : (first >>= second).Keeps := by
  intro world
  cases hresult : (first world).result with
  | error fault =>
      rw [bind_of_error hresult]
      exact hfirst world
  | ok value =>
      rw [bind_of_ok hresult]
      exact (hsecond value _).trans (hfirst world)

theorem Keeps.eq_of_leaves {run : Run σ α} (h : run.Keeps) {world left : σ}
    {result : Except Fault α} (hleaves : run.Leaves world result left) : left = world :=
  hleaves.2.symm.trans (h world)

end Run

namespace World.IsSteady

variable {σ : Type} [World σ]

theorem keeps_operand (h : World.IsSteady σ) (operand : Operand) :
    (operand.evaluate : Run σ Number).Keeps := by
  cases operand with
  | name name => exact Run.keeps_access (h.number name)
  | number raw => exact Run.keeps_lift _

/-- Evaluating a condition leaves a world that lookups do not change. -/
theorem keeps_evaluate (h : World.IsSteady σ) (tolerance : Tolerance)
    (condition : Condition) : (condition.evaluate tolerance : Run σ Bool).Keeps := by
  induction condition with
  | comparison left comparator right =>
      apply (Run.keeps_access (h.number left)).bind
      intro leftValue
      apply (h.keeps_operand right).bind
      intro rightValue
      apply (Run.keeps_lift _).bind
      intro result
      apply (Run.keeps_lift _).bind
      intro line
      apply (Run.keeps_write line).bind
      intro _
      exact Run.keeps_pure result
  | query name =>
      apply (Run.keeps_access (h.flag name)).bind
      intro result
      apply (Run.keeps_write _).bind
      intro _
      exact Run.keeps_pure result
  | logical left connective right ihLeft ihRight =>
      apply ihLeft.bind
      intro leftValue
      by_cases hdecided : connective.isDecidedBy leftValue = true
      · rw [if_pos hdecided]
        apply (Run.keeps_write _).bind
        intro _
        exact Run.keeps_pure leftValue
      · rw [if_neg hdecided]
        apply ihRight.bind
        intro rightValue
        apply (Run.keeps_write _).bind
        intro _
        exact Run.keeps_pure rightValue

/-- A command is reached in the world in which its statement was tried. -/
theorem eq_of_reaches (h : World.IsSteady σ) {statement : Statement}
    {tolerance : Tolerance} {world reached : σ}
    (hreached : statement.Reaches tolerance world reached) : reached = world := by
  cases hreached with
  | unconditional hkind => rfl
  | holds htrigger hvalue => exact (h.keeps_evaluate tolerance _).eq_of_leaves hvalue

end World.IsSteady

end Autopilot
