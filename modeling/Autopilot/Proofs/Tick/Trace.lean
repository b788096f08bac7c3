import Autopilot.Proofs.Tick.Leaving
import Autopilot.Tick.Evaluation

/-!
# The frame of a tick

What a tick shows and leaves is found from the run of its statements: the trace of the
statements stands between the first line, which describes the world, and the last line,
which tells how the tick ended.
-/

namespace Autopilot

variable {σ : Type} [World σ] {registry : Registry σ} {tolerance : Tolerance}
  {script : Script} {world : σ}

/-- The first line of a trace. -/
def headerLine (count : Nat) (description : String) : String :=
  "=== Executing script (" ++ toString count ++ " statements) with " ++ description ++
    " ==="

namespace Script

theorem header_of_describe {description : String}
    (h : World.describe world = .ok description) :
    script.header world = .ok (headerLine script.length description) := by
  rw [header, h]
  rfl

/-- The run of a script in a world that can be described. -/
theorem run_of_describe {description : String}
    (h : World.describe world = .ok description) :
    script.run registry tolerance world =
      ((runStatements registry tolerance script.statements >>= fun ending => do
        Run.write ending.closing
        Run.record ending.logged.1 ending.logged.2
        return ending) world).after [headerLine script.length description] [] := by
  have hheader : ((Run.access fun world => (script.header world, world)) world).result =
      .ok (headerLine script.length description) := header_of_describe h
  rw [run, Run.bind_of_ok hheader]
  rfl

/-- A tick of a world that can be described shows the run of its statements between the
first line and the last one. -/
theorem tick_of_describe {description : String}
    (h : World.describe world = .ok description) :
    (script.tick registry tolerance world).tick =
        ((runStatements registry tolerance script.statements) world).result.map
          (fun ending => ⟨headerLine script.length description ::
            ((runStatements registry tolerance script.statements) world).trace ++
              [ending.closing], ending⟩) ∧
      (script.tick registry tolerance world).world =
        ((runStatements registry tolerance script.statements) world).world := by
  rw [tick, run_of_describe h]
  cases hresult : ((runStatements registry tolerance script.statements) world).result with
  | error fault =>
      rw [Run.bind_of_error hresult]
      exact ⟨rfl, rfl⟩
  | ok ending =>
      rw [Run.bind_of_ok hresult]
      exact ⟨rfl, rfl⟩

/-- A world that cannot be described stops the tick before the first statement. -/
theorem tick_of_describe_error {fault : Fault} (h : World.describe world = .error fault) :
    (script.tick registry tolerance world).tick = .error fault := by
  have hheader : ((Run.access fun world => (script.header world, world)) world).result =
      .error fault := by
    change script.header world = .error fault
    rw [header, h]
    rfl
  rw [tick, run, Run.bind_of_error hheader]
  rfl

/-- A world that cannot be described is left as it is. -/
theorem tick_world_of_describe_error {fault : Fault}
    (h : World.describe world = .error fault) :
    (script.tick registry tolerance world).world = world := by
  have hheader : ((Run.access fun world => (script.header world, world)) world).result =
      .error fault := by
    change script.header world = .error fault
    rw [header, h]
    rfl
  rw [tick, run, Run.bind_of_error hheader]
  rfl

/-- A tick that gives a result describes the world, runs its statements, and shows how
they ended. -/
theorem exists_of_tick_eq_ok {tick : Tick}
    (h : (script.tick registry tolerance world).tick = .ok tick) :
    ∃ description, World.describe world = .ok description ∧
      (runStatements registry tolerance script.statements).Leaves world (.ok tick.ending)
        (script.tick registry tolerance world).world ∧
      tick.trace = headerLine script.length description ::
        ((runStatements registry tolerance script.statements) world).trace ++
          [tick.ending.closing] := by
  cases hdescribe : World.describe world with
  | error fault =>
      rw [tick_of_describe_error hdescribe] at h
      cases h
  | ok description =>
      obtain ⟨htick, hworld⟩ := tick_of_describe hdescribe
      rw [htick] at h
      obtain ⟨ending, hresult, rfl⟩ := map_eq_ok_iff.mp h
      exact ⟨description, rfl, ⟨hresult, hworld.symm⟩, rfl⟩

end Script

end Autopilot
