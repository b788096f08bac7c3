import Autopilot.Proofs.Tick.Decision

/-!
# Ticks of statements in a row

A tick that is decided by one of the first statements is the same whatever statements
follow.  A tick that gets past the first statements is, from there on, the tick of the
statements that follow, in the world that the first ones left.
-/

namespace Autopilot

variable {σ : Type} [World σ] {registry : Registry σ} {tolerance : Tolerance}
  {first second : List Statement} {world : σ}

namespace Script

/-- Statements in a row are run one part after the other, the second part only if the
first one is passed. -/
theorem runStatements_append (first second : List Statement) :
    runStatements registry tolerance (first ++ second) = (do
      let ending ← runStatements registry tolerance first
      if ending = .exhausted then runStatements registry tolerance second
      else return ending) := by
  induction first with
  | nil => rw [List.nil_append, runStatements, pure_bind, if_pos rfl]
  | cons statement rest ih =>
      rw [List.cons_append, runStatements, ih, runStatements, bind_assoc]
      apply Run.bind_congr_of_ok
      intro world ending? hrun
      cases ending? with
      | none => rfl
      | some ending =>
          obtain ⟨decision, hdecision⟩ := Statement.exists_decision_of_leaves_run
            (⟨hrun, rfl⟩ : (statement.run registry tolerance).Leaves world _ _)
          have hending : ending ≠ .exhausted := by
            rintro rfl
            cases hdecision
          change pure ending = pure ending >>= _
          rw [pure_bind, if_neg hending]

/-- What is decided by the first statements stays as it is. -/
theorem runStatements_append_of_decided {ending : Ending}
    (h : ((runStatements registry tolerance first) world).result = .ok ending)
    (hending : ending ≠ .exhausted) :
    (runStatements registry tolerance (first ++ second)) world =
      (runStatements registry tolerance first) world := by
  rw [runStatements_append, Run.bind_of_ok h, if_neg hending]
  have hpure : (runStatements registry tolerance first >>= pure) world = _ :=
    Run.bind_of_ok h
  rw [bind_pure] at hpure
  exact hpure.symm

/-- Where the first statements are passed, the others are run in the world that the
first ones left. -/
theorem runStatements_append_of_exhausted
    (h : ((runStatements registry tolerance first) world).result = .ok .exhausted) :
    (runStatements registry tolerance (first ++ second)) world =
      ((runStatements registry tolerance second)
          ((runStatements registry tolerance first) world).world).after
        ((runStatements registry tolerance first) world).trace
        ((runStatements registry tolerance first) world).log := by
  rw [runStatements_append, Run.bind_of_ok h, if_pos rfl]

/-- A tick that the first statements decide shows their run, under a first line that
counts all statements. -/
theorem tick_append_of_decided {description : String} {ending : Ending}
    (hdescribe : World.describe world = .ok description)
    (h : ((runStatements registry tolerance first) world).result = .ok ending)
    (hending : ending ≠ .exhausted) :
    (Script.tick registry tolerance ⟨first ++ second⟩ world).tick =
        .ok ⟨headerLine (first.length + second.length) description ::
          ((runStatements registry tolerance first) world).trace ++ [ending.closing],
            ending⟩ ∧
      (Script.tick registry tolerance ⟨first ++ second⟩ world).world =
        ((runStatements registry tolerance first) world).world := by
  have happend : (runStatements registry tolerance (first ++ second)) world = _ :=
    runStatements_append_of_decided h hending
  obtain ⟨htick, hworld⟩ :
      (Script.tick registry tolerance ⟨first ++ second⟩ world).tick = _ ∧
        (Script.tick registry tolerance ⟨first ++ second⟩ world).world = _ :=
    tick_of_describe hdescribe
  rw [happend] at htick hworld
  rw [h, Script.length, List.length_append] at htick
  exact ⟨htick, hworld⟩

/-- A tick that gets past the first statements shows their run and then the tick of the
others without its first line. -/
theorem tick_append_of_exhausted {left : σ} {description description' : String}
    (hdescribe : World.describe world = .ok description)
    (h : (runStatements registry tolerance first).Leaves world (.ok .exhausted) left)
    (hdescribe' : World.describe left = .ok description') :
    (Script.tick registry tolerance ⟨first ++ second⟩ world).tick =
        (Script.tick registry tolerance ⟨second⟩ left).tick.map (fun tick' =>
          ⟨headerLine (first.length + second.length) description ::
            ((runStatements registry tolerance first) world).trace ++ tick'.trace.tail,
              tick'.ending⟩) ∧
      (Script.tick registry tolerance ⟨first ++ second⟩ world).world =
        (Script.tick registry tolerance ⟨second⟩ left).world := by
  obtain ⟨hresult, rfl⟩ := h
  have happend : (runStatements registry tolerance (first ++ second)) world = _ :=
    runStatements_append_of_exhausted hresult
  obtain ⟨htick, hworld⟩ :
      (Script.tick registry tolerance ⟨first ++ second⟩ world).tick = _ ∧
        (Script.tick registry tolerance ⟨first ++ second⟩ world).world = _ :=
    tick_of_describe hdescribe
  rw [happend] at htick hworld
  rw [Script.length, List.length_append] at htick
  obtain ⟨hfollowing, hfollowingWorld⟩ :
      (Script.tick registry tolerance ⟨second⟩ _).tick = _ ∧
        (Script.tick registry tolerance ⟨second⟩ _).world = _ :=
    tick_of_describe hdescribe'
  refine ⟨?_, hworld.trans hfollowingWorld.symm⟩
  rw [htick, hfollowing, Trail.after]
  -- Both traces end alike; the first line of the second one is left out.
  cases ((runStatements registry tolerance second)
      ((runStatements registry tolerance first) world).world).result with
  | error fault => rfl
  | ok ending =>
      simp only [Except.map, List.cons_append, List.append_assoc, List.tail_cons]

/-- The ticks of statements in a row.  A tick that one of the first statements decides
stays as it is whatever follows: it ends in the same way, which gives its action, its
failure and its diagnostics, it leaves the same world, with the same lookups if the
world counts them, and only the first line of its trace tells the larger number of
statements.  A tick that gets past the first statements goes on as the tick of the
statements that follow in the world that the first ones left. -/
theorem tick_append {tick : Tick} (second : List Statement)
    (h : (Script.tick registry tolerance ⟨first⟩ world).tick = .ok tick) :
    let left := (Script.tick registry tolerance ⟨first⟩ world).world
    let joined := Script.tick registry tolerance ⟨first ++ second⟩ world
    ∃ description body, World.describe world = .ok description ∧
      tick.trace =
        headerLine first.length description :: body ++ [tick.ending.closing] ∧
      (tick.ending ≠ .exhausted →
        joined.tick = .ok ⟨headerLine (first.length + second.length) description ::
          body ++ [tick.ending.closing], tick.ending⟩ ∧
        joined.world = left) ∧
      (tick.ending = .exhausted → ∀ description',
        World.describe left = .ok description' →
        let following := Script.tick registry tolerance ⟨second⟩ left
        joined.tick = following.tick.map (fun tick' =>
          ⟨headerLine (first.length + second.length) description ::
            body ++ tick'.trace.tail, tick'.ending⟩) ∧
        joined.world = following.world) := by
  intro left joined
  obtain ⟨description, hdescribe, hrun, htrace⟩ := exists_of_tick_eq_ok h
  refine ⟨description, _, hdescribe, htrace, ?_, ?_⟩
  · intro hending
    obtain ⟨hjoined, hworld⟩ := tick_append_of_decided hdescribe hrun.1 hending
    exact ⟨hjoined, hworld.trans hrun.2⟩
  · intro hending description' hdescribe'
    rw [hending] at hrun
    exact tick_append_of_exhausted hdescribe hrun hdescribe'

/-- Statements that are passed let the others follow in the world that they left; a
statement that acts makes the others idle. -/
theorem tick_append_waits_lands :
    let world : Rig := ⟨"rig", [], [("storm", false)], ⟨[]⟩, .int 7, []⟩
    let registry : Registry Rig := .ofEntries
      [("hover", Recipe.handle ⟨false, none, none, true, []⟩),
        ("land", Recipe.handle ⟨true, none, none, false, ["Down."]⟩)]
    let waits : List Statement :=
      [⟨.condition (.query "storm"), ⟨"land", []⟩, 1⟩, ⟨.fallback, ⟨"hover", []⟩, 2⟩]
    let lands : List Statement := [⟨.always, ⟨"Land", [.number "3"]⟩, 3⟩]
    let landing : Action := ⟨⟨"Land", [.number "3"]⟩, 3, .command, ["Down."]⟩
    let waitsFirst := Script.tick registry .thousandth ⟨waits ++ lands⟩ world
    let landsFirst := Script.tick registry .thousandth ⟨lands ++ waits⟩ world
    (∃ tick, waitsFirst.tick = .ok tick ∧ tick.action? = some landing) ∧
      waitsFirst.world.calls = [("storm", 1)] ∧
      (∃ tick, landsFirst.tick = .ok tick ∧ tick.action? = some landing) ∧
      landsFirst.world.calls = [] := by
  intro world registry waits lands landing waitsFirst landsFirst
  have hwaits : (Script.tick registry .thousandth ⟨waits⟩ world).tick =
      .ok ⟨_, .exhausted⟩ := rfl
  have hlands : (Script.tick registry .thousandth ⟨lands⟩ world).tick =
      .ok ⟨_, .acted landing⟩ := rfl
  obtain ⟨_, _, -, -, -, hpassed⟩ := Script.tick_append lands hwaits
  obtain ⟨hjoined, hworld⟩ := hpassed rfl "rig" rfl
  obtain ⟨_, _, -, -, hdecided, -⟩ := Script.tick_append waits hlands
  obtain ⟨hjoined', hworld'⟩ := hdecided (by decide)
  refine ⟨⟨_, hjoined, rfl⟩, ?_, ⟨_, hjoined', rfl⟩, ?_⟩
  · rw [hworld]
    rfl
  · rw [hworld']
    rfl

end Script

end Autopilot
