import Autopilot.Proofs.Tick.Lookups

/-!
# Watched worlds

A watched world answers as the world in it does, and puts down the names that it is
asked for.  Evaluating a condition does not tell the two apart, and only names of the
condition are put down.
-/

namespace Autopilot

/-- A name that a world is asked for. -/
structure Lookup where
  kind : NameKind
  name : String
deriving DecidableEq, Repr

/-- A world and the names that it was asked for, in order. -/
structure Watched (σ : Type) where
  world : σ
  lookups : List Lookup

variable {σ α β : Type}

/-- An access to the world in a watched one, for which some names are looked up. -/
def Watched.access (lookups : List Lookup) (access : Access σ α) : Access (Watched σ) α :=
  fun watched =>
    let (result, world) := access watched.world
    (result, ⟨world, watched.lookups ++ lookups⟩)

instance [World σ] : World (Watched σ) where
  flag name := Watched.access [⟨.query, name⟩] (World.flag name)
  number name := Watched.access [⟨.variable, name⟩] (World.number name)
  resourceNearby watched := World.resourceNearby watched.world
  unload := Watched.access [] World.unload
  describe watched := World.describe watched.world

/-- The names that a world is asked for when a condition is evaluated, in order. -/
def Condition.lookups [World σ] (tolerance : Tolerance) (condition : Condition)
    (world : σ) : List Lookup :=
  (condition.evaluate tolerance (Watched.mk world [])).world.lookups

/-- A trail that leaves a watched world. -/
def Trail.watched (trail : Trail σ α) (lookups : List Lookup) : Trail (Watched σ) α :=
  ⟨trail.result, ⟨trail.world, lookups⟩, trail.trace, trail.log⟩

namespace Run

/-- In a watched world a run does what another run does in the world in it, and names of
a sort only are looked up. -/
def Watches (sort : Lookup → Prop) (run : Run (Watched σ) α) (plain : Run σ α) : Prop :=
  ∀ watched, ∃ more, (∀ lookup ∈ more, sort lookup) ∧
    run watched = (plain watched.world).watched (watched.lookups ++ more)

variable {sort : Lookup → Prop}

theorem watches_of_no_lookup {run : Run (Watched σ) α} {plain : Run σ α}
    (h : ∀ watched, run watched = (plain watched.world).watched watched.lookups) :
    Watches sort run plain := by
  intro watched
  refine ⟨[], List.forall_mem_nil _, ?_⟩
  rw [List.append_nil]
  exact h watched

theorem watches_pure (value : α) :
    Watches sort (pure value : Run (Watched σ) α) (pure value) :=
  watches_of_no_lookup fun _ => rfl

theorem watches_write (line : String) :
    Watches sort (write line : Run (Watched σ) Unit) (write line) :=
  watches_of_no_lookup fun _ => rfl

theorem watches_lift (result : Except Fault α) :
    Watches sort (lift result : Run (Watched σ) α) (lift result) :=
  watches_of_no_lookup fun _ => rfl

theorem watches_access {lookups : List Lookup} (h : ∀ lookup ∈ lookups, sort lookup)
    (access : Access σ α) :
    Watches sort (Run.access (Watched.access lookups access)) (Run.access access) := by
  intro watched
  exact ⟨lookups, h, rfl⟩

theorem Watches.mono {sort' : Lookup → Prop} {run : Run (Watched σ) α} {plain : Run σ α}
    (h : Watches sort run plain) (hsort : ∀ lookup, sort lookup → sort' lookup) :
    Watches sort' run plain := by
  intro watched
  obtain ⟨more, hmore, hrun⟩ := h watched
  exact ⟨more, fun lookup hlookup => hsort lookup (hmore lookup hlookup), hrun⟩

theorem Watches.bind {first : Run (Watched σ) α} {plainFirst : Run σ α}
    {second : α → Run (Watched σ) β} {plainSecond : α → Run σ β}
    (hfirst : Watches sort first plainFirst)
    (hsecond : ∀ value, Watches sort (second value) (plainSecond value)) :
    Watches sort (first >>= second) (plainFirst >>= plainSecond) := by
  intro watched
  obtain ⟨more, hmore, hrun⟩ := hfirst watched
  have hresult := congrArg Trail.result hrun
  cases hplain : (plainFirst watched.world).result with
  | error fault =>
      refine ⟨more, hmore, ?_⟩
      rw [bind_of_error (hresult.trans hplain), bind_of_error hplain, hrun]
      rfl
  | ok value =>
      obtain ⟨further, hfurther, hrest⟩ :=
        hsecond value ⟨(plainFirst watched.world).world, watched.lookups ++ more⟩
      refine ⟨more ++ further, List.forall_mem_append.mpr ⟨hmore, hfurther⟩, ?_⟩
      rw [bind_of_ok (hresult.trans hplain), bind_of_ok hplain, hrun, Trail.watched, hrest,
        List.append_assoc]
      rfl

end Run

namespace Condition

variable [World σ]

theorem watches_operand {sort : Lookup → Prop} {operand : Operand}
    (h : ∀ name, operand = .name name → sort ⟨.variable, name⟩) :
    Run.Watches sort (operand.evaluate : Run (Watched σ) Number) operand.evaluate := by
  cases operand with
  | name name => exact Run.watches_access (by simpa using h name) _
  | number raw => exact Run.watches_lift _

/-- A condition is evaluated in a watched world as in the world in it, and only names of
the condition are looked up. -/
theorem watches_evaluate (tolerance : Tolerance) (condition : Condition) :
    Run.Watches (fun lookup => lookup.name ∈ condition.names lookup.kind)
      (condition.evaluate tolerance : Run (Watched σ) Bool)
      (condition.evaluate tolerance) := by
  induction condition with
  | comparison left comparator right =>
      have hleft : left ∈ (comparison left comparator right).names .variable := by
        cases right <;> simp [names, variableNames, terms]
      have hright : ∀ name, right = .name name →
          name ∈ (comparison left comparator right).names .variable := by
        rintro name rfl
        simp [names, variableNames, terms]
      apply (Run.watches_access (by simpa using hleft) (World.number left)).bind
      intro leftValue
      apply (watches_operand hright).bind
      intro rightValue
      apply (Run.watches_lift _).bind
      intro result
      apply (Run.watches_lift _).bind
      intro line
      apply (Run.watches_write line).bind
      intro _
      exact Run.watches_pure result
  | query name =>
      have hname : name ∈ (query name).names .query := by
        simp [names, queryNames, terms]
      apply (Run.watches_access (by simpa using hname) (World.flag name)).bind
      intro result
      apply (Run.watches_write _).bind
      intro _
      exact Run.watches_pure result
  | logical left connective right ihLeft ihRight =>
      refine (ihLeft.mono ?_).bind ?_
      · intro lookup hlookup
        rw [names_logical]
        exact List.mem_append_left _ hlookup
      intro leftValue
      by_cases hdecided : connective.isDecidedBy leftValue = true
      · rw [if_pos hdecided, if_pos hdecided]
        apply (Run.watches_write _).bind
        intro _
        exact Run.watches_pure leftValue
      · rw [if_neg hdecided, if_neg hdecided]
        refine (ihRight.mono ?_).bind ?_
        · intro lookup hlookup
          rw [names_logical]
          exact List.mem_append_right _ hlookup
        intro rightValue
        apply (Run.watches_write _).bind
        intro _
        exact Run.watches_pure rightValue

/-- Watching a world makes no difference but for what is put down. -/
theorem evaluate_watched (tolerance : Tolerance) (condition : Condition) (world : σ) :
    condition.evaluate tolerance (Watched.mk world []) =
      (condition.evaluate tolerance world).watched (condition.lookups tolerance world) := by
  obtain ⟨more, -, hrun⟩ := watches_evaluate tolerance condition (Watched.mk world [])
  rw [lookups, hrun]
  rfl

/-- Only names of a condition are looked up when it is evaluated. -/
theorem name_mem_of_mem_lookups {tolerance : Tolerance} {condition : Condition}
    {world : σ} : ∀ lookup ∈ condition.lookups tolerance world,
      lookup.name ∈ condition.names lookup.kind := by
  obtain ⟨more, hmore, hrun⟩ :=
    watches_evaluate tolerance condition (Watched.mk world [])
  rw [lookups, hrun]
  exact hmore

end Condition

end Autopilot
