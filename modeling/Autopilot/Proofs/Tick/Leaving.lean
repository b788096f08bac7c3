import Autopilot.Tick.Run

/-!
# What a run leaves behind

In every world a run leaves a result and a world.  For a run that is put together from
others both are found step by step: a run that gives a value is followed from the world
that it left, and one that stops with a fault is not followed at all.  What is written
on the way makes no difference.
-/

namespace Autopilot

variable {σ α β : Type}

theorem map_eq_ok_iff {result : Except Fault α} {change : α → β} {value : β} :
    result.map change = .ok value ↔ ∃ given, result = .ok given ∧ change given = value := by
  cases result with
  | error fault => simp [Except.map]
  | ok given => simp [Except.map]

theorem map_eq_error_iff {result : Except Fault α} {change : α → β} {fault : Fault} :
    result.map change = .error fault ↔ result = .error fault := by
  cases result with
  | error fault => simp [Except.map]
  | ok given => simp [Except.map]

theorem bind_eq_ok_iff {result : Except Fault α} {next : α → Except Fault β} {value : β} :
    result >>= next = .ok value ↔ ∃ given, result = .ok given ∧ next given = .ok value := by
  cases result with
  | error fault => simp [bind, Except.bind]
  | ok given => simp [bind, Except.bind]

/-- A result that is not an unknown name. -/
def Nameless (result : Except Fault α) : Prop :=
  ∀ kind name, result ≠ .error (.unknownName kind name)

theorem nameless_ok (value : α) : Nameless (.ok value) := by
  intro kind name h
  cases h

/-- A fault is no unknown name whatever was to be given. -/
theorem Nameless.error {fault : Fault} (h : Nameless (.error fault : Except Fault α)) :
    Nameless (.error fault : Except Fault β) := by
  intro kind name hfault
  apply h kind name
  rw [Except.error.inj hfault]

theorem Nameless.bind {result : Except Fault α} {next : α → Except Fault β}
    (hresult : Nameless result) (hnext : ∀ value, Nameless (next value)) :
    Nameless (result >>= next) := by
  cases result with
  | error fault => exact hresult.error
  | ok value => exact hnext value

namespace Trail

variable {trail : Trail σ α}

theorem follow_of_ok {value : α} (h : trail.result = .ok value)
    (next : α → σ → Trail σ β) :
    trail.follow next = (next value trail.world).after trail.trace trail.log := by
  obtain ⟨result, world, trace, log⟩ := trail
  obtain rfl : result = .ok value := h
  rfl

theorem follow_of_error {fault : Fault} (h : trail.result = .error fault)
    (next : α → σ → Trail σ β) :
    trail.follow next = ⟨.error fault, trail.world, trail.trace, trail.log⟩ := by
  obtain ⟨result, world, trace, log⟩ := trail
  obtain rfl : result = .error fault := h
  rfl

theorem rescue_of_unknownName {kind : NameKind} {name : String}
    (h : trail.result = .error (.unknownName kind name))
    (handle : NameKind → String → σ → Trail σ α) :
    trail.rescue handle =
      (handle kind name trail.world).after trail.trace trail.log := by
  obtain ⟨result, world, trace, log⟩ := trail
  obtain rfl : result = .error (.unknownName kind name) := h
  rfl

/-- Only a trail that stopped at an unknown name is continued. -/
theorem rescue_of_nameless (h : Nameless trail.result)
    (handle : NameKind → String → σ → Trail σ α) : trail.rescue handle = trail := by
  obtain ⟨result, world, trace, log⟩ := trail
  rw [rescue]
  intro kind name world' trace' log' htrail
  exact h kind name (congrArg Trail.result htrail)

end Trail

namespace Run

instance : LawfulMonad (Run σ) :=
  LawfulMonad.mk' (Run σ) andThen_give give_andThen andThen_assoc

section Bind

variable {first : Run σ α} {second : α → Run σ β} {world : σ}

theorem bind_of_ok {value : α} (h : (first world).result = .ok value) :
    (first >>= second) world =
      (second value (first world).world).after (first world).trace (first world).log :=
  Trail.follow_of_ok h second

theorem bind_of_error {fault : Fault} (h : (first world).result = .error fault) :
    (first >>= second) world =
      ⟨.error fault, (first world).world, (first world).trace, (first world).log⟩ :=
  Trail.follow_of_error h second

/-- What follows a run matters only for the values that the run can give. -/
theorem bind_congr_of_ok {second' : α → Run σ β}
    (h : ∀ world value, (first world).result = .ok value → second value = second' value) :
    first >>= second = first >>= second' := by
  funext world
  cases hresult : (first world).result with
  | error fault =>
      rw [bind_of_error hresult, bind_of_error hresult]
  | ok value =>
      rw [bind_of_ok hresult, bind_of_ok hresult, h world value hresult]

end Bind

/-- Started in a world, a run leaves a result and another world. -/
def Leaves (run : Run σ α) (world : σ) (result : Except Fault α) (left : σ) : Prop :=
  (run world).result = result ∧ (run world).world = left

section Leaves

variable {run : Run σ α} {world left : σ} {result : Except Fault α}

/-- A run leaves one result and one world. -/
theorem Leaves.unique {result' : Except Fault α} {left' : σ}
    (h : run.Leaves world result left) (h' : run.Leaves world result' left') :
    result = result' ∧ left = left' := by
  obtain ⟨rfl, rfl⟩ := h
  exact h'

@[simp]
theorem leaves_pure_iff {value : α} :
    (pure value : Run σ α).Leaves world result left ↔
      .ok value = result ∧ world = left :=
  Iff.rfl

@[simp]
theorem leaves_lift_iff {result' : Except Fault α} :
    (lift result').Leaves world result left ↔ result' = result ∧ world = left :=
  Iff.rfl

@[simp]
theorem leaves_access_iff {access : Access σ α} :
    (Run.access access).Leaves world result left ↔ access world = (result, left) := by
  rw [Prod.ext_iff]
  exact Iff.rfl

@[simp]
theorem leaves_write_bind_iff {line : String} {second : Unit → Run σ α} :
    (write line >>= second).Leaves world result left ↔
      (second ()).Leaves world result left :=
  Iff.rfl

@[simp]
theorem leaves_writeAll_bind_iff {lines : List String} {second : Unit → Run σ α} :
    (writeAll lines >>= second).Leaves world result left ↔
      (second ()).Leaves world result left :=
  Iff.rfl

@[simp]
theorem leaves_record_bind_iff {level : LogLevel} {message : String}
    {second : Unit → Run σ α} :
    (record level message >>= second).Leaves world result left ↔
      (second ()).Leaves world result left :=
  Iff.rfl

theorem leaves_bind_iff {first : Run σ β} {second : β → Run σ α} :
    (first >>= second).Leaves world result left ↔
      (∃ value middle, first.Leaves world (.ok value) middle ∧
        (second value).Leaves middle result left) ∨
      ∃ fault, first.Leaves world (.error fault) left ∧ .error fault = result := by
  cases hfirst : (first world).result with
  | error fault =>
      rw [Leaves, bind_of_error hfirst]
      constructor
      · rintro ⟨rfl, rfl⟩
        exact Or.inr ⟨fault, ⟨hfirst, rfl⟩, rfl⟩
      · rintro (⟨value, middle, ⟨hvalue, -⟩, -⟩ | ⟨fault', ⟨hfault, rfl⟩, rfl⟩)
        · rw [hfirst] at hvalue
          cases hvalue
        · rw [hfirst] at hfault
          cases hfault
          exact ⟨rfl, rfl⟩
  | ok value =>
      rw [Leaves, bind_of_ok hfirst]
      constructor
      · intro hsecond
        exact Or.inl ⟨value, _, ⟨hfirst, rfl⟩, hsecond⟩
      · rintro (⟨value', middle, ⟨hvalue, rfl⟩, hsecond⟩ | ⟨fault, ⟨hfault, -⟩, -⟩)
        · rw [hfirst] at hvalue
          cases hvalue
          exact hsecond
        · rw [hfirst] at hfault
          cases hfault

theorem leaves_bind_error_iff {first : Run σ β} {second : β → Run σ α} {fault : Fault} :
    (first >>= second).Leaves world (.error fault) left ↔
      first.Leaves world (.error fault) left ∨
      ∃ value middle, first.Leaves world (.ok value) middle ∧
        (second value).Leaves middle (.error fault) left := by
  rw [leaves_bind_iff, or_comm]
  simp only [Except.error.injEq, exists_eq_right]

/-- What follows may write and may change the value: the world and a fault stay as they
are. -/
theorem leaves_bind_iff_of_gives {first : Run σ β} {second : β → Run σ α}
    (change : β → α)
    (h : ∀ value middle, (second value).Leaves middle (.ok (change value)) middle) :
    (first >>= second).Leaves world result left ↔
      ∃ given, first.Leaves world given left ∧ given.map change = result := by
  rw [leaves_bind_iff]
  constructor
  · rintro (⟨value, middle, hfirst, hsecond⟩ | ⟨fault, hfirst, rfl⟩)
    · obtain ⟨rfl, rfl⟩ := (h value middle).unique hsecond
      exact ⟨_, hfirst, rfl⟩
    · exact ⟨_, hfirst, rfl⟩
  · rintro ⟨given, hfirst, rfl⟩
    cases given with
    | error fault => exact Or.inr ⟨fault, hfirst, rfl⟩
    | ok value => exact Or.inl ⟨value, left, hfirst, h value left⟩

theorem leaves_bind_pure_iff {first : Run σ β} {change : β → α} :
    (first >>= fun value => pure (change value)).Leaves world result left ↔
      ∃ given, first.Leaves world given left ∧ given.map change = result := by
  apply leaves_bind_iff_of_gives change
  intro value middle
  exact ⟨rfl, rfl⟩

/-- A run with a handler for unknown names leaves what the handler leaves if the run
stops at such a name, and otherwise what the run itself leaves. -/
theorem leaves_rescue_iff {handle : NameKind → String → Run σ α} :
    (run.rescue handle).Leaves world result left ↔
      (∃ kind name middle, run.Leaves world (.error (.unknownName kind name)) middle ∧
        (handle kind name).Leaves middle result left) ∨
      run.Leaves world result left ∧ Nameless result := by
  by_cases h : ∃ kind name, (run world).result = .error (.unknownName kind name)
  · obtain ⟨kind, name, hname⟩ := h
    have hrescue : (run.rescue handle) world = _ :=
      Trail.rescue_of_unknownName hname handle
    rw [Leaves, hrescue]
    constructor
    · intro hhandle
      exact Or.inl ⟨kind, name, _, ⟨hname, rfl⟩, hhandle⟩
    · rintro (⟨kind', name', middle, ⟨hname', rfl⟩, hhandle⟩ | ⟨⟨rfl, -⟩, hne⟩)
      · rw [hname] at hname'
        cases hname'
        exact hhandle
      · exact absurd hname (hne kind name)
  · have hne : Nameless (run world).result := by
      intro kind name hname
      exact h ⟨kind, name, hname⟩
    have hrescue : (run.rescue handle) world = run world := Trail.rescue_of_nameless hne handle
    rw [Leaves, hrescue]
    constructor
    · rintro ⟨rfl, rfl⟩
      exact Or.inr ⟨⟨rfl, rfl⟩, hne⟩
    · rintro (⟨kind, name, middle, ⟨hname, -⟩, -⟩ | ⟨hrun, -⟩)
      · exact absurd hname (hne kind name)
      · exact hrun

end Leaves

end Run

end Autopilot
