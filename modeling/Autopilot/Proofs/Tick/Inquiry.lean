import Autopilot.Proofs.Tick.Steady
import Autopilot.Proofs.Tick.Watched
import Mathlib.Data.List.Basic

/-!
# Worlds that answer by name

In a world whose answers depend only on the names that are looked up, the value of a
condition and the names that are looked up for it are settled by the answers alone.
-/

namespace Autopilot

/-- What is found out, and the names that are looked up on the way. -/
structure Inquiry (α : Type) where
  result : Except Fault α
  lookups : List Lookup

namespace Inquiry

variable {α β : Type}

/-- What is found out without looking up a name. -/
def ofResult (result : Except Fault α) : Inquiry α :=
  ⟨result, []⟩

/-- One inquiry after another one, which has to give a value first. -/
def andThen (first : Inquiry α) (second : α → Inquiry β) : Inquiry β :=
  match first with
  | ⟨.error fault, lookups⟩ => ⟨.error fault, lookups⟩
  | ⟨.ok value, lookups⟩ => ⟨(second value).result, lookups ++ (second value).lookups⟩

instance : Monad Inquiry where
  pure value := ofResult (.ok value)
  bind := andThen

variable {first : Inquiry α} {second : α → Inquiry β}

theorem bind_of_error {fault : Fault} (h : first.result = .error fault) :
    first >>= second = ⟨.error fault, first.lookups⟩ := by
  obtain ⟨result, lookups⟩ := first
  obtain rfl : result = .error fault := h
  rfl

theorem bind_of_ok {value : α} (h : first.result = .ok value) :
    first >>= second =
      ⟨(second value).result, first.lookups ++ (second value).lookups⟩ := by
  obtain ⟨result, lookups⟩ := first
  obtain rfl : result = .ok value := h
  rfl

theorem bind_pure (inquiry : Inquiry α) : inquiry >>= pure = inquiry := by
  obtain ⟨result, lookups⟩ := inquiry
  cases result with
  | error fault => rfl
  | ok value => exact congrArg (Inquiry.mk _) (List.append_nil lookups)

theorem nameless_bind (hfirst : Nameless first.result)
    (hsecond : ∀ value, Nameless (second value).result) :
    Nameless (first >>= second).result := by
  cases hresult : first.result with
  | error fault =>
      rw [hresult] at hfirst
      rw [bind_of_error hresult]
      exact hfirst.error
  | ok value =>
      rw [bind_of_ok hresult]
      exact hsecond value

end Inquiry

/-- Answers to queries and variables, name by name. -/
structure Answers where
  flag : String → Except Fault Bool
  number : String → Except Fault Number

variable {σ α β : Type} [World σ]

/-- The world after a name was looked up in it. -/
def Lookup.after (world : σ) (lookup : Lookup) : σ :=
  match lookup.kind with
  | .query => (World.flag lookup.name world).2
  | .variable => (World.number lookup.name world).2

/-- A world gives these answers, whatever was looked up before. -/
structure Answers.HoldIn (answers : Answers) (world : σ) : Prop where
  flag : ∀ (before : List Lookup) (name : String),
    (World.flag name (before.foldl Lookup.after world)).1 = answers.flag name
  number : ∀ (before : List Lookup) (name : String),
    (World.number name (before.foldl Lookup.after world)).1 = answers.number name

/-- The answers that a world gives now. -/
def Answers.ofWorld (world : σ) : Answers where
  flag name := (World.flag name world).1
  number name := (World.number name world).1

/-- A world that lookups do not change answers by name. -/
theorem World.IsSteady.holdIn (h : World.IsSteady σ) (world : σ) :
    (Answers.ofWorld world).HoldIn world := by
  have hafter : ∀ lookup : Lookup, lookup.after world = world := by
    rintro ⟨kind, name⟩
    cases kind
    · exact h.flag name world
    · exact h.number name world
  constructor
  · intro before name
    rw [List.foldl_fixed' hafter, Answers.ofWorld]
  · intro before name
    rw [List.foldl_fixed' hafter, Answers.ofWorld]

namespace Answers

/-- A query is put to the world. -/
def ask (answers : Answers) (name : String) : Inquiry Bool :=
  ⟨answers.flag name, [⟨.query, name⟩]⟩

/-- A variable is read in the world. -/
def read (answers : Answers) (name : String) : Inquiry Number :=
  ⟨answers.number name, [⟨.variable, name⟩]⟩

/-- The number of an operand.  Only names are looked up. -/
def operand (answers : Answers) : Operand → Inquiry Number
  | .name name => answers.read name
  | .number raw => .ofResult (Operand.literal raw)

/-- The truth value of a condition, as far as it depends on the answers of a world. -/
def evaluate (answers : Answers) (tolerance : Tolerance) : Condition → Inquiry Bool
  | .comparison left comparator right => do
    let leftValue ← answers.read left
    let rightValue ← answers.operand right
    let result ← .ofResult (comparator.compare leftValue rightValue tolerance.epsilon)
    let _ ← .ofResult
      (Condition.comparisonLine left comparator right leftValue rightValue result)
    return result
  | .query name => answers.ask name
  | .logical left connective right => do
    let leftValue ← answers.evaluate tolerance left
    if connective.isDecidedBy leftValue then return leftValue
    else answers.evaluate tolerance right

variable {answers : Answers} {world : σ}

theorem HoldIn.after (h : answers.HoldIn world) (lookup : Lookup) :
    answers.HoldIn (lookup.after world) where
  flag before := h.flag (lookup :: before)
  number before := h.number (lookup :: before)

end Answers

/-- In a watched world with these answers, a run finds what an inquiry does and looks up
the same names.  The answers hold afterwards as well. -/
def Run.Finds (answers : Answers) (run : Run (Watched σ) α) (inquiry : Inquiry α) : Prop :=
  ∀ watched : Watched σ, answers.HoldIn watched.world →
    ∃ left, answers.HoldIn left ∧
      run.Leaves watched inquiry.result ⟨left, watched.lookups ++ inquiry.lookups⟩

namespace Run

variable {answers : Answers}

theorem finds_ofResult {run : Run (Watched σ) α} {result : Except Fault α}
    (h : ∀ watched, run.Leaves watched result watched) :
    run.Finds answers (.ofResult result) := by
  intro watched hold
  refine ⟨watched.world, hold, ?_⟩
  rw [Inquiry.ofResult, List.append_nil]
  exact h watched

theorem finds_pure (value : α) :
    (pure value : Run (Watched σ) α).Finds answers (pure value) :=
  finds_ofResult fun _ => ⟨rfl, rfl⟩

theorem finds_lift (result : Except Fault α) :
    (lift result : Run (Watched σ) α).Finds answers (.ofResult result) :=
  finds_ofResult fun _ => ⟨rfl, rfl⟩

theorem finds_ask (name : String) :
    (Run.access (World.flag name) : Run (Watched σ) Bool).Finds answers
      (answers.ask name) := by
  intro watched hold
  exact ⟨_, hold.after ⟨.query, name⟩, hold.flag [] name, rfl⟩

theorem finds_read (name : String) :
    (Run.access (World.number name) : Run (Watched σ) Number).Finds answers
      (answers.read name) := by
  intro watched hold
  exact ⟨_, hold.after ⟨.variable, name⟩, hold.number [] name, rfl⟩

theorem finds_operand (operand : Operand) :
    (operand.evaluate : Run (Watched σ) Number).Finds answers
      (answers.operand operand) := by
  cases operand with
  | name name => exact finds_read name
  | number raw => exact finds_lift _

/-- What is written makes no difference. -/
theorem Finds.write_bind {run : Run (Watched σ) α} {inquiry : Inquiry α}
    (h : run.Finds answers inquiry) (line : String) :
    (write line >>= fun _ => run).Finds answers inquiry := by
  intro watched hold
  obtain ⟨left, hleft, hrun⟩ := h watched hold
  exact ⟨left, hleft, leaves_write_bind_iff.mpr hrun⟩

theorem Finds.bind {first : Run (Watched σ) α} {second : α → Run (Watched σ) β}
    {inquiry : Inquiry α} {next : α → Inquiry β} (hfirst : first.Finds answers inquiry)
    (hsecond : ∀ value, (second value).Finds answers (next value)) :
    (first >>= second).Finds answers (inquiry >>= next) := by
  intro watched hold
  obtain ⟨middle, hmiddle, hrun⟩ := hfirst watched hold
  cases hresult : inquiry.result with
  | error fault =>
      rw [hresult] at hrun
      rw [Inquiry.bind_of_error hresult]
      exact ⟨middle, hmiddle, leaves_bind_iff.mpr (Or.inr ⟨fault, hrun, rfl⟩)⟩
  | ok value =>
      rw [hresult] at hrun
      obtain ⟨left, hleft, hrest⟩ :=
        hsecond value ⟨middle, watched.lookups ++ inquiry.lookups⟩ hmiddle
      rw [Inquiry.bind_of_ok hresult]
      refine ⟨left, hleft, leaves_bind_iff.mpr (Or.inl ⟨value, _, hrun, ?_⟩)⟩
      rw [← List.append_assoc]
      exact hrest

/-- The value of a condition, and the names that are looked up for it, are settled by
the answers of the world. -/
theorem finds_evaluate (tolerance : Tolerance) (condition : Condition) :
    (condition.evaluate tolerance : Run (Watched σ) Bool).Finds answers
      (answers.evaluate tolerance condition) := by
  induction condition with
  | comparison left comparator right =>
      apply (finds_read left).bind
      intro leftValue
      apply (finds_operand right).bind
      intro rightValue
      apply (finds_lift _).bind
      intro result
      apply (finds_lift _).bind
      intro line
      exact (finds_pure result).write_bind line
  | query name =>
      rw [Answers.evaluate, ← Inquiry.bind_pure (answers.ask name)]
      apply (finds_ask name).bind
      intro result
      exact (finds_pure result).write_bind _
  | logical left connective right ihLeft ihRight =>
      apply ihLeft.bind
      intro leftValue
      by_cases hdecided : connective.isDecidedBy leftValue = true
      · rw [if_pos hdecided, if_pos hdecided]
        exact (finds_pure leftValue).write_bind _
      · rw [if_neg hdecided, if_neg hdecided,
          ← Inquiry.bind_pure (answers.evaluate tolerance right)]
        apply ihRight.bind
        intro rightValue
        exact (finds_pure rightValue).write_bind _

end Run

namespace Answers.HoldIn

variable {answers : Answers} {world : σ}

theorem result_evaluate (h : answers.HoldIn world) (tolerance : Tolerance)
    (condition : Condition) :
    (condition.evaluate tolerance world).result =
      (answers.evaluate tolerance condition).result := by
  obtain ⟨left, -, hresult, -⟩ := Run.finds_evaluate tolerance condition ⟨world, []⟩ h
  rw [← hresult, condition.evaluate_watched]
  rfl

theorem lookups_evaluate (h : answers.HoldIn world) (tolerance : Tolerance)
    (condition : Condition) :
    condition.lookups tolerance world = (answers.evaluate tolerance condition).lookups := by
  obtain ⟨left, -, -, hleft⟩ := Run.finds_evaluate tolerance condition ⟨world, []⟩ h
  rw [Condition.lookups, hleft]
  rfl

end Answers.HoldIn

end Autopilot
