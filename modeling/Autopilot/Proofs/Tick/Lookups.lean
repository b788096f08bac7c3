import Autopilot.Proofs.Tick.Leaving
import Autopilot.Script.Walk
import Autopilot.Tick.Evaluation

/-!
# The names that a condition looks up

Evaluating a condition stops at an unknown name only where the world is asked for one of
the names of the condition.  Comparing numbers and writing them into the trace may stop
as well, but never at a name.
-/

namespace Autopilot

/-! ## Computations with numbers -/

theorem Number.nameless_toReal (number : Number) : Nameless number.toReal := by
  intro kind name
  cases number with
  | int n =>
      rw [toReal]
      cases Binary64.ofInt? n with
      | none => simp
      | some x => simp
  | real x => exact nameless_ok x kind name

theorem Number.nameless_distance (a b : Number) : Nameless (a.distance b) := by
  have hreal : Nameless (do
      let x ← a.toReal
      let y ← b.toReal
      return Number.real (Binary64.distance x y)) := by
    apply (nameless_toReal a).bind
    intro x
    apply (nameless_toReal b).bind
    intro y
    exact nameless_ok _
  cases a with
  | real x => exact hreal
  | int m =>
      cases b with
      | real y => exact hreal
      | int n => exact nameless_ok _

theorem Number.nameless_briefText (number : Number) : Nameless number.briefText := by
  apply (nameless_toReal number).bind
  intro x
  exact nameless_ok _

theorem Comparator.nameless_compare (comparator : Comparator) (left right epsilon : Number) :
    Nameless (comparator.compare left right epsilon) := by
  have hdistance : ∀ decide : Number → Bool,
      Nameless (do return decide (← left.distance right)) := by
    intro decide
    apply (left.nameless_distance right).bind
    intro distance
    exact nameless_ok _
  cases comparator with
  | equal => exact hdistance (·.lt epsilon)
  | notEqual => exact hdistance (epsilon.le ·)
  | _ => exact nameless_ok _

theorem Operand.nameless_literal (raw : String) : Nameless (literal raw) := by
  intro kind name
  rw [literal]
  split <;> simp

theorem Condition.nameless_comparisonLine (left : String) (comparator : Comparator)
    (right : Operand) (leftValue rightValue : Number) (result : Bool) :
    Nameless (comparisonLine left comparator right leftValue rightValue result) := by
  apply leftValue.nameless_briefText.bind
  intro leftText
  apply rightValue.nameless_briefText.bind
  intro rightText
  exact nameless_ok _

/-! ## Conditions -/

namespace Condition

/-- The names of a kind that a condition may look up. -/
def names (kind : NameKind) (condition : Condition) : List String :=
  match kind with
  | .query => condition.queryNames
  | .variable => condition.variableNames

@[simp]
theorem names_logical (kind : NameKind) (left : Condition) (connective : Connective)
    (right : Condition) :
    (logical left connective right).names kind = left.names kind ++ right.names kind := by
  cases kind
  · simp [names, queryNames, terms]
  · simp [names, variableNames, terms]

/-- The world was asked for one of the names of a condition and did not know a name. -/
inductive AsksUnknown {σ : Type} [World σ] (condition : Condition) (kind : NameKind)
    (name : String) (left : σ) : Prop
  | ofQuery {asked : String} {reached : σ} (hasked : asked ∈ condition.names .query)
      (hflag : World.flag asked reached = (.error (.unknownName kind name), left)) :
      AsksUnknown condition kind name left
  | ofVariable {asked : String} {reached : σ} (hasked : asked ∈ condition.names .variable)
      (hnumber : World.number asked reached = (.error (.unknownName kind name), left)) :
      AsksUnknown condition kind name left

variable {σ : Type} [World σ] {kind : NameKind} {name : String} {world left : σ}

theorem AsksUnknown.mono {condition condition' : Condition}
    (hsubset : ∀ kind, condition.names kind ⊆ condition'.names kind)
    (h : condition.AsksUnknown kind name left) : condition'.AsksUnknown kind name left := by
  cases h with
  | ofQuery hasked hflag => exact .ofQuery (hsubset _ hasked) hflag
  | ofVariable hasked hnumber => exact .ofVariable (hsubset _ hasked) hnumber

theorem asksUnknown_comparison {variableName : String} {comparator : Comparator}
    {right : Operand} {tolerance : Tolerance}
    (h : ((comparison variableName comparator right).evaluate tolerance).Leaves world
      (.error (.unknownName kind name)) left) :
    (comparison variableName comparator right).AsksUnknown kind name left := by
  rw [evaluate, Run.leaves_bind_error_iff, Run.leaves_access_iff] at h
  rcases h with hleft | ⟨leftValue, afterLeft, -, h⟩
  · refine .ofVariable ?_ hleft
    cases right <;> simp [names, variableNames, terms]
  rw [Run.leaves_bind_error_iff] at h
  rcases h with hright | ⟨rightValue, afterRight, -, h⟩
  · cases right with
    | name rightName =>
        refine .ofVariable ?_ (Run.leaves_access_iff.mp hright)
        simp [names, variableNames, terms]
    | number raw => exact absurd hright.1 (Operand.nameless_literal raw kind name)
  -- The values are known: what is left computes with them.
  rw [Run.leaves_bind_error_iff] at h
  rcases h with hcompare | ⟨result, afterCompare, -, h⟩
  · exact absurd hcompare.1 (comparator.nameless_compare _ _ _ kind name)
  rw [Run.leaves_bind_error_iff] at h
  rcases h with hline | ⟨line, afterLine, -, h⟩
  · exact absurd hline.1 (nameless_comparisonLine _ _ _ _ _ _ kind name)
  · rw [Run.leaves_write_bind_iff, Run.leaves_pure_iff] at h
    cases h.1

theorem asksUnknown_query {queryName : String} {tolerance : Tolerance}
    (h : ((query queryName).evaluate tolerance).Leaves world
      (.error (.unknownName kind name)) left) :
    (query queryName).AsksUnknown kind name left := by
  rw [evaluate, Run.leaves_bind_error_iff, Run.leaves_access_iff] at h
  rcases h with hflag | ⟨value, afterQuery, -, h⟩
  · refine .ofQuery ?_ hflag
    simp [names, queryNames, terms]
  · rw [Run.leaves_write_bind_iff, Run.leaves_pure_iff] at h
    cases h.1

/-- A condition that stops at an unknown name asked the world for one of its names. -/
theorem asksUnknown_of_leaves {condition : Condition} {tolerance : Tolerance}
    (h : (condition.evaluate tolerance).Leaves world
      (.error (.unknownName kind name)) left) : condition.AsksUnknown kind name left := by
  induction condition generalizing world with
  | comparison variableName comparator right => exact asksUnknown_comparison h
  | query queryName => exact asksUnknown_query h
  | logical first connective second ihFirst ihSecond =>
      rw [evaluate, Run.leaves_bind_error_iff] at h
      rcases h with hfirst | ⟨value, middle, -, h⟩
      · apply (ihFirst hfirst).mono
        intro kind
        simp
      · by_cases hdecided : connective.isDecidedBy value = true
        · rw [if_pos hdecided, Run.leaves_write_bind_iff, Run.leaves_pure_iff] at h
          cases h.1
        · rw [if_neg hdecided, Run.leaves_bind_error_iff] at h
          rcases h with hsecond | ⟨value', middle', -, h⟩
          · apply (ihSecond hsecond).mono
            intro kind
            simp
          · rw [Run.leaves_write_bind_iff, Run.leaves_pure_iff] at h
            cases h.1

end Condition

end Autopilot
