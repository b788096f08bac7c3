import Autopilot.Proofs.Grammar.Outcome
import Autopilot.Proofs.Tick.Inquiry
import Mathlib.Data.List.Induction

/-!
# Chains of terms

Terms that are joined from left to right are evaluated in one pass, with nothing but the
value so far in hand: `AND` keeps a false one and `OR` a true one, and otherwise the next
term takes its place.  A term that is passed over does not end the chain.
-/

namespace Autopilot

/-- A comparison or a query. -/
inductive Term where
  | comparison (left : String) (comparator : Comparator) (right : Operand)
  | query (name : String)

/-- A term as a condition. -/
def Term.condition : Term → Condition
  | comparison left comparator right => .comparison left comparator right
  | query name => .query name

namespace Condition

/-- Terms that are joined from left to right. -/
def chain (first : Term) (others : List (Connective × Term)) : Condition :=
  others.foldl (fun left other => .logical left other.1 other.2.condition) first.condition

/-- The truth value of a condition whose terms have truth values. -/
def truth (valuation : Term → Bool) : Condition → Bool
  | comparison left comparator right => valuation (.comparison left comparator right)
  | query name => valuation (.query name)
  | logical left connective right =>
    connective.apply (left.truth valuation) (right.truth valuation)

end Condition

/-- If there is no value, the cause is an unknown name. -/
def OnlyMisses {α : Type} (result : Except Fault α) : Prop :=
  ∀ fault, result = .error fault → ∃ kind name, fault = .unknownName kind name

namespace Answers

/-- The value of a term.  The left name of a comparison is looked up first, and then the
right side if it is a name. -/
def term (answers : Answers) (tolerance : Tolerance) : Term → Inquiry Bool
  | .comparison left comparator right => do
    let leftValue ← answers.read left
    let rightValue ← answers.operand right
    .ofResult (comparator.compare leftValue rightValue tolerance.epsilon)
  | .query name => answers.ask name

/-- One step along a chain.  After an error nothing happens any more, and a value that
decides is kept without any lookup; any other value makes way for the next term. -/
def step (answers : Answers) (tolerance : Tolerance) (found : Inquiry Bool)
    (other : Connective × Term) : Inquiry Bool :=
  match found.result, other.1 with
  | .error _, _ => found
  | .ok false, .conj => found
  | .ok true, .disj => found
  | .ok _, _ =>
    let next := answers.term tolerance other.2
    ⟨next.result, found.lookups ++ next.lookups⟩

/-- One pass along a chain. -/
def accumulate (answers : Answers) (tolerance : Tolerance) (first : Term)
    (others : List (Connective × Term)) : Inquiry Bool :=
  others.foldl (answers.step tolerance) (answers.term tolerance first)

/-- The names of a condition are known. -/
structure Know (answers : Answers) (condition : Condition) : Prop where
  flag : ∀ name ∈ condition.names .query, ∃ value, answers.flag name = .ok value
  number : ∀ name ∈ condition.names .variable, ∃ value, answers.number name = .ok value

end Answers

/-! ## Along a chain -/

/-- Inquiries are the same that differ only after faults other than unknown names. -/
theorem Inquiry.bind_congr {α β : Type} {first : Inquiry α} {second second' : α → Inquiry β}
    (h : OnlyMisses (first >>= second).result)
    (hsame : ∀ value, OnlyMisses (second value).result → second value = second' value) :
    first >>= second = first >>= second' := by
  cases hfirst : first.result with
  | error fault => rw [bind_of_error hfirst, bind_of_error hfirst]
  | ok value =>
      rw [bind_of_ok hfirst] at h ⊢
      rw [bind_of_ok hfirst, hsame value h]

theorem Term.terms_condition (term : Term) : term.condition.terms = [term.condition] := by
  cases term <;> rfl

theorem Condition.chain_concat (first : Term) (others : List (Connective × Term))
    (last : Connective × Term) :
    chain first (others ++ [last]) =
      .logical (chain first others) last.1 last.2.condition := by
  rw [chain, List.foldl_append]
  rfl

namespace Answers

variable {answers : Answers} {tolerance : Tolerance}

theorem accumulate_concat (first : Term) (others : List (Connective × Term))
    (last : Connective × Term) :
    answers.accumulate tolerance first (others ++ [last]) =
      answers.step tolerance (answers.accumulate tolerance first others) last := by
  rw [accumulate, List.foldl_append]
  rfl

/-- A term that stops at unknown names only has its value, whatever is written into the
trace. -/
theorem evaluate_term {term : Term}
    (h : OnlyMisses (answers.evaluate tolerance term.condition).result) :
    answers.evaluate tolerance term.condition = answers.term tolerance term := by
  cases term with
  | query name => rfl
  | comparison left comparator right =>
      refine Inquiry.bind_congr h ?_
      intro leftValue hleft
      refine Inquiry.bind_congr hleft ?_
      intro rightValue hright
      refine (Inquiry.bind_congr hright ?_).trans (Inquiry.bind_pure _)
      intro result hresult
      -- What is left is to write the line of the trace.
      cases hline : Condition.comparisonLine left comparator right leftValue rightValue
        result with
      | ok line => rfl
      | error fault =>
          rw [hline] at hresult
          obtain ⟨kind, name, rfl⟩ := hresult fault rfl
          exact absurd hline (Condition.nameless_comparisonLine _ _ _ _ _ _ kind name)

/-- One more term at the end of a condition is one more step. -/
theorem evaluate_logical {left : Condition} {connective : Connective} {term : Term}
    (h : OnlyMisses (answers.evaluate tolerance term.condition).result) :
    answers.evaluate tolerance (.logical left connective term.condition) =
      answers.step tolerance (answers.evaluate tolerance left) (connective, term) := by
  rw [evaluate, evaluate_term h]
  obtain ⟨result, lookups⟩ := answers.evaluate tolerance left
  cases result with
  | error fault => rfl
  | ok value =>
      have hkept : (⟨.ok value, lookups ++ []⟩ : Inquiry Bool) = ⟨.ok value, lookups⟩ :=
        congrArg (Inquiry.mk _) (List.append_nil lookups)
      cases connective <;> cases value
      · exact hkept
      · rfl
      · rfl
      · exact hkept

/-- A chain of terms that stop at unknown names only is evaluated in one pass. -/
theorem evaluate_chain {first : Term} {others : List (Connective × Term)}
    (h : ∀ term ∈ (Condition.chain first others).terms,
      OnlyMisses (answers.evaluate tolerance term).result) :
    answers.evaluate tolerance (.chain first others) =
      answers.accumulate tolerance first others := by
  induction others using List.reverseRecOn with
  | nil =>
      apply evaluate_term
      apply h
      rw [Condition.chain, List.foldl_nil, Term.terms_condition]
      exact List.mem_singleton_self _
  | append_singleton others last ih =>
      rw [Condition.chain_concat] at h ⊢
      rw [Condition.terms, List.forall_mem_append] at h
      obtain ⟨hothers, hlast⟩ := h
      rw [accumulate_concat, ← ih hothers]
      apply evaluate_logical
      apply hlast
      rw [Term.terms_condition]
      exact List.mem_singleton_self _

/-! ## In any tree -/

/-- A condition whose terms have truth values has the truth value that the terms give
it, however it is grouped. -/
theorem result_evaluate {valuation : Term → Bool} {condition : Condition}
    (h : ∀ term : Term, term.condition ∈ condition.terms →
      (answers.evaluate tolerance term.condition).result = .ok (valuation term)) :
    (answers.evaluate tolerance condition).result = .ok (condition.truth valuation) := by
  induction condition with
  | comparison left comparator right =>
      exact h (.comparison left comparator right) (List.mem_singleton_self _)
  | query name => exact h (.query name) (List.mem_singleton_self _)
  | logical left connective right ihLeft ihRight =>
      have hleft := ihLeft fun term hterm => h term (List.mem_append_left _ hterm)
      have hright := ihRight fun term hterm => h term (List.mem_append_right _ hterm)
      rw [evaluate, Inquiry.bind_of_ok hleft, Condition.truth]
      by_cases hdecided : connective.isDecidedBy (left.truth valuation) = true
      · rw [if_pos hdecided, Connective.apply_of_isDecidedBy hdecided]
        rfl
      · rw [if_neg hdecided, Connective.apply_of_not_isDecidedBy (by simpa using hdecided)]
        exact hright

theorem Know.of_mem_terms {condition : Condition} {term : Term}
    (h : answers.Know condition) (hterm : term.condition ∈ condition.terms) :
    answers.Know term.condition := by
  have hnames : ∀ kind, term.condition.names kind ⊆ condition.names kind := by
    rintro (_ | _) name hname
    all_goals
      obtain ⟨found, hfound, hname⟩ := List.mem_flatMap.mp hname
      rw [term.terms_condition, List.mem_singleton] at hfound
      exact List.mem_flatMap.mpr ⟨term.condition, hterm, hfound ▸ hname⟩
  exact ⟨fun name hname => h.flag name (hnames _ hname),
    fun name hname => h.number name (hnames _ hname)⟩

/-- A term whose names are known does not stop at a name. -/
theorem Know.nameless_term {term : Term} (h : answers.Know term.condition) :
    Nameless (answers.term tolerance term).result := by
  cases term with
  | query name =>
      obtain ⟨value, hvalue⟩ := h.flag name List.mem_cons_self
      rw [Answers.term, ask, hvalue]
      exact nameless_ok value
  | comparison left comparator right =>
      have hread : ∀ name ∈ (Condition.comparison left comparator right).names .variable,
          Nameless (answers.read name).result := by
        intro name hname
        obtain ⟨value, hvalue⟩ := h.number name hname
        rw [read, hvalue]
        exact nameless_ok value
      refine Inquiry.nameless_bind (hread left ?_) ?_
      · cases right <;> simp [Condition.names, Condition.variableNames, Condition.terms]
      intro leftValue
      refine Inquiry.nameless_bind ?_ ?_
      · cases right with
        | name name =>
            apply hread
            simp [Condition.names, Condition.variableNames, Condition.terms]
        | number raw => exact Operand.nameless_literal raw
      intro rightValue
      exact comparator.nameless_compare _ _ _

/-- The truth value of a term, where it has one. -/
def holds (answers : Answers) (tolerance : Tolerance) (term : Term) : Bool :=
  match (answers.term tolerance term).result with
  | .ok value => value
  | .error _ => false

/-- A term whose names are known, and that stops at unknown names only, has a value. -/
theorem Know.result_term {term : Term} (h : answers.Know term.condition)
    (honly : OnlyMisses (answers.evaluate tolerance term.condition).result) :
    (answers.term tolerance term).result = .ok (answers.holds tolerance term) := by
  rw [evaluate_term honly] at honly
  rw [holds]
  cases hresult : (answers.term tolerance term).result with
  | ok value => rfl
  | error fault =>
      obtain ⟨kind, name, rfl⟩ := honly fault hresult
      exact absurd hresult (h.nameless_term kind name)

end Answers

/-! ## In a world that answers by name -/

def TermTree.term : TermTree → Term
  | query name => .query name.token.text
  | comparison left sign right =>
    .comparison left.token.text sign.comparator right.operand

theorem TermTree.condition_term (tree : TermTree) : tree.term.condition = tree.condition := by
  cases tree <;> rfl

/-- A condition that is read is a chain. -/
theorem ConditionTree.condition_eq_chain (tree : ConditionTree) :
    tree.condition = Condition.chain tree.first.term
      (tree.others.map fun other => (other.1.connective, other.2.term)) := by
  rw [condition, joinedCondition, Condition.chain, List.foldl_map]
  simp only [TermTree.condition_term]

namespace Condition

variable {σ : Type} [World σ]

/-- In a world that answers by name, a chain of terms is evaluated in one pass: with the
same value or the same unknown name, and with the same lookups.  Every condition that is
read is such a chain.  Any condition whose names are known has the truth value that its
terms give it, and in any world only names of the condition are looked up. -/
theorem evaluate_byName (tolerance : Tolerance) :
    (∀ (answers : Answers) (world : σ), answers.HoldIn world → ∀ first others,
      (∀ term ∈ (chain first others).terms,
        OnlyMisses (term.evaluate tolerance world).result) →
      ((chain first others).evaluate tolerance world).result =
          (answers.accumulate tolerance first others).result ∧
        (chain first others).lookups tolerance world =
          (answers.accumulate tolerance first others).lookups) ∧
    (∀ c condition c', Grammar.condition c = (some condition, c') →
      ∃ first others, condition = chain first others) ∧
    (∀ (answers : Answers) (world : σ), answers.HoldIn world → ∀ condition : Condition,
      (∀ term ∈ condition.terms, OnlyMisses (term.evaluate tolerance world).result) →
      answers.Know condition →
      ∃ valuation : Term → Bool,
        (∀ term : Term, term.condition ∈ condition.terms →
          (answers.term tolerance term).result = .ok (valuation term)) ∧
        (condition.evaluate tolerance world).result = .ok (condition.truth valuation)) ∧
    ∀ (world : σ) (condition : Condition),
      condition.evaluate tolerance (Watched.mk world []) =
          (condition.evaluate tolerance world).watched
            (condition.lookups tolerance world) ∧
        ∀ lookup ∈ condition.lookups tolerance world,
          lookup.name ∈ condition.names lookup.kind := by
  refine ⟨?_, ?_, ?_, ?_⟩
  · intro answers world hold first others honly
    simp only [hold.result_evaluate] at honly
    rw [hold.result_evaluate, hold.lookups_evaluate, Answers.evaluate_chain honly]
    exact ⟨rfl, rfl⟩
  · intro c condition c' hread
    have houtcome := Grammar.condition_outcome c
    rw [hread] at houtcome
    obtain ⟨tree, rfl, -⟩ := houtcome.exists_of_some
    exact ⟨_, _, tree.condition_eq_chain⟩
  · intro answers world hold condition honly hknow
    simp only [hold.result_evaluate] at honly
    have hterm : ∀ term : Term, term.condition ∈ condition.terms →
        (answers.term tolerance term).result = .ok (answers.holds tolerance term) :=
      fun term hmem => (hknow.of_mem_terms hmem).result_term (honly _ hmem)
    refine ⟨answers.holds tolerance, hterm, ?_⟩
    rw [hold.result_evaluate]
    apply Answers.result_evaluate
    intro term hmem
    rw [Answers.evaluate_term (honly _ hmem)]
    exact hterm term hmem
  · intro world condition
    exact ⟨condition.evaluate_watched tolerance world, name_mem_of_mem_lookups⟩

/-- In a chain an unknown name is passed over, but not the query behind it.  A condition
that is grouped to the right has its ordinary truth value. -/
theorem evaluate_byName_ghost :
    let drone := { Drone.fresh with nearbyCharger := true }
    let skipping := chain (.query "storm_active")
      [(.conj, .query "ghost"), (.disj, .query "nearby_charger")]
    let grouped := logical (.query "nearby_charger") .conj
      (logical (.query "storm_active") .disj (.query "nearby_charger"))
    ((skipping.evaluate .thousandth drone).result = .ok true ∧
      skipping.lookups .thousandth drone =
        [⟨.query, "storm_active"⟩, ⟨.query, "nearby_charger"⟩]) ∧
    ∃ valuation : Term → Bool,
      (grouped.evaluate .thousandth drone).result = .ok (grouped.truth valuation) := by
  intro drone skipping grouped
  have hold := Drone.isSteady.holdIn drone
  have honly : ∀ term ∈ [query "storm_active", query "ghost", query "nearby_charger"],
      OnlyMisses (term.evaluate .thousandth drone).result := by
    simp only [List.forall_mem_cons]
    refine ⟨?_, ?_, ?_, List.forall_mem_nil _⟩
    · intro fault (h : Except.ok false = Except.error fault)
      cases h
    · intro fault (h : Except.error (.unknownName .query "ghost") = Except.error fault)
      exact ⟨.query, "ghost", (Except.error.inj h).symm⟩
    · intro fault (h : Except.ok true = Except.error fault)
      cases h
  have hknow : (Answers.ofWorld drone).Know grouped := by
    constructor
    · intro name hname
      simp only [grouped, names_logical, List.mem_append] at hname
      rcases hname with hname | hname | hname <;> obtain rfl := List.mem_singleton.mp hname
      · exact ⟨true, rfl⟩
      · exact ⟨false, rfl⟩
      · exact ⟨true, rfl⟩
    · intro name hname
      cases hname
  obtain ⟨hchain, -, htree, -⟩ := @evaluate_byName Drone _ .thousandth
  have hterms : grouped.terms ⊆
      [query "storm_active", query "ghost", query "nearby_charger"] := by
    simp [grouped, terms]
  obtain ⟨valuation, -, hvalue⟩ :=
    htree _ drone hold grouped (fun term hterm => honly term (hterms hterm)) hknow
  exact ⟨hchain _ drone hold _ _ honly, valuation, hvalue⟩

end Condition

end Autopilot
