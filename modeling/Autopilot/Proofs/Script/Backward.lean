import Autopilot.Proofs.Grammar.Spelled

/-!
# Conditions from the right

Two spelled conditions have the same text only if they are the same, also if they are
joined on the right, so that their texts cannot be read from a script.

The tokens of a condition are read from the right.  A joined condition is written with
its right side last, in parentheses exactly if that side is joined itself, and without
parentheses around its left side, so that what stands last tells how the condition is
put together.
-/

namespace Autopilot

open Lexeme

/-- The token of an operand. -/
def Operand.spelled : Operand → TokenKind × String
  | name word => (.identifier, word)
  | number raw => (.number, raw)

namespace Condition

/-- The tokens of a condition, the last one first. -/
def backward : Condition → List (TokenKind × String)
  | comparison left comparator right =>
    [right.spelled, (comparator.kind, comparator.sign), (.identifier, left)]
  | query name => [(.identifier, name)]
  | logical left connective right =>
    (if right.isLogical then (.rightParen, ")") :: (right.backward ++ [(.leftParen, "(")])
      else right.backward) ++
      (connective.kind, connective.word) :: left.backward

/-- The tokens of a condition on the right of a connective, the last one first. -/
def enclosed (right : Condition) : List (TokenKind × String) :=
  if right.isLogical then (.rightParen, ")") :: (right.backward ++ [(.leftParen, "(")])
  else right.backward

theorem backward_logical (left : Condition) (connective : Connective) (right : Condition) :
    (logical left connective right).backward =
      right.enclosed ++ (connective.kind, connective.word) :: left.backward := rfl

end Condition

theorem Operand.spelled_injective : Function.Injective Operand.spelled := by
  intro operand operand' h
  cases operand <;> cases operand' <;> cases h <;> rfl

theorem Operand.spelled_ne_closing (operand : Operand) (text : String) :
    operand.spelled ≠ (.rightParen, text) := by
  cases operand <;> exact nofun

theorem Comparator.kind_injective : Function.Injective Comparator.kind := by
  intro comparator comparator' h
  apply Option.some.inj
  rw [← ofKind?_kind, ← ofKind?_kind, h]

theorem Connective.kind_injective : Function.Injective Connective.kind := by
  intro connective connective' h
  apply Option.some.inj
  rw [← ofKind?_connective_kind, ← ofKind?_connective_kind, h]

theorem Operand.spelled?_lexeme {operand : Operand} (h : operand.IsSpelled) :
    operand.lexeme.spelled? = some operand.spelled := by
  cases operand with
  | name word => exact spelled?_name h
  | number raw => rw [lexeme, spelled?, String.ofList_toList, spelled]

@[simp]
theorem spelling_nil : spelling [] = [] := rfl

/-- The tokens of a spelled condition, read from the right. -/
theorem Condition.reverse_spelling_lexemes {condition : Condition}
    (h : condition.IsSpelled) :
    (spelling condition.lexemes).reverse = condition.backward := by
  induction condition with
  | comparison left comparator right =>
      simp [lexemes, backward, spelled?_name h.1, right.spelled?_lexeme h.2]
  | query name => simp [lexemes, backward, spelled?_name h]
  | logical left connective right ihl ihr =>
      rw [backward_logical, enclosed, ← ihl h.1, ← ihr h.2]
      by_cases hright : right.isLogical = true
      · simp [lexemes, hright]
      · simp [lexemes, hright]

/-- Tokens that do not go on with a sign. -/
def LacksSign (tokens : List (TokenKind × String)) : Prop :=
  ∀ token ∈ tokens.head?, Comparator.ofKind? token.1 = none

/-- Tokens that do not go on with a sign or a connective, so that nothing more of a
condition stands there. -/
def EndsCondition (tokens : List (TokenKind × String)) : Prop :=
  ∀ token ∈ tokens.head?,
    Comparator.ofKind? token.1 = none ∧ Connective.ofKind? token.1 = none

theorem EndsCondition.lacksSign {tokens : List (TokenKind × String)}
    (h : EndsCondition tokens) : LacksSign tokens := by
  intro token htoken
  exact (h token htoken).1

theorem endsCondition_nil : EndsCondition [] := by
  rintro token ⟨⟩

theorem endsCondition_opening (rest : List (TokenKind × String)) :
    EndsCondition ((.leftParen, "(") :: rest) := by
  rintro token ⟨⟩
  exact ⟨rfl, rfl⟩

theorem lacksSign_connective (connective : Connective)
    (rest : List (TokenKind × String)) :
    LacksSign ((connective.kind, connective.word) :: rest) := by
  rintro token ⟨⟩
  cases connective <;> rfl

theorem not_lacksSign_sign (comparator : Comparator) (rest : List (TokenKind × String)) :
    ¬ LacksSign ((comparator.kind, comparator.sign) :: rest) := by
  intro h
  have hnone := h _ rfl
  rw [ofKind?_kind] at hnone
  cases hnone

theorem not_endsCondition_connective (connective : Connective)
    (rest : List (TokenKind × String)) :
    ¬ EndsCondition ((connective.kind, connective.word) :: rest) := by
  intro h
  have hnone := (h _ rfl).2
  rw [ofKind?_connective_kind] at hnone
  cases hnone

namespace Condition

variable {condition condition' right right' : Condition}
  {rest rest' : List (TokenKind × String)}

/-- Two terms that are read from the right are the same, and what is left then. -/
theorem backward_append_inj_of_terms (hterm : condition.isLogical = false)
    (hterm' : condition'.isLogical = false) (hrest : LacksSign rest)
    (hrest' : LacksSign rest')
    (h : condition.backward ++ rest = condition'.backward ++ rest') :
    condition = condition' ∧ rest = rest' := by
  cases condition with
  | logical => cases hterm
  | comparison left comparator right =>
      cases condition' with
      | logical => cases hterm'
      | comparison left' comparator' right' =>
          simp only [backward, List.cons_append, List.nil_append, List.cons.injEq,
            Prod.mk.injEq, true_and] at h
          obtain ⟨hright, ⟨hkind, -⟩, rfl, rfl⟩ := h
          rw [Operand.spelled_injective hright, Comparator.kind_injective hkind]
          exact ⟨rfl, rfl⟩
      | query name' =>
          obtain ⟨-, rfl⟩ := List.cons.inj h
          exact absurd hrest' (not_lacksSign_sign comparator _)
  | query name =>
      cases condition' with
      | logical => cases hterm'
      | comparison left' comparator' right' =>
          obtain ⟨-, rfl⟩ := List.cons.inj h
          exact absurd hrest (not_lacksSign_sign comparator' _)
      | query name' =>
          obtain ⟨hname, rfl⟩ := List.cons.inj h
          rw [(Prod.mk.inj hname).2]
          exact ⟨rfl, rfl⟩

/-- A term does not end with a parenthesis. -/
theorem backward_append_ne_closing (hterm : condition.isLogical = false) (text : String) :
    condition.backward ++ rest ≠ (.rightParen, text) :: rest' := by
  intro h
  cases condition with
  | logical => cases hterm
  | comparison left comparator right =>
      exact absurd (List.cons.inj h).1 (right.spelled_ne_closing text)
  | query name => cases (List.cons.inj h).1

/-- A term and a joined condition are not read from the same tokens. -/
theorem backward_append_ne_logical (hterm : condition.isLogical = false)
    (hrest : EndsCondition rest) (left : Condition) (connective : Connective) :
    condition.backward ++ rest ≠ (logical left connective right).backward ++ rest' := by
  intro h
  rw [backward_logical, enclosed] at h
  by_cases hright : right.isLogical = true
  · rw [if_pos hright] at h
    exact backward_append_ne_closing hterm _ h
  · rw [if_neg hright, List.append_assoc] at h
    obtain ⟨-, rfl⟩ := backward_append_inj_of_terms hterm (Bool.eq_false_iff.mpr hright)
      hrest.lacksSign (lacksSign_connective connective _) h
    exact not_endsCondition_connective connective _ hrest

/-- Whether there are parentheses tells whether the right side is joined. -/
theorem enclosed_append_inj
    (hinj : ∀ {rest rest'}, EndsCondition rest → EndsCondition rest' →
      right.backward ++ rest = right'.backward ++ rest' → right = right' ∧ rest = rest')
    (hrest : LacksSign rest) (hrest' : LacksSign rest')
    (h : right.enclosed ++ rest = right'.enclosed ++ rest') :
    right = right' ∧ rest = rest' := by
  rw [enclosed, enclosed] at h
  by_cases hright : right.isLogical = true
  · rw [if_pos hright] at h
    by_cases hright' : right'.isLogical = true
    · rw [if_pos hright', List.cons_append, List.cons_append, List.append_assoc,
        List.append_assoc] at h
      obtain ⟨hsame, htail⟩ := hinj (endsCondition_opening rest)
        (endsCondition_opening rest') (List.cons.inj h).2
      exact ⟨hsame, (List.cons.inj htail).2⟩
    · rw [if_neg hright'] at h
      exact absurd h.symm (backward_append_ne_closing (Bool.eq_false_iff.mpr hright') _)
  · rw [if_neg hright] at h
    have hterm := Bool.eq_false_iff.mpr hright
    by_cases hright' : right'.isLogical = true
    · rw [if_pos hright'] at h
      exact absurd h (backward_append_ne_closing hterm _)
    · rw [if_neg hright'] at h
      exact backward_append_inj_of_terms hterm (Bool.eq_false_iff.mpr hright') hrest
        hrest' h

/-- Two conditions that are read from the right are the same, and what is left then. -/
theorem backward_append_inj (hrest : EndsCondition rest) (hrest' : EndsCondition rest')
    (h : condition.backward ++ rest = condition'.backward ++ rest') :
    condition = condition' ∧ rest = rest' := by
  induction condition generalizing condition' rest rest' with
  | logical left connective right ihl ihr =>
      cases condition' with
      | logical left' connective' right' =>
          rw [backward_logical, backward_logical, List.append_assoc, List.append_assoc] at h
          obtain ⟨rfl, htail⟩ := enclosed_append_inj ihr (lacksSign_connective _ _)
            (lacksSign_connective _ _) h
          obtain ⟨hword, hleft⟩ := List.cons.inj htail
          obtain rfl := Connective.kind_injective (Prod.mk.inj hword).1
          obtain ⟨rfl, rfl⟩ := ihl hrest hrest' hleft
          exact ⟨rfl, rfl⟩
      | _ => exact absurd h.symm (backward_append_ne_logical rfl hrest' _ _)
  | _ =>
      cases condition' with
      | logical => exact absurd h (backward_append_ne_logical rfl hrest _ _)
      | _ => exact backward_append_inj_of_terms rfl rfl hrest.lacksSign hrest'.lacksSign h

theorem eq_of_spelling_lexemes (hspelled : condition.IsSpelled)
    (hspelled' : condition'.IsSpelled)
    (h : spelling condition.lexemes = spelling condition'.lexemes) :
    condition = condition' := by
  have hbackward : condition.backward ++ [] = condition'.backward ++ [] := by
    rw [← reverse_spelling_lexemes hspelled, ← reverse_spelling_lexemes hspelled', h]
  exact (backward_append_inj endsCondition_nil endsCondition_nil hbackward).1

/-- The text of a spelled condition is cut into the lexemes that it was put together
from. -/
theorem lexemes_text (h : condition.IsSpelled) :
    Autopilot.lexemes condition.text.toList = condition.lexemes := by
  rw [← condition.chars_lexemes]
  exact lexemes_of_allLead (allLead_lexemes h nofun)

/-- Spelled conditions have different texts. -/
theorem eq_of_text (hspelled : condition.IsSpelled) (hspelled' : condition'.IsSpelled)
    (h : condition.text = condition'.text) : condition = condition' := by
  apply eq_of_spelling_lexemes hspelled hspelled'
  rw [← lexemes_text hspelled, ← lexemes_text hspelled', h]

end Condition

end Autopilot
