import Autopilot.Proofs.Cursor.Passing
import Autopilot.Grammar

/-!
# The loops of the grammar, step by step

The terms of a condition and the operands of a command are read by recursion on what
is pending.  Each equation is one step of such a loop.  A script is read from a cursor
at the start of its tokens.
-/

namespace Autopilot

namespace Grammar

theorem joined_of_no_connective {left : Condition} {c : Cursor}
    (h : Connective.ofKind? c.current.kind = none) :
    joined left c = (some left, c) := by
  rw [joined]
  split
  · rfl
  · rename_i connective hsome
    rw [h] at hsome
    cases hsome

theorem joined_of_no_term {left : Condition} {connective : Connective}
    {c c' : Cursor} (h : Connective.ofKind? c.current.kind = some connective)
    (hterm : term c.advance = (none, c')) : joined left c = (none, c') := by
  rw [joined]
  split
  · rename_i hnone
    rw [h] at hnone
    cases hnone
  · split
    · rename_i c₁ hnone
      rw [hterm] at hnone
      rw [(Prod.mk.inj hnone).2]
    · rename_i right c₁ hsome
      simp [hterm] at hsome

theorem joined_of_term {left right : Condition} {connective : Connective}
    {c c' : Cursor} (h : Connective.ofKind? c.current.kind = some connective)
    (hterm : term c.advance = (some right, c')) :
    joined left c = joined (.logical left connective right) c' := by
  rw [joined]
  split
  · rename_i hnone
    rw [h] at hnone
    cases hnone
  · rename_i connective' hconnective
    rw [h] at hconnective
    obtain rfl := Option.some.inj hconnective
    split
    · rename_i c₁ hnone
      simp [hterm] at hnone
    · rename_i right' c₁ hsome
      rw [hterm] at hsome
      obtain ⟨hright, rfl⟩ := Prod.mk.inj hsome
      rw [Option.some.inj hright]

theorem arguments_of_no_operand {c c' : Cursor} (h : operand c = (none, c')) :
    arguments c = (none, c'.complain .expectedArgument) := by
  rw [arguments]
  split
  · rename_i c₁ hnone
    rw [h] at hnone
    rw [(Prod.mk.inj hnone).2]
  · rename_i first c₁ hsome
    simp [h] at hsome

theorem arguments_of_no_comma {first : Operand} {c c' : Cursor}
    (h : operand c = (some first, c')) (hcomma : c'.current.kind ≠ .comma) :
    arguments c = (some [first], c') := by
  rw [arguments]
  split
  · rename_i c₁ hnone
    simp [h] at hnone
  · rename_i first' c₁ hsome
    rw [h] at hsome
    obtain ⟨hfirst, rfl⟩ := Prod.mk.inj hsome
    obtain rfl := Option.some.inj hfirst
    split
    · rename_i c₂ hnone
      rw [Cursor.eq_of_eat_none hnone]
    · rename_i token c₂ heat
      simp [Cursor.eat_of_kind_ne hcomma] at heat

theorem arguments_of_comma {first : Operand} {c c' : Cursor}
    (h : operand c = (some first, c')) (hcomma : c'.current.kind = .comma) :
    arguments c =
      ((arguments c'.advance).1.map (first :: ·), (arguments c'.advance).2) := by
  rw [arguments]
  split
  · rename_i c₁ hnone
    simp [h] at hnone
  · rename_i first' c₁ hsome
    rw [h] at hsome
    obtain ⟨hfirst, rfl⟩ := Prod.mk.inj hsome
    obtain rfl := Option.some.inj hfirst
    split
    · rename_i c₂ hnone
      simp [Cursor.eat_of_kind hcomma] at hnone
    · rename_i token c₂ heat
      rw [Cursor.eat_of_kind hcomma] at heat
      obtain ⟨-, rfl⟩ := Prod.mk.inj heat
      cases arguments c'.advance with
      | mk result c₃ => cases result <;> rfl

end Grammar

/-- A list of tokens is read from its start. -/
theorem Script.ofTokens_of_script {tokens : List Token} {c c' : Cursor} {script : Script}
    (hc : Cursor.ofTokens? tokens = .ok c) (hscript : Grammar.script c = (.ok script, c')) :
    Script.ofTokens tokens = .ok (script, c'.diagnostics) := by
  rw [Script.ofTokens, hc]
  simp only [hscript, bind, Except.bind, pure, Except.pure]

end Autopilot
