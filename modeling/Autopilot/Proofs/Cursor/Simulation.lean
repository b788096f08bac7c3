import Autopilot.Proofs.Cursor.Passing

/-!
# Cursors that behave alike

A relation between cursors that a reader cannot tell apart: the kinds and the texts
of the tokens agree, the second cursor is some lines further down, and both can be
moved on and complained at together.  Where the first one is at the end, the second
one may be at a line break instead.
-/

namespace Autopilot

namespace Cursor

/-- What makes a relation between cursors hold up while a script is read. -/
structure Simulates (R : Cursor → Cursor → Prop) (lines : Nat) : Prop where
  kind : ∀ {c c'}, R c c' → c'.current.kind = c.current.kind ∨
    c.current.kind = .eof ∧ c'.current.kind = .newline
  text : ∀ {c c'}, R c c' → c.current.kind ≠ .eof → c'.current.text = c.current.text
  line : ∀ {c c'}, R c c' → c.current.kind ≠ .eof →
    c'.current.position.line = c.current.position.line + lines
  advance : ∀ {c c'}, R c c' → c.current.kind ≠ .eof → R c.advance c'.advance
  complain : ∀ {c c'}, R c c' → ∀ remark, R (c.complain remark) (c'.complain remark)

section Simulation

variable {R : Cursor → Cursor → Prop} {lines : Nat} {c c' : Cursor}

/-- What does not tell the end from a line break is the same at both cursors. -/
theorem Simulates.kind_congr {α : Type} (hR : Simulates R lines) (h : R c c')
    (f : TokenKind → α) (hf : f .newline = f .eof) :
    f c'.current.kind = f c.current.kind := by
  rcases hR.kind h with hsame | ⟨hc, hc'⟩
  · rw [hsame]
  · rw [hc, hc', hf]

theorem Simulates.kind_eq_iff (hR : Simulates R lines) (h : R c c') {kind : TokenKind}
    (hend : kind ≠ .eof) (hline : kind ≠ .newline) :
    c'.current.kind = kind ↔ c.current.kind = kind := by
  have hneither : (TokenKind.newline = kind) = (TokenKind.eof = kind) := by
    rw [eq_false hline.symm, eq_false hend.symm]
  exact iff_of_eq (hR.kind_congr h (· = kind) hneither)

theorem Simulates.isAt_eq (hR : Simulates R lines) (h : R c c') {kind : TokenKind}
    (hend : kind ≠ .eof) (hline : kind ≠ .newline) : c'.isAt kind = c.isAt kind := by
  rw [Bool.eq_iff_iff, isAt_iff, isAt_iff]
  exact hR.kind_eq_iff h hend hline

/-- A token is eaten at both cursors or at neither. -/
theorem Simulates.eat_cases (hR : Simulates R lines) (h : R c c') {kind : TokenKind}
    (hend : kind ≠ .eof) (hline : kind ≠ .newline) :
    (c.current.kind = kind ∧ c.eat kind = (some c.current, c.advance) ∧
      c'.eat kind = (some c'.current, c'.advance) ∧ R c.advance c'.advance) ∨
    (c.eat kind = (none, c) ∧ c'.eat kind = (none, c')) := by
  have hkind := hR.kind_eq_iff h hend hline
  by_cases hc : c.current.kind = kind
  · exact Or.inl ⟨hc, eat_of_kind hc, eat_of_kind (hkind.mpr hc),
      hR.advance h (hc ▸ hend)⟩
  · exact Or.inr ⟨eat_of_kind_ne hc, eat_of_kind_ne (mt hkind.mp hc)⟩

/-- A token is found at both cursors, or there is the same remark at both. -/
theorem Simulates.expect_cases (hR : Simulates R lines) (h : R c c') {kind : TokenKind}
    (hend : kind ≠ .eof) (hline : kind ≠ .newline) (remark : Remark) :
    (c.current.kind = kind ∧
      c.expect kind remark = (some c.current, c.advance) ∧
      c'.expect kind remark = (some c'.current, c'.advance) ∧
      R c.advance c'.advance) ∨
    (c.expect kind remark = (none, c.complain remark) ∧
      c'.expect kind remark = (none, c'.complain remark) ∧
      R (c.complain remark) (c'.complain remark)) := by
  have hkind := hR.kind_eq_iff h hend hline
  by_cases hc : c.current.kind = kind
  · exact Or.inl ⟨hc, expect_of_kind hc remark, expect_of_kind (hkind.mpr hc) remark,
      hR.advance h (hc ▸ hend)⟩
  · exact Or.inr ⟨expect_of_kind_ne hc remark,
      expect_of_kind_ne (mt hkind.mp hc) remark, hR.complain h remark⟩

end Simulation

end Cursor

end Autopilot
