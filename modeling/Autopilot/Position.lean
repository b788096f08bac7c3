import Autopilot.Fault

/-!
# Positions

A position is a line and a column in the text of a script, both counted from one.
Columns count characters, and a tab is one column.  Positions are ordered as they
come in the text.
-/

namespace Autopilot

/-- A place in a text. -/
@[ext]
structure Position where
  line : Nat
  column : Nat
  line_pos : 1 ≤ line := by omega
  column_pos : 1 ≤ column := by omega
deriving DecidableEq, Repr

namespace Position

/-- The position of the first character of a text. -/
def start : Position := ⟨1, 1, by decide, by decide⟩

/-- The position with the given line and column, if both are at least one. -/
def ofInts? (line column : Int) : Except Fault Position :=
  if h : 1 ≤ line ∧ 1 ≤ column then
    .ok ⟨line.toNat, column.toNat, by omega, by omega⟩
  else
    .error .invalidPosition

/-- The first column of a line. -/
def lineStart (line : Int) : Except Fault Position :=
  ofInts? line 1

/-- The position after a character. -/
def advance (p : Position) (c : Char) : Position :=
  if c = '\n' then ⟨p.line + 1, 1, by omega, by decide⟩
  else ⟨p.line, p.column + 1, p.line_pos, by omega⟩

/-- The position after a piece of text. -/
def after (p : Position) (cs : List Char) : Position :=
  cs.foldl advance p

/-- The position so many columns further on. -/
def right (p : Position) (columns : Nat) : Position :=
  ⟨p.line, p.column + columns, p.line_pos, Nat.le_add_right_of_le p.column_pos⟩

/-- The start of the next line. -/
def nextLine (p : Position) : Position :=
  ⟨p.line + 1, 1, Nat.le_add_left 1 _, Nat.le_refl 1⟩

/-- The order in the text: by line, then by column. -/
def Before (p q : Position) : Prop :=
  p.line < q.line ∨ p.line = q.line ∧ p.column < q.column

instance : LT Position := ⟨Before⟩

instance : LE Position := ⟨fun p q => ¬ Before q p⟩

instance (p q : Position) : Decidable (p < q) :=
  inferInstanceAs (Decidable (_ ∨ _))

instance (p q : Position) : Decidable (p ≤ q) :=
  inferInstanceAs (Decidable (¬ (_ ∨ _)))

/-- The short text of a position, line and column with a colon between them. -/
def text (p : Position) : String :=
  toString p.line ++ ":" ++ toString p.column

/-- The long text of a position. -/
def describe (p : Position) : String :=
  "TextPosition(" ++ toString p.line ++ ", " ++ toString p.column ++ ")"

/-- A position as a pair in parentheses. -/
def pairText (p : Position) : String :=
  "(" ++ toString p.line ++ ", " ++ toString p.column ++ ")"

theorem lt_iff {p q : Position} :
    p < q ↔ p.line < q.line ∨ p.line = q.line ∧ p.column < q.column :=
  Iff.rfl

theorem le_iff_not_lt {p q : Position} : p ≤ q ↔ ¬ q < p :=
  Iff.rfl

theorem lt_irrefl (p : Position) : ¬ p < p := by
  rw [lt_iff]
  omega

theorem lt_trans {p q r : Position} (hpq : p < q) (hqr : q < r) : p < r := by
  rw [lt_iff] at *
  omega

/-- Two positions neither of which comes first are the same. -/
theorem eq_of_not_lt {p q : Position} (hpq : ¬ p < q) (hqp : ¬ q < p) : p = q := by
  rw [lt_iff] at *
  ext <;> omega

/-- Every character moves the position on. -/
theorem lt_advance (p : Position) (c : Char) : p < p.advance c := by
  unfold advance
  split
  · exact Or.inl (Nat.lt_succ_self _)
  · exact Or.inr ⟨rfl, Nat.lt_succ_self _⟩

theorem after_append (p : Position) (cs ds : List Char) :
    p.after (cs ++ ds) = (p.after cs).after ds := by
  simp [after]

@[simp]
theorem after_nil (p : Position) : p.after [] = p := rfl

@[simp]
theorem after_cons (p : Position) (c : Char) (cs : List Char) :
    p.after (c :: cs) = (p.advance c).after cs := rfl

/-- The start of a line exists exactly for the lines from one on. -/
theorem lineStart_eq_ok_iff {line : Int} :
    (∃ p, lineStart line = .ok p) ↔ 1 ≤ line := by
  simp only [lineStart, ofInts?]
  by_cases h : 1 ≤ line
  · simp [h]
  · simp [h]

end Position

end Autopilot
