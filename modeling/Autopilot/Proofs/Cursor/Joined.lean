import Autopilot.Proofs.Cursor.Simulation
import Autopilot.Proofs.Lexer.LineBreak

/-!
# Cursors in joined texts

Two texts are joined by a line break.  Above the break a reader of the whole behaves as
a reader of the first text, where the line break is the end; below it, as a reader of
the second text some lines further down.
-/

namespace Autopilot

/-- The line break between two texts. -/
def Token.lineBreak (place : Position) : Token :=
  ⟨.newline, "\n", place⟩

theorem Remark.on_lowered (remark : Remark) (token : Token) (lines : Nat) :
    remark.on (token.lowered lines) = (remark.on token).lowered lines := rfl

namespace Diagnostic

/-- The diagnostics of a text that ends at a place, and what becomes of them when the
text goes on with a line break.  The remark on the end, if there is one, turns into the
same remark on the line break. -/
inductive Retold (place : Position) : List Diagnostic → List Diagnostic → Prop
  | same (ds : List Diagnostic) (before : ∀ d ∈ ds, d.position < place) :
    Retold place ds ds
  | atEnd (ds : List Diagnostic) (before : ∀ d ∈ ds, d.position < place)
      (remark : Remark) :
    Retold place (ds ++ [remark.on (Token.ending place)])
      (ds ++ [remark.on (Token.lineBreak place)])

/-- As long as there is no remark on the end of the text, nothing is retold. -/
theorem Retold.eq_of_before {place : Position} {ds ds' : List Diagnostic}
    (h : Retold place ds ds') (hbefore : ∀ d ∈ ds, d.position < place) : ds' = ds := by
  cases h with
  | same ds before => rfl
  | atEnd ds before remark =>
      have hlast := hbefore (remark.on (Token.ending place)) (by simp)
      exact absurd hlast (Position.lt_irrefl place)

/-- One more remark on the end of the text. -/
theorem Retold.noted_end {place : Position} {ds ds' : List Diagnostic}
    (h : Retold place ds ds') (remark : Remark) :
    Retold place (noted ds (remark.on (Token.ending place)))
      (noted ds' (remark.on (Token.lineBreak place))) := by
  cases h with
  | same ds before =>
      have hnew : ∀ made ∈ ds, made.position ≠ place := by
        intro made hmade hsame
        exact Position.lt_irrefl place (hsame ▸ before made hmade)
      rw [noted_of_forall_ne hnew, noted_of_forall_ne hnew]
      exact .atEnd ds before remark
  | atEnd ds before last =>
      have hsame : noted (ds ++ [last.on (Token.ending place)])
          (remark.on (Token.ending place)) = ds ++ [last.on (Token.ending place)] :=
        noted_of_last rfl
      have hsame' : noted (ds ++ [last.on (Token.lineBreak place)])
          (remark.on (Token.lineBreak place)) =
            ds ++ [last.on (Token.lineBreak place)] := noted_of_last rfl
      rw [hsame, hsame']
      exact .atEnd ds before last

theorem before_of_noted {place : Position} {ds : List Diagnostic} {d : Diagnostic}
    (hds : ∀ e ∈ ds, e.position < place) (hd : d.position < place) :
    ∀ e ∈ noted ds d, e.position < place := by
  rw [noted]
  split
  · exact hds
  · intro e he
    rcases List.mem_append.mp he with he | he
    · exact hds e he
    · obtain rfl := List.mem_singleton.mp he
      exact hd

theorem Retold.line_le {place : Position} {ds ds' : List Diagnostic}
    (h : Retold place ds ds') : ∀ d ∈ ds', d.position.line ≤ place.line := by
  have hline : ∀ {p : Position}, p < place → p.line ≤ place.line := by
    intro p hp
    rw [Position.lt_iff] at hp
    omega
  cases h with
  | same ds before =>
      intro d hd
      exact hline (before d hd)
  | atEnd ds before remark =>
      intro d hd
      rcases List.mem_append.mp hd with hd | hd
      · exact hline (before d hd)
      · obtain rfl := List.mem_singleton.mp hd
        exact Nat.le_refl _

/-- Remarks some lines further down do not touch those of the lines above. -/
theorem noted_append_lowered {front ds : List Diagnostic} {lines : Nat}
    (hfront : ∀ d ∈ front, d.position.line ≤ lines) (d : Diagnostic) :
    noted (front ++ ds.map (lowered lines)) (d.lowered lines) =
      front ++ (noted ds d).map (lowered lines) := by
  rcases List.eq_nil_or_concat ds with rfl | ⟨init, last, rfl⟩
  · have hnew : ∀ made ∈ front, made.position ≠ (d.lowered lines).position := by
      intro made hmade hsame
      have hle := hfront made hmade
      have hpos := d.position.line_pos
      rw [hsame] at hle
      simp only [lowered, Position.lowered] at hle
      omega
    rw [List.map_nil, List.append_nil, noted_of_forall_ne hnew]
    rfl
  · rw [List.concat_eq_append, List.map_append, List.map_singleton,
      ← List.append_assoc]
    by_cases hsame : last.position = d.position
    · have hlowered : (last.lowered lines).position = (d.lowered lines).position :=
        Position.lowered_inj.mpr hsame
      rw [noted_of_last hsame, noted_of_last hlowered, List.map_append,
        List.append_assoc]
      rfl
    · have hlowered : (last.lowered lines).position ≠ (d.lowered lines).position :=
        mt Position.lowered_inj.mp hsame
      rw [noted_of_last_ne hsame, noted_of_last_ne hlowered]
      simp only [List.map_append, List.map_cons, List.map_nil, List.append_assoc]

end Diagnostic

namespace Cursor

/-- A cursor in a text that ends at a place, and a cursor at the same token where the
text goes on with a line break and other tokens. -/
structure Above (place : Position) (behind : List Token) (ending : Token)
    (c c' : Cursor) : Prop where
  pending : c'.pending = c.pending ++ Token.lineBreak place :: behind
  end_place : c.ending = Token.ending place
  end_behind : c'.ending = ending
  before : ∀ token ∈ c.pending, token.position < place
  diagnostics : Diagnostic.Retold place c.diagnostics c'.diagnostics
  unended : c.pending ≠ [] → ∀ d ∈ c.diagnostics, d.position < place

/-- A cursor in a text, and a cursor at the same token where the text stands some lines
further down, with remarks on the lines above. -/
structure Below (lines : Nat) (front : List Diagnostic) (c c' : Cursor) : Prop where
  pending : c'.pending = c.pending.map (Token.lowered lines)
  ending : c'.ending = c.ending.lowered lines
  diagnostics : c'.diagnostics = front ++ c.diagnostics.map (Diagnostic.lowered lines)

section Above

variable {place : Position} {behind : List Token} {ending : Token} {c c' : Cursor}

theorem Above.current_of_ended (h : Above place behind ending c c')
    (hend : c.pending = []) :
    c.current = Token.ending place ∧ c'.current = Token.lineBreak place := by
  have hpending := h.pending
  rw [hend, List.nil_append] at hpending
  exact ⟨(current_of_pending_nil hend).trans h.end_place, current_of_pending hpending⟩

theorem Above.current_eq (h : Above place behind ending c c')
    (hend : c.pending ≠ []) :
    c'.current = c.current ∧ c.current.position < place := by
  obtain ⟨token, rest, hcons⟩ := List.exists_cons_of_ne_nil hend
  have hpending := h.pending
  rw [hcons, List.cons_append] at hpending
  rw [current_of_pending hcons, current_of_pending hpending]
  exact ⟨rfl, h.before token (by simp [hcons])⟩

theorem Above.advance (h : Above place behind ending c c')
    (hend : c.pending ≠ []) : Above place behind ending c.advance c'.advance := by
  constructor
  · rw [pending_advance, pending_advance, h.pending, List.tail_append_of_ne_nil hend]
  · exact h.end_place
  · exact h.end_behind
  · intro token htoken
    exact h.before token (List.mem_of_mem_tail htoken)
  · exact h.diagnostics
  · intro _
    exact h.unended hend

theorem Above.complain (h : Above place behind ending c c') (remark : Remark) :
    Above place behind ending (c.complain remark) (c'.complain remark) := by
  constructor
  · rw [pending_complain, pending_complain]
    exact h.pending
  · rw [ending_complain]
    exact h.end_place
  · rw [ending_complain]
    exact h.end_behind
  · rw [pending_complain]
    exact h.before
  · rw [diagnostics_complain, diagnostics_complain]
    by_cases hend : c.pending = []
    · obtain ⟨hcurrent, hcurrent'⟩ := h.current_of_ended hend
      rw [hcurrent, hcurrent']
      exact h.diagnostics.noted_end remark
    · obtain ⟨hcurrent, hplace⟩ := h.current_eq hend
      have hbefore := h.unended hend
      rw [hcurrent, h.diagnostics.eq_of_before hbefore]
      exact .same _ (Diagnostic.before_of_noted hbefore hplace)
  · rw [pending_complain, diagnostics_complain]
    intro hend
    exact Diagnostic.before_of_noted (h.unended hend) (h.current_eq hend).2

theorem simulates_above : Simulates (Above place behind ending) 0 := by
  constructor
  · intro c c' h
    by_cases hend : c.pending = []
    · obtain ⟨hcurrent, hcurrent'⟩ := h.current_of_ended hend
      rw [hcurrent, hcurrent']
      exact Or.inr ⟨rfl, rfl⟩
    · exact Or.inl (congrArg Token.kind (h.current_eq hend).1)
  · intro c c' h hkind
    rw [(h.current_eq (mt current_kind_eq_eof_iff.mpr hkind)).1]
  · intro c c' h hkind
    rw [(h.current_eq (mt current_kind_eq_eof_iff.mpr hkind)).1]
    rfl
  · intro c c' h hkind
    exact h.advance (mt current_kind_eq_eof_iff.mpr hkind)
  · intro c c' h remark
    exact h.complain remark

end Above

section Below

variable {lines : Nat} {front : List Diagnostic} {c c' : Cursor}

theorem Below.current_eq (h : Below lines front c c') :
    c'.current = c.current.lowered lines := by
  rw [current, current, h.pending, h.ending]
  cases c.pending with
  | nil => rfl
  | cons token rest => rfl

theorem simulates_below (hfront : ∀ d ∈ front, d.position.line ≤ lines) :
    Simulates (Below lines front) lines := by
  constructor
  · intro c c' h
    rw [h.current_eq]
    exact Or.inl rfl
  · intro c c' h _
    rw [h.current_eq]
    rfl
  · intro c c' h _
    rw [h.current_eq]
    rfl
  · intro c c' h _
    constructor
    · rw [pending_advance, pending_advance, h.pending, List.map_tail]
    · exact h.ending
    · exact h.diagnostics
  · intro c c' h remark
    constructor
    · rw [pending_complain, pending_complain, h.pending]
    · rw [ending_complain, ending_complain, h.ending]
    · rw [diagnostics_complain, diagnostics_complain, h.diagnostics, h.current_eq,
        Remark.on_lowered, Diagnostic.noted_append_lowered hfront]

end Below

end Cursor

end Autopilot
