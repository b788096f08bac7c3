import Autopilot.Proofs.Cursor.Simulation
import Mathlib.Data.List.Forall2

/-!
# Cursors at moved tokens

Tokens are moved to other places on their lines, each place to a place of its own.  A
reader does not notice: of places it knows only their lines and whether two of them are
the same.
-/

namespace Autopilot

/-- A relation that moves places on their lines, no two of them to the same place. -/
structure Position.Moves (moves : Position → Position → Prop) : Prop where
  line : ∀ {p p'}, moves p p' → p'.line = p.line
  unique : Relator.BiUnique moves

section Moved

variable (moves : Position → Position → Prop)

/-- The same token at a moved place. -/
structure Token.Moved (token token' : Token) : Prop where
  kind : token'.kind = token.kind
  text : token'.text = token.text
  position : moves token.position token'.position

/-- The same diagnostic at a moved place. -/
structure Diagnostic.Moved (d d' : Diagnostic) : Prop where
  eq : d' = { d with position := d'.position }
  position : moves d.position d'.position

/-- A cursor, and one at the same tokens at moved places. -/
structure Cursor.Moved (c c' : Cursor) : Prop where
  pending : List.Forall₂ (Token.Moved moves) c.pending c'.pending
  ending : Token.Moved moves c.ending c'.ending
  diagnostics : List.Forall₂ (Diagnostic.Moved moves) c.diagnostics c'.diagnostics

end Moved

variable {moves : Position → Position → Prop}

/-- The remark on a moved token is moved with it. -/
theorem Token.Moved.remark {token token' : Token} (h : Token.Moved moves token token')
    (remark : Remark) :
    Diagnostic.Moved moves (remark.on token) (remark.on token') := by
  have hfound : token'.found = token.found := by rw [found, found, h.kind, h.text]
  refine ⟨?_, h.position⟩
  rw [Remark.on, Remark.on, hfound]
  rfl

theorem forall₂_concat_left_iff {α β : Type} {R : α → β → Prop} {as : List α} {a : α}
    {bs : List β} :
    List.Forall₂ R (as ++ [a]) bs ↔
      ∃ bs' b, bs = bs' ++ [b] ∧ List.Forall₂ R as bs' ∧ R a b := by
  rw [← List.forall₂_reverse_iff, List.reverse_concat, List.forall₂_cons_left_iff]
  constructor
  · rintro ⟨b, rest, hb, hrest, hbs⟩
    refine ⟨rest.reverse, b, ?_, ?_, hb⟩
    · rw [← List.reverse_cons, ← hbs, List.reverse_reverse]
    · rw [← List.forall₂_reverse_iff, List.reverse_reverse]
      exact hrest
  · rintro ⟨bs', b, rfl, hrest, hb⟩
    exact ⟨b, bs'.reverse, hb, List.forall₂_reverse_iff.mpr hrest, List.reverse_concat⟩

/-- Remarks at moved places are kept or left out as they were. -/
theorem Diagnostic.Moved.noted (hmoves : Position.Moves moves)
    {ds ds' : List Diagnostic} (hds : List.Forall₂ (Diagnostic.Moved moves) ds ds')
    {d d' : Diagnostic} (hd : Diagnostic.Moved moves d d') :
    List.Forall₂ (Diagnostic.Moved moves) (Diagnostic.noted ds d)
      (Diagnostic.noted ds' d') := by
  rcases List.eq_nil_or_concat ds with rfl | ⟨init, last, rfl⟩
  · rw [List.forall₂_nil_left_iff.mp hds]
    exact .cons hd .nil
  · rw [List.concat_eq_append] at hds ⊢
    obtain ⟨init', last', rfl, hinit, hlast⟩ := forall₂_concat_left_iff.mp hds
    have hsame : last.position = d.position ↔ last'.position = d'.position :=
      Relator.rel_eq hmoves.unique hlast.position hd.position
    by_cases h : last.position = d.position
    · rw [noted_of_last h, noted_of_last (hsame.mp h)]
      exact hds
    · rw [noted_of_last_ne h, noted_of_last_ne (mt hsame.mpr h)]
      exact forall₂_concat_left_iff.mpr ⟨_, _, rfl, hds, hd⟩

namespace Cursor

variable {c c' : Cursor}

theorem Moved.current (h : Moved moves c c') :
    Token.Moved moves c.current c'.current := by
  have hpending := h.pending
  cases hfirst : c.pending with
  | nil =>
      rw [hfirst, List.forall₂_nil_left_iff] at hpending
      rw [current_of_pending_nil hfirst, current_of_pending_nil hpending]
      exact h.ending
  | cons token rest =>
      rw [hfirst, List.forall₂_cons_left_iff] at hpending
      obtain ⟨token', rest', htoken, -, hfirst'⟩ := hpending
      rw [current_of_pending hfirst, current_of_pending hfirst']
      exact htoken

theorem simulates_moved (hmoves : Position.Moves moves) : Simulates (Moved moves) 0 := by
  constructor
  · intro c c' h
    exact Or.inl h.current.kind
  · intro c c' h _
    exact h.current.text
  · intro c c' h _
    exact hmoves.line h.current.position
  · intro c c' h _
    refine ⟨?_, h.ending, h.diagnostics⟩
    rw [pending_advance, pending_advance, ← List.drop_one, ← List.drop_one]
    exact List.forall₂_drop 1 h.pending
  · intro c c' h remark
    constructor
    · rw [pending_complain, pending_complain]
      exact h.pending
    · rw [ending_complain, ending_complain]
      exact h.ending
    · rw [diagnostics_complain, diagnostics_complain]
      exact Diagnostic.Moved.noted hmoves h.diagnostics (h.current.remark remark)

end Cursor

end Autopilot
