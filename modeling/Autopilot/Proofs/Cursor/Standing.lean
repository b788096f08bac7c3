import Autopilot.Cursor.Operation
import Autopilot.Proofs.Grammar.Steps
import Autopilot.Proofs.Grammar.Totality
import Mathlib.Data.List.Chain

/-!
# Where a cursor stands

Whatever is asked of a cursor, in whatever order, it stands on a token of its list.  It
never moves back and never beyond the first end token; it adds diagnostics only behind
those that there are, and never two in a row at one place.

Every operation is made up of two moves, so that it is enough to know what these two
keep (`Cursor.StandsIn.moves`).
-/

namespace Autopilot

/-- No two diagnostics in a row are at one place. -/
def Diagnostic.Apart (ds : List Diagnostic) : Prop :=
  ds.IsChain fun d e => d.position ≠ e.position

/-- A diagnostic at the place of the last one is left out, so that no two in a row come
to be at one place. -/
theorem Diagnostic.Apart.noted {ds : List Diagnostic} (h : Apart ds) (d : Diagnostic) :
    Apart (Diagnostic.noted ds d) := by
  rw [Diagnostic.noted]
  split
  · exact h
  · rename_i hlast
    apply List.IsChain.append h (List.isChain_singleton d)
    intro last hmem next hnext
    obtain rfl : d = next := by simpa using hnext
    intro hsame
    exact hlast ((Option.any_eq_true _ _).mpr ⟨last, hmem, decide_eq_true hsame⟩)

namespace Cursor

variable {allowed : Diagnostic → Prop} {tokens : List Token} {c c' : Cursor}

/-- A cursor comes after another one: it has not moved back, and has only added
diagnostics. -/
structure Follows (c' c : Cursor) : Prop where
  position : c.position ≤ c'.position
  diagnostics : ∃ made, c'.diagnostics = c.diagnostics ++ made

theorem Follows.refl (c : Cursor) : c.Follows c where
  position := Nat.le_refl _
  diagnostics := ⟨[], (List.append_nil _).symm⟩

/-! ## What a move keeps -/

/-- At the end token there is nowhere to go. -/
theorem advance_of_pending_nil (h : c.pending = []) : c.advance = c := by
  obtain ⟨position, pending, ending, ds, hpending, hending⟩ := c
  obtain rfl : pending = [] := h
  rfl

theorem apart_moves (h : Diagnostic.Apart c.diagnostics) (hmoves : Moves allowed c c') :
    Diagnostic.Apart c'.diagnostics := by
  cases hmoves with
  | pass => exact h
  | note d =>
      rw [diagnostics_report]
      exact h.noted d

theorem ComesTo.apart (hcomes : c.ComesTo allowed c')
    (h : Diagnostic.Apart c.diagnostics) : Diagnostic.Apart c'.diagnostics := by
  induction hcomes with
  | refl => exact h
  | tail _ hmoves ih => exact apart_moves ih hmoves

namespace StandsIn

theorem moves (h : c.StandsIn tokens) (hmoves : Moves allowed c c') :
    c'.StandsIn tokens := by
  cases hmoves with
  | pass => exact h.advance
  | note d => exact h.report d

theorem comesTo (h : c.StandsIn tokens) (hcomes : c.ComesTo allowed c') :
    c'.StandsIn tokens := by
  induction hcomes with
  | refl => exact h
  | tail _ hmoves ih => exact ih.moves hmoves

/-- A list of tokens that closes with an end token has a cursor at its start. -/
theorem of_ofTokens? (hlast : ∃ last ∈ tokens.getLast?, last.kind = .eof) :
    ∃ c, ofTokens? tokens = .ok c ∧ c.StandsIn tokens ∧ c.position = 0 ∧
      c.diagnostics = [] := by
  obtain ⟨body, first, behind, rfl, hbody, hfirst⟩ := exists_firstEnd hlast
  have hstart := ofTokens?_eq_ok hbody hfirst hlast
  exact ⟨_, hstart, standsIn_of_ofTokens? hstart⟩

end StandsIn

theorem ComesTo.position_le (h : c.ComesTo allowed c') : c.position ≤ c'.position := by
  induction h with
  | refl => exact Nat.le_refl _
  | @tail c₁ _ _ hmoves ih =>
      apply Nat.le_trans ih
      cases hmoves with
      | pass =>
          rw [position_advance]
          split
          · exact Nat.le_refl _
          · exact Nat.le_succ _
      | note d => rw [position_report]

/-- What a cursor has passed and what is pending make up the same tokens throughout. -/
theorem ComesTo.position_add_length_pending (h : c.ComesTo allowed c') :
    c'.position + c'.pending.length = c.position + c.pending.length := by
  induction h with
  | refl => rfl
  | @tail c₁ _ _ hmoves ih =>
      rw [← ih]
      cases hmoves with
      | pass =>
          by_cases hend : c₁.current.kind = .eof
          · rw [advance_of_pending_nil (current_kind_eq_eof_iff.mp hend)]
          · have hpass := passes_advance hend
            rw [hpass.position, hpass.pending, List.length_append]
            omega
      | note d => rw [position_report, pending_report]

/-- A cursor stays in place or passes a token. -/
theorem ComesTo.stays_or_passes (h : c.ComesTo allowed c') :
    c'.position = c.position ∧ c'.pending.length = c.pending.length ∨
      c.position < c'.position ∧ c'.pending.length < c.pending.length := by
  have hforward := h.position_le
  have hsum := h.position_add_length_pending
  omega

theorem ComesTo.follows (h : c.ComesTo allowed c') : c'.Follows c where
  position := h.position_le
  diagnostics := by
    obtain ⟨made, hmade, -⟩ := h.exists_diagnostics
    exact ⟨made, hmade⟩

/-! ## Operations -/

/-- The cursor takes steps of the two kinds, whatever is remarked. -/
abbrev Wanders : Cursor → Cursor → Prop :=
  ComesTo fun _ => True

theorem IsReadTo.wanders (h : c.IsReadTo c') : c.Wanders c' := by
  refine Relation.ReflTransGen.mono ?_ c c' h
  intro c₁ c₂ hmoves
  cases hmoves with
  | pass => exact .pass
  | note d => exact .note d trivial

/-- An operation moves the cursor by steps of the two kinds only. -/
theorem wanders_apply (c : Cursor) (operation : Operation) :
    c.Wanders (operation.apply c).2 := by
  cases operation with
  | bump => exact .advance c
  | eat kind => exact comesTo_eat c kind
  | expect kind remark =>
      rw [Operation.apply, Operation.answered, expect]
      split
      · exact .advance c
      · exact .report c trivial
  | report diagnostic => exact .report c trivial
  | recover recovery => exact recovery.comesTo_recover c
  | list ending element goOn =>
      exact NodeList.comesTo_read (fun c => comesTo_eat c element) (fun _ c => .refl c) c
  | skipSeparators => exact Grammar.comesTo_skipSeparators c
  | script => exact (Grammar.isReadTo_script c).wanders
  | statement => exact (Grammar.isReadTo_statement c).wanders
  | conditional => exact (Grammar.isReadTo_conditional c).wanders
  | fallback => exact (Grammar.isReadTo_fallback c).wanders
  | command => exact (Grammar.isReadTo_command c).wanders
  | condition => exact (Grammar.isReadTo_condition c).wanders
  | term => exact (Grammar.isReadTo_term c).wanders
  | operand => exact (Grammar.isReadTo_operand c).wanders
  | current | isAt | isAtAny | unexpected | found => exact .refl c

/-- Looking at the progress of a cursor does not move it. -/
theorem wanders_run (c : Cursor) (progress : Progress) (step : Step) :
    c.Wanders (step.run c progress).2.1 := by
  cases step with
  | operation operation => exact wanders_apply c operation
  | progressed => exact .refl c
  | requireProgress => exact .refl c

/-- The cursor after operations, one after the other. -/
def afterAll (c : Cursor) (operations : List Operation) : Cursor :=
  operations.foldl (fun c operation => (operation.apply c).2) c

theorem afterAll_concat (c : Cursor) (operations : List Operation) (last : Operation) :
    c.afterAll (operations ++ [last]) = (last.apply (c.afterAll operations)).2 :=
  List.foldl_concat ..

theorem wanders_afterAll (c : Cursor) (operations : List Operation) :
    c.Wanders (c.afterAll operations) := by
  induction operations generalizing c with
  | nil => exact .refl c
  | cons operation others ih => exact (wanders_apply c operation).trans (ih _)

/-- The steps of the two kinds lead exactly where operations lead. -/
theorem wanders_iff_exists_operations :
    c.Wanders c' ↔ ∃ operations, c' = c.afterAll operations := by
  constructor
  · intro h
    induction h with
    | refl => exact ⟨[], rfl⟩
    | tail _ hmoves ih =>
        obtain ⟨operations, rfl⟩ := ih
        cases hmoves with
        | pass =>
            refine ⟨operations ++ [Operation.bump], ?_⟩
            rw [afterAll_concat, Operation.apply, Operation.answered, bump]
        | note d =>
            refine ⟨operations ++ [Operation.report d], ?_⟩
            rw [afterAll_concat, Operation.apply]
  · rintro ⟨operations, rfl⟩
    exact wanders_afterAll c operations

/-- Operations on a cursor at the start of a list of tokens leave it in the list. -/
theorem StandsIn.afterAll (h : c.StandsIn tokens) (operations : List Operation) :
    (c.afterAll operations).StandsIn tokens :=
  h.comesTo (wanders_afterAll c operations)

/-! ## Sequences of steps -/

/-- The cursors of a sequence of steps: the one that it starts with, and then one after
each step. -/
def stations (c : Cursor) (progress : Progress) : List Step → List Cursor
  | [] => [c]
  | step :: others =>
    let after := (step.run c progress).2
    c :: stations after.1 after.2 others

theorem head?_stations (c : Cursor) (progress : Progress) (steps : List Step) :
    (stations c progress steps).head? = some c := by
  cases steps with
  | nil => rfl
  | cons step others => rfl

theorem length_stations (c : Cursor) (progress : Progress) (steps : List Step) :
    (stations c progress steps).length = steps.length + 1 := by
  induction steps generalizing c progress with
  | nil => rfl
  | cons step others ih => rw [stations, List.length_cons, ih, List.length_cons]

/-- At every station the cursor stands in its tokens, no two of its diagnostics in a row
are at one place, and it comes after the one before. -/
theorem StandsIn.stations (h : c.StandsIn tokens) (hapart : Diagnostic.Apart c.diagnostics)
    (progress : Progress) (steps : List Step) :
    (∀ station ∈ stations c progress steps,
        station.StandsIn tokens ∧ Diagnostic.Apart station.diagnostics) ∧
      (stations c progress steps).IsChain fun before after => after.Follows before := by
  induction steps generalizing c progress with
  | nil =>
      rw [Cursor.stations]
      exact ⟨by simpa using ⟨h, hapart⟩, List.isChain_singleton c⟩
  | cons step others ih =>
      have hwanders := wanders_run c progress step
      obtain ⟨hstands, hfollows⟩ :=
        ih (h.comesTo hwanders) (hwanders.apart hapart) (step.run c progress).2.2
      rw [Cursor.stations]
      refine ⟨List.forall_mem_cons.mpr ⟨⟨h, hapart⟩, hstands⟩, hfollows.cons ?_⟩
      intro after hafter
      rw [head?_stations] at hafter
      obtain rfl := Option.some.inj hafter
      exact hwanders.follows

/-- Whatever is asked of a cursor over a list of tokens that closes with an end token: after
every step its position is at least what it was before and at most that of the first end
token, it stands on the token at its position, diagnostics have only been added behind
those that there were, and no two in a row are at one place. -/
theorem stations_standIn (hlast : ∃ last ∈ tokens.getLast?, last.kind = .eof)
    (progress : Progress) (steps : List Step) :
    ∃ start, ofTokens? tokens = .ok start ∧ start.position = 0 ∧ start.diagnostics = [] ∧
      (stations start progress steps).length = steps.length + 1 ∧
      (stations start progress steps)[0]? = some start ∧
      ∀ stage before after, (stations start progress steps)[stage]? = some before →
        (stations start progress steps)[stage + 1]? = some after →
        before.position ≤ after.position ∧
        after.position ≤ tokens.findIdx (·.kind = .eof) ∧
        tokens[after.position]? = some after.current ∧
        (∃ made, after.diagnostics = before.diagnostics ++ made) ∧
        after.diagnostics.IsChain fun d e => d.position ≠ e.position := by
  obtain ⟨start, hstart, hstands, hposition, hdiagnostics⟩ :=
    StandsIn.of_ofTokens? hlast
  refine ⟨start, hstart, hposition, hdiagnostics, length_stations _ _ _, ?_, ?_⟩
  · rw [← List.head?_eq_getElem?, head?_stations]
  · intro stage before after hbefore hafter
    have hapart : Diagnostic.Apart start.diagnostics := by
      rw [hdiagnostics]
      exact List.isChain_nil
    obtain ⟨hall, hchain⟩ := hstands.stations hapart progress steps
    obtain ⟨hstation, hdistinct⟩ := hall after (List.mem_of_getElem? hafter)
    obtain ⟨hstage, rfl⟩ := List.getElem?_eq_some_iff.mp hafter
    obtain ⟨_, rfl⟩ := List.getElem?_eq_some_iff.mp hbefore
    have hfollows := List.isChain_iff_getElem.mp hchain stage hstage
    exact ⟨hfollows.position, hstation.position_le, hstation.getElem?_position,
      hfollows.diagnostics, hdistinct⟩

/-- Two `ELSE` and an end token at one place, and more tokens behind them: of the remarks
that three steps make at this place only the first is kept, and the cursor stays on the
first end token. -/
theorem stations_standIn_two_ends :
    let otherwise : Token := ⟨.elseWord, "ELSE", .start⟩
    let name : Token := ⟨.identifier, "dance", .start⟩
    let tokens := [otherwise, otherwise, .ending .start, name, .ending .start]
    let steps : List Step :=
      [.operation (.expect .thenWord .expectedThen), .operation .fallback,
        .operation .bump, .operation .bump, .operation .statement]
    (∃ last ∈ tokens.getLast?, last.kind = .eof) ∧
      ∃ start, ofTokens? tokens = .ok start ∧
        (stations start {} steps).map (·.position) = [0, 0, 1, 2, 2, 2] ∧
        (stations start {} steps).map (·.diagnostics.length) = [0, 1, 1, 1, 1, 1] ∧
        ∀ stage before after, (stations start {} steps)[stage]? = some before →
          (stations start {} steps)[stage + 1]? = some after →
          before.position ≤ after.position ∧ after.position ≤ 2 := by
  intro otherwise name tokens steps
  have hlast : ∃ last ∈ tokens.getLast?, last.kind = .eof := ⟨.ending .start, rfl, rfl⟩
  obtain ⟨start, hstart, -, -, -, -, hstages⟩ := stations_standIn hlast {} steps
  obtain rfl : start = ⟨0, [otherwise, otherwise], .ending .start, [], by decide, rfl⟩ :=
    (Except.ok.inj hstart).symm
  refine ⟨hlast, _, hstart, rfl, rfl, ?_⟩
  intro stage before after hbefore hafter
  obtain ⟨hforward, hend, -⟩ := hstages stage before after hbefore hafter
  exact ⟨hforward, hend⟩

end Cursor

end Autopilot
