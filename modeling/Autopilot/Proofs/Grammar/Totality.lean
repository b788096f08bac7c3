import Autopilot.Proofs.Grammar.Acceptance

/-!
# Every list of tokens is read

A list of tokens that closes with an end token is read up to its first end token, be the
tokens as they may: their kinds, texts and places are arbitrary.  Every round of the list
of statements passes a token, so that reading never stalls.
-/

namespace Autopilot

/-- A list that closes with an end token has a first one. -/
theorem exists_firstEnd {tokens : List Token}
    (h : ∃ last ∈ tokens.getLast?, last.kind = .eof) :
    ∃ body first behind, tokens = body ++ first :: behind ∧
      (∀ token ∈ body, token.kind ≠ .eof) ∧ first.kind = .eof := by
  obtain ⟨last, hlast, hkind⟩ := h
  have hsome : (tokens.find? (·.kind = .eof)).isSome = true := by
    rw [List.find?_isSome]
    exact ⟨last, List.mem_of_getLast? hlast, decide_eq_true hkind⟩
  obtain ⟨first, hfind⟩ := Option.isSome_iff_exists.mp hsome
  obtain ⟨hfirst, body, behind, hsplit, hbody⟩ := List.find?_eq_some_iff_append.mp hfind
  refine ⟨body, first, behind, hsplit, ?_, of_decide_eq_true hfirst⟩
  intro token htoken
  simpa using hbody token htoken

/-- From wherever a cursor stands, reading a script ends at the end token. -/
theorem Grammar.exists_script (c : Cursor) :
    ∃ script c', Grammar.script c = (.ok script, c') ∧ c'.current = c.ending ∧
      c'.position = c.position + c.pending.length := by
  obtain ⟨segments, c', hread, -, -, hpending, hending, hposition, -⟩ :=
    exists_segments_script c
  refine ⟨_, c', hread, ?_, hposition⟩
  rw [Cursor.current_of_pending_nil hpending, hending]

/-- Every list of tokens that closes with an end token gives a script.  The cursor ends on
the first end token, and what is behind that token makes no difference. -/
theorem Script.exists_ofTokens {tokens : List Token}
    (h : ∃ last ∈ tokens.getLast?, last.kind = .eof) :
    let firstEnd := tokens.findIdx (·.kind = .eof)
    ∃ c script c', Cursor.ofTokens? tokens = .ok c ∧
      Grammar.script c = (.ok script, c') ∧
      c'.position = firstEnd ∧ tokens[firstEnd]? = some c'.current ∧
      c'.current.kind = .eof ∧
      Script.ofTokens tokens = .ok (script, c'.diagnostics) ∧
      Script.ofTokens (tokens.take (firstEnd + 1)) = .ok (script, c'.diagnostics) := by
  intro firstEnd
  obtain ⟨body, first, behind, rfl, hbody, hfirst⟩ := exists_firstEnd h
  have hindex : firstEnd = body.length := Cursor.findIdx_firstEnd hbody hfirst
  have hcut : (body ++ first :: behind).take (firstEnd + 1) = body ++ [first] := by
    rw [hindex, List.take_length_add_append]
    rfl
  have hwhole := Cursor.ofTokens?_eq_ok hbody hfirst h
  have hfront : Cursor.ofTokens? (body ++ [first]) = _ :=
    Cursor.ofTokens?_eq_ok hbody hfirst ⟨first, by simp, hfirst⟩
  obtain ⟨script, c', hscript, hcurrent, hposition⟩ :=
    Grammar.exists_script ⟨0, body, first, [], hbody, hfirst⟩
  refine ⟨_, script, c', hwhole, hscript, ?_, ?_, ?_, ofTokens_of_script hwhole hscript, ?_⟩
  · rw [hposition, hindex, Nat.zero_add]
  · rw [hcurrent, hindex]
    simp
  · rw [hcurrent]
    exact hfirst
  · rw [hcut]
    exact ofTokens_of_script hfront hscript

/-- Two `ELSE` and an end token at one place, and more tokens behind them: the cursor ends
on the first end token. -/
theorem Script.exists_ofTokens_two_ends :
    let otherwise : Token := ⟨.elseWord, "ELSE", .start⟩
    let name : Token := ⟨.identifier, "dance", .start⟩
    let tokens := [otherwise, otherwise, .ending .start, name, .ending .start]
    (∃ last ∈ tokens.getLast?, last.kind = .eof) ∧
      ∃ c script c', Cursor.ofTokens? tokens = .ok c ∧
        Grammar.script c = (.ok script, c') ∧ c'.position = 2 ∧
        Script.ofTokens tokens = .ok (script, c'.diagnostics) ∧
        Script.ofTokens [otherwise, otherwise, .ending .start] =
          .ok (script, c'.diagnostics) := by
  intro otherwise name tokens
  have hlast : ∃ last ∈ tokens.getLast?, last.kind = .eof :=
    ⟨.ending .start, rfl, rfl⟩
  obtain ⟨c, script, c', hc, hscript, hposition, -, -, hwhole, hcut⟩ :=
    Script.exists_ofTokens hlast
  exact ⟨hlast, c, script, c', hc, hscript, hposition, hwhole, hcut⟩

end Autopilot
