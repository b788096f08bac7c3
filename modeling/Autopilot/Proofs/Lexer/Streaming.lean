import Autopilot.Lexer.Stream
import Autopilot.Proofs.Lexer.LineBreak
import Autopilot.Proofs.Lexer.Pieces

/-!
# Reading tokens in any order of requests

A lexer that is asked for the next token, and for all tokens that are left, in any order,
gives the tokens of the text one after the other, and has recorded the diagnostics of
what it has passed.  Where it stands is told by the lexemes that it has passed: a request
takes it over some more of them, and each of them moves it on by its length.
-/

namespace Autopilot

open Lexeme

theorem diagnosticsOf_append (front back : List (Position × Lexeme)) :
    diagnosticsOf (front ++ back) = diagnosticsOf front ++ diagnosticsOf back :=
  List.filterMap_append

theorem tokensOf_append (front back : List (Position × Lexeme)) :
    tokensOf (front ++ back) = tokensOf front ++ tokensOf back :=
  List.filterMap_append

/-- The end token of a text. -/
def endOf (text : String) : Token :=
  Token.ending (Position.start.after text.toList)

namespace Lexer

/-- The tokens given for requests one after the other, and the lexer after them. -/
def answerAll (lexer : Lexer) : List Request → List Token × Lexer
  | [] => ([], lexer)
  | request :: rest =>
    let first := lexer.answer request
    let following := first.2.answerAll rest
    (first.1 ++ following.1, following.2)

/-- A lexeme moves a lexer on by its length, and a line break moves it to the next line. -/
theorem position_pass_first (lexer : Lexer) (c : Char) (cs : List Char) :
    (lexer.pass (first c cs).1 (first c cs).2).position =
      behind lexer.position (first c cs).1 :=
  (regular_first c cs).after_chars lexer.position

/-- A lexer has passed the first ones of the lexemes of a text: it stands behind them and
has recorded their diagnostics. -/
structure HasPassed (text : String) (passed : List Lexeme) (lexer : Lexer) : Prop where
  lexemes : lexemes text.toList = passed ++ Autopilot.lexemes lexer.rest
  position : lexer.position = Position.start.after (passed.flatMap chars)
  diagnostics : lexer.diagnostics = diagnosticsOf (placedFrom Position.start passed)
  rest_of_finished : lexer.finished = true → lexer.rest = []

variable {text : String} {passed : List Lexeme} {lexer : Lexer}

theorem hasPassed_ofText (text : String) : (ofText text).HasPassed text [] where
  lexemes := rfl
  position := rfl
  diagnostics := rfl
  rest_of_finished := by
    intro hfinished
    cases hfinished

namespace HasPassed

theorem finished_eq_false {c : Char} {cs : List Char} (h : lexer.HasPassed text passed)
    (hrest : lexer.rest = c :: cs) : lexer.finished = false := by
  rw [Bool.eq_false_iff]
  intro hfinished
  rw [h.rest_of_finished hfinished] at hrest
  cases hrest

/-- A lexer at the end of its text has passed all lexemes. -/
theorem lexemes_of_rest (h : lexer.HasPassed text passed) (hrest : lexer.rest = []) :
    Autopilot.lexemes text.toList = passed := by
  rw [h.lexemes, hrest, Autopilot.lexemes, List.append_nil]

theorem position_of_rest (h : lexer.HasPassed text passed) (hrest : lexer.rest = []) :
    lexer.position = Position.start.after text.toList := by
  rw [h.position, ← h.lexemes_of_rest hrest, flatMap_chars_lexemes]

theorem regular (h : lexer.HasPassed text passed) : ∀ lexeme ∈ passed, lexeme.Regular := by
  intro lexeme hlexeme
  have hmem : lexeme ∈ Autopilot.lexemes text.toList := by
    rw [h.lexemes]
    exact List.mem_append_left _ hlexeme
  exact regular_of_mem_lexemes lexeme hmem

/-- Where a lexer stands is found by counting the lexemes that it has passed. -/
theorem position_eq_foldl (h : lexer.HasPassed text passed) :
    lexer.position = passed.foldl behind Position.start := by
  rw [h.position, after_flatMap_chars h.regular]

/-- The next lexeme is passed. -/
theorem pass {c : Char} {cs : List Char} (h : lexer.HasPassed text passed)
    (hrest : lexer.rest = c :: cs) :
    (lexer.pass (first c cs).1 (first c cs).2).HasPassed text
      (passed ++ [(first c cs).1]) where
  lexemes := by
    rw [h.lexemes, hrest, Autopilot.lexemes, List.append_assoc, List.singleton_append]
    rfl
  position := by
    rw [List.flatMap_append, List.flatMap_singleton, Position.after_append, ← h.position]
    rfl
  diagnostics := by
    rw [placedFrom_append, diagnosticsOf_append, ← h.diagnostics, ← h.position, placedFrom,
      diagnosticsOf_cons]
    exact congrArg (lexer.diagnostics ++ ·) (List.append_nil _).symm
  rest_of_finished := by
    intro hfinished
    rw [Lexer.pass, h.finished_eq_false hrest] at hfinished
    cases hfinished

end HasPassed

/-- The tokens among the first lexemes of a text. -/
def tokensAmong (passed : List Lexeme) : List Token :=
  tokensOf (placedFrom Position.start passed)

namespace HasPassed

theorem tokensAmong_concat (h : lexer.HasPassed text passed) (lexeme : Lexeme) :
    tokensAmong (passed ++ [lexeme]) =
      tokensAmong passed ++ (lexeme.token? lexer.position).toList := by
  rw [tokensAmong, placedFrom_append, tokensOf_append, ← h.position, placedFrom,
    tokensOf_cons]
  exact congrArg (tokensAmong passed ++ ·) (List.append_nil _)

/-- Asked for the next token, a lexer goes on to the next lexeme that is a token, or to
the end of the text. -/
theorem next (h : lexer.HasPassed text passed) :
    ∃ passed', lexer.next.2.HasPassed text passed' ∧
      (lexer.next.2.finished = false ∧
          tokensAmong passed' = tokensAmong passed ++ [lexer.next.1] ∨
        lexer.next.2.finished = true ∧ tokensAmong passed' = tokensAmong passed ∧
          lexer.next.1 = endOf text) := by
  fun_induction Lexer.next lexer generalizing passed with
  | case1 lexer hrest =>
      refine ⟨passed, ?_, Or.inr ⟨rfl, rfl, ?_⟩⟩
      · exact ⟨h.lexemes, h.position, h.diagnostics, fun _ => hrest⟩
      · rw [h.position_of_rest hrest]
        rfl
  | case2 lexer c cs hrest after token =>
      rename_i htoken
      refine ⟨_, h.pass hrest, Or.inl ⟨h.finished_eq_false hrest, ?_⟩⟩
      rw [h.tokensAmong_concat, htoken]
      rfl
  | case3 lexer c cs hrest after htoken =>
      rename_i ih
      have hsame := h.tokensAmong_concat (first c cs).1
      rw [htoken, Option.toList_none, List.append_nil] at hsame
      rw [← hsame]
      exact ih (h.pass hrest)

end HasPassed

/-- A lexer that has given the end token gives it again, and does nothing else. -/
theorem next_of_finished (h : lexer.HasPassed text passed)
    (hfinished : lexer.finished = true) : lexer.next = (endOf text, lexer) := by
  have hrest := h.rest_of_finished hfinished
  rw [Lexer.next]
  split
  · rw [endOf, ← h.position_of_rest hrest, ← hfinished]
  · rename_i c cs hcons
    rw [hrest] at hcons
    cases hcons

theorem lex_of_finished (h : lexer.finished = true) : lexer.lex = ([], lexer) := by
  rw [lex, dif_pos h]

/-- A lexer has given tokens of a text, and then the end token a number of times. -/
structure HasGiven (text : String) (given : List Token) (ends : Nat) (lexer : Lexer) :
    Prop where
  tokens : ∃ passed, lexer.HasPassed text passed ∧
    given = tokensAmong passed ++ List.replicate ends (endOf text)
  finished_iff : lexer.finished = true ↔ 0 < ends

namespace HasGiven

variable {given : List Token} {ends : Nat}

/-- One more token is given: another one of the text, or the end token. -/
theorem next (h : lexer.HasGiven text given ends) :
    ∃ ends', lexer.next.2.HasGiven text (given ++ [lexer.next.1]) ends' ∧
      ends' ≤ ends + 1 := by
  obtain ⟨⟨passed, hpassed, rfl⟩, hfinished_iff⟩ := h
  by_cases hfinished : lexer.finished = true
  · rw [next_of_finished hpassed hfinished]
    refine ⟨ends + 1, ⟨⟨passed, hpassed, ?_⟩, ?_⟩, Nat.le_refl _⟩
    · rw [List.append_assoc, List.replicate_succ']
    · simp [hfinished]
  · obtain rfl : ends = 0 := by
      rw [hfinished_iff] at hfinished
      omega
    rw [List.replicate_zero, List.append_nil]
    obtain ⟨passed', hpassed', ⟨hmore, htokens⟩ | ⟨hend, htokens, hlast⟩⟩ := hpassed.next
    · refine ⟨0, ⟨⟨passed', hpassed', ?_⟩, ?_⟩, Nat.zero_le 1⟩
      · rw [htokens, List.replicate_zero, List.append_nil]
      · simp [hmore]
    · refine ⟨1, ⟨⟨passed', hpassed', ?_⟩, ?_⟩, Nat.le_refl 1⟩
      · rw [htokens, hlast, List.replicate_one]
      · simp [hend]

/-- Asked for all tokens, a lexer that has not given the end token gives what is left and
the end token once. -/
theorem lex (h : lexer.HasGiven text given 0) :
    lexer.lex.2.HasGiven text (given ++ lexer.lex.1) 1 := by
  fun_induction Lexer.lex lexer generalizing given with
  | case1 lexer hfinished =>
      exact absurd (h.finished_iff.mp hfinished) (Nat.lt_irrefl 0)
  | case2 lexer hfinished step =>
      rename_i hstep
      obtain ⟨ends, hgiven, hle⟩ := h.next
      have hpos := hgiven.finished_iff.mp hstep
      obtain rfl : ends = 1 := by omega
      exact hgiven
  | case3 lexer hfinished step hstep following =>
      rename_i ih
      obtain ⟨ends, hgiven, -⟩ := h.next
      have hnone : ¬ 0 < ends := mt hgiven.finished_iff.mpr hstep
      obtain rfl : ends = 0 := by omega
      have hrest := ih hgiven
      rw [List.append_assoc, List.singleton_append] at hrest
      exact hrest

/-- A request is answered with tokens that continue those given before. -/
theorem answer (h : lexer.HasGiven text given ends) (request : Request) :
    ∃ ends', (lexer.answer request).2.HasGiven text (given ++ (lexer.answer request).1)
      ends' := by
  cases request with
  | next =>
      obtain ⟨ends', hgiven, -⟩ := h.next
      exact ⟨ends', hgiven⟩
  | lex =>
      by_cases hfinished : lexer.finished = true
      · rw [Lexer.answer, lex_of_finished hfinished, List.append_nil]
        exact ⟨ends, h⟩
      · obtain rfl : ends = 0 := by
          rw [h.finished_iff] at hfinished
          omega
        exact ⟨1, h.lex⟩

theorem answerAll (h : lexer.HasGiven text given ends) (requests : List Request) :
    ∃ ends', (lexer.answerAll requests).2.HasGiven text
      (given ++ (lexer.answerAll requests).1) ends' := by
  induction requests generalizing lexer given ends with
  | nil =>
      rw [Lexer.answerAll, List.append_nil]
      exact ⟨ends, h⟩
  | cons request rest ih =>
      obtain ⟨ends', hfirst⟩ := h.answer request
      obtain ⟨ends'', hrest⟩ := ih hfirst
      rw [List.append_assoc] at hrest
      exact ⟨ends'', hrest⟩

/-- Tokens among which the end token is none were given before the end. -/
theorem ends_eq_zero (h : lexer.HasGiven text given ends)
    (hgiven : ∀ token ∈ given, token.kind ≠ .eof) : ends = 0 := by
  obtain ⟨⟨passed, -, rfl⟩, -⟩ := h
  rcases Nat.eq_zero_or_pos ends with hzero | hpos
  · exact hzero
  · have hmem : endOf text ∈ tokensAmong passed ++ List.replicate ends (endOf text) :=
      List.mem_append_right _ (List.mem_replicate.mpr ⟨Nat.ne_of_gt hpos, rfl⟩)
    exact absurd rfl (hgiven _ hmem)

/-- The end token was given if it is among the tokens that were given. -/
theorem ends_pos (h : lexer.HasGiven text given ends)
    (hgiven : ∃ token ∈ given, token.kind = .eof) : 0 < ends := by
  obtain ⟨⟨passed, hpassed, rfl⟩, -⟩ := h
  obtain ⟨token, htoken, hkind⟩ := hgiven
  rcases List.mem_append.mp htoken with hamong | hend
  · exact absurd hkind (kind_ne_of_mem_tokensOf hpassed.regular token hamong)
  · exact Nat.pos_of_ne_zero (List.mem_replicate.mp hend).1

/-- With the end token, all tokens of the text have been given. -/
theorem given_eq (h : lexer.HasGiven text given (ends + 1)) :
    given = (tokenize text).1 ++ List.replicate ends (endOf text) := by
  obtain ⟨⟨passed, hpassed, rfl⟩, hfinished⟩ := h
  have hrest := hpassed.rest_of_finished (hfinished.mpr (Nat.succ_pos ends))
  rw [← hpassed.lexemes_of_rest hrest, List.replicate_succ, ← List.singleton_append,
    ← List.append_assoc]
  rfl

end HasGiven

theorem hasGiven_ofText (text : String) : (ofText text).HasGiven text [] 0 where
  tokens := ⟨[], hasPassed_ofText text, rfl⟩
  finished_iff := by simp [ofText]

/-- The diagnostics of a text that stand before a lexer are those that it has recorded. -/
theorem HasPassed.diagnostics_eq_filter (h : lexer.HasPassed text passed) :
    lexer.diagnostics = (tokenize text).2.filter (·.position < lexer.position) := by
  have hchars : ∀ lexeme ∈ passed ++ Autopilot.lexemes lexer.rest, lexeme.chars ≠ [] := by
    rw [← h.lexemes]
    intro lexeme hlexeme
    exact (regular_of_mem_lexemes lexeme hlexeme).ne_nil
  obtain ⟨hpassed, hahead⟩ := List.forall_mem_append.mp hchars
  have hbefore : ∀ d ∈ lexer.diagnostics, d.position < lexer.position := by
    rw [h.diagnostics, h.position]
    intro d hd
    have hplaces := (pairwise_placedFrom Position.start hpassed).1
    exact (List.pairwise_append.mp hplaces).2.2 _ (mem_of_mem_diagnosticsOf hd) _
      (List.mem_singleton_self _)
  have hafter : ∀ d ∈ diagnosticsOf
      (placedFrom lexer.position (Autopilot.lexemes lexer.rest)),
      ¬ d.position < lexer.position := by
    intro d hd
    apply (pairwise_placedFrom lexer.position hahead).2
    exact List.mem_append_left _ (mem_of_mem_diagnosticsOf hd)
  have hall : (tokenize text).2 = lexer.diagnostics ++
      diagnosticsOf (placedFrom lexer.position (Autopilot.lexemes lexer.rest)) := by
    rw [h.diagnostics, h.position, ← diagnosticsOf_append, ← placedFrom_append, ← h.lexemes]
    rfl
  rw [hall, List.filter_append, List.filter_eq_self.mpr, List.filter_eq_nil_iff.mpr,
    List.append_nil]
  · simpa using hafter
  · simpa using hbefore

/-- Whatever a lexer is asked, it gives the tokens of the text in order.  Before the end
token has been given, asking for all tokens gives exactly those that are left.  After
that, only the end token is given again, and nothing changes.  At any time the lexer has
recorded the diagnostics of the text that stand before its position. -/
theorem answerAll_ofText (text : String) (requests : List Request) :
    let given := ((ofText text).answerAll requests).1
    let lexer := ((ofText text).answerAll requests).2
    ((∀ token ∈ given, token.kind ≠ .eof) →
      given ++ (lexer.answer .lex).1 = (tokenize text).1) ∧
    ((∃ token ∈ given, token.kind = .eof) →
      (∃ n, given = (tokenize text).1 ++ List.replicate n (endOf text)) ∧
      lexer.answer .next = ([endOf text], lexer) ∧ lexer.answer .lex = ([], lexer)) ∧
    lexer.diagnostics = (tokenize text).2.filter (·.position < lexer.position) := by
  intro given lexer
  obtain ⟨ends, hgiven⟩ : ∃ ends, lexer.HasGiven text given ends :=
    (hasGiven_ofText text).answerAll requests
  obtain ⟨passed, hpassed, -⟩ := hgiven.tokens
  refine ⟨?_, ?_, hpassed.diagnostics_eq_filter⟩
  · intro hbefore
    obtain rfl := hgiven.ends_eq_zero hbefore
    have hall := hgiven.lex.given_eq
    rw [List.replicate_zero, List.append_nil] at hall
    exact hall
  · intro hended
    have hpos := hgiven.ends_pos hended
    have hfinished := hgiven.finished_iff.mpr hpos
    obtain ⟨n, rfl⟩ : ∃ n, ends = n + 1 := ⟨ends - 1, by omega⟩
    refine ⟨⟨n, hgiven.given_eq⟩, ?_, lex_of_finished hfinished⟩
    rw [answer, next_of_finished hpassed hfinished]

end Lexer

end Autopilot
