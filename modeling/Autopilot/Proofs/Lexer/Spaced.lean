import Autopilot.Proofs.Grammar.Spelled
import Autopilot.Proofs.Lexer.Spelled

/-!
# Tokens in a row

Tokens that are written one behind the other with a blank between any two of them are
cut off again as they were written: none of them merges with its neighbours, and none
falls apart.
-/

namespace Autopilot

/-- The texts of tokens, with a blank between any two of them. -/
def layOut (spelled : List (TokenKind × String)) : String :=
  String.intercalate " " (spelled.map (·.2))

namespace Lexeme

/-- The lexemes that a token is written as.  The end token is written as nothing. -/
def ofSpelled (entry : TokenKind × String) : List Lexeme :=
  if entry.1 = .eof then [] else [token entry.1 entry.2.toList]

/-- The lexemes of tokens with a blank between any two of them. -/
def spaced : List (TokenKind × String) → List Lexeme
  | [] => []
  | [entry] => ofSpelled entry
  | entry :: next :: others => ofSpelled entry ++ space :: spaced (next :: others)

section Entry

variable {entry : TokenKind × String}

theorem chars_ofSpelled (h : entry.1.Spells entry.2) :
    (ofSpelled entry).flatMap chars = entry.2.toList := by
  obtain ⟨kind, text⟩ := entry
  rw [ofSpelled]
  by_cases hend : kind = .eof
  · obtain rfl := hend
    obtain rfl : text = "" := h
    rfl
  · rw [if_neg hend, List.flatMap_singleton, chars_token]

theorem allLead_ofSpelled (h : entry.1.Spells entry.2) {rest : List Char}
    (hrest : StartsBlank rest) : AllLead rest (ofSpelled entry) := by
  rw [ofSpelled]
  by_cases hend : entry.1 = .eof
  · rw [if_pos hend]
    trivial
  · rw [if_neg hend]
    exact ⟨h.leads hend hrest, trivial⟩

theorem spelling_ofSpelled :
    spelling (ofSpelled entry) = [entry].filter (·.1 ≠ .eof) := by
  rw [ofSpelled]
  by_cases hend : entry.1 = .eof
  · simp [hend, spelling]
  · simp [hend, spelling, spelled?]

theorem strays_ofSpelled : strays (ofSpelled entry) = [] := by
  rw [ofSpelled]
  by_cases hend : entry.1 = .eof
  · rw [if_pos hend, strays_nil]
  · rw [if_neg hend, strays_cons, stray?_token, strays_nil, Option.toList_none,
      List.append_nil]

end Entry

section Row

variable {spelled : List (TokenKind × String)}

theorem chars_spaced (h : ∀ entry ∈ spelled, entry.1.Spells entry.2) :
    (spaced spelled).flatMap chars = (layOut spelled).toList := by
  fun_induction spaced spelled with
  | case1 => rfl
  | case2 entry =>
      rw [chars_ofSpelled (h entry List.mem_cons_self), layOut, List.map_singleton,
        String.intercalate_singleton]
  | case3 entry next others ih =>
      obtain ⟨hentry, hothers⟩ := List.forall_mem_cons.mp h
      rw [List.flatMap_append, List.flatMap_cons, chars_ofSpelled hentry, ih hothers]
      simp only [layOut, List.map_cons, String.intercalate_cons_cons,
        String.toList_append, List.append_assoc]
      rfl

theorem allLead_spaced (h : ∀ entry ∈ spelled, entry.1.Spells entry.2) :
    AllLead [] (spaced spelled) := by
  fun_induction spaced spelled with
  | case1 => trivial
  | case2 entry => exact allLead_ofSpelled (h entry List.mem_cons_self) startsBlank_nil
  | case3 entry next others ih =>
      obtain ⟨hentry, hothers⟩ := List.forall_mem_cons.mp h
      rw [allLead_append]
      refine ⟨allLead_ofSpelled hentry ?_, leads_blank _, ih hothers⟩
      intro c hc
      obtain rfl : ' ' = c := by simpa using hc
      rfl

theorem spelling_spaced (spelled : List (TokenKind × String)) :
    spelling (spaced spelled) = spelled.filter (·.1 ≠ .eof) := by
  fun_induction spaced spelled with
  | case1 => rfl
  | case2 entry => exact spelling_ofSpelled
  | case3 entry next others ih =>
      rw [spelling_append, spelling_cons, spelled?_space, ih, spelling_ofSpelled,
        Option.toList_none, List.nil_append, ← List.filter_append, List.singleton_append]

theorem strays_spaced (spelled : List (TokenKind × String)) :
    strays (spaced spelled) = [] := by
  fun_induction spaced spelled with
  | case1 => rfl
  | case2 entry => exact strays_ofSpelled
  | case3 entry next others ih =>
      rw [strays_append, strays_cons, strays_ofSpelled, ih, stray?_blank]
      rfl

end Row

end Lexeme

/-- Spelled tokens that are laid out come back, without a diagnostic. -/
theorem tokenize_layOut {spelled : List (TokenKind × String)}
    (h : ∀ entry ∈ spelled, entry.1.Spells entry.2) :
    (tokenize (layOut spelled)).1.map Token.spelled =
        spelled.filter (·.1 ≠ .eof) ++ [(.eof, "")] ∧
      (tokenize (layOut spelled)).2 = [] := by
  have hlexemes : lexemes (layOut spelled).toList = Lexeme.spaced spelled := by
    rw [← Lexeme.chars_spaced h]
    exact lexemes_of_allLead (Lexeme.allLead_spaced h)
  constructor
  · rw [tokenize, List.map_append, map_spelled_tokensOf, hlexemes,
      Lexeme.spelling_spaced]
    rfl
  · rw [tokenize, hlexemes]
    exact diagnosticsOf_of_strays (Lexeme.strays_spaced spelled)

/-- It does not matter whether the end token is laid out with the other ones. -/
theorem tokenize_of_mem_layOuts {spelled : List (TokenKind × String)}
    (hkind : ∀ entry ∈ spelled, entry.1 ≠ .eof)
    (h : ∀ entry ∈ spelled, entry.1.Spells entry.2) :
    ∀ source ∈ [layOut spelled, layOut (spelled ++ [(.eof, "")])],
      (tokenize source).1.map Token.spelled = spelled ++ [(.eof, "")] ∧
        (tokenize source).2 = [] := by
  have hkept : spelled.filter (·.1 ≠ .eof) = spelled :=
    List.filter_eq_self.mpr fun entry hentry => decide_eq_true (hkind entry hentry)
  have hall : ∀ entry ∈ spelled ++ [(.eof, "")], entry.1.Spells entry.2 := by
    intro entry hentry
    rcases List.mem_append.mp hentry with hentry | hentry
    · exact h entry hentry
    · obtain rfl := List.mem_singleton.mp hentry
      rfl
  intro source hsource
  simp only [List.mem_cons, List.not_mem_nil, or_false] at hsource
  rcases hsource with rfl | rfl
  · have htokens := tokenize_layOut h
    rw [hkept] at htokens
    exact htokens
  · have htokens := tokenize_layOut hall
    rw [List.filter_append, hkept] at htokens
    simpa using htokens

end Autopilot
