import Autopilot.Lexer.Basic

/-!
# The places of tokens

The tokens of a text stand at growing positions, and a token stands on as many lines
below the first one as there are line breaks among the tokens before it: no comment,
word or number reaches over a line break.  So it makes no difference whether places are
counted by characters or by lexemes, each of which takes up as many columns as it has
characters unless it is a line break.
-/

namespace Autopilot

open Text

namespace Position

theorem line_advance (p : Position) (c : Char) :
    (p.advance c).line = p.line + if c = '\n' then 1 else 0 := by
  rw [advance]
  split <;> rfl

theorem line_after (p : Position) (cs : List Char) :
    (p.after cs).line = p.line + cs.count '\n' := by
  induction cs generalizing p with
  | nil => rfl
  | cons c cs ih =>
      rw [after_cons, ih, line_advance, List.count_cons]
      by_cases hc : c = '\n'
      · simp only [hc, beq_self_eq_true, if_true]
        omega
      · simp only [hc, beq_iff_eq, if_false]
        omega

/-- Behind characters that stay on the line the column has grown by their number. -/
theorem after_of_notMem (p : Position) {cs : List Char} (h : '\n' ∉ cs) :
    p.after cs = p.right cs.length := by
  induction cs generalizing p with
  | nil => rfl
  | cons c cs ih =>
      have hc : c ≠ '\n' := fun heq => h (heq ▸ List.mem_cons_self)
      have hcs : '\n' ∉ cs := fun hmem => h (List.mem_cons_of_mem c hmem)
      rw [after_cons, ih (p.advance c) hcs, advance, if_neg hc]
      simp only [right, mk.injEq, true_and, List.length_cons]
      omega

theorem lt_after (p : Position) {cs : List Char} (h : cs ≠ []) : p < p.after cs := by
  induction cs generalizing p with
  | nil => exact absurd rfl h
  | cons c cs ih =>
      have hfirst := lt_advance p c
      by_cases hnil : cs = []
      · rw [hnil]
        exact hfirst
      · exact lt_trans hfirst (ih (p.advance c) hnil)

end Position

namespace Lexeme

/-- The number of line breaks that a lexeme stands for. -/
def lineBreaks : Lexeme → Nat
  | token .newline _ => 1
  | _ => 0

/-- The place behind a lexeme that starts at a place, counted by the lexeme as a whole: a
line break leads to the next line, any other lexeme as many columns further on as it has
characters. -/
def behind (p : Position) (lexeme : Lexeme) : Position :=
  match lexeme.lineBreaks with
  | 0 => p.right lexeme.chars.length
  | _ + 1 => p.nextLine

/-- What all lexemes of a text have in common.  A line break is a token of its own,
and no lexeme is an end token. -/
structure Regular (lexeme : Lexeme) : Prop where
  ne_nil : lexeme.chars ≠ []
  kind_ne : ∀ text, lexeme ≠ token .eof text
  line_breaks : lexeme.chars.count '\n' = lexeme.lineBreaks
  newline : lexeme.lineBreaks ≠ 0 → lexeme.chars = ['\n']

/-- It is the same to count characters and to count lexemes. -/
theorem Regular.after_chars {lexeme : Lexeme} (h : lexeme.Regular) (p : Position) :
    p.after lexeme.chars = behind p lexeme := by
  rw [behind]
  split
  · rename_i hbreaks
    apply Position.after_of_notMem
    rw [← List.count_eq_zero, h.line_breaks, hbreaks]
  · rename_i hbreaks
    rw [h.newline (by omega)]
    rfl

/-- The place behind lexemes is found by counting lexeme after lexeme. -/
theorem after_flatMap_chars {ls : List Lexeme} (h : ∀ lexeme ∈ ls, lexeme.Regular)
    (p : Position) : p.after (ls.flatMap chars) = ls.foldl behind p := by
  induction ls generalizing p with
  | nil => rfl
  | cons lexeme ls ih =>
      obtain ⟨hlexeme, hrest⟩ := List.forall_mem_cons.mp h
      rw [List.flatMap_cons, Position.after_append, hlexeme.after_chars, ih hrest,
        List.foldl_cons]

theorem lineBreaks_token (kind : TokenKind) (text : List Char) :
    (token kind text).lineBreaks = if kind = .newline then 1 else 0 := by
  by_cases hkind : kind = .newline
  · rw [hkind]
    rfl
  · simp [lineBreaks, hkind]

theorem regular_token {kind : TokenKind} {text : List Char} (hne : text ≠ [])
    (hkind : kind ≠ .eof ∧ kind ≠ .newline) (hline : '\n' ∉ text) :
    (token kind text).Regular := by
  have hbreaks : (token kind text).lineBreaks = 0 := by
    rw [lineBreaks_token, if_neg hkind.2]
  refine ⟨hne, ?_, ?_, fun hne => absurd hbreaks hne⟩
  · rintro _ ⟨⟩
    exact hkind.1 rfl
  · rw [hbreaks]
    exact List.count_eq_zero.mpr hline

end Lexeme

/-- A word is a name or a keyword. -/
theorem wordKind_ne (word : List Char) :
    wordKind word ≠ .eof ∧ wordKind word ≠ .newline := by
  have hkeywords : ∀ entry ∈ keywords, entry.2 ≠ .eof ∧ entry.2 ≠ .newline := by
    decide
  unfold wordKind keywordKind?
  cases hkind : keywords.lookup (Text.lowercase (String.ofList word)) with
  | none =>
      rw [Option.getD_none]
      decide
  | some kind =>
      obtain ⟨front, back, hsplit, -⟩ := List.lookup_eq_some_iff.mp hkind
      have hmem : (Text.lowercase (String.ofList word), kind) ∈ keywords := by
        rw [hsplit]
        simp
      exact hkeywords _ hmem

theorem pairKind?_ne {c d : Char} {kind : TokenKind} (h : pairKind? c d = some kind) :
    (kind ≠ .eof ∧ kind ≠ .newline) ∧ c ≠ '\n' ∧ d ≠ '\n' := by
  grind [pairKind?]

theorem singleKind?_ne {c : Char} {kind : TokenKind} (h : singleKind? c = some kind) :
    kind ≠ .eof ∧ kind ≠ .newline := by
  grind [singleKind?]

theorem not_mem_takeWhile {p : Char → Bool} {c : Char} (h : p c = false)
    (cs : List Char) : c ∉ cs.takeWhile p := by
  intro hmem
  have hc := List.all_eq_true.mp List.all_takeWhile c hmem
  rw [h] at hc
  cases hc

/-- A number is made of digits and at most a point. -/
theorem isDigit_or_of_mem_splitNumber {c : Char} {cs : List Char}
    (h : c ∈ (splitNumber cs).1) : isDigit c = true ∨ c = '.' := by
  have hdigits : ∀ ds : List Char, c ∈ ds.takeWhile isDigit → isDigit c = true := by
    intro ds hmem
    exact List.all_eq_true.mp List.all_takeWhile c hmem
  rw [splitNumber] at h
  split at h
  · rename_i d rest hdrop
    split at h
    · rename_i hd
      simp only [List.mem_append, List.mem_cons] at h
      rcases h with h | rfl | rfl | h
      · exact Or.inl (hdigits cs h)
      · exact Or.inr rfl
      · exact Or.inl hd
      · exact Or.inl (hdigits rest h)
    · exact Or.inl (hdigits cs h)
  · exact Or.inl (hdigits cs h)

namespace Lexeme

theorem regular_single {c : Char} (hc : c ≠ '\n') : (single c).Regular := by
  rw [single]
  split
  · rename_i kind hkind
    exact regular_token (by simp) (singleKind?_ne hkind) (by simpa using hc.symm)
  · exact ⟨by simp [chars], by simp, by simp [chars, lineBreaks, hc], fun h => absurd rfl h⟩

theorem regular_mark {c : Char} (hc : c ≠ '\n') (cs : List Char) :
    (mark c cs).1.Regular := by
  cases cs with
  | nil => exact regular_single hc
  | cons d rest =>
      rw [mark]
      split
      · rename_i kind hkind
        obtain ⟨hne, hc, hd⟩ := pairKind?_ne hkind
        exact regular_token (by simp) hne (by simpa using ⟨hc.symm, hd.symm⟩)
      · exact regular_single hc

theorem regular_first (c : Char) (cs : List Char) : (first c cs).1.Regular := by
  rw [first]
  split
  · rename_i hblank
    have hc : c ≠ '\n' := by
      rintro rfl
      exact absurd hblank (by decide)
    exact ⟨by simp [chars], by simp, by simp [chars, lineBreaks, hc], fun h => absurd rfl h⟩
  split
  · rename_i hc
    have hrest := not_mem_takeWhile (p := (· ≠ '\n')) (c := '\n') (by simp) cs
    refine ⟨by simp [chars], by simp, ?_, fun h => absurd rfl h⟩
    apply List.count_eq_zero.mpr
    simpa [chars, hc] using hrest
  split
  · rename_i hc
    rw [hc]
    exact ⟨by simp [chars], by simp, rfl, fun _ => rfl⟩
  rename_i hc
  split
  · have hrest := not_mem_takeWhile (p := isWordPart) (c := '\n') (by decide) cs
    apply regular_token (by simp) (wordKind_ne _)
    simpa using ⟨Ne.symm hc, hrest⟩
  split
  · rename_i hdigit
    apply regular_token (splitNumber_cons_ne_nil cs hdigit) (by decide)
    intro hmem
    rcases isDigit_or_of_mem_splitNumber hmem with h | h
    · exact absurd h (by decide)
    · exact absurd h (by decide)
  · exact regular_mark hc cs

end Lexeme

theorem regular_of_mem_lexemes {cs : List Char} :
    ∀ lexeme ∈ lexemes cs, lexeme.Regular := by
  fun_induction lexemes cs with
  | case1 => simp
  | case2 c cs ih =>
      intro lexeme hmem
      rcases List.mem_cons.mp hmem with rfl | hmem
      · exact Lexeme.regular_first c cs
      · exact ih lexeme hmem

namespace Lexeme

theorem placedFrom_append (p : Position) (front back : List Lexeme) :
    placedFrom p (front ++ back) =
      placedFrom p front ++ placedFrom (p.after (front.flatMap chars)) back := by
  induction front generalizing p with
  | nil => rfl
  | cons lexeme front ih =>
      rw [List.cons_append, placedFrom, ih, List.flatMap_cons, Position.after_append]
      rfl

theorem tokensOf_cons (p : Position) (lexeme : Lexeme)
    (placed : List (Position × Lexeme)) :
    tokensOf ((p, lexeme) :: placed) = (lexeme.token? p).toList ++ tokensOf placed := by
  cases htoken : lexeme.token? p with
  | none => simp [tokensOf, htoken]
  | some token => simp [tokensOf, htoken]

/-- The places of lexemes, and the place behind the last one, grow. -/
theorem pairwise_placedFrom (p : Position) {ls : List Lexeme}
    (h : ∀ lexeme ∈ ls, lexeme.chars ≠ []) :
    ((placedFrom p ls).map (·.1) ++ [p.after (ls.flatMap chars)]).Pairwise (· < ·) ∧
      ∀ q ∈ (placedFrom p ls).map (·.1) ++ [p.after (ls.flatMap chars)],
        ¬ q < p := by
  induction ls generalizing p with
  | nil => simp [placedFrom, Position.lt_irrefl]
  | cons lexeme ls ih =>
      obtain ⟨hlexeme, hothers⟩ := List.forall_mem_cons.mp h
      obtain ⟨hpairwise, hbound⟩ := ih (p.after lexeme.chars) hothers
      have hstep := Position.lt_after p hlexeme
      rw [placedFrom, List.map_cons, List.cons_append, List.flatMap_cons,
        Position.after_append]
      have hlt : ∀ q ∈ (placedFrom (p.after lexeme.chars) ls).map (·.1) ++
          [(p.after lexeme.chars).after (ls.flatMap chars)], p < q := by
        intro q hq
        have hnot := hbound q hq
        rw [Position.lt_iff] at *
        omega
      constructor
      · exact List.pairwise_cons.mpr ⟨hlt, hpairwise⟩
      · intro q hq hqp
        rcases List.mem_cons.mp hq with rfl | hq
        · exact Position.lt_irrefl _ hqp
        · exact Position.lt_irrefl _ (Position.lt_trans hqp (hlt q hq))

theorem position_tokensOf_sublist (placed : List (Position × Lexeme)) :
    List.Sublist ((tokensOf placed).map (·.position)) (placed.map (·.1)) := by
  induction placed with
  | nil => exact List.Sublist.slnil
  | cons first placed ih =>
      obtain ⟨p, lexeme⟩ := first
      rw [tokensOf_cons]
      cases lexeme with
      | token kind text => exact ih.cons_cons p
      | _ => exact ih.cons p

/-- A token is as many lines further down as there are line breaks before it. -/
theorem line_of_tokensOf {p : Position} {ls : List Lexeme}
    (h : ∀ lexeme ∈ ls, lexeme.Regular) {front back : List Token} {found : Token}
    (hsplit : tokensOf (placedFrom p ls) ++ [Token.ending (p.after (ls.flatMap chars))] =
      front ++ found :: back) :
    found.position.line = p.line + front.countP (·.kind = .newline) := by
  induction ls generalizing p front with
  | nil =>
      cases front with
      | nil =>
          rw [(List.cons.inj hsplit).1.symm]
          rfl
      | cons first front => simp [tokensOf, placedFrom] at hsplit
  | cons lexeme ls ih =>
      obtain ⟨hregular, hrest⟩ := List.forall_mem_cons.mp h
      have hline := Position.line_after p lexeme.chars
      rw [hregular.line_breaks] at hline
      rw [placedFrom, tokensOf_cons, List.flatMap_cons, Position.after_append,
        List.append_assoc] at hsplit
      cases lexeme with
      | token kind text =>
          cases front with
          | nil =>
              rw [(List.cons.inj hsplit).1.symm]
              rfl
          | cons first front =>
              obtain ⟨hfirst, hsplit⟩ := List.cons.inj hsplit
              rw [ih hrest hsplit, hline, lineBreaks_token, List.countP_cons,
                ← hfirst]
              simp only [decide_eq_true_eq]
              omega
      | _ => exact (ih hrest hsplit).trans (by rw [hline]; rfl)

/-- No token before the end of the text is an end token. -/
theorem kind_ne_of_mem_tokensOf {p : Position} {ls : List Lexeme}
    (h : ∀ lexeme ∈ ls, lexeme.Regular) :
    ∀ token ∈ tokensOf (placedFrom p ls), token.kind ≠ .eof := by
  induction ls generalizing p with
  | nil => simp [placedFrom, tokensOf]
  | cons lexeme ls ih =>
      intro found hfound
      obtain ⟨hregular, hrest⟩ := List.forall_mem_cons.mp h
      rw [placedFrom, tokensOf_cons] at hfound
      rcases List.mem_append.mp hfound with hfound | hfound
      · cases lexeme with
        | token kind text =>
            obtain rfl := List.mem_singleton.mp hfound
            rintro rfl
            exact hregular.kind_ne text rfl
        | _ => exact absurd hfound List.not_mem_nil
      · exact ih hrest found hfound

end Lexeme

/-- Tokens that stand one behind the other, where a line break ends a line and
nothing else does. -/
structure ArePlaced (tokens : List Token) : Prop where
  increasing : tokens.Pairwise fun a b => a.position < b.position
  line : ∀ front token back, tokens = front ++ token :: back →
    token.position.line = 1 + front.countP (·.kind = .newline)

theorem exists_tokenize (text : String) :
    ∃ body ending, (tokenize text).1 = body ++ [ending] ∧ ending.kind = .eof ∧
      (∀ token ∈ body, token.kind ≠ .eof) ∧ ArePlaced (body ++ [ending]) := by
  have hregular : ∀ lexeme ∈ lexemes text.toList, lexeme.Regular :=
    regular_of_mem_lexemes
  have hchars : ∀ lexeme ∈ lexemes text.toList, lexeme.chars ≠ [] := by
    intro lexeme hlexeme
    exact (hregular lexeme hlexeme).ne_nil
  have htext := flatMap_chars_lexemes text.toList
  refine ⟨_, _, rfl, rfl, Lexeme.kind_ne_of_mem_tokensOf hregular, ?_, ?_⟩
  · have hplaces := (Lexeme.pairwise_placedFrom Position.start hchars).1
    have hsublist := Lexeme.position_tokensOf_sublist
      (Lexeme.placedFrom Position.start (lexemes text.toList))
    rw [htext] at hplaces
    have hpairwise := hplaces.sublist (hsublist.append (List.Sublist.refl _))
    rw [← List.pairwise_map]
    simpa [Token.ending] using hpairwise
  · intro front token back hsplit
    change token.position.line = Position.start.line + _
    refine Lexeme.line_of_tokensOf hregular (?_ : _ = front ++ token :: back)
    rw [htext]
    exact hsplit

end Autopilot
