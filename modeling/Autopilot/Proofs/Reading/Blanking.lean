import Autopilot.Proofs.Lexer.LineBreak
import Autopilot.Proofs.Lexer.Pieces
import Autopilot.Proofs.Lexer.Spelled
import Autopilot.Proofs.Reading.Segments

/-!
# Blanks for stray characters

A character that belongs to no token disturbs none of its neighbours.  If a blank is put
in the place of every such character, all other lexemes are cut off as before, so the
text has the tokens that it had, at the places where they were.
-/

namespace Autopilot

open Text

namespace Lexeme

/-- The lexeme, or a blank for a stray character. -/
def blanked : Lexeme → Lexeme
  | stray _ => blank ' '
  | lexeme => lexeme

end Lexeme

/-- The characters of a text, with a blank for every stray one. -/
def blankedText (cs : List Char) : List Char :=
  ((lexemes cs).map Lexeme.blanked).flatMap Lexeme.chars

/-- The characters of a text that starts at a position, with a blank at every place of
a list. -/
def blankOut (places : List Position) (p : Position) : List Char → List Char
  | [] => []
  | c :: cs => (if p ∈ places then ' ' else c) :: blankOut places (p.advance c) cs

/-- The text with a blank at the place of every diagnostic on characters. -/
def cleaned (text : String) : String :=
  String.ofList
    (blankOut ((tokenize text).2.map (·.position)) Position.start text.toList)

theorem blankedText_nil : blankedText [] = [] := by
  rw [blankedText, lexemes]
  rfl

theorem blankedText_cons (c : Char) (cs : List Char) :
    blankedText (c :: cs) =
      (Lexeme.first c cs).1.blanked.chars ++ blankedText (Lexeme.first c cs).2 := by
  rw [blankedText, lexemes]
  rfl

/-! ## What the rest of a text starts with -/

namespace Lexeme

theorem first_point (cs : List Char) : (first '.' cs).1 = stray '.' := by
  cases cs with
  | nil => rfl
  | cons d rest =>
      change (mark '.' (d :: rest)).1 = stray '.'
      simp [mark, pairKind?, single, singleKind?]

theorem head?_chars_blanked_first (c : Char) (cs : List Char) :
    (∃ d, (first c cs).1 = stray d ∧ (first c cs).1.blanked.chars = [' ']) ∨
      c ≠ '.' ∧ ∃ text, (first c cs).1.blanked.chars = c :: text := by
  have hchars := chars_first c cs
  have hne := chars_first_ne_nil c cs
  cases hfirst : (first c cs).1 with
  | stray d => exact Or.inl ⟨d, rfl, rfl⟩
  | _ =>
      right
      constructor
      · rintro rfl
        rw [first_point] at hfirst
        cases hfirst
      · rw [hfirst] at hchars hne
        obtain ⟨d, text, htext⟩ := List.exists_cons_of_ne_nil hne
        rw [htext] at hchars
        obtain ⟨rfl, -⟩ := List.cons.inj hchars
        exact ⟨text, htext⟩

end Lexeme

/-- Where a text has a blank for each stray character, it starts with the character that
it started with, unless that one was stray. -/
theorem head?_blankedText (c : Char) (cs : List Char) :
    (blankedText (c :: cs)).head? = some ' ' ∧ c ≠ '\n' ∨
      (blankedText (c :: cs)).head? = some c ∧ c ≠ '.' := by
  rw [blankedText_cons]
  obtain ⟨d, hstray, hchars⟩ | ⟨hpoint, text, hchars⟩ :=
    Lexeme.head?_chars_blanked_first c cs
  · left
    rw [hchars]
    refine ⟨rfl, ?_⟩
    rintro rfl
    cases hstray
  · right
    rw [hchars]
    exact ⟨rfl, hpoint⟩

/-- What holds of a blank and of the first character of a text holds of the first
character still if there is a blank for each stray one. -/
theorem forall_head?_blankedText {P : Char → Prop} {cs : List Char} (hblank : P ' ')
    (h : ∀ c ∈ cs.head?, P c) : ∀ c ∈ (blankedText cs).head?, P c := by
  intro d hd
  cases cs with
  | nil =>
      rw [blankedText_nil] at hd
      cases hd
  | cons c cs =>
      rcases head?_blankedText c cs with ⟨hhead, -⟩ | ⟨hhead, -⟩
      · obtain rfl := Option.some.inj (hhead.symm.trans hd)
        exact hblank
      · obtain rfl := Option.some.inj (hhead.symm.trans hd)
        exact h c rfl

theorem head?_blankedText_ne_point {cs : List Char} :
    ∀ c ∈ (blankedText cs).head?, c ≠ '.' := by
  intro d hd
  cases cs with
  | nil =>
      rw [blankedText_nil] at hd
      cases hd
  | cons c cs =>
      rcases head?_blankedText c cs with ⟨hhead, -⟩ | ⟨hhead, hpoint⟩
      · obtain rfl := Option.some.inj (hhead.symm.trans hd)
        decide
      · obtain rfl := Option.some.inj (hhead.symm.trans hd)
        exact hpoint

/-- A text that is empty or goes on with a line break still does so. -/
theorem head?_blankedText_newline {cs : List Char} (h : ∀ c ∈ cs.head?, c = '\n') :
    ∀ c ∈ (blankedText cs).head?, c = '\n' := by
  intro d hd
  cases cs with
  | nil =>
      rw [blankedText_nil] at hd
      cases hd
  | cons c cs =>
      obtain rfl := h c rfl
      rcases head?_blankedText '\n' cs with ⟨-, hline⟩ | ⟨hhead, -⟩
      · exact absurd rfl hline
      · exact Option.some.inj (hd.symm.trans hhead)

/-! ## The other lexemes are cut off as before -/

/-- A number is split off where neither a digit nor a point follows. -/
theorem splitNumber_of_head? {digits rest : List Char} (h : IsNumeral digits)
    (hdigit : ∀ c ∈ rest.head?, isDigit c = false) (hpoint : ∀ c ∈ rest.head?, c ≠ '.') :
    splitNumber (digits ++ rest) = (digits, rest) := by
  have halone : splitNumber digits = (digits, []) := by
    have hempty : StartsApart [] := by simp [StartsApart]
    have hsplit := Lexeme.splitNumber_of_isNumeral h hempty
    rwa [List.append_nil] at hsplit
  cases rest with
  | nil => rw [List.append_nil, halone]
  | cons c rest =>
      rw [splitNumber_append_stop (hdigit c rfl) (hpoint c rfl), halone, List.nil_append]

theorem head?_dropWhile {p : Char → Bool} (cs : List Char) :
    ∀ c ∈ (cs.dropWhile p).head?, p c = false := by
  intro c hc
  have hstop := List.head?_dropWhile_not p cs
  rw [Option.mem_def.mp hc] at hstop
  simpa using hstop

theorem isDigit_head?_splitNumber (cs : List Char) :
    ∀ c ∈ (splitNumber cs).2.head?, isDigit c = false := by
  rw [splitNumber]
  split
  · rename_i d rest hdrop
    split
    · exact head?_dropWhile rest
    · intro c hc
      obtain rfl : '.' = c := Option.some.inj hc
      rfl
  · exact head?_dropWhile cs

namespace Lexeme

/-- A mark is cut off as before if there are blanks for the stray characters behind
it. -/
theorem leads_blanked_mark {c : Char} {cs : List Char}
    (hfirst : ∀ ds, first c ds = mark c ds) :
    (mark c cs).1.blanked.Leads (blankedText (mark c cs).2) := by
  have hsingle : (∀ d ∈ cs.head?, pairKind? c d = none) →
      (single c).blanked.Leads (blankedText cs) := by
    intro hpair
    rw [single]
    cases hkind : singleKind? c with
    | none => exact leads_blank _
    | some kind =>
        apply leads_single _ hfirst
        · rw [single, hkind]
        · exact forall_head?_blankedText (by simp [pairKind?]) hpair
  cases cs with
  | nil => exact hsingle (fun d hd => by cases hd)
  | cons d rest =>
      cases hpair : pairKind? c d with
      | none =>
          have hmark : mark c (d :: rest) = (single c, d :: rest) := by rw [mark, hpair]
          rw [hmark]
          apply hsingle
          intro e he
          obtain rfl : d = e := Option.some.inj he
          exact hpair
      | some kind =>
          have hmark : ∀ ds, mark c (d :: ds) = (token kind [c, d], ds) := by
            intro ds
            rw [mark, hpair]
          rw [hmark]
          refine ⟨c, [d], rfl, ?_⟩
          rw [hfirst]
          exact hmark _

theorem leads_comment {text rest : List Char} (htext : ∀ d ∈ text, d ≠ '\n')
    (hrest : ∀ d ∈ rest.head?, d = '\n') : (comment ('#' :: text)).Leads rest := by
  have hall : ∀ d ∈ text, (decide (d ≠ '\n')) = true := by simpa using htext
  have hstop : ∀ d ∈ rest.head?, (decide (d ≠ '\n')) = false := by simpa using hrest
  refine ⟨'#', text, rfl, ?_⟩
  change (comment ('#' :: (text ++ rest).takeWhile _), (text ++ rest).dropWhile _) = _
  rw [takeWhile_append_of_all hall hstop, dropWhile_append_of_all hall hstop]

theorem leads_number_of_head? {digits rest : List Char} (h : IsNumeral digits)
    (hdigit : ∀ c ∈ rest.head?, isDigit c = false) (hpoint : ∀ c ∈ rest.head?, c ≠ '.') :
    (token .number digits).Leads rest := by
  have hsplit := splitNumber_of_head? h hdigit hpoint
  obtain ⟨d, ds, rfl, hd⟩ := exists_of_isNumeral h
  refine ⟨d, ds, rfl, ?_⟩
  rw [first_of_isDigit _ hd, ← List.cons_append, hsplit]

/-- The first lexeme of a text is cut off as before, or is a blank now, if there are
blanks for the stray characters behind it. -/
theorem leads_blanked_first (c : Char) (cs : List Char) :
    (first c cs).1.blanked.Leads (blankedText (first c cs).2) := by
  -- The cases are those of `first`, in their order.
  by_cases hblank : isBlank c = true
  · have hfirst : ∀ ds, first c ds = (blank c, ds) := by
      intro ds
      rw [first, if_pos hblank]
    rw [hfirst]
    exact ⟨c, [], rfl, hfirst _⟩
  by_cases hhash : c = '#'
  · subst hhash
    apply leads_comment
    · intro d hd
      simpa using List.all_eq_true.mp List.all_takeWhile d hd
    · apply head?_blankedText_newline
      intro d hd
      simpa using head?_dropWhile cs d hd
  by_cases hline : c = '\n'
  · subst hline
    exact leads_newline _
  by_cases hstart : isWordStart c = true
  · have hword : isWord (String.ofList (c :: cs.takeWhile isWordPart)) = true := by
      simp [isWord, hstart, List.all_takeWhile]
    have hapart : StartsApart (blankedText (cs.dropWhile isWordPart)) := by
      intro d hd
      have hpart := forall_head?_blankedText (P := fun c => isWordPart c = false) rfl
        (head?_dropWhile cs) d hd
      exact ⟨hpart, head?_blankedText_ne_point d hd⟩
    have hleads := leads_word hword hapart
    rw [String.toList_ofList] at hleads
    rw [first_of_isWordStart cs hstart]
    exact hleads
  by_cases hdigit : isDigit c = true
  · rw [first_of_isDigit cs hdigit]
    exact leads_number_of_head? (isNumeral_splitNumber cs hdigit)
      (forall_head?_blankedText rfl (isDigit_head?_splitNumber (c :: cs)))
      head?_blankedText_ne_point
  · have hfirst : ∀ ds, first c ds = mark c ds := by
      intro ds
      rw [first, if_neg hblank, if_neg hhash, if_neg hline, if_neg hstart, if_neg hdigit]
    rw [hfirst]
    exact leads_blanked_mark hfirst

theorem allLead_blanked (cs : List Char) : AllLead [] ((lexemes cs).map blanked) := by
  fun_induction lexemes cs with
  | case1 => trivial
  | case2 c cs ih =>
      refine ⟨?_, ih⟩
      rw [List.append_nil]
      exact leads_blanked_first c cs

end Lexeme

/-- The lexemes of a text with a blank for each stray character. -/
theorem lexemes_blankedText (cs : List Char) :
    lexemes (blankedText cs) = (lexemes cs).map Lexeme.blanked :=
  lexemes_of_allLead (Lexeme.allLead_blanked cs)

/-! ## Tokens and places -/

namespace Lexeme

/-- A blank takes as much place as a stray character. -/
theorem after_chars_blanked {lexeme : Lexeme} (h : lexeme.Regular) (p : Position) :
    p.after lexeme.blanked.chars = p.after lexeme.chars := by
  cases lexeme with
  | stray c => exact (h.after_chars p).symm
  | _ => rfl

theorem placed_blanked {ls : List Lexeme} (h : ∀ lexeme ∈ ls, lexeme.Regular)
    (p : Position) :
    tokensOf (placedFrom p (ls.map blanked)) = tokensOf (placedFrom p ls) ∧
      diagnosticsOf (placedFrom p (ls.map blanked)) = [] ∧
      p.after ((ls.map blanked).flatMap chars) = p.after (ls.flatMap chars) := by
  induction ls generalizing p with
  | nil => exact ⟨rfl, rfl, rfl⟩
  | cons lexeme ls ih =>
      obtain ⟨hregular, hrest⟩ := List.forall_mem_cons.mp h
      obtain ⟨htokens, hdiagnostics, hend⟩ := ih hrest (p.after lexeme.chars)
      rw [List.map_cons, List.flatMap_cons, List.flatMap_cons, Position.after_append,
        Position.after_append, placedFrom, placedFrom, tokensOf_cons, tokensOf_cons,
        diagnosticsOf_cons, after_chars_blanked hregular, htokens, hdiagnostics, hend]
      cases lexeme <;> exact ⟨rfl, rfl, rfl⟩

end Lexeme

/-! ## Blanks by place -/

theorem blankOut_append (places : List Position) (p : Position) (cs ds : List Char) :
    blankOut places p (cs ++ ds) =
      blankOut places p cs ++ blankOut places (p.after cs) ds := by
  induction cs generalizing p with
  | nil => rfl
  | cons c cs ih =>
      rw [List.cons_append, blankOut, blankOut, ih, Position.after_cons, List.cons_append]

/-- Nothing changes where none of the places is. -/
theorem blankOut_eq_self {places : List Position} {p : Position} {cs : List Char}
    (h : ∀ q ∈ places, q < p ∨ ¬ q < p.after cs) : blankOut places p cs = cs := by
  induction cs generalizing p with
  | nil => rfl
  | cons c cs ih =>
      have hp : p ∉ places := by
        intro hmem
        rcases h p hmem with hlt | hnot
        · exact Position.lt_irrefl p hlt
        · exact hnot (Position.lt_after p (List.cons_ne_nil c cs))
      have hrest : ∀ q ∈ places, q < p.advance c ∨ ¬ q < (p.advance c).after cs := by
        intro q hq
        rcases h q hq with hlt | hnot
        · exact Or.inl (Position.lt_trans hlt (p.lt_advance c))
        · exact Or.inr hnot
      rw [blankOut, if_neg hp, ih hrest]

namespace Lexeme

/-- The places of the diagnostics among some lexemes, the first one of which stands at a
position. -/
def strayPlaces (p : Position) (ls : List Lexeme) : List Position :=
  (diagnosticsOf (placedFrom p ls)).map (·.position)

theorem strayPlaces_cons (p : Position) (lexeme : Lexeme) (ls : List Lexeme) :
    strayPlaces p (lexeme :: ls) =
      (lexeme.diagnostic? p).toList.map (·.position) ++
        strayPlaces (p.after lexeme.chars) ls := by
  rw [strayPlaces, placedFrom, diagnosticsOf_cons, List.map_append]
  rfl

theorem not_lt_of_mem_strayPlaces {p q : Position} {ls : List Lexeme}
    (h : ∀ lexeme ∈ ls, lexeme.Regular) (hq : q ∈ strayPlaces p ls) : ¬ q < p := by
  obtain ⟨d, hd, rfl⟩ := List.mem_map.mp hq
  apply (pairwise_placedFrom p fun lexeme hlexeme => (h lexeme hlexeme).ne_nil).2
  exact List.mem_append_left _ (mem_of_mem_diagnosticsOf hd)

/-- A blank is put in the place of a stray character, and nowhere in another lexeme. -/
theorem blankOut_chars {lexeme : Lexeme} {ls : List Lexeme}
    (h : ∀ other ∈ ls, other.Regular) {before : List Position} {p : Position}
    (hbefore : ∀ q ∈ before, q < p) :
    blankOut (before ++ strayPlaces p (lexeme :: ls)) p lexeme.chars =
      lexeme.blanked.chars := by
  have hothers : lexeme.diagnostic? p = none →
      ∀ q ∈ before ++ strayPlaces p (lexeme :: ls), q < p ∨ ¬ q < p.after lexeme.chars := by
    intro hnone q hq
    rw [strayPlaces_cons, hnone, Option.toList_none, List.map_nil, List.nil_append] at hq
    rcases List.mem_append.mp hq with hq | hq
    · exact Or.inl (hbefore q hq)
    · exact Or.inr (not_lt_of_mem_strayPlaces h hq)
  cases lexeme with
  | stray c =>
      have hmem : p ∈ before ++ strayPlaces p (stray c :: ls) := by
        rw [strayPlaces_cons]
        apply List.mem_append_right
        apply List.mem_append_left
        have hplace : (strayRemark p c).position = p :=
          position_of_diagnostic? (rfl : (stray c).diagnostic? p = _)
        exact List.mem_map.mpr ⟨strayRemark p c, List.mem_singleton_self _, hplace⟩
      rw [chars, blankOut, if_pos hmem]
      rfl
  | _ => exact blankOut_eq_self (hothers rfl)

/-- Blanks at the places of the diagnostics, and at others before them, are blanks for
the stray characters. -/
theorem blankOut_strayPlaces {ls : List Lexeme} (h : ∀ lexeme ∈ ls, lexeme.Regular)
    {before : List Position} {p : Position} (hbefore : ∀ q ∈ before, q < p) :
    blankOut (before ++ strayPlaces p ls) p (ls.flatMap chars) =
      (ls.map blanked).flatMap chars := by
  induction ls generalizing before p with
  | nil => rfl
  | cons lexeme ls ih =>
      obtain ⟨hregular, hrest⟩ := List.forall_mem_cons.mp h
      have hstep : p < p.after lexeme.chars := Position.lt_after p hregular.ne_nil
      -- For the others the place of a stray first lexeme is one of those before them.
      have hbefore' : ∀ q ∈ before ++ (lexeme.diagnostic? p).toList.map (·.position),
          q < p.after lexeme.chars := by
        intro q hq
        rcases List.mem_append.mp hq with hq | hq
        · exact Position.lt_trans (hbefore q hq) hstep
        · obtain ⟨d, hd, rfl⟩ := List.mem_map.mp hq
          rw [position_of_diagnostic? (Option.mem_toList.mp hd)]
          exact hstep
      have hothers := ih hrest hbefore'
      rw [List.append_assoc, ← strayPlaces_cons] at hothers
      rw [List.flatMap_cons, blankOut_append, hothers, blankOut_chars hrest hbefore,
        List.map_cons, List.flatMap_cons]

end Lexeme

theorem toList_cleaned (text : String) :
    (cleaned text).toList = blankedText text.toList := by
  have hregular : ∀ lexeme ∈ lexemes text.toList, lexeme.Regular := regular_of_mem_lexemes
  have hnone : ∀ q ∈ ([] : List Position), q < Position.start := by simp
  have hblank := Lexeme.blankOut_strayPlaces hregular hnone
  rw [flatMap_chars_lexemes] at hblank
  rw [cleaned, String.toList_ofList]
  exact hblank

/-- With a blank for every character that has a diagnostic, a text has the tokens that it
had, and no diagnostics on characters. -/
theorem tokenize_cleaned_eq (text : String) :
    tokenize (cleaned text) = ((tokenize text).1, []) := by
  have hregular : ∀ lexeme ∈ lexemes text.toList, lexeme.Regular := regular_of_mem_lexemes
  obtain ⟨htokens, hdiagnostics, hend⟩ := Lexeme.placed_blanked hregular Position.start
  rw [flatMap_chars_lexemes] at hend
  simp only [tokenize]
  rw [toList_cleaned, lexemes_blankedText, htokens, hdiagnostics, blankedText, hend]

/-- Characters that belong to no token are dealt with on their own.  A text in which each
of them is a blank has no diagnostics on characters, the same tokens at the same places,
and is read as the same script with the same remarks. -/
theorem Reading.ofText_cleaned (text : String) :
    tokenize (cleaned text) = ((tokenize text).1, []) ∧
      ∃ reading, Reading.ofText text = .ok reading ∧
        Reading.ofText (cleaned text) = .ok { reading with lexerDiagnostics := [] } := by
  have htokenize := tokenize_cleaned_eq text
  obtain ⟨reading, -, -, hread, -, -⟩ := Reading.exists_isCut text
  refine ⟨htokenize, reading, hread, ?_⟩
  cases hscript : Script.ofTokens (tokenize text).1 with
  | error fault =>
      simp only [ofText, hscript] at hread
      cases hread
  | ok result =>
      have hcleaned : Script.ofTokens (tokenize (cleaned text)).1 = .ok result := by
        rw [htokenize, hscript]
      rw [ofText_of_ofTokens hscript] at hread
      rw [ofText_of_ofTokens hcleaned, htokenize, ← Except.ok.inj hread]

end Autopilot
