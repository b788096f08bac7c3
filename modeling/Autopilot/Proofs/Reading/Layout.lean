import Autopilot.Proofs.Cursor.Moved
import Autopilot.Proofs.Grammar.Simulation
import Autopilot.Proofs.Lexer.Longest
import Autopilot.Proofs.Lexer.Spaced
import Autopilot.Proofs.Reading.Segments
import Autopilot.Proofs.Reading.Spelled

/-!
# The layout of a text

The script of a text depends on the kinds and the texts of its tokens only.  What stands
between the tokens on a line, and the stray characters, can be changed at will: the
statements stay on their lines, and so do the remarks, which only change their columns.
-/

namespace Autopilot

/-! ## Moved tokens are read alike -/

namespace Grammar

open Cursor

/-- The script at moved tokens is the same, and so are the remarks, at moved places. -/
theorem script_of_moved {moves : Position → Position → Prop}
    (hmoves : Position.Moves moves) {c c' : Cursor} (h : Moved moves c c') :
    ∃ s c₁ c₁', script c = (.ok s, c₁) ∧ script c' = (.ok s, c₁') ∧
      Moved moves c₁ c₁' := by
  have hsimulates := simulates_moved hmoves
  rcases read_alike hsimulates (skipSeparators_alike hsimulates h) with
    ⟨statements, c₁, c₁', hended, -, hread, hread'⟩ | ⟨_, c₁, c₁', hover, -, -⟩
  · refine ⟨⟨statements⟩, c₁, c₁', ?_, ?_, hended⟩
    · rw [script, hread]
      rfl
    · rw [script, hread', Statement.lowered_zero, List.map_id]
      rfl
  · have hkind := hover.alike.current.kind
    rw [hover.newline, current_kind_eq_eof_iff.mpr hover.ended] at hkind
    cases hkind

end Grammar

/-- Moved tokens give the same script, and the same diagnostics at moved places. -/
theorem Script.ofTokens_of_moved {moves : Position → Position → Prop}
    (hmoves : Position.Moves moves) {body body' : List Token} {ending ending' : Token}
    (hbody : ∀ token ∈ body, token.kind ≠ .eof)
    (hbody' : ∀ token ∈ body', token.kind ≠ .eof) (hending : ending.kind = .eof)
    (h : List.Forall₂ (Token.Moved moves) (body ++ [ending]) (body' ++ [ending'])) :
    ∃ script ds ds', Script.ofTokens (body ++ [ending]) = .ok (script, ds) ∧
      Script.ofTokens (body' ++ [ending']) = .ok (script, ds') ∧
      List.Forall₂ (Diagnostic.Moved moves) ds ds' := by
  obtain ⟨_, _, hsplit, hmoved, hlast⟩ := forall₂_concat_left_iff.mp h
  obtain ⟨rfl, hsame⟩ := List.append_inj' hsplit rfl
  obtain rfl := List.singleton_inj.mp hsame
  have hending' : ending'.kind = .eof := hlast.kind.trans hending
  obtain ⟨c, hc, -, hpending, hend, hds⟩ := Cursor.exists_ofTokens? hbody hending
  obtain ⟨c', hc', -, hpending', hend', hds'⟩ := Cursor.exists_ofTokens? hbody' hending'
  have halike : Cursor.Moved moves c c' := by
    constructor
    · rw [hpending, hpending']
      exact hmoved
    · rw [hend, hend']
      exact hlast
    · rw [hds, hds']
      exact .nil
  obtain ⟨s, c₁, c₁', hread, hread', hended⟩ := Grammar.script_of_moved hmoves halike
  exact ⟨s, c₁.diagnostics, c₁'.diagnostics, ofTokens_of_script hc hread,
    ofTokens_of_script hc' hread', hended.diagnostics⟩

/-! ## The same tokens in two texts -/

/-- The places of tokens are moved to those of the tokens with the same numbers. -/
def movesBetween (tokens tokens' : List Token) (p p' : Position) : Prop :=
  ∃ n : Nat, (tokens.map (·.position))[n]? = some p ∧
    (tokens'.map (·.position))[n]? = some p'

theorem ArePlaced.nodup {tokens : List Token} (h : ArePlaced tokens) :
    (tokens.map (·.position)).Nodup := by
  rw [List.Nodup, List.pairwise_map]
  exact h.increasing.imp Position.ne_of_lt

/-- A token stands as many lines down as there are line breaks among the spelled tokens
before it. -/
theorem ArePlaced.line_of_getElem? {tokens : List Token} (h : ArePlaced tokens) {n : Nat}
    {p : Position} (hp : (tokens.map (·.position))[n]? = some p) :
    p.line = 1 + ((tokens.map Token.spelled).take n).countP (·.1 = .newline) := by
  rw [List.getElem?_map, Option.map_eq_some_iff] at hp
  obtain ⟨token, htoken, rfl⟩ := hp
  obtain ⟨hn, rfl⟩ := List.getElem?_eq_some_iff.mp htoken
  have hsplit : tokens = tokens.take n ++ tokens[n] :: tokens.drop (n + 1) := by
    rw [← List.drop_eq_getElem_cons hn, List.take_append_drop]
  rw [h.line _ _ _ hsplit, ← List.map_take, List.countP_map]
  rfl

section SameTokens

variable {tokens tokens' : List Token}

theorem moves_movesBetween (h : ArePlaced tokens) (h' : ArePlaced tokens')
    (hspelled : tokens'.map Token.spelled = tokens.map Token.spelled) :
    Position.Moves (movesBetween tokens tokens') := by
  constructor
  · rintro p p' ⟨n, hp, hp'⟩
    rw [h.line_of_getElem? hp, h'.line_of_getElem? hp', hspelled]
  · constructor
    · rintro p q p' ⟨m, hp, hp'⟩ ⟨n, hq, hq'⟩
      obtain ⟨hm, -⟩ := List.getElem?_eq_some_iff.mp hp'
      obtain rfl := (List.getElem?_inj hm h'.nodup).mp (hp'.trans hq'.symm)
      exact Option.some.inj (hp.symm.trans hq)
    · rintro p p' q' ⟨m, hp, hp'⟩ ⟨n, hq, hq'⟩
      obtain ⟨hm, -⟩ := List.getElem?_eq_some_iff.mp hp
      obtain rfl := (List.getElem?_inj hm h.nodup).mp (hp.trans hq.symm)
      exact Option.some.inj (hp'.symm.trans hq')

theorem forall₂_movesBetween
    (hspelled : tokens'.map Token.spelled = tokens.map Token.spelled) :
    List.Forall₂ (Token.Moved (movesBetween tokens tokens')) tokens tokens' := by
  have hlength : tokens.length = tokens'.length := by
    simpa using (congrArg List.length hspelled).symm
  refine List.forall₂_iff_get.mpr ⟨hlength, ?_⟩
  intro n hn hn'
  have hsame : (tokens'.map Token.spelled)[n]? = (tokens.map Token.spelled)[n]? :=
    congrArg (·[n]?) hspelled
  simp only [List.getElem?_map, List.getElem?_eq_getElem hn,
    List.getElem?_eq_getElem hn', Option.map_some, Option.some.injEq] at hsame
  obtain ⟨hkind, htext⟩ := Prod.mk.inj hsame
  refine ⟨hkind, htext, n, ?_, ?_⟩
  · rw [List.getElem?_map, List.getElem?_eq_getElem hn]
    rfl
  · rw [List.getElem?_map, List.getElem?_eq_getElem hn']
    rfl

end SameTokens

/-- The same diagnostic on the same line. -/
structure Diagnostic.SameBesideColumn (d d' : Diagnostic) : Prop where
  eq : d' = { d with position := d'.position }
  line : d'.position.line = d.position.line

theorem Diagnostic.Moved.sameBesideColumn {moves : Position → Position → Prop}
    (hmoves : Position.Moves moves) {d d' : Diagnostic} (h : Diagnostic.Moved moves d d') :
    d.SameBesideColumn d' :=
  ⟨h.eq, hmoves.line h.position⟩

/-- Two readings are the same but for the columns and the stray characters. -/
structure Reading.SameBesideColumns (reading again : Reading) : Prop where
  tokens : again.tokens.map Token.spelled = reading.tokens.map Token.spelled
  script : again.script = reading.script
  diagnostics : List.Forall₂ Diagnostic.SameBesideColumn reading.parserDiagnostics
    again.parserDiagnostics

/-- Texts with the same tokens, wherever these stand, are read alike. -/
theorem Reading.exists_sameBesideColumns {text other : String}
    (h : (tokenize other).1.map Token.spelled = (tokenize text).1.map Token.spelled) :
    ∃ reading again, ofText text = .ok reading ∧ ofText other = .ok again ∧
      again.lexerDiagnostics = (tokenize other).2 ∧ reading.SameBesideColumns again := by
  obtain ⟨body, ending, htokens, hending, hbody, hplaced⟩ := exists_tokenize text
  obtain ⟨body', ending', htokens', -, hbody', hplaced'⟩ := exists_tokenize other
  rw [htokens, htokens'] at h
  have hmoves := moves_movesBetween hplaced hplaced' h
  obtain ⟨script, ds, ds', hread, hread', hds⟩ :=
    Script.ofTokens_of_moved hmoves hbody hbody' hending (forall₂_movesBetween h)
  rw [← htokens] at hread
  rw [← htokens'] at hread'
  refine ⟨_, _, ofText_of_ofTokens hread, ofText_of_ofTokens hread', rfl, ?_, rfl, ?_⟩
  · rw [htokens, htokens']
    exact h
  · exact hds.imp fun _ _ hmoved => hmoved.sameBesideColumn hmoves

/-! ## Texts that are laid out anew -/

/-- The tokens of a text come back when they are laid out. -/
theorem tokenize_layOut_tokenize (text : String) :
    ∀ source ∈ [layOut ((tokenize text).1.dropLast.map Token.spelled),
        layOut ((tokenize text).1.map Token.spelled)],
      (tokenize source).1.map Token.spelled = (tokenize text).1.map Token.spelled ∧
        (tokenize source).2 = [] := by
  obtain ⟨body, ending, htokens, hending, hbody, -⟩ := exists_tokenize text
  have hspelled : ∀ token ∈ (tokenize text).1, token.IsSpelled :=
    isSpelled_of_mem_tokenize
  rw [htokens, List.forall_mem_append] at hspelled
  obtain ⟨hfront, hlast⟩ := hspelled
  have hend : ending.spelled = (.eof, "") := by
    have hempty := hlast ending List.mem_cons_self
    rw [Token.IsSpelled, hending] at hempty
    rw [Token.spelled, hending, hempty]
  rw [htokens, List.dropLast_concat, List.map_append, List.map_singleton, hend]
  apply tokenize_of_mem_layOuts
  · exact List.forall_mem_map.mpr hbody
  · exact List.forall_mem_map.mpr hfront

/-- Tokens that are legally spelled come back when they are laid out, without a
diagnostic.  So a text that is laid out anew from its tokens is read as before but for
the columns, and all texts with the same tokens are read alike. -/
theorem Reading.ofText_layOut :
    (∀ spelled : List (TokenKind × String), (∀ entry ∈ spelled, entry.1.Admits entry.2) →
      ∀ source ∈ [layOut spelled, layOut (spelled ++ [(.eof, "")])],
        (tokenize source).1.map Token.spelled = spelled ++ [(.eof, "")] ∧
          (tokenize source).2 = []) ∧
    (∀ text : String, ∃ reading, ofText text = .ok reading ∧
      ∀ source ∈ [layOut (reading.tokens.dropLast.map Token.spelled),
          layOut (reading.tokens.map Token.spelled)],
        ∃ again, ofText source = .ok again ∧ again.lexerDiagnostics = [] ∧
          reading.SameBesideColumns again) ∧
    ∀ text other : String,
      (tokenize other).1.map Token.spelled = (tokenize text).1.map Token.spelled →
      ∃ reading again, ofText text = .ok reading ∧ ofText other = .ok again ∧
        reading.SameBesideColumns again := by
  refine ⟨?_, ?_, ?_⟩
  · intro spelled h
    refine tokenize_of_mem_layOuts (fun entry hentry => (h entry hentry).ne_eof) ?_
    intro entry hentry
    exact (admits_iff_spells (h entry hentry).ne_eof).mp (h entry hentry)
  · intro text
    obtain ⟨reading, -, hread, -, -, -⟩ :=
      exists_sameBesideColumns (rfl : (tokenize text).1.map Token.spelled = _)
    refine ⟨reading, hread, ?_⟩
    rw [tokens_eq_of_ofText hread]
    intro source hsource
    obtain ⟨hspelled, hclean⟩ := tokenize_layOut_tokenize text source hsource
    obtain ⟨before, again, hbefore, hagain, hlexer, hsame⟩ :=
      exists_sameBesideColumns hspelled
    obtain rfl := Except.ok.inj (hread.symm.trans hbefore)
    exact ⟨again, hagain, hlexer.trans hclean, hsame⟩
  · intro text other h
    obtain ⟨reading, again, hread, hread', -, hsame⟩ := exists_sameBesideColumns h
    exact ⟨reading, again, hread, hread', hsame⟩

/-- Tokens that would merge without the blanks, and a comment that makes no difference. -/
theorem Reading.ofText_layOut_neighbours :
    let spelled : List (TokenKind × String) :=
      [(.ifWord, "iF"), (.identifier, "iffy"), (.lessThan, "<"), (.equalTo, "=="),
        (.number, "1.5")]
    (∀ source ∈ ["iF iffy < == 1.5", "iF iffy < == 1.5 "],
      (tokenize source).1.map Token.spelled = spelled ++ [(.eof, "")] ∧
        (tokenize source).2 = []) ∧
    ∃ reading again, ofText "land\n" = .ok reading ∧
      ofText "\tland # home\r\n" = .ok again ∧ reading.SameBesideColumns again := by
  intro spelled
  have hadmits : ∀ entry ∈ spelled, entry.1.Admits entry.2 := by
    have hif : TokenKind.ifWord.Admits "iF" :=
      (admits_iff_spells (by decide)).mpr ⟨by decide, by decide⟩
    have hname : TokenKind.identifier.Admits "iffy" :=
      (admits_iff_spells (by decide)).mpr ⟨by decide, by decide⟩
    have hnumber : IsNumeral "1.5".toList := Or.inr ⟨['1'], ['5'], rfl, rfl, rfl⟩
    simp only [spelled, List.forall_mem_cons]
    exact ⟨hif, hname, .mark rfl, .mark rfl, .number hnumber, by simp⟩
  have hlaidOut : layOut spelled = "iF iffy < == 1.5" := by decide
  have hlaidOutAll : layOut (spelled ++ [(.eof, "")]) = "iF iffy < == 1.5 " := by decide
  have htokens : (tokenize "\tland # home\r\n").1.map Token.spelled =
      (tokenize "land\n").1.map Token.spelled := by decide +kernel
  obtain ⟨hlaid, -, hsame⟩ := Reading.ofText_layOut
  refine ⟨?_, hsame _ _ htokens⟩
  rw [← hlaidOut, ← hlaidOutAll]
  exact hlaid spelled hadmits

end Autopilot
