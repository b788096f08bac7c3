import Autopilot.Diagnostic.Catalogue
import Autopilot.Token.Basic

/-!
# Cursors

A cursor is a place in a list of tokens together with the diagnostics made so far.  It
moves forward only, and never beyond the first end token: what follows that token in
the list is not seen.  So a cursor keeps of its list only what it can still come to, and
`Cursor.StandsIn` says which place in the whole list this is.

Of several diagnostics in a row at one place only the first is kept.
-/

namespace Autopilot

/-- A place in a list of tokens. -/
structure Cursor where
  /-- How many tokens have been passed. -/
  position : Nat
  /-- The tokens from here to the end token, without it. -/
  pending : List Token
  /-- The end token. -/
  ending : Token
  /-- The diagnostics made so far. -/
  diagnostics : List Diagnostic
  pending_kind_ne : ∀ token ∈ pending, token.kind ≠ .eof
  ending_kind : ending.kind = .eof

namespace Cursor

/-- A cursor at the start of a list of tokens, which has to close with an end token. -/
def ofTokens? (tokens : List Token) : Except Fault Cursor :=
  match hending : tokens.find? (·.kind = .eof) with
  | some ending =>
    if tokens.getLast?.any (·.kind = .eof) then
      .ok {
        position := 0
        pending := tokens.takeWhile (·.kind ≠ .eof)
        ending := ending
        diagnostics := []
        pending_kind_ne := fun token htoken => by
          simpa using List.all_eq_true.mp List.all_takeWhile token htoken
        ending_kind := by simpa using List.find?_some hending }
    else .error .unterminatedTokens
  | none => .error .unterminatedTokens

/-- The token at the cursor. -/
def current (c : Cursor) : Token :=
  c.pending.head?.getD c.ending

/-- Whether the token at the cursor has a kind. -/
def isAt (c : Cursor) (kind : TokenKind) : Bool :=
  c.current.kind = kind

/-- Whether the token at the cursor has one of some kinds. -/
def isAtAny (c : Cursor) (kinds : List TokenKind) : Bool :=
  kinds.contains c.current.kind

/-- The cursor after the current token; the end token is never passed. -/
def advance (c : Cursor) : Cursor where
  position := if c.pending.isEmpty then c.position else c.position + 1
  pending := c.pending.tail
  ending := c.ending
  diagnostics := c.diagnostics
  pending_kind_ne := fun token htoken =>
    c.pending_kind_ne token (List.mem_of_mem_tail htoken)
  ending_kind := c.ending_kind

/-- The current token, and the cursor after it. -/
def bump (c : Cursor) : Token × Cursor :=
  (c.current, c.advance)

/-- The current token if it has a kind, and the cursor after it in that case. -/
def eat (c : Cursor) (kind : TokenKind) : Option Token × Cursor :=
  if c.isAt kind then (some c.current, c.advance) else (none, c)

/-- The cursor with one more diagnostic, unless the last one is at the same place. -/
def report (c : Cursor) (d : Diagnostic) : Cursor :=
  if c.diagnostics.getLast?.any (·.position = d.position) then c
  else { c with diagnostics := c.diagnostics ++ [d] }

/-- A remark at the current token that names what was found there. -/
def unexpected (c : Cursor) (remark : Remark) : Diagnostic :=
  remark.placed c.current.position
    (some (remark.message ++ ", got " ++ c.current.found)) none

/-- The cursor with a remark on the current token. -/
def complain (c : Cursor) (remark : Remark) : Cursor :=
  c.report (c.unexpected remark)

/-- The current token if it has a kind; otherwise a remark is made. -/
def expect (c : Cursor) (kind : TokenKind) (remark : Remark) :
    Option Token × Cursor :=
  if c.isAt kind then (some c.current, c.advance) else (none, c.complain remark)

/-- The cursor is at the end token exactly when nothing is pending. -/
theorem isAt_eof_iff {c : Cursor} : c.isAt .eof = true ↔ c.pending = [] := by
  unfold isAt current
  cases hpending : c.pending with
  | nil => simp [c.ending_kind]
  | cons token rest =>
    have hkind := c.pending_kind_ne token (by simp [hpending])
    simp [hkind]

@[simp]
theorem pending_advance (c : Cursor) : c.advance.pending = c.pending.tail := rfl

@[simp]
theorem pending_report (c : Cursor) (d : Diagnostic) :
    (c.report d).pending = c.pending := by
  unfold report
  split <;> rfl

@[simp]
theorem pending_complain (c : Cursor) (remark : Remark) :
    (c.complain remark).pending = c.pending :=
  pending_report c _

/-! ## The place in the whole list -/

/-- A cursor stands in a list of tokens: from its position on, the list has the tokens
that are pending and then its first end token. -/
structure StandsIn (c : Cursor) (tokens : List Token) : Prop where
  firstEnd : c.position + c.pending.length = tokens.findIdx (·.kind = .eof)
  rest : c.pending ++ [c.ending] <+: tokens.drop c.position

/-- The position grows by one unless the current token is an end token. -/
theorem position_advance (c : Cursor) :
    c.advance.position = if c.isAt .eof then c.position else c.position + 1 := by
  have hguard : c.pending.isEmpty = true ↔ c.isAt .eof = true := by
    rw [List.isEmpty_iff, isAt_eof_iff]
  by_cases hend : c.isAt .eof = true
  · rw [if_pos hend]
    exact if_pos (hguard.mpr hend)
  · rw [if_neg hend]
    exact if_neg (mt hguard.mp hend)

theorem position_report (c : Cursor) (d : Diagnostic) :
    (c.report d).position = c.position := by
  rw [report]
  split
  · rfl
  · rfl

theorem ending_report (c : Cursor) (d : Diagnostic) :
    (c.report d).ending = c.ending := by
  rw [report]
  split
  · rfl
  · rfl

namespace StandsIn

variable {c : Cursor} {tokens : List Token}

/-- The current token is the one in the list at the position of the cursor. -/
theorem getElem?_position (h : c.StandsIn tokens) :
    tokens[c.position]? = some c.current := by
  obtain ⟨behind, hrest⟩ := h.rest
  rw [← List.head?_drop, ← hrest, current]
  cases c.pending with
  | nil => rfl
  | cons token others => rfl

theorem position_le (h : c.StandsIn tokens) :
    c.position ≤ tokens.findIdx (·.kind = .eof) := by
  rw [← h.firstEnd]
  exact Nat.le_add_right _ _

theorem advance (h : c.StandsIn tokens) : c.advance.StandsIn tokens := by
  obtain ⟨behind, hrest⟩ := h.rest
  have hsum := h.firstEnd
  by_cases hend : c.isAt .eof = true
  · have hpending := isAt_eof_iff.mp hend
    have hposition : c.advance.position = c.position := by
      rw [position_advance, if_pos hend]
    refine ⟨?_, behind, ?_⟩
    · rw [hposition, pending_advance, ← hsum, hpending, List.tail_nil]
    · rw [hposition, pending_advance, ← hrest, hpending, List.tail_nil]
      rfl
  · obtain ⟨token, others, hpending⟩ :=
      List.exists_cons_of_ne_nil (mt isAt_eof_iff.mpr hend)
    have hposition : c.advance.position = c.position + 1 := by
      rw [position_advance, if_neg hend]
    refine ⟨?_, behind, ?_⟩
    · rw [hposition, pending_advance, ← hsum, hpending, List.tail_cons, List.length_cons]
      omega
    · rw [hposition, ← List.drop_drop, ← hrest, pending_advance, hpending]
      rfl

theorem report (h : c.StandsIn tokens) (d : Diagnostic) :
    (c.report d).StandsIn tokens where
  firstEnd := by
    rw [position_report, pending_report]
    exact h.firstEnd
  rest := by
    rw [position_report, pending_report, ending_report]
    exact h.rest

end StandsIn

/-- The first end token of a list stands behind all tokens that are none. -/
theorem findIdx_firstEnd {body behind : List Token} {first : Token}
    (hbody : ∀ token ∈ body, token.kind ≠ .eof) (hfirst : first.kind = .eof) :
    (body ++ first :: behind).findIdx (·.kind = .eof) = body.length := by
  have hnone : body.findIdx (·.kind = .eof) = body.length := by
    rw [List.findIdx_eq_length]
    simpa using hbody
  rw [List.findIdx_append, hnone, if_neg (Nat.lt_irrefl _), List.findIdx_cons]
  simp [hfirst]

/-- A cursor made from a list of tokens stands at the start of the whole list, whatever
follows its first end token. -/
theorem standsIn_of_ofTokens? {tokens : List Token} {c : Cursor}
    (h : ofTokens? tokens = .ok c) :
    c.StandsIn tokens ∧ c.position = 0 ∧ c.diagnostics = [] := by
  unfold ofTokens? at h
  split at h
  · rename_i ending hending
    obtain ⟨hkind, body, behind, rfl, hbody⟩ := List.find?_eq_some_iff_append.mp hending
    have hkinds : ∀ token ∈ body, token.kind ≠ .eof := by simpa using hbody
    have hend : ending.kind = .eof := of_decide_eq_true hkind
    have htake : (body ++ ending :: behind).takeWhile (·.kind ≠ .eof) = body := by
      rw [List.takeWhile_append_of_pos (by simpa using hkinds)]
      simp [hend]
    split at h
    · obtain rfl := Except.ok.inj h
      refine ⟨⟨?_, behind, ?_⟩, rfl, rfl⟩
      · rw [findIdx_firstEnd hkinds hend, Nat.zero_add]
        exact congrArg List.length htake
      · calc
          (body ++ ending :: behind).takeWhile (·.kind ≠ .eof) ++ [ending] ++ behind =
              body ++ [ending] ++ behind := by rw [htake]
          _ = body ++ ending :: behind := List.append_assoc ..
    · cases h
  · cases h

/-! ## What is left to be read -/

/-- A token of another kind than the end is passed. -/
theorem length_pending_advance_lt {c : Cursor} (h : c.isAt .eof = false) :
    c.advance.pending.length < c.pending.length := by
  have hne : c.pending ≠ [] := fun hnil => by simp [isAt_eof_iff.mpr hnil] at h
  have := List.length_pos_iff.mpr hne
  rw [pending_advance, List.length_tail]
  omega

theorem length_pending_advance_le (c : Cursor) :
    c.advance.pending.length ≤ c.pending.length := by
  rw [pending_advance, List.length_tail]
  omega

/-- A kind other than the end is not that of the end token. -/
theorem isAt_eof_eq_false {c : Cursor} {kind : TokenKind} (h : c.isAt kind = true)
    (hkind : kind ≠ .eof) : c.isAt .eof = false := by
  simp only [isAt, decide_eq_true_eq, decide_eq_false_iff_not] at *
  rw [h]
  exact hkind

/-- Eating a token of a kind other than the end passes it. -/
theorem length_pending_eat_lt {c c' : Cursor} {kind : TokenKind} {token : Token}
    (h : c.eat kind = (some token, c')) (hkind : kind ≠ .eof) :
    c'.pending.length < c.pending.length := by
  unfold eat at h
  split at h
  · rename_i hat
    obtain ⟨-, rfl⟩ := Prod.mk.inj h
    exact length_pending_advance_lt (isAt_eof_eq_false hat hkind)
  · simp at h

theorem length_pending_eat_le {c c' : Cursor} {kind : TokenKind} {token : Option Token}
    (h : c.eat kind = (token, c')) : c'.pending.length ≤ c.pending.length := by
  unfold eat at h
  split at h <;> obtain ⟨-, rfl⟩ := Prod.mk.inj h
  · exact length_pending_advance_le c
  · exact Nat.le_refl _

theorem length_pending_expect_le {c c' : Cursor} {kind : TokenKind}
    {token : Option Token} {remark : Remark} (h : c.expect kind remark = (token, c')) :
    c'.pending.length ≤ c.pending.length := by
  unfold expect at h
  split at h <;> obtain ⟨-, rfl⟩ := Prod.mk.inj h
  · exact length_pending_advance_le c
  · simp

end Cursor

/-- The place of a cursor when it was last looked at, if ever. -/
structure Progress where
  last : Option Nat := none
deriving DecidableEq, Repr

namespace Progress

/-- Whether a cursor has moved on since it was last looked at, and the new mark. -/
def check (progress : Progress) (c : Cursor) : Bool × Progress :=
  (progress.last.all (· < c.position), ⟨some c.position⟩)

end Progress

end Autopilot
