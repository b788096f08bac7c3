import Autopilot.Proofs.Cursor.Standing
import Mathlib.Order.Bounds.Basic

/-!
# Where recovery stops

Recovery stays where it is at an end token and in front of a token at which reading is
taken up.  From everywhere else it goes on to the first stop: an end token, a token at
which reading is taken up, or a line break, if reading is taken up after line breaks.  It
passes the stop only in the last case.

Every recovery that is not refused passes a token.
-/

namespace Autopilot

namespace Recovery

/-- Whether dropping stops at a token. -/
def StopsAt (recovery : Recovery) (token : Token) : Prop :=
  token.kind = .eof ∨ token.kind ∈ recovery.resume ∨
    (recovery.lineBreak = true ∧ token.kind = .newline)

instance (recovery : Recovery) (token : Token) : Decidable (recovery.StopsAt token) :=
  inferInstanceAs (Decidable (_ ∨ _ ∨ _))

/-- The places of a list of tokens, from some place on, at which dropping stops. -/
def stops (recovery : Recovery) (tokens : List Token) (place : Nat) : Set Nat :=
  {i | place ≤ i ∧ ∃ token, tokens[i]? = some token ∧ recovery.StopsAt token}

variable {recovery : Recovery} {tokens : List Token} {token : Token} {c : Cursor}

theorem breaksLine_iff :
    (recovery.lineBreak && c.isAt .newline) = true ↔
      recovery.lineBreak = true ∧ c.current.kind = .newline := by
  rw [Bool.and_eq_true, Cursor.isAt_iff]

/-! ## The first stop -/

theorem isLeast_stops_self {place : Nat} (htoken : tokens[place]? = some token)
    (hstop : recovery.StopsAt token) : IsLeast (recovery.stops tokens place) place := by
  constructor
  · exact ⟨Nat.le_refl place, token, htoken, hstop⟩
  · intro i hi
    exact hi.1

/-- A place at which dropping does not stop is none of the stops. -/
theorem isLeast_stops_of_succ {place first : Nat}
    (htoken : tokens[place]? = some token) (hgoesOn : ¬ recovery.StopsAt token)
    (h : IsLeast (recovery.stops tokens (place + 1)) first) :
    IsLeast (recovery.stops tokens place) first := by
  obtain ⟨⟨hafter, hfirst⟩, hleast⟩ := h
  constructor
  · exact ⟨Nat.le_of_succ_le hafter, hfirst⟩
  · rintro i ⟨hi, found, hfound, hstop⟩
    have hne : i ≠ place := by
      rintro rfl
      obtain rfl : token = found := Option.some.inj (htoken.symm.trans hfound)
      exact hgoesOn hstop
    exact hleast ⟨Nat.lt_of_le_of_ne hi hne.symm, found, hfound, hstop⟩

/-! ## Dropping -/

/-- Dropping leads to the first stop, or behind it if it is a line break after which
reading is taken up. -/
theorem exists_stop_discard (recovery : Recovery) (h : c.StandsIn tokens) :
    ∃ first stop, IsLeast (recovery.stops tokens c.position) first ∧
      tokens[first]? = some stop ∧
      (recovery.discard c).position =
        if recovery.lineBreak = true ∧ stop.kind = .newline then first + 1 else first := by
  fun_induction discard recovery c with
  | case1 c hend =>
      have heof : c.current.kind = .eof := Cursor.isAt_iff.mp hend
      refine ⟨c.position, c.current, ?_, h.getElem?_position, ?_⟩
      · exact isLeast_stops_self h.getElem?_position (Or.inl heof)
      · rw [if_neg (by simp [heof])]
  | case2 c hend hbreak =>
      have hline := breaksLine_iff.mp hbreak
      have hposition := (Cursor.passes_advance (mt Cursor.isAt_iff.mpr hend)).position
      refine ⟨c.position, c.current, ?_, h.getElem?_position, ?_⟩
      · exact isLeast_stops_self h.getElem?_position (Or.inr (Or.inr hline))
      · rw [if_pos hline]
        exact hposition
  | case3 c hend hbreak hresume =>
      refine ⟨c.position, c.current, ?_, h.getElem?_position, ?_⟩
      · exact isLeast_stops_self h.getElem?_position
          (Or.inr (Or.inl (Cursor.isAtAny_iff.mp hresume)))
      · rw [if_neg (mt breaksLine_iff.mpr hbreak)]
  | case4 c hend hbreak hresume ih =>
      have hgoesOn : ¬ recovery.StopsAt c.current := by
        rintro (heof | hkind | hline)
        · exact hend (Cursor.isAt_iff.mpr heof)
        · exact hresume (Cursor.isAtAny_iff.mpr hkind)
        · exact hbreak (breaksLine_iff.mpr hline)
      have hposition := (Cursor.passes_advance (mt Cursor.isAt_iff.mpr hend)).position
      obtain ⟨first, stop, hleast, hstop, hplace⟩ := ih h.advance
      rw [hposition] at hleast
      exact ⟨first, stop, isLeast_stops_of_succ h.getElem?_position hgoesOn hleast,
        hstop, hplace⟩

theorem diagnostics_discard (recovery : Recovery) (c : Cursor) :
    (recovery.discard c).diagnostics = c.diagnostics := by
  fun_induction discard recovery c with
  | case1 c hend => rfl
  | case2 c hend hbreak => rfl
  | case3 c hend hbreak hresume => rfl
  | case4 c hend hbreak hresume ih => exact ih

/-! ## Recovering -/

theorem recover_of_eof (recovery : Recovery) (h : c.current.kind = .eof) :
    recovery.recover c = (some .atEnd, c) := by
  rw [recover, if_pos (Cursor.isAt_iff.mpr h)]

theorem recover_of_resumes (hend : c.current.kind ≠ .eof)
    (h : c.current.kind ∈ recovery.resume) :
    recovery.recover c = (some .alreadyThere, c) := by
  rw [recover, if_neg (mt Cursor.isAt_iff.mp hend), if_pos (Cursor.isAtAny_iff.mpr h)]

theorem recover_of_other (hend : c.current.kind ≠ .eof)
    (h : c.current.kind ∉ recovery.resume) :
    recovery.recover c = (none, recovery.discard c) := by
  rw [recover, if_neg (mt Cursor.isAt_iff.mp hend), if_neg (mt Cursor.isAtAny_iff.mp h)]

theorem diagnostics_recover (recovery : Recovery) (c : Cursor) :
    (recovery.recover c).2.diagnostics = c.diagnostics := by
  by_cases hend : c.current.kind = .eof
  · rw [recover_of_eof recovery hend]
  · by_cases hresume : c.current.kind ∈ recovery.resume
    · rw [recover_of_resumes hend hresume]
    · rw [recover_of_other hend hresume, diagnostics_discard]

theorem recover_eq_atEnd_iff :
    recovery.recover c = (some .atEnd, c) ↔ c.current.kind = .eof := by
  refine ⟨?_, recover_of_eof recovery⟩
  intro h
  by_contra hend
  by_cases hresume : c.current.kind ∈ recovery.resume
  · simp [recover_of_resumes hend hresume] at h
  · simp [recover_of_other hend hresume] at h

theorem recover_eq_alreadyThere_iff :
    recovery.recover c = (some .alreadyThere, c) ↔
      c.current.kind ≠ .eof ∧ c.current.kind ∈ recovery.resume := by
  constructor
  · intro h
    have hend : c.current.kind ≠ .eof := by
      intro hend
      simp [recover_of_eof recovery hend] at h
    refine ⟨hend, ?_⟩
    by_contra hresume
    simp [recover_of_other hend hresume] at h
  · rintro ⟨hend, hresume⟩
    exact recover_of_resumes hend hresume

/-- Where recovery is not refused, a token is passed. -/
theorem position_lt_discard (h : c.StandsIn tokens) (hend : c.current.kind ≠ .eof)
    (hresume : c.current.kind ∉ recovery.resume) :
    c.position < (recovery.discard c).position := by
  obtain ⟨first, stop, ⟨⟨hafter, _, hfound, hstops⟩, -⟩, hstop, hplace⟩ :=
    exists_stop_discard recovery h
  rw [hplace]
  rcases Nat.eq_or_lt_of_le hafter with rfl | hlt
  · -- The first stop is right here, and only a line break is left of the three kinds.
    obtain rfl := Option.some.inj (h.getElem?_position.symm.trans hstop)
    obtain rfl := Option.some.inj (h.getElem?_position.symm.trans hfound)
    have hline := (hstops.resolve_left hend).resolve_left hresume
    rw [if_pos hline]
    exact Nat.lt_succ_self _
  · split
    · exact Nat.lt_succ_of_lt hlt
    · exact hlt

/-- Wherever operations have brought a cursor in a list of tokens that closes with an end
token: recovery is refused, and does not move, exactly at an end token, and exactly in
front of another token at which reading is taken up; otherwise it moves on to the first
stop, and behind it if the stop is a line break after which reading is taken up.  It makes
no diagnostics. -/
theorem recover_stops (hlast : ∃ last ∈ tokens.getLast?, last.kind = .eof)
    (recovery : Recovery) :
    ∃ start, Cursor.ofTokens? tokens = .ok start ∧ ∀ operations : List Cursor.Operation,
      let c := start.afterAll operations
      let after := (recovery.recover c).2
      ∃ token, tokens[c.position]? = some token ∧
        (recovery.recover c = (some .atEnd, c) ↔ token.kind = .eof) ∧
        (recovery.recover c = (some .alreadyThere, c) ↔
          token.kind ≠ .eof ∧ token.kind ∈ recovery.resume) ∧
        (token.kind ≠ .eof → token.kind ∉ recovery.resume →
          (recovery.recover c).1 = none ∧
          (∃ first stop, IsLeast (recovery.stops tokens c.position) first ∧
            tokens[first]? = some stop ∧
            after.position =
              if recovery.lineBreak = true ∧ stop.kind = .newline then first + 1
              else first) ∧
          c.position < after.position) ∧
        tokens[after.position]? = some after.current ∧
        after.diagnostics = c.diagnostics := by
  obtain ⟨start, hstart, hstands, -, -⟩ := Cursor.StandsIn.of_ofTokens? hlast
  refine ⟨start, hstart, ?_⟩
  intro operations c after
  have hc : c.StandsIn tokens := hstands.afterAll operations
  have hwanders : c.Wanders after := recovery.comesTo_recover c
  have hafter : after.StandsIn tokens := hc.comesTo hwanders
  refine ⟨c.current, hc.getElem?_position, recover_eq_atEnd_iff,
    recover_eq_alreadyThere_iff, ?_, hafter.getElem?_position,
    diagnostics_recover recovery c⟩
  intro hend hresume
  have hrecover : recovery.recover c = (none, recovery.discard c) :=
    recover_of_other hend hresume
  rw [show after = recovery.discard c from congrArg Prod.snd hrecover, hrecover]
  exact ⟨rfl, exists_stop_discard recovery hc, position_lt_discard hc hend hresume⟩

/-- From the second of two names recovery goes on behind the line break that follows them,
although reading is also taken up in front of line breaks. -/
theorem recover_stops_line_break :
    let name : Token := ⟨.identifier, "dance", .start⟩
    let line : Token := ⟨.newline, "\n", .start⟩
    let tokens := [name, name, line, name, .ending .start]
    let recovery : Recovery := ⟨[.newline, .eof], true⟩
    (∃ last ∈ tokens.getLast?, last.kind = .eof) ∧
      ∃ start, Cursor.ofTokens? tokens = .ok start ∧ start.advance.position = 1 ∧
        (recovery.recover start.advance).1 = none ∧
        (recovery.recover start.advance).2.position = 3 := by
  intro name line tokens recovery
  have hlast : ∃ last ∈ tokens.getLast?, last.kind = .eof := ⟨.ending .start, rfl, rfl⟩
  obtain ⟨start, hstart, hstops⟩ := recover_stops hlast recovery
  obtain rfl : start = ⟨0, [name, name, line, name], .ending .start, [], by decide, rfl⟩ :=
    (Except.ok.inj hstart).symm
  obtain ⟨token, htoken, -, -, hother, -⟩ := hstops [.bump]
  obtain rfl : name = token := Option.some.inj htoken
  obtain ⟨hnone, ⟨first, stop, hfirst, hstop, hplace⟩, -⟩ := hother (by decide) (by decide)
  have hline : IsLeast (recovery.stops tokens 2) 2 := by
    apply isLeast_stops_self (show tokens[2]? = some line from rfl)
    decide
  have hleast : IsLeast (recovery.stops tokens 1) 2 := by
    apply isLeast_stops_of_succ (show tokens[1]? = some name from rfl) _ hline
    decide
  obtain rfl : first = 2 := hfirst.unique hleast
  obtain rfl : line = stop := Option.some.inj hstop
  exact ⟨hlast, _, hstart, rfl, hnone, hplace⟩

end Recovery

end Autopilot
