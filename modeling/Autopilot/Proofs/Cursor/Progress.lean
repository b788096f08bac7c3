import Autopilot.Cursor.NodeLoop
import Autopilot.Proofs.Cursor.Standing
import Mathlib.Data.Finset.Card
import Mathlib.Data.PFun
import Mathlib.Order.Interval.Finset.Nat

/-!
# Loops come to an end

The loop that reads a list of nodes ends, whatever its callbacks do, as long as they move
the cursor by its operations only.  No two rounds start at one place, so that there are at
most as many rounds as tokens.

A round that moves the cursor moves it forward, and a round that leaves it in place is the
last one: in front of the next round the list is done, or the loop stalls.  What the turns
of a loop keep is `NodeLoop.IsOrderly`.
-/

namespace Autopilot

namespace Progress

variable {progress : Progress} {c : Cursor}

/-- A cursor beyond the mark has moved. -/
theorem check_of_last_lt (h : ∀ last ∈ progress.last, last < c.position) :
    progress.check c = (true, ⟨some c.position⟩) := by
  rw [check, Prod.mk.injEq]
  refine ⟨?_, rfl⟩
  rw [Option.all_eq_true]
  intro last hlast
  exact decide_eq_true (h last hlast)

/-- A cursor at the mark has not moved. -/
theorem check_of_last_eq (h : progress.last = some c.position) :
    progress.check c = (false, ⟨some c.position⟩) := by
  simp [check, h]

end Progress

namespace NodeLoop

variable {σ α : Type} {loop : NodeLoop σ α} {c : Cursor} {memory : σ}
  {s s' : Standing σ α} {outcome : Outcome σ α} {round : Round σ α}

/-- The loop from a standing on, turn after turn until one of them ends it. -/
def runFrom (loop : NodeLoop σ α) : Standing σ α →. Outcome σ α :=
  PFun.fix loop.turn

/-- The loop from a cursor. -/
def run (loop : NodeLoop σ α) (c : Cursor) (memory : σ) : Part (Outcome σ α) :=
  loop.runFrom { cursor := c, memory }

theorem mem_runFrom_of_inl (h : loop.turn s = .inl outcome) : outcome ∈ loop.runFrom s :=
  PFun.fix_stop (Part.mem_some_iff.mpr h.symm)

theorem mem_runFrom_of_inr (h : loop.turn s = .inr s')
    (houtcome : outcome ∈ loop.runFrom s') : outcome ∈ loop.runFrom s :=
  PFun.mem_fix_iff.mpr (Or.inr ⟨s', Part.mem_some_iff.mpr h.symm, houtcome⟩)

/-- The callbacks that act move the cursor by its operations only. -/
structure MovesByOperations (loop : NodeLoop σ α) : Prop where
  element : ∀ c memory, ∃ operations : List Cursor.Operation,
    (loop.element c memory).2.1 = c.afterAll operations
  goOn : ∀ element c memory, ∃ operations : List Cursor.Operation,
    (loop.goOn element c memory).2.1 = c.afterAll operations

theorem MovesByOperations.wanders_round (h : loop.MovesByOperations) (c : Cursor)
    (memory : σ) : c.Wanders (loop.round c memory).next := by
  obtain ⟨read, hread⟩ := h.element c memory
  obtain ⟨after, hafter⟩ := h.goOn (loop.element c memory).1
    (loop.element c memory).2.1 (loop.element c memory).2.2
  have hnext : (loop.round c memory).next = (c.afterAll read).afterAll after := by
    rw [← hread]
    exact hafter
  rw [hnext]
  exact (Cursor.wanders_afterAll c read).trans (Cursor.wanders_afterAll _ after)

/-! ## One turn -/

theorem isDone_eq_false_iff :
    (loop.isDone c memory).1 = false ↔
      c.current.kind ≠ .eof ∧ (loop.isAtEnd c memory).1 = false := by
  rw [isDone]
  split
  · rename_i hend
    simp [Cursor.isAt_iff.mp hend]
  · rename_i hend
    simp [mt Cursor.isAt_iff.mpr hend]

theorem turn_of_done (hdone : (loop.isDone s.cursor s.memory).1 = true) :
    loop.turn s =
      .inl ⟨.ok s.elements, s.cursor, (loop.isDone s.cursor s.memory).2, s.rounds⟩ := by
  simp [turn, hdone]

theorem turn_of_marked (hdone : (loop.isDone s.cursor s.memory).1 = false)
    (hmark : s.progress.last = some s.cursor.position) :
    loop.turn s = .inl ⟨.error (.stalled s.cursor.current.describe), s.cursor,
      (loop.isDone s.cursor s.memory).2, s.rounds⟩ := by
  simp [turn, hdone, Progress.check_of_last_eq hmark]

/-- The conditions under which a turn goes through a round. -/
structure Enters (loop : NodeLoop σ α) (s : Standing σ α) (round : Round σ α) : Prop where
  isDone : (loop.isDone s.cursor s.memory).1 = false
  moved : ∀ last ∈ s.progress.last, last < s.cursor.position
  round_eq : loop.round s.cursor (loop.isDone s.cursor s.memory).2 = round

theorem Enters.start (h : loop.Enters s round) : round.start = s.cursor := by
  rw [← h.round_eq]
  rfl

theorem Enters.wanders (h : loop.Enters s round) (hloop : loop.MovesByOperations) :
    s.cursor.Wanders round.next := by
  rw [← h.round_eq]
  exact hloop.wanders_round _ _

theorem Enters.not_marked (h : loop.Enters s round) :
    s.progress.last ≠ some s.cursor.position := by
  intro hlast
  exact Nat.lt_irrefl _ (h.moved _ hlast)

theorem Enters.pending_pos (h : loop.Enters s round) : 0 < s.cursor.pending.length := by
  have hend := (isDone_eq_false_iff.mp h.isDone).1
  exact List.length_pos_iff.mpr (mt Cursor.current_kind_eq_eof_iff.mpr hend)

theorem turn_of_stops (h : loop.Enters s round) (hstops : round.goesOn = false) :
    loop.turn s = .inl ⟨.ok (s.elements ++ round.element.toList), round.next,
      round.memory, s.rounds ++ [round]⟩ := by
  simp [turn, h.isDone, Progress.check_of_last_lt h.moved, h.round_eq, hstops]

/-- The standing after a round that is to be followed by another turn. -/
def Standing.after (s : Standing σ α) (round : Round σ α) : Standing σ α :=
  ⟨⟨some s.cursor.position⟩, s.elements ++ round.element.toList, s.rounds ++ [round],
    round.next, round.memory⟩

theorem turn_of_goesOn (h : loop.Enters s round) (hgoesOn : round.goesOn = true) :
    loop.turn s = .inr (s.after round) := by
  simp [turn, h.isDone, Progress.check_of_last_lt h.moved, h.round_eq, hgoesOn,
    Standing.after]

/-- A bound on the turns to come: one for each pending token, and one more to find that the
cursor has not moved. -/
def Standing.left (s : Standing σ α) : Nat :=
  2 * s.cursor.pending.length + if s.progress.last = some s.cursor.position then 0 else 1

theorem Standing.left_le (s : Standing σ α) :
    s.left ≤ 2 * s.cursor.pending.length + 1 := by
  rw [left]
  split
  · omega
  · omega

theorem Standing.left_of_marked (hmark : s.progress.last = some s.cursor.position) :
    s.left = 2 * s.cursor.pending.length := by
  rw [left, if_pos hmark, Nat.add_zero]

theorem left_after_lt (h : loop.Enters s round) (hloop : loop.MovesByOperations) :
    (s.after round).left < s.left := by
  have hleft : s.left = 2 * s.cursor.pending.length + 1 := by
    rw [Standing.left, if_neg h.not_marked]
  rcases (h.wanders hloop).stays_or_passes with ⟨hplace, hsame⟩ | ⟨-, hfewer⟩
  · have hmarked : (s.after round).left = 2 * round.next.pending.length :=
      Standing.left_of_marked (congrArg some hplace.symm)
    omega
  · have hle : (s.after round).left ≤ 2 * round.next.pending.length + 1 :=
      Standing.left_le _
    omega

/-! ## What the rounds are like -/

/-- After a round the loop is to go on, the cursor stands where it was, and the list is not
done. -/
structure IsStalledAfter (loop : NodeLoop σ α) (round : Round σ α) : Prop where
  position : round.next.position = round.start.position
  goesOn : round.goesOn = true
  isDone : (loop.isDone round.next round.memory).1 = false

theorem isStalledAfter_iff :
    loop.IsStalledAfter round ↔ round.next.position = round.start.position ∧
      round.goesOn = true ∧ round.next.current.kind ≠ .eof ∧
      (loop.isAtEnd round.next round.memory).1 = false := by
  rw [← isDone_eq_false_iff]
  constructor
  · rintro ⟨hposition, hgoesOn, hdone⟩
    exact ⟨hposition, hgoesOn, hdone⟩
  · rintro ⟨hposition, hgoesOn, hdone⟩
    exact ⟨hposition, hgoesOn, hdone⟩

/-- The rounds of a loop that started at a cursor: they start at tokens that were pending
there, each at a later one than the round before. -/
structure AreOrdered (c : Cursor) (rounds : List (Round σ α)) : Prop where
  pending : ∀ round ∈ rounds, c.position ≤ round.start.position ∧
    round.start.position < c.position + c.pending.length
  increasing : rounds.Pairwise fun before after =>
    before.start.position < after.start.position

/-- A round that starts at a pending token, later than those before it. -/
theorem AreOrdered.concat {rounds : List (Round σ α)} (h : AreOrdered c rounds)
    (hpending : c.position ≤ round.start.position ∧
      round.start.position < c.position + c.pending.length)
    (hlater : ∀ before ∈ rounds, before.start.position < round.start.position) :
    AreOrdered c (rounds ++ [round]) where
  pending := by
    rw [List.forall_mem_append, List.forall_mem_singleton]
    exact ⟨h.pending, hpending⟩
  increasing := by
    rw [List.pairwise_append]
    refine ⟨h.increasing, List.pairwise_singleton _ _, ?_⟩
    intro before hbefore after hafter
    obtain rfl := List.mem_singleton.mp hafter
    exact hlater before hbefore

/-- Rounds that start at different pending tokens are at most as many as these. -/
theorem AreOrdered.length_le {rounds : List (Round σ α)} (h : AreOrdered c rounds) :
    rounds.length ≤ c.pending.length := by
  let starts := rounds.map (·.start.position)
  have hnodup : starts.Nodup := (List.pairwise_map.mpr h.increasing).imp Nat.ne_of_lt
  have hsubset : starts.toFinset ⊆
      Finset.Ico c.position (c.position + c.pending.length) := by
    intro place hplace
    obtain ⟨round, hround, rfl⟩ := List.mem_map.mp (List.mem_toFinset.mp hplace)
    exact Finset.mem_Ico.mpr (h.pending round hround)
  calc
    rounds.length = starts.toFinset.card := by
      rw [List.toFinset_card_of_nodup hnodup, List.length_map]
    _ ≤ (Finset.Ico c.position (c.position + c.pending.length)).card :=
      Finset.card_le_card hsubset
    _ = c.pending.length := by rw [Nat.card_Ico, Nat.add_sub_cancel_left]

theorem filterMap_element_concat (rounds : List (Round σ α)) (round : Round σ α) :
    (rounds ++ [round]).filterMap (·.element) =
      rounds.filterMap (·.element) ++ round.element.toList := by
  rw [List.filterMap_append, List.filterMap_cons, List.filterMap_nil]
  cases round.element with
  | none => rfl
  | some element => rfl

/-! ## What turns keep -/

/-- A loop that started at a cursor has kept in order what it did.  A round after which it
stalls can only be the last one, and then the next turn finds that out. -/
structure IsOrderly (loop : NodeLoop σ α) (c : Cursor) (s : Standing σ α) : Prop where
  wanders : c.Wanders s.cursor
  rounds : AreOrdered c s.rounds
  elements : s.elements = s.rounds.filterMap (·.element)
  marked : ∀ round ∈ s.rounds, ∃ last ∈ s.progress.last, round.start.position ≤ last
  behind : ∀ last ∈ s.progress.last, last ≤ s.cursor.position
  stalls : (∃ round ∈ s.rounds, loop.IsStalledAfter round) ↔
    (loop.isDone s.cursor s.memory).1 = false ∧ s.progress.last = some s.cursor.position

theorem isOrderly_start (loop : NodeLoop σ α) (c : Cursor) (memory : σ) :
    loop.IsOrderly c { cursor := c, memory } where
  wanders := .refl c
  rounds := ⟨by simp, .nil⟩
  elements := rfl
  marked := by simp
  behind := by simp
  stalls := by simp

namespace IsOrderly

/-- The round of a turn starts later than those before it. -/
theorem rounds_concat (h : loop.IsOrderly c s) (henters : loop.Enters s round) :
    AreOrdered c (s.rounds ++ [round]) := by
  have hforward := h.wanders.position_le
  have hsum := h.wanders.position_add_length_pending
  have hpending := henters.pending_pos
  apply h.rounds.concat
  · rw [henters.start]
    omega
  · intro before hbefore
    obtain ⟨last, hlast, hle⟩ := h.marked before hbefore
    rw [henters.start]
    exact Nat.lt_of_le_of_lt hle (henters.moved last hlast)

/-- A loop that can enter a round has not stalled before. -/
theorem exists_stalled_concat_iff (h : loop.IsOrderly c s) (henters : loop.Enters s round) :
    (∃ later ∈ s.rounds ++ [round], loop.IsStalledAfter later) ↔
      loop.IsStalledAfter round := by
  have hnone : ¬ ∃ before ∈ s.rounds, loop.IsStalledAfter before := by
    rw [h.stalls]
    rintro ⟨-, hlast⟩
    exact henters.not_marked hlast
  constructor
  · rintro ⟨later, hlater, hstalled⟩
    rcases List.mem_append.mp hlater with hbefore | hlast
    · exact absurd ⟨later, hbefore, hstalled⟩ hnone
    · obtain rfl := List.mem_singleton.mp hlast
      exact hstalled
  · intro hstalled
    exact ⟨round, by simp, hstalled⟩

theorem after (h : loop.IsOrderly c s) (hloop : loop.MovesByOperations)
    (henters : loop.Enters s round) (hgoesOn : round.goesOn = true) :
    loop.IsOrderly c (s.after round) where
  wanders := h.wanders.trans (henters.wanders hloop)
  rounds := h.rounds_concat henters
  elements := by
    simp only [Standing.after]
    rw [filterMap_element_concat, h.elements]
  marked := by
    have hall := h.rounds_concat henters
    intro earlier hearlier
    refine ⟨s.cursor.position, rfl, ?_⟩
    rcases List.mem_append.mp hearlier with hbefore | hlast
    · obtain ⟨last, hlast, hle⟩ := h.marked earlier hbefore
      exact Nat.le_trans hle (h.behind last hlast)
    · obtain rfl := List.mem_singleton.mp hlast
      rw [henters.start]
  behind := by
    intro last hlast
    obtain rfl := Option.some.inj hlast
    exact (henters.wanders hloop).position_le
  stalls := by
    simp only [Standing.after]
    rw [h.exists_stalled_concat_iff henters]
    constructor
    · intro hstalled
      refine ⟨hstalled.isDone, ?_⟩
      rw [hstalled.position, henters.start]
    · rintro ⟨hnext, hplace⟩
      refine ⟨?_, hgoesOn, hnext⟩
      rw [henters.start]
      exact (Option.some.inj hplace).symm

end IsOrderly

/-! ## The whole loop -/

/-- What is known of the outcome of a loop that started at a cursor. -/
structure IsOrderlyEnd (loop : NodeLoop σ α) (c : Cursor) (outcome : Outcome σ α) :
    Prop where
  rounds : AreOrdered c outcome.rounds
  result : outcome.result = .ok (outcome.rounds.filterMap (·.element)) ∨
    outcome.result = .error (.stalled outcome.cursor.current.describe)
  stalls : outcome.result = .error (.stalled outcome.cursor.current.describe) ↔
    ∃ round ∈ outcome.rounds, loop.IsStalledAfter round

/-- From every standing that it can have come to, the loop ends, and in order. -/
theorem IsOrderly.exists_mem_runFrom (hloop : loop.MovesByOperations)
    (h : loop.IsOrderly c s) : ∃ outcome ∈ loop.runFrom s, loop.IsOrderlyEnd c outcome := by
  induction hleft : s.left using Nat.strong_induction_on generalizing s with
  | _ left ih =>
      by_cases hdone : (loop.isDone s.cursor s.memory).1 = true
      · refine ⟨_, mem_runFrom_of_inl (turn_of_done hdone), h.rounds, ?_, ?_⟩
        · exact Or.inl (congrArg Except.ok h.elements)
        · simp [h.stalls, hdone]
      rw [Bool.not_eq_true] at hdone
      by_cases hmarked : s.progress.last = some s.cursor.position
      · refine ⟨_, mem_runFrom_of_inl (turn_of_marked hdone hmarked), h.rounds,
          Or.inr rfl, ?_⟩
        simp [h.stalls, hdone, hmarked]
      obtain ⟨round, hround⟩ :
          ∃ round, loop.round s.cursor (loop.isDone s.cursor s.memory).2 = round := ⟨_, rfl⟩
      have henters : loop.Enters s round := by
        refine ⟨hdone, ?_, hround⟩
        intro last hlast
        apply Nat.lt_of_le_of_ne (h.behind last hlast)
        rintro rfl
        exact hmarked hlast
      by_cases hgoesOn : round.goesOn = true
      · have hfewer := left_after_lt henters hloop
        obtain ⟨outcome, hrest, hend⟩ :=
          ih _ (hleft ▸ hfewer) (h.after hloop henters hgoesOn) rfl
        exact ⟨outcome, mem_runFrom_of_inr (turn_of_goesOn henters hgoesOn) hrest, hend⟩
      · rw [Bool.not_eq_true] at hgoesOn
        refine ⟨_, mem_runFrom_of_inl (turn_of_stops henters hgoesOn),
          h.rounds_concat henters, ?_, ?_⟩
        · left
          rw [filterMap_element_concat, h.elements]
        · have hgoes : ¬ loop.IsStalledAfter round := by
            intro hstalled
            simp [hstalled.goesOn] at hgoesOn
          simp only [h.exists_stalled_concat_iff henters, hgoes, reduceCtorEq]

/-- Wherever operations have brought a cursor in a list of tokens that closes with an end
token, a loop ends: it asks for at most as many elements as there are tokens up to the
first end token, each time at a later place than before, and then either has the elements
that were read, in order, or stalls.  It stalls exactly if one of its rounds left the cursor
where it was, the loop was to go on, and the cursor was neither at an end token nor at the
end of the list. -/
theorem run_ends {tokens : List Token}
    (hlast : ∃ last ∈ tokens.getLast?, last.kind = .eof)
    (hloop : loop.MovesByOperations) (memory : σ) :
    ∃ start, Cursor.ofTokens? tokens = .ok start ∧ ∀ operations : List Cursor.Operation,
      let c := start.afterAll operations
      ∃ outcome ∈ loop.run c memory,
        c.position + outcome.rounds.length ≤ tokens.findIdx (·.kind = .eof) ∧
        (outcome.rounds.Pairwise fun before after =>
          before.start.position < after.start.position) ∧
        (outcome.result = .ok (outcome.rounds.filterMap (·.element)) ∨
          outcome.result = .error (.stalled outcome.cursor.current.describe)) ∧
        (outcome.result = .error (.stalled outcome.cursor.current.describe) ↔
          ∃ round ∈ outcome.rounds, round.next.position = round.start.position ∧
            round.goesOn = true ∧ round.next.current.kind ≠ .eof ∧
            (loop.isAtEnd round.next round.memory).1 = false) := by
  obtain ⟨start, hstart, hstands, -, -⟩ := Cursor.StandsIn.of_ofTokens? hlast
  refine ⟨start, hstart, ?_⟩
  intro operations c
  have hc : c.StandsIn tokens := hstands.afterAll operations
  obtain ⟨outcome, hrun, hend⟩ :=
    (loop.isOrderly_start c memory).exists_mem_runFrom hloop
  refine ⟨outcome, hrun, ?_, hend.rounds.increasing, hend.result, ?_⟩
  · rw [← hc.firstEnd]
    exact Nat.add_le_add_left hend.rounds.length_le _
  · rw [hend.stalls]
    simp only [isStalledAfter_iff]

/-- Reads names, whether there are any or not, until the question whether the list ends has
been put a number of times. -/
def patient (questions : Nat) : NodeLoop Nat Token where
  isAtEnd := fun _ asked => (asked == questions, asked + 1)
  element := fun c asked =>
    let (token, c) := c.eat .identifier
    (token, c, asked)
  goOn := fun _ c asked => (true, c, asked)

theorem movesByOperations_patient (questions : Nat) :
    (patient questions).MovesByOperations where
  element _ _ := ⟨[.eat .identifier], rfl⟩
  goOn _ _ _ := ⟨[], rfl⟩

/-- In front of a line break, in the third round, no name is read.  If the list ends then,
the names are there; if it is to go on, the loop stalls. -/
theorem run_ends_patient :
    let name : Token := ⟨.identifier, "dance", .start⟩
    let line : Token := ⟨.newline, "\n", .start⟩
    let tokens := [name, name, line, .ending .start]
    (∃ last ∈ tokens.getLast?, last.kind = .eof) ∧
      ∃ start, Cursor.ofTokens? tokens = .ok start ∧
        (∃ outcome ∈ (patient 3).run start 0, outcome.rounds.length ≤ 3 ∧
          outcome.result = .ok [name, name]) ∧
        ∃ outcome ∈ (patient 4).run start 0, outcome.rounds.length ≤ 3 ∧
          outcome.result = .error (.stalled line.describe) := by
  intro name line tokens
  have hlast : ∃ last ∈ tokens.getLast?, last.kind = .eof := ⟨.ending .start, rfl, rfl⟩
  obtain ⟨start, hstart, hthree⟩ := run_ends hlast (movesByOperations_patient 3) 0
  obtain rfl : start = ⟨0, [name, name, line], .ending .start, [], by decide, rfl⟩ :=
    (Except.ok.inj hstart).symm
  obtain ⟨_, hstart', hfour⟩ := run_ends hlast (movesByOperations_patient 4) 0
  obtain rfl := Except.ok.inj (hstart.symm.trans hstart')
  obtain ⟨ended, hended, hrounds, -⟩ := hthree []
  obtain ⟨stalled, hstalled, hrounds', -⟩ := hfour []
  refine ⟨hlast, _, hstart, ⟨ended, hended, Nat.le_of_add_left_le hrounds, ?_⟩,
    ⟨stalled, hstalled, Nat.le_of_add_left_le hrounds', ?_⟩⟩
  · rw [Part.mem_unique hended (mem_runFrom_of_inr rfl (mem_runFrom_of_inr rfl
      (mem_runFrom_of_inr rfl (mem_runFrom_of_inl rfl))))]
    rfl
  · rw [Part.mem_unique hstalled (mem_runFrom_of_inr rfl (mem_runFrom_of_inr rfl
      (mem_runFrom_of_inr rfl (mem_runFrom_of_inl rfl))))]
    rfl

end NodeLoop

/-! ## Lists that are read without a memory -/

namespace NodeList

open NodeLoop

variable {α : Type} {list : NodeList α} {s : Standing Unit α} {c c' : Cursor}
  {element : Option α} {goesOn : Bool}

theorem fst_isDone_toLoop : (list.toLoop.isDone c ()).1 = list.isDone c := by
  rw [NodeLoop.isDone, isDone]
  split
  · rename_i hend
    rw [hend, Bool.true_or]
  · rename_i hend
    rw [Bool.not_eq_true] at hend
    rw [hend, Bool.false_or]
    rfl

theorem round_toLoop (h : list.round c = (element, goesOn, c')) :
    list.toLoop.round c () = ⟨c, element, goesOn, c', ()⟩ := by
  have hround : list.toLoop.round c () =
      ⟨c, (list.round c).1, (list.round c).2.1, (list.round c).2.2, ()⟩ := rfl
  rw [hround, h]

theorem enters_toLoop (hdone : ¬ list.isDone s.cursor = true)
    (hmark : ∀ last ∈ s.progress.last, last < s.cursor.position)
    (h : list.round s.cursor = (element, goesOn, c')) :
    list.toLoop.Enters s ⟨s.cursor, element, goesOn, c', ()⟩ where
  isDone := by
    rw [Bool.not_eq_true] at hdone
    rw [← hdone]
    exact fst_isDone_toLoop
  moved := hmark
  round_eq := round_toLoop h

theorem map_append_map_append (front back : List α) (result : Except Fault (List α)) :
    (result.map (back ++ ·)).map (front ++ ·) = result.map (front ++ back ++ ·) := by
  cases result with
  | error fault => rfl
  | ok elements => simp [Except.map]

/-- A list that is read without a memory is such a loop: where the loop stalls for want of
progress, the list stalls because no token has been passed. -/
theorem exists_mem_runFrom_toLoop (hlist : list.toLoop.MovesByOperations)
    (hmark : ∀ last ∈ s.progress.last, last < s.cursor.position) :
    ∃ rounds, ⟨(list.read s.cursor).1.map (s.elements ++ ·), (list.read s.cursor).2, (),
      rounds⟩ ∈ list.toLoop.runFrom s := by
  generalize hc : s.cursor = c
  fun_induction list.read c generalizing s with
  | case1 c hdone =>
      subst hc
      refine ⟨s.rounds, mem_runFrom_of_inl ?_⟩
      rw [turn_of_done (fst_isDone_toLoop.trans hdone)]
      simp [Except.map]
  | case2 c hdone element c' hstep =>
      subst hc
      exact ⟨_, mem_runFrom_of_inl (turn_of_stops (enters_toLoop hdone hmark hstep) rfl)⟩
  | case3 c hdone element c' hstep hdone' =>
      subst hc
      have henters := enters_toLoop hdone hmark hstep
      exact ⟨_, mem_runFrom_of_inr (turn_of_goesOn henters rfl)
        (mem_runFrom_of_inl (turn_of_done (fst_isDone_toLoop.trans hdone')))⟩
  | case4 c hdone element c' hstep hdone' hprogress following =>
      rename_i ih
      subst hc
      have henters := enters_toLoop hdone hmark hstep
      have hplace : s.cursor.position < c'.position := by
        rcases (henters.wanders hlist).stays_or_passes with ⟨-, hsame⟩ | ⟨hplace, -⟩
        · exact absurd hprogress (hsame ▸ Nat.lt_irrefl _)
        · exact hplace
      have hnext : ∀ last ∈ some s.cursor.position, last < c'.position := by
        simpa using hplace
      obtain ⟨rounds, hrest⟩ := @ih (s.after ⟨s.cursor, element, true, c', ()⟩) hnext rfl
      refine ⟨rounds, mem_runFrom_of_inr (turn_of_goesOn henters rfl) ?_⟩
      rw [map_append_map_append]
      exact hrest
  | case5 c hdone element c' hstep hdone' hprogress =>
      subst hc
      have henters := enters_toLoop hdone hmark hstep
      have hplace : c'.position = s.cursor.position := by
        rcases (henters.wanders hlist).stays_or_passes with ⟨hplace, -⟩ | ⟨-, hfewer⟩
        · exact hplace
        · exact absurd hfewer hprogress
      rw [Bool.not_eq_true] at hdone'
      exact ⟨_, mem_runFrom_of_inr (turn_of_goesOn henters rfl)
        (mem_runFrom_of_inl (turn_of_marked (fst_isDone_toLoop.trans hdone')
          (congrArg some hplace.symm)))⟩

/-- What a list without a memory gives is the outcome of its loop. -/
theorem exists_mem_run_toLoop (hlist : list.toLoop.MovesByOperations) (c : Cursor) :
    ∃ rounds, ⟨(list.read c).1, (list.read c).2, (), rounds⟩ ∈ list.toLoop.run c () := by
  have hmark : ∀ last ∈ ({} : Progress).last, last < c.position := by simp
  obtain ⟨rounds, hrun⟩ :=
    @exists_mem_runFrom_toLoop _ _ { cursor := c, memory := () } hlist hmark
  refine ⟨rounds, ?_⟩
  have hresult : (list.read c).1.map ([] ++ ·) = (list.read c).1 := by
    cases (list.read c).1 with
    | error fault => rfl
    | ok elements => rfl
  rwa [hresult] at hrun

end NodeList

/-- The statements of a script are read by such a loop. -/
theorem Grammar.movesByOperations_statementList :
    statementList.toLoop.MovesByOperations where
  element c _ := by
    apply Cursor.wanders_iff_exists_operations.mp
    exact (isReadTo_element c).wanders
  goOn element c _ := by
    apply Cursor.wanders_iff_exists_operations.mp
    exact (isReadTo_goOn element c).wanders

/-- What reads the statements of a script is such a loop. -/
theorem Grammar.exists_mem_run_statementList (c : Cursor) :
    ∃ rounds, ⟨(statementList.read c).1, (statementList.read c).2, (), rounds⟩ ∈
      statementList.toLoop.run c () :=
  NodeList.exists_mem_run_toLoop movesByOperations_statementList c

end Autopilot
