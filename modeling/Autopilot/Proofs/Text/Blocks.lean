import Autopilot.Text.Similarity
import Mathlib.Data.List.Basic
import Mathlib.Data.List.Lemmas

/-!
# Common blocks

The blocks that two texts have in common do not cross each other, so their characters
make up a text that is left of either one when characters are taken away.  In two equal
texts the first block that is found lies at the same place in both, and widening it
covers all of them.  If no block can start anywhere, what is widened is the empty block
in front of both texts.
-/

namespace Autopilot.Text

/-! ## Common beginnings -/

section CommonLength

variable {test : Char → Bool} {cs ds : List Char}

theorem exists_common_beginning (test : Char → Bool) (cs ds : List Char) :
    ∃ common r s, cs = common ++ r ∧ ds = common ++ s ∧
      common.length = commonLength test cs ds := by
  induction cs generalizing ds with
  | nil => exact ⟨[], [], ds, rfl, rfl, by simp [commonLength]⟩
  | cons c cs ih =>
      cases ds with
      | nil => exact ⟨[], c :: cs, [], rfl, rfl, by simp [commonLength]⟩
      | cons d ds =>
          rw [commonLength]
          by_cases h : c = d ∧ test c = true
          · obtain ⟨common, r, s, hcs, hds, hlength⟩ := ih ds
            refine ⟨c :: common, r, s, congrArg _ hcs, ?_, ?_⟩
            · rw [hds, h.1]
              rfl
            · rw [if_pos h, List.length_cons, hlength]
          · refine ⟨[], c :: cs, d :: ds, rfl, rfl, ?_⟩
            rw [if_neg h, List.length_nil]

theorem commonLength_comm (test : Char → Bool) (cs ds : List Char) :
    commonLength test cs ds = commonLength test ds cs := by
  induction cs generalizing ds with
  | nil => cases ds <;> simp [commonLength]
  | cons c cs ih =>
      cases ds with
      | nil => simp [commonLength]
      | cons d ds =>
          rw [commonLength, commonLength, ih]
          by_cases h : c = d
          · rw [h]
          · rw [if_neg (fun hcd => h hcd.1), if_neg (fun hdc => h hdc.1.symm)]

/-- No text has a longer beginning in common with another one than with itself. -/
theorem commonLength_le_self (test : Char → Bool) (cs ds : List Char) :
    commonLength test cs ds ≤ commonLength test cs cs := by
  induction cs generalizing ds with
  | nil => simp [commonLength]
  | cons c cs ih =>
      cases ds with
      | nil => simp [commonLength]
      | cons d ds =>
          rw [commonLength, commonLength]
          by_cases h : c = d ∧ test c = true
          · rw [if_pos h, if_pos ⟨rfl, h.2⟩]
            exact Nat.succ_le_succ (ih ds)
          · rw [if_neg h]
            exact Nat.zero_le _

theorem commonLength_true_append (cs ds : List Char) :
    commonLength (fun _ => true) (cs ++ ds) cs = cs.length := by
  induction cs with
  | nil => cases ds <;> rfl
  | cons c cs ih => simp [commonLength, ih]

theorem commonLength_true_self (cs : List Char) :
    commonLength (fun _ => true) cs cs = cs.length := by
  have hself := commonLength_true_append cs []
  rwa [List.append_nil] at hself

/-- Characters that fail the test have nothing in common with others. -/
theorem commonLength_of_forall_false (h : ∀ d ∈ ds, test d = false) (cs : List Char) :
    commonLength test cs ds = 0 := by
  cases cs with
  | nil => rfl
  | cons c cs =>
      cases ds with
      | nil => rfl
      | cons d ds =>
          have hd := h d List.mem_cons_self
          rw [commonLength, if_neg]
          rintro ⟨rfl, hc⟩
          rw [hd] at hc
          cases hc

end CommonLength

/-! ## Blocks are common to both texts -/

namespace Block

/-- A block is common to two texts: what it covers is the same in both. -/
def IsCommon (cs ds : List Char) (block : Block) : Prop :=
  ∃ p q common r s, cs = p ++ common ++ r ∧ ds = q ++ common ++ s ∧
    block = ⟨p.length, q.length, common.length⟩

theorem isCommon_empty (cs ds : List Char) : empty.IsCommon cs ds :=
  ⟨[], [], [], cs, ds, rfl, rfl, rfl⟩

theorem isCommon_commonLength (test : Char → Bool) (p q cs ds : List Char) :
    IsCommon (p ++ cs) (q ++ ds) ⟨p.length, q.length, commonLength test cs ds⟩ := by
  obtain ⟨common, r, s, hcs, hds, hlength⟩ := exists_common_beginning test cs ds
  refine ⟨p, q, common, r, s, ?_, ?_, ?_⟩
  · rw [hcs, List.append_assoc]
  · rw [hds, List.append_assoc]
  · rw [hlength]

theorem isCommon_longestAt {test : Char → Bool} {p q cs ds : List Char} {best : Block}
    (h : best.IsCommon (p ++ cs) (q ++ ds)) :
    (longestAt test p.length cs best q.length ds).IsCommon (p ++ cs) (q ++ ds) := by
  induction ds generalizing q best with
  | nil => exact h
  | cons d ds ih =>
      have hnext : q ++ d :: ds = (q ++ [d]) ++ ds := List.append_cons q d ds
      have hlength : q.length + 1 = (q ++ [d]).length := by simp
      rw [longestAt, hnext, hlength]
      apply ih
      rw [← hnext]
      split
      · exact isCommon_commonLength test p q cs (d :: ds)
      · exact h

theorem isCommon_longestFrom {test : Char → Bool} {p cs ds : List Char} {best : Block}
    (h : best.IsCommon (p ++ cs) ds) :
    (longestFrom test ds best p.length cs).IsCommon (p ++ cs) ds := by
  induction cs generalizing p best with
  | nil => exact h
  | cons c cs ih =>
      have hnext : p ++ c :: cs = (p ++ [c]) ++ cs := List.append_cons p c cs
      have hlength : p.length + 1 = (p ++ [c]).length := by simp
      have hfound : (longestAt test p.length (c :: cs) best 0 ds).IsCommon
          (p ++ c :: cs) ds := isCommon_longestAt (q := []) h
      rw [longestFrom, hlength, hnext]
      apply ih
      rwa [← hnext]

/-- A common block is widened to a common block. -/
theorem IsCommon.widen {cs ds : List Char} {block : Block} (h : block.IsCommon cs ds) :
    (block.widen cs ds).IsCommon cs ds := by
  obtain ⟨p, q, common, r, s, rfl, rfl, rfl⟩ := h
  obtain ⟨before, p', q', hp, hq, hbefore⟩ :=
    exists_common_beginning (fun _ => true) p.reverse q.reverse
  obtain ⟨after, r', s', hr, hs, hafter⟩ :=
    exists_common_beginning (fun _ => true) r s
  have hp' : p = p'.reverse ++ before.reverse := by
    rw [← List.reverse_append, ← hp, List.reverse_reverse]
  have hq' : q = q'.reverse ++ before.reverse := by
    rw [← List.reverse_append, ← hq, List.reverse_reverse]
  refine ⟨p'.reverse, q'.reverse, before.reverse ++ common ++ after, r', s', ?_, ?_, ?_⟩
  · rw [hp', hr]
    simp
  · rw [hq', hs]
    simp
  · have hpl : p.length = p'.length + before.length := by
      rw [hp', List.length_append, List.length_reverse, List.length_reverse]
    have hql : q.length = q'.length + before.length := by
      rw [hq', List.length_append, List.length_reverse, List.length_reverse]
    simp only [Block.widen, List.append_assoc, List.take_left', List.drop_append,
      List.drop_length, Nat.add_sub_cancel_left, List.drop_of_length_le, Nat.le_add_right,
      List.nil_append, ← hbefore, List.length_append, List.length_reverse]
    simp [hpl, hql, hafter, Nat.add_assoc]

theorem isCommon_longest (test : Char → Bool) (cs ds : List Char) :
    (longest test cs ds).IsCommon cs ds := by
  apply IsCommon.widen
  exact isCommon_longestFrom (p := []) (isCommon_empty cs ds)

end Block

/-- The characters that are counted make up a text that can be had from both texts by
taking characters away. -/
theorem exists_sublist_commonCount (test : Char → Bool) (cs ds : List Char) :
    ∃ common : List Char, common.Sublist cs ∧ common.Sublist ds ∧
      common.length = commonCount test cs ds := by
  fun_induction commonCount test cs ds with
  | case1 cs ds block hsize => exact ⟨[], List.nil_sublist _, List.nil_sublist _, rfl⟩
  | case2 cs ds block hsize ihBefore ihAfter =>
      obtain ⟨p, q, common, r, s, hcs, hds, hblock⟩ := Block.isCommon_longest test cs ds
      have hshape : block = ⟨p.length, q.length, common.length⟩ := hblock
      obtain ⟨before, hbeforeLeft, hbeforeRight, hbefore⟩ := ihBefore
      obtain ⟨after, hafterLeft, hafterRight, hafter⟩ := ihAfter
      rw [← hbefore, ← hafter, hshape]
      rw [hshape] at hbeforeLeft hbeforeRight hafterLeft hafterRight
      rw [hcs] at hbeforeLeft hafterLeft ⊢
      rw [hds] at hbeforeRight hafterRight ⊢
      refine ⟨before ++ common ++ after, ?_, ?_, by simp [Nat.add_assoc]⟩
      · refine (List.Sublist.append ?_ (List.Sublist.refl common)).append ?_
        · simpa using hbeforeLeft
        · simpa using hafterLeft
      · refine (List.Sublist.append ?_ (List.Sublist.refl common)).append ?_
        · simpa using hbeforeRight
        · simpa using hafterRight

theorem commonCount_le_left (test : Char → Bool) (cs ds : List Char) :
    commonCount test cs ds ≤ cs.length := by
  obtain ⟨common, hleft, -, hlength⟩ := exists_sublist_commonCount test cs ds
  rw [← hlength]
  exact hleft.length_le

theorem commonCount_le_right (test : Char → Bool) (cs ds : List Char) :
    commonCount test cs ds ≤ ds.length := by
  obtain ⟨common, -, hright, hlength⟩ := exists_sublist_commonCount test cs ds
  rw [← hlength]
  exact hright.length_le

/-! ## Equal texts -/

namespace Block

variable {test : Char → Bool} {cs ds : List Char} {best : Block}

/-- Places are passed where no longer block starts. -/
theorem longestAt_append {left right : Nat} {front back : List Char}
    (h : ∀ k < front.length,
      commonLength test cs ((front ++ back).drop k) ≤ best.size) :
    longestAt test left cs best right (front ++ back) =
      longestAt test left cs best (right + front.length) back := by
  induction front generalizing right with
  | nil => rfl
  | cons d front ih =>
      have hfirst : ¬ best.size < commonLength test cs (d :: (front ++ back)) := by
        have := h 0 (by simp)
        rw [List.cons_append, List.drop_zero] at this
        omega
      rw [List.cons_append, longestAt]
      simp only [if_neg hfirst]
      rw [ih]
      · rw [List.length_cons, Nat.add_assoc, Nat.add_comm 1]
      · intro k hk
        have := h (k + 1) (by simpa using hk)
        rwa [List.cons_append, List.drop_succ_cons] at this

theorem longestAt_of_self_le {left right : Nat}
    (h : commonLength test cs cs ≤ best.size) :
    longestAt test left cs best right ds = best := by
  have hall : ∀ k < ds.length, commonLength test cs ((ds ++ []).drop k) ≤ best.size :=
    fun k _ => (commonLength_le_self test cs _).trans h
  rw [← List.append_nil ds, longestAt_append hall]
  rfl

/-- Among the blocks of a text with itself that start at one place, none is longer than
the one that starts at the same place. -/
theorem longestAt_self {p : List Char} {c : Char}
    (h : ∀ k < p.length, commonLength test ((p ++ c :: cs).drop k)
      ((p ++ c :: cs).drop k) ≤ best.size) :
    longestAt test p.length (c :: cs) best 0 (p ++ c :: cs) =
      if best.size < commonLength test (c :: cs) (c :: cs) then
        ⟨p.length, p.length, commonLength test (c :: cs) (c :: cs)⟩
      else best := by
  have hbefore : ∀ k < p.length,
      commonLength test (c :: cs) ((p ++ c :: cs).drop k) ≤ best.size := by
    intro k hk
    rw [commonLength_comm]
    exact (commonLength_le_self test _ _).trans (h k hk)
  rw [longestAt_append hbefore, Nat.zero_add, longestAt]
  apply longestAt_of_self_le
  split
  · exact Nat.le_refl _
  · omega

/-- The first of the longest blocks of a text with itself lies at the same place in
both. -/
theorem longestFrom_self {p : List Char} (hbest : best.left = best.right)
    (h : ∀ k < p.length,
      commonLength test ((p ++ cs).drop k) ((p ++ cs).drop k) ≤ best.size) :
    (longestFrom test (p ++ cs) best p.length cs).left =
      (longestFrom test (p ++ cs) best p.length cs).right := by
  induction cs generalizing p best with
  | nil => exact hbest
  | cons c cs ih =>
      have hnext : p ++ c :: cs = (p ++ [c]) ++ cs := List.append_cons p c cs
      have hlength : p.length + 1 = (p ++ [c]).length := by simp
      have hpassed : ∀ k < p.length + 1, commonLength test ((p ++ c :: cs).drop k)
          ((p ++ c :: cs).drop k) ≤
            (if best.size < commonLength test (c :: cs) (c :: cs) then
              ⟨p.length, p.length, commonLength test (c :: cs) (c :: cs)⟩
            else best : Block).size := by
        intro k hk
        rcases Nat.lt_succ_iff_lt_or_eq.mp hk with hbefore | rfl
        · have := h k hbefore
          split
          · dsimp only
            omega
          · exact this
        · rw [List.drop_left]
          split
          · exact Nat.le_refl _
          · omega
      rw [longestFrom, longestAt_self h, hlength]
      rw [hlength] at hpassed
      rw [hnext] at hpassed ⊢
      apply ih _ hpassed
      split
      · rfl
      · exact hbest

/-- The longest block of a text with itself, widened, covers it. -/
theorem longest_self (test : Char → Bool) (cs : List Char) :
    longest test cs cs = ⟨0, 0, cs.length⟩ := by
  have hsame : (longestFrom test cs empty 0 cs).left =
      (longestFrom test cs empty 0 cs).right :=
    longestFrom_self (p := []) rfl (fun k hk => absurd hk (Nat.not_lt_zero k))
  have hend : (longestFrom test cs empty 0 cs).left +
      (longestFrom test cs empty 0 cs).size ≤ cs.length :=
    longestFrom_end_le (Nat.zero_le _) (Nat.le_of_eq (Nat.zero_add _))
  simp only [longest, widen, ← hsame, commonLength_true_self, List.length_reverse,
    List.length_take, List.length_drop, mk.injEq]
  omega

end Block

theorem commonCount_self (test : Char → Bool) (cs : List Char) :
    commonCount test cs cs = cs.length := by
  have hnone : ∀ ds, commonCount test [] ds = 0 := fun ds =>
    Nat.le_zero.mp (commonCount_le_left test [] ds)
  rw [commonCount, Block.longest_self]
  by_cases hsize : cs.length = 0
  · rw [dif_pos hsize, hsize]
  · rw [dif_neg hsize]
    simp [hnone]

/-- All characters of two texts lie in common blocks only if the texts are equal. -/
theorem eq_of_commonCount {test : Char → Bool} {cs ds : List Char}
    (h : 2 * commonCount test cs ds = cs.length + ds.length) : cs = ds := by
  obtain ⟨common, hleft, hright, hlength⟩ := exists_sublist_commonCount test cs ds
  have hcs := hleft.length_le
  have hds := hright.length_le
  rw [← hleft.eq_of_length (by omega), ← hright.eq_of_length (by omega)]

/-! ## A text and its continuation -/

namespace Block

variable {test : Char → Bool} {ds : List Char} {best : Block}

theorem longestFrom_of_forall_false (h : ∀ d ∈ ds, test d = false) (left : Nat)
    (cs : List Char) : longestFrom test ds best left cs = best := by
  induction cs generalizing left with
  | nil => rfl
  | cons c cs ih =>
      have hall : ∀ k < ds.length,
          commonLength test (c :: cs) ((ds ++ []).drop k) ≤ best.size := by
        intro k _
        rw [List.append_nil, commonLength_of_forall_false]
        · exact Nat.zero_le _
        · exact fun d hd => h d (List.mem_of_mem_drop hd)
      have hhere : longestAt test left (c :: cs) best 0 (ds ++ []) = best :=
        longestAt_append hall
      rw [List.append_nil] at hhere
      rw [longestFrom, hhere, ih]

theorem longest_append_of_forall_false (h : ∀ d ∈ ds, test d = false) (cs : List Char) :
    longest test (ds ++ cs) ds = ⟨0, 0, ds.length⟩ := by
  rw [longest, longestFrom_of_forall_false h]
  simp [widen, empty, commonLength, commonLength_true_append]

end Block

/-- A text whose characters all fail the test has them all in common with its
continuation. -/
theorem commonCount_append_of_forall_false {test : Char → Bool} {ds : List Char}
    (h : ∀ d ∈ ds, test d = false) (cs : List Char) :
    commonCount test (ds ++ cs) ds = ds.length := by
  have hnone : ∀ left, commonCount test left [] = 0 := fun left =>
    Nat.le_zero.mp (commonCount_le_right test left [])
  rw [commonCount, Block.longest_append_of_forall_false h]
  by_cases hsize : ds.length = 0
  · rw [dif_pos hsize, hsize]
  · rw [dif_neg hsize]
    simp [hnone]

end Autopilot.Text
