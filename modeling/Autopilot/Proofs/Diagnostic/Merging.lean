import Autopilot.Diagnostic.Report
import Mathlib.Data.List.Sort
import Mathlib.Tactic.Tauto

/-!
# What a report keeps

The report on a list of diagnostics holds the first one of those that say the same, and no
other one.  It is ordered by position and then by code; where both are the same, the
diagnostic that was made first comes first.  The two facts determine the report.
-/

namespace Autopilot

namespace Diagnostic

variable {d e : Diagnostic} {ds : List Diagnostic}

/-! ## Repeated remarks -/

theorem sameRemark_iff : d.sameRemark e = true ↔
    d.position = e.position ∧ d.code = e.code ∧ d.message = e.message ∧ d.hint = e.hint := by
  simp [sameRemark, and_assoc]

theorem sameRemark_self (d : Diagnostic) : d.sameRemark d = true :=
  sameRemark_iff.mpr ⟨rfl, rfl, rfl, rfl⟩

theorem sameRemark_comm (d e : Diagnostic) : d.sameRemark e = e.sameRemark d := by
  rw [Bool.eq_iff_iff, sameRemark_iff, sameRemark_iff]
  simp only [eq_comm]

theorem mem_distinct_cons_iff : d ∈ distinct (e :: ds) ↔
    d = e ∨ d ∈ distinct ds ∧ e.sameRemark d = false := by
  simp [distinct]

/-- Of the diagnostics that say the same the first one is kept. -/
theorem mem_distinct_iff : d ∈ distinct ds ↔ ds.find? d.sameRemark = some d := by
  induction ds with
  | nil => simp [distinct]
  | cons e rest ih =>
      rw [mem_distinct_cons_iff, ih, List.find?_cons, sameRemark_comm e d]
      cases hsame : d.sameRemark e with
      | true => simp [eq_comm]
      | false =>
          have hne : d ≠ e := by
            rintro rfl
            simp [sameRemark_self] at hsame
          simp [hne]

/-- What is kept stays in the order in which it was made. -/
theorem pairwise_distinct (ds : List Diagnostic) :
    (distinct ds).Pairwise fun d e => ds.idxOf d < ds.idxOf e := by
  induction ds with
  | nil => exact List.Pairwise.nil
  | cons f rest ih =>
      have hlater : ∀ d ∈ (distinct rest).filter fun e => !f.sameRemark e,
          (f :: rest).idxOf d = rest.idxOf d + 1 := by
        intro d hd
        apply List.idxOf_cons_ne
        rintro rfl
        simp [sameRemark_self] at hd
      rw [distinct, List.pairwise_cons]
      constructor
      · intro d hd
        rw [List.idxOf_cons_self, hlater d hd]
        exact Nat.succ_pos _
      · apply (ih.filter _).imp_of_mem
        intro d e hd he hlt
        rw [hlater d hd, hlater e he]
        exact Nat.succ_lt_succ hlt

/-! ## The order of a report -/

theorem notAfter_iff : d.notAfter e = true ↔
    d.position < e.position ∨ d.position = e.position ∧ d.code ≤ e.code := by
  simp [notAfter]

theorem notAfter_trans (d e f : Diagnostic) (hde : d.notAfter e = true)
    (hef : e.notAfter f = true) : d.notAfter f = true := by
  rw [notAfter_iff] at *
  rcases hde with hlt | ⟨hposition, hcode⟩
  · rcases hef with hlt' | ⟨hposition', -⟩
    · exact Or.inl (Position.lt_trans hlt hlt')
    · exact Or.inl (hposition' ▸ hlt)
  · rw [hposition]
    rcases hef with hlt | ⟨hposition', hcode'⟩
    · exact Or.inl hlt
    · exact Or.inr ⟨hposition', String.le_trans hcode hcode'⟩

theorem notAfter_total (d e : Diagnostic) : (d.notAfter e || e.notAfter d) = true := by
  rw [Bool.or_eq_true, notAfter_iff, notAfter_iff]
  by_cases hde : d.position < e.position
  · exact Or.inl (Or.inl hde)
  · by_cases hed : e.position < d.position
    · exact Or.inr (Or.inl hed)
    · have hposition := Position.eq_of_not_lt hde hed
      rcases String.le_total d.code e.code with hcode | hcode
      · exact Or.inl (Or.inr ⟨hposition, hcode⟩)
      · exact Or.inr (Or.inr ⟨hposition.symm, hcode⟩)

/-- Whether the order of a report does not tell two diagnostics apart. -/
def ties (d e : Diagnostic) : Bool :=
  d.position = e.position && d.code = e.code

theorem ties_iff : d.ties e = true ↔ d.position = e.position ∧ d.code = e.code := by
  simp [ties]

/-- The diagnostics that the order does not tell apart keep their order. -/
theorem filter_ties_sorted (d : Diagnostic) (ds : List Diagnostic) :
    (sorted ds).filter d.ties = ds.filter d.ties := by
  have hequal : (ds.filter d.ties).Pairwise fun e f => e.notAfter f = true := by
    apply List.pairwise_of_forall_mem_list
    intro e he f hf
    obtain ⟨hposition, hcode⟩ := ties_iff.mp (List.mem_filter.mp he).2
    obtain ⟨hposition', hcode'⟩ := ties_iff.mp (List.mem_filter.mp hf).2
    rw [notAfter_iff, ← hposition, ← hposition', ← hcode, ← hcode']
    exact Or.inr ⟨rfl, String.le_refl _⟩
  have hsublist : (ds.filter d.ties).Sublist (sorted ds) :=
    List.sublist_mergeSort notAfter_trans notAfter_total hequal List.filter_sublist
  have hfiltered := hsublist.filter d.ties
  simp only [List.filter_filter, Bool.and_self] at hfiltered
  have hlength := ((List.mergeSort_perm ds notAfter).filter d.ties).length_eq
  exact (hfiltered.eq_of_length hlength.symm).symm

/-- The order in which a report on some diagnostics gives two of them: by line, by column,
by code, and by the index of the first occurrence. -/
def Precedes (ds : List Diagnostic) (d e : Diagnostic) : Prop :=
  d.position.line < e.position.line ∨ d.position.line = e.position.line ∧
    (d.position.column < e.position.column ∨ d.position.column = e.position.column ∧
      (d.code < e.code ∨ d.code = e.code ∧ ds.idxOf d < ds.idxOf e))

theorem precedes_iff : Precedes ds d e ↔
    d.position < e.position ∨ d.position = e.position ∧
      (d.code < e.code ∨ d.code = e.code ∧ ds.idxOf d < ds.idxOf e) := by
  rw [Precedes, Position.lt_iff, Position.ext_iff]
  tauto

theorem Precedes.irrefl (ds : List Diagnostic) (d : Diagnostic) : ¬ Precedes ds d d := by
  simp [Precedes]

theorem Precedes.asymm (hde : Precedes ds d e) : ¬ Precedes ds e d := by
  intro hed
  rw [precedes_iff] at hde hed
  rcases hde with hlt | ⟨hposition, hde⟩
  · rcases hed with hlt' | ⟨hposition', -⟩
    · exact Position.lt_irrefl _ (Position.lt_trans hlt hlt')
    · exact Position.lt_irrefl _ (hposition' ▸ hlt)
  · rcases hed with hlt | ⟨-, hed⟩
    · exact Position.lt_irrefl _ (hposition ▸ hlt)
    · rcases hde with hlt | ⟨hcode, hindex⟩
      · rcases hed with hlt' | ⟨hcode', -⟩
        · exact String.lt_irrefl _ (String.lt_trans hlt hlt')
        · exact String.lt_irrefl _ (hcode' ▸ hlt)
      · rcases hed with hlt | ⟨-, hindex'⟩
        · exact String.lt_irrefl _ (hcode ▸ hlt)
        · omega

/-! ## The report -/

theorem pairwise_merged (ds : List Diagnostic) : (merged ds).Pairwise (Precedes ds) := by
  have hsorted := List.pairwise_mergeSort notAfter_trans notAfter_total (distinct ds)
  rw [List.pairwise_iff_forall_sublist] at hsorted ⊢
  intro d e hsublist
  rw [precedes_iff]
  rcases notAfter_iff.mp (hsorted hsublist) with hlt | ⟨hposition, hcode⟩
  · exact Or.inl hlt
  · by_cases hlt : d.code < e.code
    · exact Or.inr ⟨hposition, Or.inl hlt⟩
    · have hsame := String.le_antisymm hcode (String.not_lt.mp hlt)
      -- In a tie the order is that of the diagnostics before they were sorted.
      have htied : [d, e].Sublist ((sorted (distinct ds)).filter d.ties) := by
        have hties : [d, e].filter d.ties = [d, e] := by simp [ties, hposition, hsame]
        exact hties ▸ List.Sublist.filter d.ties hsublist
      rw [filter_ties_sorted] at htied
      have hdistinct := htied.trans List.filter_sublist
      have hindex := List.pairwise_iff_forall_sublist.mp (pairwise_distinct ds) hdistinct
      exact Or.inr ⟨hposition, Or.inr ⟨hsame, hindex⟩⟩

theorem mem_merged_iff : d ∈ merged ds ↔ ds.find? d.sameRemark = some d := by
  rw [merged, sorted, List.mem_mergeSort, mem_distinct_iff]

/-- What a diagnostic says and where.  Its severity and its category are left out. -/
def key (d : Diagnostic) : Nat × Nat × String × String × Option String :=
  (d.position.line, d.position.column, d.code, d.message, d.hint)

theorem sameRemark_iff_key_eq : d.sameRemark e = true ↔ d.key = e.key := by
  simp only [sameRemark_iff, key, Position.ext_iff, Prod.mk.injEq, and_assoc]

/-- What is reported on some diagnostics: of those that say the same at the same place the
first one, in the order of places, codes and first occurrence. -/
structure IsReportOn (reported ds : List Diagnostic) : Prop where
  ordered : reported.Pairwise (Precedes ds)
  mem_iff : ∀ d, d ∈ reported ↔
    ∃ before after, ds = before ++ d :: after ∧ ∀ e ∈ before, e.key ≠ d.key

theorem isReportOn_merged (ds : List Diagnostic) : IsReportOn (merged ds) ds where
  ordered := pairwise_merged ds
  mem_iff d := by
    simp only [mem_merged_iff, List.find?_eq_some_iff_append, sameRemark_self, true_and,
      Bool.not_eq_true', ← Bool.not_eq_true, sameRemark_iff_key_eq, ne_comm]

/-- There is one report on some diagnostics. -/
theorem IsReportOn.eq {reported reported' : List Diagnostic} (h : IsReportOn reported ds)
    (h' : IsReportOn reported' ds) : reported = reported' := by
  have hnodup : ∀ {reported}, IsReportOn reported ds → reported.Nodup := by
    intro reported h
    apply h.ordered.imp
    rintro d _ hprecedes rfl
    exact Precedes.irrefl ds d hprecedes
  have hperm : reported.Perm reported' := by
    rw [List.perm_ext_iff_of_nodup (hnodup h) (hnodup h')]
    intro d
    rw [h.mem_iff, h'.mem_iff]
  apply hperm.eq_of_pairwise _ h.ordered h'.ordered
  intro d e _ _ hde hed
  exact absurd hed hde.asymm

theorem isReportOn_iff {reported : List Diagnostic} :
    IsReportOn reported ds ↔ reported = merged ds := by
  constructor
  · intro h
    exact h.eq (isReportOn_merged ds)
  · rintro rfl
    exact isReportOn_merged ds

/-- Where no two diagnostics say the same, all are reported. -/
theorem mem_merged_of_sameRemark_eq
    (h : ∀ d ∈ ds, ∀ e ∈ ds, d.sameRemark e = true → d = e) :
    d ∈ merged ds ↔ d ∈ ds := by
  rw [mem_merged_iff]
  constructor
  · exact List.mem_of_find?_eq_some
  · intro hd
    have hsome : (ds.find? d.sameRemark).isSome = true := by
      rw [List.find?_isSome]
      exact ⟨d, hd, sameRemark_self d⟩
    obtain ⟨e, he⟩ := Option.isSome_iff_exists.mp hsome
    rw [he, h d hd e (List.mem_of_find?_eq_some he) (List.find?_some he)]

end Diagnostic

end Autopilot
