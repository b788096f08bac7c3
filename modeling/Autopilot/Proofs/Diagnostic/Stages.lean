import Autopilot.Proofs.Diagnostic.Merging
import Autopilot.Diagnostic.Catalogue
import Mathlib.Data.List.Nodup

/-!
# The stages that make diagnostics

Every diagnostic is an entry of the catalogue at a place, perhaps with a message and a hint
of its own.  The stage that makes it is the category of the entry.  No two entries share a
code, so that diagnostics that say the same are the same, down to their severity and
category, and no report hides an error behind a warning.
-/

namespace Autopilot

namespace Remark

/-- The entry of the catalogue with a code is the only one. -/
theorem eq_of_code_eq {remark other : Remark} (hremark : remark ∈ catalogue)
    (hother : other ∈ catalogue) (hcode : remark.code = other.code) : remark = other :=
  List.inj_on_of_nodup_map catalogue_codes_nodup hremark hother hcode

/-- Whether a remark is one of the catalogue for a stage. -/
def IsOf (remark : Remark) (stage : String) : Prop :=
  remark ∈ catalogue ∧ remark.category = some stage

instance (remark : Remark) (stage : String) : Decidable (remark.IsOf stage) :=
  inferInstanceAs (Decidable (_ ∧ _))

end Remark

namespace Diagnostic

variable {d e : Diagnostic} {stage stage' : String} {ds : List Diagnostic}

/-- A diagnostic of a stage: a remark of that stage at a place. -/
inductive IsMadeIn (stage : String) : Diagnostic → Prop
  | placed (remark : Remark) (isOf : remark.IsOf stage) (position : Position)
      (message hint : Option String) :
    IsMadeIn stage (remark.placed position message hint)

theorem IsMadeIn.category_eq (h : d.IsMadeIn stage) : d.category = some stage := by
  obtain ⟨remark, isOf, -⟩ := h
  exact isOf.2

/-- A diagnostic is made in one stage. -/
theorem IsMadeIn.unique (h : d.IsMadeIn stage) (h' : d.IsMadeIn stage') :
    stage = stage' :=
  Option.some.inj (h.category_eq.symm.trans h'.category_eq)

/-- Diagnostics that say the same have the same severity and category. -/
theorem IsMadeIn.eq_of_sameRemark (h : d.IsMadeIn stage) (h' : e.IsMadeIn stage')
    (hsame : d.sameRemark e = true) : d = e := by
  obtain ⟨remark, isOf, position, message, hint⟩ := h
  obtain ⟨remark', isOf', position', message', hint'⟩ := h'
  obtain ⟨hposition, hcode, hmessage, hhint⟩ := sameRemark_iff.mp hsame
  obtain rfl : remark = remark' := Remark.eq_of_code_eq isOf.1 isOf'.1 hcode
  obtain rfl : position = position' := hposition
  simp only [Remark.placed, mk.injEq, true_and, and_true]
  exact ⟨hmessage, hhint⟩

/-- A report on diagnostics of the stages has all of them. -/
theorem mem_merged_of_isMadeIn (h : ∀ d ∈ ds, ∃ stage, d.IsMadeIn stage) :
    d ∈ merged ds ↔ d ∈ ds := by
  apply mem_merged_of_sameRemark_eq
  intro d hd e he hsame
  obtain ⟨stage, hmade⟩ := h d hd
  obtain ⟨stage', hmade'⟩ := h e he
  exact hmade.eq_of_sameRemark hmade' hsame

end Diagnostic

end Autopilot
