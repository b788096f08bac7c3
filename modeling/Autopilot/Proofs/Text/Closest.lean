import Autopilot.Proofs.Text.Similarity

/-!
# The closest candidate

Candidates are ranked by their similarity to a target, and equally similar ones by the
order of texts.  The ranking is a linear order although similarity is rounded, so that
there is at most one closest candidate, in whatever order and however often the candidates
are given.  Leaving out the candidates that an estimate of the similarity rules out changes
nothing.
-/

namespace Autopilot.Text

/-! ## The ranking of candidates -/

/-- A candidate ranks at most as high as another one: it is less similar to the target,
or as similar and not later in the order of texts. -/
def RanksAtMost (target candidate other : String) : Prop :=
  (similarity candidate target).exact.lt (similarity other target).exact = true ∨
    (similarity candidate target).exact = (similarity other target).exact ∧
      candidate ≤ other

/-- A candidate whose similarity to the target is at least the cutoff. -/
def IsNear (target : String) (cutoff : Number) (candidate : String) : Prop :=
  cutoff.le (.real (similarity candidate target)) = true

instance (target : String) (cutoff : Number) :
    DecidablePred (IsNear target cutoff) := fun _ =>
  inferInstanceAs (Decidable (_ = true))

/-- The candidate that ranks highest among those that are near enough. -/
structure IsClosest (target : String) (candidates : List String) (cutoff : Number)
    (best : String) : Prop where
  mem : best ∈ candidates
  near : IsNear target cutoff best
  greatest : ∀ other ∈ candidates, IsNear target cutoff other → RanksAtMost target other best

/-- A candidate with its similarity to a target. -/
def scored (target candidate : String) : Binary64 × String :=
  (similarity candidate target, candidate)

section Ranking

variable {target a b c : String}

theorem ranksAtMost_iff : RanksAtMost target a b ↔
    similarityUnits a target < similarityUnits b target ∨
      similarityUnits a target = similarityUnits b target ∧ a ≤ b := by
  rw [RanksAtMost, exact_similarity, exact_similarity]
  simp only [ExactValue.lt, ExactValue.units.injEq, Int.ofNat_inj, Int.ofNat_lt,
    decide_eq_true_eq]

theorem ranksAtMost_refl (target a : String) : RanksAtMost target a a :=
  Or.inr ⟨rfl, String.le_refl a⟩

theorem RanksAtMost.trans (hab : RanksAtMost target a b) (hbc : RanksAtMost target b c) :
    RanksAtMost target a c := by
  rw [ranksAtMost_iff] at hab hbc ⊢
  rcases hab with hab | ⟨hab, hab'⟩
  · exact Or.inl (by omega)
  · rcases hbc with hbc | ⟨hbc, hbc'⟩
    · exact Or.inl (by omega)
    · exact Or.inr ⟨hab.trans hbc, String.le_trans hab' hbc'⟩

theorem RanksAtMost.antisymm (hab : RanksAtMost target a b)
    (hba : RanksAtMost target b a) : a = b := by
  rw [ranksAtMost_iff] at hab hba
  rcases hab with hab | ⟨hab, hab'⟩
  · omega
  · rcases hba with hba | ⟨-, hba'⟩
    · omega
    · exact String.le_antisymm hab' hba'

theorem ranksAtMost_total (target a b : String) :
    RanksAtMost target a b ∨ RanksAtMost target b a := by
  rw [ranksAtMost_iff, ranksAtMost_iff]
  rcases Nat.lt_trichotomy (similarityUnits a target) (similarityUnits b target) with
    hless | hsame | hmore
  · exact Or.inl (Or.inl hless)
  · rcases String.le_total a b with hle | hle
    · exact Or.inl (Or.inr ⟨hsame, hle⟩)
    · exact Or.inr (Or.inr ⟨hsame.symm, hle⟩)
  · exact Or.inr (Or.inl hmore)

/-- A scored candidate is preferred exactly if it does not rank at most as high. -/
theorem isPreferred_scored_iff :
    isPreferred (scored target a) (scored target b) = true ↔ ¬ RanksAtMost target a b := by
  rw [ranksAtMost_iff]
  simp only [isPreferred, scored, exact_similarity, ExactValue.lt, Bool.or_eq_true,
    Bool.and_eq_true, Bool.not_eq_true', decide_eq_true_eq, decide_eq_false_iff_not,
    ← String.not_lt (a := b)]
  by_cases hless : b < a
  · simp only [hless, decide_true, not_true, and_true, and_false, or_false]
    omega
  · simp only [hless, decide_false, Bool.false_eq_true, not_false_iff, and_true, and_false,
      or_false]
    omega

/-- Going through candidates leaves one that ranks at least as high as all of them. -/
theorem exists_foldl_prefer (target first : String) (rest : List String) :
    ∃ best ∈ first :: rest,
      (rest.map (scored target)).foldl prefer (some (scored target first)) =
        some (scored target best) ∧
      ∀ other ∈ first :: rest, RanksAtMost target other best := by
  induction rest generalizing first with
  | nil =>
      refine ⟨first, List.mem_cons_self, rfl, ?_⟩
      intro other hother
      rw [List.mem_singleton.mp hother]
      exact ranksAtMost_refl target first
  | cons next rest ih =>
      rw [List.map_cons, List.foldl_cons, prefer]
      by_cases hpreferred : isPreferred (scored target next) (scored target first) = true
      · obtain ⟨best, hbest, hfold, hgreatest⟩ := ih next
        have hfirst : RanksAtMost target first next :=
          (ranksAtMost_total target next first).resolve_left
            (isPreferred_scored_iff.mp hpreferred)
        rw [if_pos hpreferred]
        refine ⟨best, List.mem_cons_of_mem _ hbest, hfold, ?_⟩
        intro other hother
        rcases List.mem_cons.mp hother with rfl | hother
        · exact hfirst.trans (hgreatest next List.mem_cons_self)
        · exact hgreatest other hother
      · obtain ⟨best, hbest, hfold, hgreatest⟩ := ih first
        have hnext : RanksAtMost target next first :=
          not_not.mp (mt isPreferred_scored_iff.mpr hpreferred)
        rw [if_neg hpreferred]
        refine ⟨best, ?_, hfold, ?_⟩
        · rcases List.mem_cons.mp hbest with rfl | hrest
          · exact List.mem_cons_self
          · exact List.mem_cons_of_mem _ (List.mem_cons_of_mem _ hrest)
        · intro other hother
          rcases List.mem_cons.mp hother with rfl | hother
          · exact hgreatest other List.mem_cons_self
          · rcases List.mem_cons.mp hother with rfl | hother
            · exact hnext.trans (hgreatest first List.mem_cons_self)
            · exact hgreatest other (List.mem_cons_of_mem _ hother)

end Ranking

/-! ## The search -/

/-- The candidate that ranks highest, if there are any. -/
def highest? (target : String) (candidates : List String) : Option String :=
  ((candidates.map (scored target)).foldl prefer none).map (·.2)

/-- The search that leaves candidates out by their estimates: candidates are put in
order, and the similarity is computed of those only that no estimate rules out. -/
def searchEstimated? (target : String) (candidates : List String) (cutoff : Number) :
    Option String :=
  let ordered := candidates.mergeSort fun a b => decide (a ≤ b)
  highest? target <| ordered.filter fun candidate =>
    cutoff.le (.real (lengthEstimate candidate target)) &&
      cutoff.le (.real (characterEstimate candidate target)) &&
      cutoff.le (.real (similarity candidate target))

section Search

variable {name target best : String} {candidates others : List String} {cutoff : Number}

/-- There is at most one closest candidate. -/
theorem IsClosest.unique {best' : String} (h : IsClosest target candidates cutoff best)
    (h' : IsClosest target candidates cutoff best') : best = best' :=
  (h'.greatest best h.mem h.near).antisymm (h.greatest best' h'.mem h'.near)

theorem exists_highest? (target : String) {near : List String} (h : near ≠ []) :
    ∃ best ∈ near, highest? target near = some best ∧
      ∀ other ∈ near, RanksAtMost target other best := by
  obtain ⟨first, rest, rfl⟩ := List.exists_cons_of_ne_nil h
  obtain ⟨best, hbest, hfold, hgreatest⟩ := exists_foldl_prefer target first rest
  refine ⟨best, hbest, ?_, hgreatest⟩
  rw [highest?, List.map_cons, List.foldl_cons, prefer, hfold]
  rfl

/-- The highest of all near candidates is the closest candidate. -/
theorem highest?_eq_some_iff {near : List String}
    (hnear : ∀ text, text ∈ near ↔ text ∈ candidates ∧ IsNear target cutoff text) :
    highest? target near = some best ↔ IsClosest target candidates cutoff best := by
  by_cases hnone : near = []
  · subst hnone
    constructor
    · intro h
      cases h
    · intro h
      exact absurd ((hnear best).mpr ⟨h.mem, h.near⟩) List.not_mem_nil
  · obtain ⟨found, hfound, hhighest, hgreatest⟩ := exists_highest? target hnone
    have hclosest : IsClosest target candidates cutoff found :=
      ⟨((hnear found).mp hfound).1, ((hnear found).mp hfound).2, fun other hother hnext =>
        hgreatest other ((hnear other).mpr ⟨hother, hnext⟩)⟩
    rw [hhighest]
    constructor
    · intro h
      rwa [← Option.some.inj h]
    · intro h
      rw [hclosest.unique h]

theorem mem_filter_isNear_iff {text : String} :
    text ∈ candidates.filter (IsNear target cutoff) ↔
      text ∈ candidates ∧ IsNear target cutoff text := by
  rw [List.mem_filter, decide_eq_true_eq]

theorem closest?_eq_highest? (name : String) (candidates : List String) (cutoff : Number) :
    closest? name candidates cutoff = highest? (lowercase name)
      (candidates.filter (IsNear (lowercase name) cutoff)) := by
  have hfilter : (candidates.map (scored (lowercase name))).filter
      (fun score => cutoff.le (.real score.1)) =
        (candidates.filter (IsNear (lowercase name) cutoff)).map
          (scored (lowercase name)) := by
    rw [List.filter_map]
    congr 1
    apply List.filter_congr
    intro candidate _
    rw [Bool.eq_iff_iff, decide_eq_true_iff, IsNear, Function.comp_apply, scored]
  rw [highest?, ← hfilter]
  rfl

theorem closest?_eq_some_iff : closest? name candidates cutoff = some best ↔
    IsClosest (lowercase name) candidates cutoff best := by
  rw [closest?_eq_highest?]
  exact highest?_eq_some_iff fun _ => mem_filter_isNear_iff

theorem mem_of_closest? (h : closest? name candidates cutoff = some best) :
    best ∈ candidates :=
  (closest?_eq_some_iff.mp h).mem

/-- If a candidate is near enough, there is a closest one. -/
theorem closest?_eq_none_iff : closest? name candidates cutoff = none ↔
    ∀ candidate ∈ candidates, ¬ IsNear (lowercase name) cutoff candidate := by
  constructor
  · intro h candidate hmem hnear
    have hne : candidates.filter (IsNear (lowercase name) cutoff) ≠ [] :=
      List.ne_nil_of_mem (mem_filter_isNear_iff.mpr ⟨hmem, hnear⟩)
    obtain ⟨best, -, hhighest, -⟩ := exists_highest? (lowercase name) hne
    rw [closest?_eq_highest?, hhighest] at h
    cases h
  · intro h
    apply Option.eq_none_iff_forall_ne_some.mpr
    intro best hbest
    have hclosest := closest?_eq_some_iff.mp hbest
    exact h best hclosest.mem hclosest.near

/-- The estimates leave out no candidate that is near enough. -/
theorem searchEstimated?_eq_closest? (name : String) (candidates : List String)
    (cutoff : Number) :
    searchEstimated? (lowercase name) candidates cutoff =
      closest? name candidates cutoff := by
  apply Option.ext
  intro best
  rw [closest?_eq_some_iff]
  apply highest?_eq_some_iff
  intro text
  rw [List.mem_filter, List.mem_mergeSort, Bool.and_eq_true, Bool.and_eq_true]
  constructor
  · rintro ⟨hmem, -, hnear⟩
    exact ⟨hmem, hnear⟩
  · rintro ⟨hmem, hnear⟩
    exact ⟨hmem, ⟨le_lengthEstimate hnear, le_characterEstimate hnear⟩, hnear⟩

theorem IsClosest.congr (h : ∀ text, text ∈ others ↔ text ∈ candidates)
    (hbest : IsClosest target candidates cutoff best) :
    IsClosest target others cutoff best :=
  ⟨(h best).mpr hbest.mem, hbest.near, fun other hother =>
    hbest.greatest other ((h other).mp hother)⟩

/-- Neither the order of candidates nor their repetition matters. -/
theorem closest?_congr (h : ∀ text, text ∈ others ↔ text ∈ candidates) (name : String)
    (cutoff : Number) :
    closest? name others cutoff = closest? name candidates cutoff := by
  apply Option.ext
  intro best
  rw [closest?_eq_some_iff, closest?_eq_some_iff]
  exact ⟨IsClosest.congr fun text => (h text).symm, IsClosest.congr h⟩

/-- No cutoff between zero and one is too high for the target itself. -/
theorem isNear_self (h : isShare cutoff = true) (target : String) :
    IsNear target cutoff target := by
  have hone : cutoff.le (.int 1) = true := (Bool.and_eq_true_iff.mp h).2
  have hexact : (Number.real (similarity target target)).exact = (Number.int 1).exact := by
    calc
      (similarity target target).exact = .units (similarityUnits target target) :=
        exact_similarity target target
      _ = .units (1 * Binary64.one) := by rw [similarityUnits_self, Int.one_mul]
  rw [IsNear, Number.le, hexact]
  exact hone

/-- A target that is itself a candidate is the closest one. -/
theorem IsClosest.eq_target (h : IsClosest target candidates cutoff best)
    (hcutoff : isShare cutoff = true) (hmem : target ∈ candidates)
    (hlength : target.toList.length < twoPow 52) : best = target := by
  apply eq_of_one_le_similarityUnits hlength
  have hgreatest := h.greatest target hmem (isNear_self hcutoff target)
  rw [ranksAtMost_iff, similarityUnits_self] at hgreatest
  omega

/-- The suggestion for a name is the closest candidate, be it searched with or without
estimates: there is none exactly if no candidate is near enough, and the candidates may
be given in any order and any number of times.  A name that is itself a candidate is the
suggestion, unless it has `2 ^ 52` characters or more. -/
theorem suggest_isClosest (hcutoff : isShare cutoff = true) (name : String)
    (candidates : List String) :
    ∃ suggestion, suggest name candidates cutoff = .ok suggestion ∧
      searchEstimated? (lowercase name) candidates cutoff = suggestion ∧
      (suggestion = none ↔
        ∀ candidate ∈ candidates, ¬ IsNear (lowercase name) cutoff candidate) ∧
      (∀ best, suggestion = some best ↔
        IsClosest (lowercase name) candidates cutoff best) ∧
      (∀ others, (∀ text, text ∈ others ↔ text ∈ candidates) →
        suggest name others cutoff = .ok suggestion) ∧
      (lowercase name ∈ candidates → (lowercase name).toList.length < twoPow 52 →
        suggestion = some (lowercase name)) := by
  refine ⟨closest? name candidates cutoff, ?_, searchEstimated?_eq_closest? ..,
    closest?_eq_none_iff, fun _ => closest?_eq_some_iff, ?_, ?_⟩
  · rw [suggest, if_pos hcutoff]
  · intro others hothers
    rw [suggest, if_pos hcutoff, closest?_congr hothers]
  · intro hmem hlength
    have hsome : closest? name candidates cutoff ≠ none := fun hnone =>
      closest?_eq_none_iff.mp hnone _ hmem (isNear_self hcutoff _)
    obtain ⟨best, hbest⟩ := Option.ne_none_iff_exists'.mp hsome
    rw [hbest, (closest?_eq_some_iff.mp hbest).eq_target hcutoff hmem hlength]

/-- A name with a letter missing, one that nothing is close to, and a candidate. -/
theorem suggest_isClosest_mine_nearst :
    let cutoff := Number.real (.ofDecimal false 75 (-2))
    let candidates := ["mine_nearest", "deposit"]
    isShare cutoff = true ∧
      suggest "Mine_Nearst" ["deposit", "mine_nearest", "deposit"] cutoff =
        .ok (some "mine_nearest") ∧
      IsClosest "mine_nearst" candidates cutoff "mine_nearest" ∧
      (∀ candidate ∈ candidates, ¬ IsNear "zzz" cutoff candidate) ∧
      suggest "Deposit" candidates cutoff = .ok (some "deposit") := by
  intro cutoff candidates
  have hcutoff : isShare cutoff = true := by decide +kernel
  have hmine : lowercase "Mine_Nearst" = "mine_nearst" := by decide +kernel
  have hzzz : lowercase "zzz" = "zzz" := by decide +kernel
  have hdeposit : lowercase "Deposit" = "deposit" := by decide +kernel
  refine ⟨hcutoff, ?_, ?_, ?_, ?_⟩
  · obtain ⟨_, hsuggest, -, -, -, hsame, -⟩ :=
      suggest_isClosest hcutoff "Mine_Nearst" candidates
    have hfound : suggest "Mine_Nearst" candidates cutoff = .ok (some "mine_nearest") := by
      decide +kernel
    rw [← hfound, hsuggest]
    exact hsame _ (by simp [candidates, or_comm])
  · obtain ⟨_, hsuggest, -, -, hclosest, -⟩ :=
      suggest_isClosest hcutoff "Mine_Nearst" candidates
    have hfound : suggest "Mine_Nearst" candidates cutoff = .ok (some "mine_nearest") := by
      decide +kernel
    rw [← hmine]
    exact (hclosest _).mp (Except.ok.inj (hsuggest.symm.trans hfound))
  · obtain ⟨_, hsuggest, -, hnone, -⟩ := suggest_isClosest hcutoff "zzz" candidates
    have hfound : suggest "zzz" candidates cutoff = .ok none := by decide +kernel
    rw [← hzzz]
    exact hnone.mp (Except.ok.inj (hsuggest.symm.trans hfound))
  · obtain ⟨_, hsuggest, -, -, -, -, hself⟩ := suggest_isClosest hcutoff "Deposit" candidates
    rw [hdeposit] at hself
    rw [hsuggest, hself (by decide) (by decide +kernel)]

end Search

/-! ## Names that are too long -/

/-- A text of one letter, over and over. -/
def repeated (n : Nat) : String :=
  String.ofList (List.replicate n 'a')

/-- The same text with another letter at its end. -/
def continued (n : Nat) : String :=
  String.ofList (List.replicate n 'a' ++ ['b'])

section Repeated

variable {n : Nat}

theorem lowercase_repeated (n : Nat) : lowercase (repeated n) = repeated n := by
  have hchars : ∀ c ∈ (repeated n).toList, c = 'a' := by
    intro c hc
    rw [repeated, String.toList_ofList] at hc
    exact List.eq_of_mem_replicate hc
  rw [lowercase_of_ascii]
  · rw [repeated, String.toList_ofList, List.map_replicate]
    rfl
  · intro c hc
    rw [hchars c hc]
    decide

theorem continued_ne_repeated (n : Nat) : continued n ≠ repeated n := by
  intro h
  have hlength := congrArg (fun text => text.toList.length) h
  simp [continued, repeated] at hlength

/-- The letter of a long text does not start a block. -/
theorem mem_popular_replicate (h : 200 ≤ n) : 'a' ∈ popular (List.replicate n 'a') := by
  rw [popular, List.length_replicate, if_pos h, List.mem_filter, List.mem_eraseDups,
    List.count_replicate_self]
  refine ⟨List.mem_replicate.mpr ⟨by omega, rfl⟩, decide_eq_true ?_⟩
  omega

theorem sharedCount_continued (h : 200 ≤ n) :
    sharedCount (continued n) (repeated n) = n := by
  have hfail : ∀ d ∈ List.replicate n 'a',
      (!(popular (List.replicate n 'a')).contains d) = false := by
    intro d hd
    rw [List.eq_of_mem_replicate hd, Bool.not_eq_false', List.contains_iff_mem]
    exact mem_popular_replicate h
  rw [sharedCount, continued, repeated, String.toList_ofList, String.toList_ofList,
    commonCount_append_of_forall_false hfail, List.length_replicate]

/-- A text and its continuation are wholly similar if their lengths are taken for the same
real. -/
theorem similarityUnits_continued (h : 200 ≤ n)
    (hround : 2 * Magnitude.rounded n 1 = Magnitude.rounded (n + 1 + n) 1) :
    similarityUnits (continued n) (repeated n) = Binary64.one := by
  have htotal : totalLength (continued n) (repeated n) = n + 1 + n := by
    simp [totalLength, continued, repeated]
  rw [similarityUnits, sharedCount_continued h, htotal]
  exact ratioUnits_of_rounded_eq hround

/-- Of two texts that are wholly similar to the target the later one is the closest. -/
theorem isClosest_continued {cutoff : Number} (hcutoff : isShare cutoff = true)
    (h : similarityUnits (continued n) (repeated n) = Binary64.one) :
    IsClosest (repeated n) [repeated n, continued n] cutoff (continued n) where
  mem := List.mem_cons_of_mem _ (List.mem_singleton_self _)
  near := by
    apply le_real_trans (isNear_self hcutoff (repeated n)) (exact_similarity _ _)
      (exact_similarity _ _)
    rw [h, similarityUnits_self]
  greatest := by
    intro other hother _
    rcases List.mem_cons.mp hother with rfl | hother
    · rw [ranksAtMost_iff, h, similarityUnits_self]
      refine Or.inr ⟨rfl, ?_⟩
      rw [← String.not_lt, String.lt_iff, repeated, continued, String.toList_ofList,
        String.toList_ofList]
      exact List.not_lt.mpr (List.prefix_append _ _).le
    · rw [List.mem_singleton.mp hother]
      exact ranksAtMost_refl _ _

end Repeated

/-- That a candidate which is the name itself is the suggestion fails at a name of `2 ^ 52`
characters: with the text that is longer by one it has `2 ^ 53 + 1`, and they are taken for
`2 ^ 53`. -/
theorem suggest_of_long_name :
    let name := repeated (twoPow 52)
    let cutoff := Number.int 1
    isShare cutoff = true ∧ lowercase name ∈ [name, continued (twoPow 52)] ∧
      ∃ best, suggest name [name, continued (twoPow 52)] cutoff = .ok (some best) ∧
        best ≠ lowercase name := by
  intro name cutoff
  have hcutoff : isShare cutoff = true := by decide +kernel
  have hlower : lowercase name = name := lowercase_repeated _
  have hround : 2 * Magnitude.rounded (twoPow 52) 1 =
      Magnitude.rounded (twoPow 52 + 1 + twoPow 52) 1 := by decide +kernel
  have hsimilar := similarityUnits_continued (by decide) hround
  rw [hlower]
  refine ⟨hcutoff, List.mem_cons_self, continued (twoPow 52), ?_, continued_ne_repeated _⟩
  rw [suggest, if_pos hcutoff]
  apply congrArg
  rw [closest?_eq_some_iff, hlower]
  exact isClosest_continued hcutoff hsimilar

end Autopilot.Text
