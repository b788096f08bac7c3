import Autopilot.Proofs.Validation.Checkpoints

/-!
# Occurrences of names

A name occurs in a script as the name of a command, or as a query or a variable in a
condition.  An occurrence is told by the number of its statement, by the sort of the name
and by its number among the names of this sort in the statement, so that the occurrences
of one name on one line are told apart.

The check of a script goes through the occurrences one by one, each at a place of its
own.  Replacing the name at one occurrence changes what is checked at this place only.
-/

namespace Autopilot

/-- An occurrence of a name in a script. -/
structure Occurrence where
  statement : Nat
  sort : NameSort
  /-- The number of the occurrence among those of its sort in the statement. -/
  index : Nat
deriving DecidableEq, Repr

/-! ## Lists with indices -/

section Indices

variable {α β γ : Type}

theorem map_mapIdx (g : β → γ) (f : Nat → α → β) (xs : List α) :
    (xs.mapIdx f).map g = xs.mapIdx fun i x => g (f i x) := by
  apply List.ext_getElem?
  intro i
  rw [List.getElem?_map, List.getElem?_mapIdx, List.getElem?_mapIdx, Option.map_map]
  rfl

theorem mapIdx_eq_map (g : α → β) (xs : List α) :
    (xs.mapIdx fun _ x => g x) = xs.map g := by
  apply List.ext_getElem?
  intro i
  rw [List.getElem?_mapIdx, List.getElem?_map]

theorem mapIdx_modify (f : Nat → α → β) (h : α → α) (k : Nat) (xs : List α) :
    (xs.modify k h).mapIdx f = xs.mapIdx fun i x => f i (if k = i then h x else x) := by
  apply List.ext_getElem?
  intro i
  rw [List.getElem?_mapIdx, List.getElem?_mapIdx, List.getElem?_modify]
  cases xs[i]? with
  | none => rfl
  | some x => rfl

theorem map_modify {g : α → β} {h : α → α} (hkeep : ∀ x, g (h x) = g x) (k : Nat)
    (xs : List α) : (xs.modify k h).map g = xs.map g := by
  rw [← mapIdx_eq_map g (xs.modify k h), mapIdx_modify, ← mapIdx_eq_map g xs]
  congr 1
  funext i x
  split
  · exact hkeep x
  · rfl

theorem mem_flatten_mapIdx {f : Nat → α → List β} {xs : List α} {y : β} :
    y ∈ (xs.mapIdx f).flatten ↔ ∃ i x, xs[i]? = some x ∧ y ∈ f i x := by
  simp only [List.mem_flatten, List.mem_mapIdx, List.getElem?_eq_some_iff]
  constructor
  · rintro ⟨_, ⟨i, hi, rfl⟩, hy⟩
    exact ⟨i, _, ⟨hi, rfl⟩, hy⟩
  · rintro ⟨i, _, ⟨hi, rfl⟩, hy⟩
    exact ⟨_, ⟨i, hi, rfl⟩, hy⟩

/-- A relation holds throughout joined lists if it holds in each one and between each one
and the later ones. -/
theorem pairwise_flatten_mapIdx {R : β → β → Prop} {f : Nat → α → List β}
    (hwithin : ∀ i x, (f i x).Pairwise R)
    (hbetween : ∀ i j x y, i < j → ∀ a ∈ f i x, ∀ b ∈ f j y, R a b) (xs : List α) :
    (xs.mapIdx f).flatten.Pairwise R := by
  rw [List.pairwise_flatten]
  constructor
  · intro ys hys
    obtain ⟨i, hi, rfl⟩ := List.mem_mapIdx.mp hys
    exact hwithin i _
  · rw [List.pairwise_iff_getElem]
    intro i j hi hj hless
    rw [List.getElem_mapIdx, List.getElem_mapIdx]
    exact hbetween i j _ _ hless

end Indices

/-! ## Names in conditions -/

namespace Condition

/-- The names of a sort in a condition, from left to right. -/
def occurrences (sort : NameSort) (condition : Condition) : List String :=
  match sort with
  | .command => []
  | .query => condition.queryOccurrences
  | .variable => condition.variableOccurrences

/-- The condition with a new name for one of its names of a sort. -/
def replace (sort : NameSort) (new : String) : Condition → Nat → Condition
  | comparison left comparator right, index =>
    match sort, index, right with
    | .variable, 0, right => comparison new comparator right
    | .variable, 1, .name _ => comparison left comparator (.name new)
    | _, _, right => comparison left comparator right
  | query name, index => if sort = .query ∧ index = 0 then query new else query name
  | logical left connective right, index =>
    -- Names are counted from left to right.
    let before := (left.occurrences sort).length
    if index < before then logical (left.replace sort new index) connective right
    else logical left connective (right.replace sort new (index - before))

theorem occurrences_logical (sort : NameSort) (left right : Condition)
    (connective : Connective) : (logical left connective right).occurrences sort =
      left.occurrences sort ++ right.occurrences sort := by
  cases sort <;> rfl

theorem occurrences_replace (sort sort' : NameSort) (new : String) (condition : Condition)
    (index : Nat) : (condition.replace sort new index).occurrences sort' =
      if sort' = sort then (condition.occurrences sort).set index new
      else condition.occurrences sort' := by
  induction condition generalizing index with
  | comparison left comparator right =>
      rcases index with _ | _ | index <;> cases right <;> cases sort <;> cases sort' <;> rfl
  | query name =>
      rcases index with _ | index <;> cases sort <;> cases sort' <;> rfl
  | logical left connective right ihl ihr =>
      rw [replace, occurrences_logical, occurrences_logical, List.set_append]
      split
      · rw [occurrences_logical, ihl]
        split
        · rename_i hsort
          rw [hsort]
        · rfl
      · rw [occurrences_logical, ihr]
        split
        · rename_i hsort
          rw [hsort]
        · rfl

theorem leafCount_replace (sort : NameSort) (new : String) (condition : Condition)
    (index : Nat) : (condition.replace sort new index).leafCount = condition.leafCount := by
  induction condition generalizing index with
  | comparison left comparator right =>
      rcases index with _ | _ | index <;> cases right <;> cases sort <;> rfl
  | query name =>
      rcases index with _ | index <;> cases sort <;> rfl
  | logical left connective right ihl ihr =>
      rw [replace]
      split
      · rw [leafCount, leafCount, ihl]
      · rw [leafCount, leafCount, ihr]

end Condition

/-! ## Names in statements and scripts -/

namespace Statement

/-- The names of a sort in a statement: that of its command, or those in its
condition. -/
def occurrences (sort : NameSort) (statement : Statement) : List String :=
  match sort, statement.trigger with
  | .command, _ => [statement.command.name]
  | sort, .condition condition => condition.occurrences sort
  | _, _ => []

/-- The statement with a new name for one of its names of a sort. -/
def replace (sort : NameSort) (new : String) (index : Nat) (statement : Statement) :
    Statement :=
  match sort, statement.trigger with
  | .command, _ =>
    if index = 0 then { statement with command := { statement.command with name := new } }
    else statement
  | sort, .condition condition =>
    { statement with trigger := .condition (condition.replace sort new index) }
  | _, _ => statement

variable (sort sort' : NameSort) (new : String) (index : Nat) (statement : Statement)

theorem occurrences_replace : (statement.replace sort new index).occurrences sort' =
    if sort' = sort then (statement.occurrences sort).set index new
    else statement.occurrences sort' := by
  obtain ⟨trigger, command, line⟩ := statement
  cases trigger with
  | condition condition =>
      have hcondition := condition.occurrences_replace sort sort' new index
      rcases sort with _ | _ | _
      · rcases index with _ | index <;> cases sort' <;> rfl
      -- The command stays, and the condition has no names of commands.
      · rcases sort' with _ | _ | _
        · rfl
        · exact hcondition
        · exact hcondition
      · rcases sort' with _ | _ | _
        · rfl
        · exact hcondition
        · exact hcondition
  | fallback =>
      rcases index with _ | index <;> cases sort <;> cases sort' <;> rfl
  | always =>
      rcases index with _ | index <;> cases sort <;> cases sort' <;> rfl

theorem line_replace : (statement.replace sort new index).line = statement.line := by
  obtain ⟨trigger, command, line⟩ := statement
  rcases index with _ | index <;> cases sort <;> cases trigger <;> rfl

theorem kind_replace : (statement.replace sort new index).kind = statement.kind := by
  obtain ⟨trigger, command, line⟩ := statement
  rcases index with _ | index <;> cases sort <;> cases trigger <;> rfl

end Statement

namespace Script

/-- The name at an occurrence, if the script has this occurrence. -/
def nameAt? (script : Script) (occurrence : Occurrence) : Option String :=
  script.statements[occurrence.statement]?.bind fun statement =>
    (statement.occurrences occurrence.sort)[occurrence.index]?

/-- The script with a new name at one occurrence. -/
def replace (script : Script) (occurrence : Occurrence) (new : String) : Script :=
  ⟨script.statements.modify occurrence.statement
    (Statement.replace occurrence.sort new occurrence.index)⟩

/-- A replacement changes the name at its occurrence and no other name. -/
theorem nameAt?_replace {script : Script} {occurrence : Occurrence} {name : String}
    (h : script.nameAt? occurrence = some name) (new : String) (other : Occurrence) :
    (script.replace occurrence new).nameAt? other =
      if other = occurrence then some new else script.nameAt? other := by
  obtain ⟨k, sort, i⟩ := occurrence
  obtain ⟨k', sort', i'⟩ := other
  obtain ⟨statement, hstatement, hname⟩ := Option.bind_eq_some_iff.mp h
  dsimp only at hstatement hname
  obtain ⟨hlength, -⟩ := List.getElem?_eq_some_iff.mp hname
  by_cases hk : k' = k
  · subst hk
    have hreplaced : (script.statements.modify k' (Statement.replace sort new i))[k']? =
        some (statement.replace sort new i) := by
      simp [hstatement]
    simp only [nameAt?, replace, hreplaced, hstatement, Option.bind_some,
      Statement.occurrences_replace, Occurrence.mk.injEq, true_and]
    by_cases hsort : sort' = sort
    · subst hsort
      rw [if_pos rfl, List.getElem?_set]
      by_cases hi : i' = i
      · simp [hi, hlength]
      · simp [hi, Ne.symm hi]
    · simp [hsort]
  · have hkept : (script.statements.modify k (Statement.replace sort new i))[k']? =
        script.statements[k']? := by
      simp [Ne.symm hk]
    simp only [nameAt?, replace, hkept, Occurrence.mk.injEq, hk, false_and, if_false]

end Script

/-! ## The place of an occurrence in the check -/

/-- A place of a check, with the occurrence of a name that is checked there, if any. -/
structure Place where
  point : Checkpoint
  occurrence : Option Occurrence

/-- A place of a name, with a new name. -/
def Checkpoint.named (new : String) : Checkpoint → Checkpoint
  | name sort line _ => name sort line new
  | point => point

/-- A place, with a new name if it belongs to an occurrence. -/
def Place.replace (occurrence : Occurrence) (new : String) (place : Place) : Place :=
  if place.occurrence = some occurrence then ⟨place.point.named new, place.occurrence⟩
  else place

namespace Statement

/-- The places of the names of a sort in the `k`-th statement. -/
def namePlaces (sort : NameSort) (k : Nat) (statement : Statement) : List Place :=
  (statement.occurrences sort).mapIdx fun i name =>
    ⟨.name sort statement.line name, some ⟨k, sort, i⟩⟩

/-- The place of the size of a condition. -/
def sizePlaces (statement : Statement) : List Place :=
  match statement.trigger with
  | .condition condition => [⟨.size statement.line condition.leafCount, none⟩]
  | _ => []

/-- The places of the condition of the `k`-th statement. -/
def conditionPlaces (k : Nat) (statement : Statement) : List Place :=
  statement.sizePlaces ++ statement.namePlaces .query k ++
    statement.namePlaces .variable k

end Statement

/-- The place of the first statement. -/
def Script.openingPlaces (script : Script) : List Place :=
  script.statements.head?.toList.map fun first => ⟨.opening first.kind first.line, none⟩

/-- The places of a script in the order of the check. -/
def Script.places (script : Script) : List Place :=
  ⟨.length (script.statements.map (·.line)), none⟩ :: script.openingPlaces ++
    (script.statements.mapIdx Statement.conditionPlaces).flatten ++
    (script.statements.mapIdx (Statement.namePlaces .command)).flatten

theorem Statement.map_point_namePlaces (sort : NameSort) (k : Nat)
    (statement : Statement) : (statement.namePlaces sort k).map Place.point =
      (statement.occurrences sort).map (.name sort statement.line) := by
  rw [namePlaces, map_mapIdx, mapIdx_eq_map]

theorem Statement.map_point_conditionPlaces (k : Nat) (statement : Statement) :
    (statement.conditionPlaces k).map Place.point = statement.checkpoints := by
  obtain ⟨trigger, command, line⟩ := statement
  rw [conditionPlaces, List.map_append, List.map_append, map_point_namePlaces,
    map_point_namePlaces]
  cases trigger <;> rfl

/-- The check goes through the places. -/
theorem Script.map_point_places (script : Script) :
    script.places.map Place.point = script.checkpoints := by
  have hcommands : (script.statements.map fun statement =>
      (statement.occurrences .command).map (Checkpoint.name .command statement.line)).flatten =
        script.statements.map fun statement =>
          .name .command statement.line statement.command.name :=
    List.map_eq_flatMap.symm
  rw [places, checkpoints, List.map_append, List.map_append, List.map_cons,
    List.map_flatten, List.map_flatten, map_mapIdx, map_mapIdx]
  simp only [Statement.map_point_conditionPlaces, Statement.map_point_namePlaces,
    mapIdx_eq_map, hcommands, openingPlaces, List.map_map]
  rfl

/-! ## Places are told apart by their occurrences -/

section Places

variable {occurrence : Occurrence} {place : Place} {sort : NameSort} {k : Nat}

/-- Two places do not belong to the same occurrence. -/
def Place.Apart (place other : Place) : Prop :=
  ∀ occurrence, place.occurrence = some occurrence → other.occurrence ≠ some occurrence

theorem Place.apart_of_none (h : place.occurrence = none) (other : Place) :
    place.Apart other := by
  intro occurrence hoccurrence
  rw [h] at hoccurrence
  cases hoccurrence

namespace Statement

variable {statement : Statement}

theorem exists_of_mem_namePlaces (h : place ∈ statement.namePlaces sort k) :
    ∃ i name, place = ⟨.name sort statement.line name, some ⟨k, sort, i⟩⟩ ∧
      (statement.occurrences sort)[i]? = some name := by
  obtain ⟨i, hi, rfl⟩ := List.mem_mapIdx.mp h
  exact ⟨i, _, rfl, List.getElem?_eq_getElem hi⟩

theorem exists_of_mem_sizePlaces (h : place ∈ statement.sizePlaces) :
    ∃ terms, place = ⟨.size statement.line terms, none⟩ := by
  rw [sizePlaces] at h
  split at h
  · exact ⟨_, List.mem_singleton.mp h⟩
  · cases h

theorem exists_of_mem_conditionPlaces (h : place ∈ statement.conditionPlaces k) :
    (∃ terms, place = ⟨.size statement.line terms, none⟩) ∨
      ∃ sort, sort ≠ .command ∧ place ∈ statement.namePlaces sort k := by
  rw [conditionPlaces, List.mem_append, List.mem_append] at h
  rcases h with (h | h) | h
  · exact Or.inl (exists_of_mem_sizePlaces h)
  · exact Or.inr ⟨.query, by decide, h⟩
  · exact Or.inr ⟨.variable, by decide, h⟩

theorem occurrence_of_mem_namePlaces (h : place ∈ statement.namePlaces sort k)
    (hoccurrence : place.occurrence = some occurrence) :
    occurrence.statement = k ∧ occurrence.sort = sort := by
  obtain ⟨i, name, rfl, -⟩ := exists_of_mem_namePlaces h
  obtain rfl := Option.some.inj hoccurrence
  exact ⟨rfl, rfl⟩

theorem occurrence_of_mem_conditionPlaces (h : place ∈ statement.conditionPlaces k)
    (hoccurrence : place.occurrence = some occurrence) :
    occurrence.statement = k ∧ occurrence.sort ≠ .command := by
  rcases exists_of_mem_conditionPlaces h with ⟨terms, rfl⟩ | ⟨sort, hsort, h⟩
  · cases hoccurrence
  · obtain ⟨hk, rfl⟩ := occurrence_of_mem_namePlaces h hoccurrence
    exact ⟨hk, hsort⟩

theorem pairwise_namePlaces (sort : NameSort) (k : Nat) (statement : Statement) :
    (statement.namePlaces sort k).Pairwise Place.Apart := by
  rw [namePlaces, List.pairwise_iff_getElem]
  intro i j hi hj hless
  rw [List.getElem_mapIdx, List.getElem_mapIdx]
  intro occurrence hfirst hsecond
  have hsame := Option.some.inj (hfirst.trans hsecond.symm)
  simp only [Occurrence.mk.injEq, true_and] at hsame
  omega

theorem pairwise_conditionPlaces (k : Nat) (statement : Statement) :
    (statement.conditionPlaces k).Pairwise Place.Apart := by
  have hsize : ∀ place ∈ statement.sizePlaces, ∀ other, place.Apart other := by
    intro place hplace
    obtain ⟨terms, rfl⟩ := exists_of_mem_sizePlaces hplace
    exact Place.apart_of_none rfl
  rw [conditionPlaces, List.append_assoc, List.pairwise_append, List.pairwise_append]
  refine ⟨?_, ⟨pairwise_namePlaces .query k _, pairwise_namePlaces .variable k _, ?_⟩, ?_⟩
  · exact List.pairwise_of_forall_mem_list fun place hplace other _ => hsize place hplace other
  · intro place hplace other hother occurrence hoccurrence hsame
    have hquery := (occurrence_of_mem_namePlaces hplace hoccurrence).2
    have hvariable := (occurrence_of_mem_namePlaces hother hsame).2
    rw [hquery] at hvariable
    cases hvariable
  · intro place hplace other _
    exact hsize place hplace other

end Statement

namespace Script

variable {script : Script}

theorem exists_of_mem_openingPlaces (h : place ∈ script.openingPlaces) :
    ∃ kind line, place = ⟨.opening kind line, none⟩ := by
  obtain ⟨first, -, rfl⟩ := List.mem_map.mp h
  exact ⟨_, _, rfl⟩

/-- Different places belong to different occurrences. -/
theorem pairwise_places (script : Script) : script.places.Pairwise Place.Apart := by
  have hopening : ∀ place ∈ script.openingPlaces, ∀ other, place.Apart other := by
    intro place hplace
    obtain ⟨kind, line, rfl⟩ := exists_of_mem_openingPlaces hplace
    exact Place.apart_of_none rfl
  rw [places, List.append_assoc, List.cons_append, List.pairwise_cons, List.pairwise_append,
    List.pairwise_append]
  refine ⟨?_, ?_, ⟨?_, ?_, ?_⟩, ?_⟩
  · exact fun other _ => Place.apart_of_none rfl other
  · exact List.pairwise_of_forall_mem_list fun place hplace other _ =>
      hopening place hplace other
  · apply pairwise_flatten_mapIdx fun k statement => statement.pairwise_conditionPlaces k
    intro i j statement statement' hless place hplace other hother occurrence hi hj
    have hfirst := Statement.occurrence_of_mem_conditionPlaces hplace hi
    have hsecond := Statement.occurrence_of_mem_conditionPlaces hother hj
    omega
  · apply pairwise_flatten_mapIdx fun k statement => statement.pairwise_namePlaces .command k
    intro i j statement statement' hless place hplace other hother occurrence hi hj
    have hfirst := Statement.occurrence_of_mem_namePlaces hplace hi
    have hsecond := Statement.occurrence_of_mem_namePlaces hother hj
    omega
  · intro place hplace other hother occurrence hi hj
    obtain ⟨k, statement, -, hplace⟩ := mem_flatten_mapIdx.mp hplace
    obtain ⟨k', statement', -, hother⟩ := mem_flatten_mapIdx.mp hother
    have hfirst := Statement.occurrence_of_mem_conditionPlaces hplace hi
    have hsecond := Statement.occurrence_of_mem_namePlaces hother hj
    exact hfirst.2 hsecond.2
  · intro place hplace other _
    exact hopening place hplace other

/-- A place is that of a name in a statement, or no name is checked there. -/
theorem exists_of_mem_places (h : place ∈ script.places) :
    (place.occurrence = none ∧ ∀ sort line name, place.point ≠ .name sort line name) ∨
      ∃ (k : Nat) (statement : Statement) (sort : NameSort),
        script.statements[k]? = some statement ∧ place ∈ statement.namePlaces sort k := by
  rw [places, List.mem_append, List.mem_append, List.mem_cons] at h
  rcases h with ((rfl | h) | h) | h
  · exact Or.inl ⟨rfl, by rintro _ _ _ ⟨⟩⟩
  · obtain ⟨kind, line, rfl⟩ := exists_of_mem_openingPlaces h
    exact Or.inl ⟨rfl, by rintro _ _ _ ⟨⟩⟩
  · obtain ⟨k, statement, hstatement, h⟩ := mem_flatten_mapIdx.mp h
    rcases Statement.exists_of_mem_conditionPlaces h with ⟨terms, rfl⟩ | ⟨sort, -, h⟩
    · exact Or.inl ⟨rfl, by rintro _ _ _ ⟨⟩⟩
    · exact Or.inr ⟨k, statement, sort, hstatement, h⟩
  · obtain ⟨k, statement, hstatement, h⟩ := mem_flatten_mapIdx.mp h
    exact Or.inr ⟨k, statement, .command, hstatement, h⟩

/-- A name is checked at a place exactly if the place belongs to an occurrence, and then
it is the name which occurs there. -/
theorem place_cases (h : place ∈ script.places) :
    (place.occurrence = none ∧ ∀ sort line name, place.point ≠ .name sort line name) ∨
      ∃ occurrence statement name,
        place = ⟨.name occurrence.sort statement.line name, some occurrence⟩ ∧
        script.statements[occurrence.statement]? = some statement ∧
        script.nameAt? occurrence = some name := by
  rcases exists_of_mem_places h with hplain | ⟨k, statement, sort, hstatement, hplace⟩
  · exact Or.inl hplain
  · obtain ⟨i, name, rfl, hi⟩ := Statement.exists_of_mem_namePlaces hplace
    refine Or.inr ⟨⟨k, sort, i⟩, statement, name, rfl, hstatement, ?_⟩
    rw [nameAt?, hstatement, Option.bind_some, hi]

end Script

end Places

/-! ## Replacing changes one place -/

section Replacing

variable {occurrence : Occurrence} {place : Place}

theorem map_replace_of_forall_ne {places : List Place} (new : String)
    (h : ∀ place ∈ places, place.occurrence ≠ some occurrence) :
    places.map (Place.replace occurrence new) = places :=
  (List.map_congr_left fun _ hplace => if_neg (h _ hplace)).trans (List.map_id' _)

namespace Statement

variable (statement : Statement) (occurrence : Occurrence) (new : String)

theorem namePlaces_replace (sort : NameSort) (k : Nat) :
    (if occurrence.statement = k then
      statement.replace occurrence.sort new occurrence.index else statement).namePlaces
        sort k = (statement.namePlaces sort k).map (Place.replace occurrence new) := by
  obtain ⟨k', sort', i'⟩ := occurrence
  by_cases hk : k' = k
  · subst hk
    rw [if_pos rfl, namePlaces, namePlaces, map_mapIdx, occurrences_replace, line_replace]
    apply List.ext_getElem?
    intro i
    rw [List.getElem?_mapIdx, List.getElem?_mapIdx]
    by_cases hsort : sort = sort'
    · subst hsort
      rw [if_pos rfl, List.getElem?_set']
      by_cases hi : i' = i
      · subst hi
        rw [if_pos rfl]
        cases (statement.occurrences sort)[i']? with
        | none => rfl
        | some name => exact congrArg some (if_pos rfl).symm
      · rw [if_neg hi]
        congr 1
        funext name
        exact (if_neg (by simp [Ne.symm hi])).symm
    · rw [if_neg hsort]
      congr 1
      funext name
      exact (if_neg (by simp [hsort])).symm
  -- All names of another statement belong to other occurrences.
  · rw [if_neg hk, map_replace_of_forall_ne]
    intro place hplace hoccurrence
    exact hk (occurrence_of_mem_namePlaces hplace hoccurrence).1

theorem sizePlaces_replace (sort : NameSort) (index : Nat) :
    (statement.replace sort new index).sizePlaces = statement.sizePlaces := by
  obtain ⟨trigger, command, line⟩ := statement
  rcases index with _ | index <;> cases sort <;> cases trigger <;>
    simp [replace, sizePlaces, Condition.leafCount_replace]

theorem conditionPlaces_replace (k : Nat) :
    (if occurrence.statement = k then
      statement.replace occurrence.sort new occurrence.index else statement).conditionPlaces
        k = (statement.conditionPlaces k).map (Place.replace occurrence new) := by
  have hsize : ∀ place ∈ statement.sizePlaces, place.occurrence ≠ some occurrence := by
    rintro place hplace hoccurrence
    obtain ⟨terms, rfl⟩ := exists_of_mem_sizePlaces hplace
    cases hoccurrence
  rw [conditionPlaces, conditionPlaces, namePlaces_replace, namePlaces_replace,
    List.map_append, List.map_append, map_replace_of_forall_ne new hsize]
  congr 2
  split
  · exact sizePlaces_replace ..
  · rfl

end Statement

theorem Script.map_line_replace (script : Script) (occurrence : Occurrence)
    (new : String) :
    (script.replace occurrence new).statements.map (·.line) =
      script.statements.map (·.line) :=
  map_modify (fun statement => statement.line_replace ..) _ _

/-- A replacement changes the place of its occurrence and no other place. -/
theorem Script.places_replace (script : Script) (occurrence : Occurrence) (new : String) :
    (script.replace occurrence new).places =
      script.places.map (Place.replace occurrence new) := by
  have hopening : (script.replace occurrence new).openingPlaces = script.openingPlaces := by
    rw [openingPlaces, openingPlaces, ← Option.toList_map, ← Option.toList_map,
      ← List.head?_map, ← List.head?_map, replace, map_modify]
    intro statement
    rw [Statement.kind_replace, Statement.line_replace]
  have hwhole : (⟨.length (script.statements.map (·.line)), none⟩ ::
      script.openingPlaces).map (Place.replace occurrence new) =
        ⟨.length (script.statements.map (·.line)), none⟩ :: script.openingPlaces := by
    apply map_replace_of_forall_ne
    intro place hplace hoccurrence
    rcases List.mem_cons.mp hplace with rfl | hplace
    · cases hoccurrence
    · obtain ⟨kind, line, rfl⟩ := exists_of_mem_openingPlaces hplace
      cases hoccurrence
  rw [places, places, hopening, map_line_replace, List.map_append, List.map_append, hwhole,
    List.map_flatten, List.map_flatten, map_mapIdx, map_mapIdx, replace, mapIdx_modify,
    mapIdx_modify]
  simp only [Statement.conditionPlaces_replace, Statement.namePlaces_replace]

end Replacing

end Autopilot
