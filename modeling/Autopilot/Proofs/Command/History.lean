import Autopilot.Proofs.Command.Assembly
import Autopilot.Proofs.Script.Spelling
import Mathlib.Data.Finset.Card
import Mathlib.Data.Finset.Dedup

/-!
# Registries along a history of calls

Handlers are registered one after the other, beginning with the empty registry, and a
call that is rejected leaves the registry that there was.  Every registry on the way is
the map from lower-case names to handlers in which the last successful call counts.
-/

namespace Autopilot

open Text

variable {σ : Type}

/-! ## The lower case of a name is a name -/

theorem isWordStart_iff {c : Char} : isWordStart c = true ↔
    c.toNat = 95 ∨ (97 ≤ c.toNat ∧ c.toNat ≤ 122) ∨ (65 ≤ c.toNat ∧ c.toNat ≤ 90) := by
  simp only [isWordStart, Bool.or_eq_true, Bool.and_eq_true, decide_eq_true_eq,
    Char.le_def, UInt32.le_iff_toNat_le, ← Char.toNat_inj, or_assoc]
  exact Iff.rfl

theorem isDigit_iff {c : Char} : isDigit c = true ↔ 48 ≤ c.toNat ∧ c.toNat ≤ 57 := by
  simp only [isDigit, Bool.and_eq_true, decide_eq_true_eq, Char.le_def,
    UInt32.le_iff_toNat_le]
  exact Iff.rfl

theorem isWordStart_smallNarrow {c : Char} (h : isWordStart c = true) :
    isWordStart (smallNarrow c) = true := by
  rw [isWordStart_iff] at h ⊢
  rw [toNat_smallNarrow]
  split <;> omega

theorem isWordPart_smallNarrow {c : Char} (h : isWordPart c = true) :
    isWordPart (smallNarrow c) = true := by
  rw [isWordPart, Bool.or_eq_true] at h ⊢
  rcases h with hstart | hdigit
  · exact Or.inl (isWordStart_smallNarrow hstart)
  · right
    rw [isDigit_iff] at hdigit ⊢
    rw [toNat_smallNarrow, if_neg (by omega)]
    exact hdigit

theorem isWord_lowercase {name : String} (h : isWord name = true) :
    isWord (lowercase name) = true := by
  obtain ⟨first, rest, hname, hfirst, hrest⟩ := exists_of_isWord h
  rw [lowercase_of_ascii (toNat_lt_of_isWord h), isWord, String.toList_ofList, hname,
    List.map_cons]
  simp only [Bool.and_eq_true, List.all_eq_true, List.forall_mem_map]
  exact ⟨isWordStart_smallNarrow hfirst, fun c hc => isWordPart_smallNarrow (hrest c hc)⟩

/-- Names stay names in lower case. -/
theorem IsName.lowercase {name : String} (h : IsName name) :
    IsName (lowercase name) := by
  refine ⟨isWord_lowercase h.1, ?_⟩
  have hkeyword := h.2
  rw [keywordKind?] at hkeyword ⊢
  rwa [lowercase_lowercase_of_isWord h.1]

/-! ## Calls -/

/-- A call that registers a handler: the name and what is given as its handler. -/
structure Registering (σ : Type) where
  name : String
  handler : Option (Handler σ)

namespace Registry

/-- The registry after a call, which is the old one if the call is rejected. -/
def attempt (registry : Registry σ) (call : Registering σ) : Registry σ :=
  match registry.register call.name call.handler with
  | .ok after => after
  | .error _ => registry

/-- What a call has registered: its name as it is spelled there, and its handler. -/
def success? (registry : Registry σ) (call : Registering σ) :
    Option (String × Handler σ) :=
  match registry.register call.name call.handler with
  | .ok _ => call.handler.map fun handler => (call.name, handler)
  | .error _ => none

/-- What the successful calls of a list have registered, in the order of the calls. -/
def successes (registry : Registry σ) : List (Registering σ) → List (String × Handler σ)
  | [] => []
  | call :: rest =>
    (registry.success? call).toList ++ (registry.attempt call).successes rest

/-- The registries of a history of calls: the empty one, and then one after each call. -/
def history (calls : List (Registering σ)) : List (Registry σ) :=
  calls.scanl attempt empty

/-- The handler that was registered last under a name, in any letter case. -/
def latest (name : String) (registered : List (String × Handler σ)) :
    Option (Handler σ) :=
  (registered.filter fun entry =>
    lowercase entry.1 = lowercase name).getLast?.map (·.2)

variable {registry after : Registry σ} {call : Registering σ}
  {registered : List (String × Handler σ)}

/-- A call succeeds exactly if its name is one and it gives a handler. -/
theorem register_eq_ok_iff {name : String} {given : Option (Handler σ)} :
    registry.register name given = .ok after ↔
      IsName name ∧ ∃ handler, given = some handler ∧
        after = registry.put (lowercase name) handler := by
  unfold register
  cases hword : isWord name with
  | false => simp [IsName, hword]
  | true =>
      cases hkeyword : keywordKind? name with
      | some kind => simp [IsName, hkeyword]
      | none =>
          cases given with
          | none => simp
          | some handler => simp [IsName, hword, hkeyword, eq_comm]

/-- A call either succeeds or leaves the registry as it was. -/
theorem attempt_cases (registry : Registry σ) (call : Registering σ) :
    (∃ handler, IsName call.name ∧ call.handler = some handler ∧
      registry.success? call = some (call.name, handler) ∧
      registry.attempt call = registry.put (lowercase call.name) handler) ∨
    registry.success? call = none ∧ registry.attempt call = registry := by
  cases hregister : registry.register call.name call.handler with
  | error fault =>
      right
      simp only [success?, attempt, hregister, and_self]
  | ok after =>
      left
      obtain ⟨hname, handler, hhandler, rfl⟩ := register_eq_ok_iff.mp hregister
      refine ⟨handler, hname, hhandler, ?_, ?_⟩
      · simp only [success?, hregister]
        rw [hhandler, Option.map_some]
      · simp only [attempt, hregister]

theorem successes_concat (registry : Registry σ) (calls : List (Registering σ))
    (call : Registering σ) :
    registry.successes (calls ++ [call]) =
      registry.successes calls ++
        ((calls.foldl attempt registry).success? call).toList := by
  induction calls generalizing registry with
  | nil => simp [successes]
  | cons first rest ih => simp [successes, ih]

/-! ## What a registry has kept -/

/-- A handler takes the place of an earlier one under its key, or comes last. -/
theorem map_fst_putIn (key : String) (handler : Handler σ)
    (entries : List (String × Handler σ)) :
    (putIn key handler entries).map (·.1) =
      if key ∈ entries.map (·.1) then entries.map (·.1)
      else entries.map (·.1) ++ [key] := by
  induction entries with
  | nil => rfl
  | cons entry rest ih =>
      rw [putIn]
      by_cases hkey : entry.1 = key
      · rw [if_pos hkey, if_pos (by simp [hkey])]
        simp [hkey]
      · rw [if_neg hkey, List.map_cons, ih]
        by_cases hrest : key ∈ rest.map (·.1)
        · have hmem : key ∈ (entry :: rest).map (·.1) := List.mem_cons_of_mem _ hrest
          rw [if_pos hrest, if_pos hmem, List.map_cons]
        · have hmem : key ∉ (entry :: rest).map (·.1) :=
            List.not_mem_cons_of_ne_of_not_mem (Ne.symm hkey) hrest
          rw [if_neg hrest, if_neg hmem, List.map_cons, List.cons_append]

theorem mem_names_put {key other : String} {handler : Handler σ} :
    other ∈ (registry.put key handler).names ↔ other ∈ registry.names ∨ other = key := by
  rw [names, put, map_fst_putIn]
  split
  · rename_i hkey
    constructor
    · exact Or.inl
    · rintro (hother | rfl)
      · exact hother
      · exact hkey
  · rw [List.mem_append, List.mem_singleton]
    rfl

theorem nodup_names_put {key : String} {handler : Handler σ} (h : registry.names.Nodup) :
    (registry.put key handler).names.Nodup := by
  rw [names, put, map_fst_putIn]
  split
  · exact h
  · rename_i hkey
    rw [← List.concat_eq_append]
    exact h.concat hkey

theorem latest_concat (name : String) (registered : List (String × Handler σ))
    (entry : String × Handler σ) :
    latest name (registered ++ [entry]) =
      if lowercase entry.1 = lowercase name then some entry.2
      else latest name registered := by
  rw [latest, List.filter_append, List.filter_singleton]
  by_cases hname : lowercase entry.1 = lowercase name
  · simp [hname]
  · simp [hname, latest]

/-- A registry maps the lower-case names of what was registered to the handlers that were
registered last. -/
structure Keeps (registry : Registry σ) (registered : List (String × Handler σ)) :
    Prop where
  lookup : ∀ name, registry.lookup name = latest name registered
  mem_names : ∀ key, key ∈ registry.names ↔
    key ∈ registered.map fun entry => lowercase entry.1
  isName : ∀ key ∈ registry.names, IsName key
  nodup : registry.names.Nodup

theorem keeps_empty : (empty : Registry σ).Keeps [] where
  lookup _ := rfl
  mem_names _ := Iff.rfl
  isName _ hkey := absurd hkey List.not_mem_nil
  nodup := List.nodup_nil

namespace Keeps

theorem put (h : registry.Keeps registered) {name : String} (hname : IsName name)
    (handler : Handler σ) :
    (registry.put (lowercase name) handler).Keeps (registered ++ [(name, handler)]) where
  lookup other := by
    rw [latest_concat, ← h.lookup, Registry.lookup, Registry.put, lookup_putIn]
    by_cases hother : lowercase other = lowercase name
    · rw [if_pos hother, if_pos hother.symm]
    · rw [if_neg hother, if_neg (Ne.symm hother), Registry.lookup]
  mem_names key := by
    rw [mem_names_put, h.mem_names, List.map_append, List.mem_append, List.map_singleton,
      List.mem_singleton]
  isName key hkey := by
    rcases mem_names_put.mp hkey with hkey | rfl
    · exact h.isName key hkey
    · exact hname.lowercase
  nodup := nodup_names_put h.nodup

/-- What one call preserves. -/
theorem attempt (h : registry.Keeps registered) (call : Registering σ) :
    (registry.attempt call).Keeps (registered ++ (registry.success? call).toList) := by
  obtain ⟨handler, hname, -, hsuccess, hattempt⟩ | ⟨hsuccess, hattempt⟩ :=
    registry.attempt_cases call
  · rw [hsuccess, hattempt]
    exact h.put hname handler
  · rw [hsuccess, hattempt, Option.toList_none, List.append_nil]
    exact h

/-- What a run of calls preserves. -/
theorem foldl_attempt (h : registry.Keeps registered) (calls : List (Registering σ)) :
    (calls.foldl Registry.attempt registry).Keeps
      (registered ++ registry.successes calls) := by
  induction calls generalizing registry registered with
  | nil =>
      rw [successes, List.append_nil]
      exact h
  | cons call rest ih =>
      rw [successes, ← List.append_assoc]
      exact ih (h.attempt call)

theorem length_eq (h : registry.Keeps registered) :
    registry.length =
      (registered.map fun entry => lowercase entry.1).toFinset.card := by
  have hnames : registry.names.toFinset =
      (registered.map fun entry => lowercase entry.1).toFinset := by
    ext key
    rw [List.mem_toFinset, List.mem_toFinset, h.mem_names]
  rw [← hnames, List.toFinset_card_of_nodup h.nodup, length, names, List.length_map]

end Keeps

/-! ## Histories -/

/-- The names that are keys are those that a handler is found for. -/
theorem contains_iff_lookup_ne_none {name : String} :
    registry.contains name = true ↔ registry.lookup name ≠ none := by
  rw [contains, List.contains_iff_mem, ne_eq, lookup_eq_none_iff, not_not]

theorem history_getElem?_eq_some_iff {calls : List (Registering σ)} {stage : Nat} :
    (history calls)[stage]? = some registry ↔
      stage ≤ calls.length ∧ (calls.take stage).foldl attempt empty = registry := by
  rw [history, List.getElem?_scanl]
  split <;> simp [*]

/-- At every stage of a history the registry keeps what has been registered so far. -/
theorem keeps_of_history {calls : List (Registering σ)} {stage : Nat}
    (h : (history calls)[stage]? = some registry) :
    registry.Keeps (empty.successes (calls.take stage)) := by
  obtain ⟨-, rfl⟩ := history_getElem?_eq_some_iff.mp h
  exact keeps_empty.foldl_attempt (calls.take stage)

/-- What a registry answers, given what has been registered. -/
structure Answers (registry : Registry σ) (registered : List (String × Handler σ)) : Prop
    extends registry.Keeps registered where
  contains : ∀ name, registry.contains name = true ↔ registry.lookup name ≠ none
  length : registry.length =
    (registered.map fun entry => lowercase entry.1).toFinset.card

/-- What a call makes of the history that it continues. -/
structure Continues (calls : List (Registering σ)) (stage : Nat) (registry : Registry σ)
    (call : Registering σ) : Prop where
  accepted : ∀ after, registry.register call.name call.handler = .ok after →
    (history calls)[stage + 1]? = some after ∧
      ∃ handler, call.handler = some handler ∧
        empty.successes (calls.take (stage + 1)) =
          empty.successes (calls.take stage) ++ [(call.name, handler)]
  rejected : ∀ fault, registry.register call.name call.handler = .error fault →
    (history calls)[stage + 1]? = some registry ∧
      empty.successes (calls.take (stage + 1)) = empty.successes (calls.take stage)

theorem continues_of_history {calls : List (Registering σ)} {stage : Nat}
    (h : (history calls)[stage]? = some registry) (hcall : calls[stage]? = some call) :
    Continues calls stage registry call := by
  obtain ⟨-, hreached⟩ := history_getElem?_eq_some_iff.mp h
  have hnext : (history calls)[stage + 1]? = some (registry.attempt call) := by
    rw [history] at h ⊢
    rw [List.getElem?_succ_scanl, h, hcall]
    rfl
  have hsuccesses : empty.successes (calls.take (stage + 1)) =
      empty.successes (calls.take stage) ++ (registry.success? call).toList := by
    rw [List.take_add_one, hcall, Option.toList_some, successes_concat, hreached]
  rw [attempt] at hnext
  rw [success?] at hsuccesses
  constructor
  · intro after hregister
    obtain ⟨-, handler, hhandler, -⟩ := register_eq_ok_iff.mp hregister
    rw [hregister] at hnext hsuccesses
    rw [hhandler] at hsuccesses
    exact ⟨hnext, handler, hhandler, hsuccesses⟩
  · intro fault hregister
    rw [hregister] at hnext hsuccesses
    refine ⟨hnext, ?_⟩
    rw [hsuccesses, Option.toList_none, List.append_nil]

/-- A registry is a map on lower-case names in which the last write counts.  At every
stage of every history of calls it answers from the calls that have succeeded so far; a
rejected call changes nothing, and later calls leave the earlier registries alone. -/
theorem history_answers (calls : List (Registering σ)) :
    (history calls).length = calls.length + 1 ∧
      (∀ stage registry, (history calls)[stage]? = some registry →
        registry.Answers (empty.successes (calls.take stage)) ∧
          ∀ call, calls[stage]? = some call → Continues calls stage registry call) ∧
      ∀ more, history calls <+: history (calls ++ more) := by
  refine ⟨List.length_scanl, ?_, ?_⟩
  · intro stage registry h
    have hkeeps := keeps_of_history h
    refine ⟨⟨hkeeps, fun name => contains_iff_lookup_ne_none, hkeeps.length_eq⟩, ?_⟩
    intro call hcall
    exact continues_of_history h hcall
  · intro more
    rw [history, history, List.scanl_append]
    exact List.prefix_append _ _

end Registry

end Autopilot
