import Autopilot.Command.BuiltIn
import Autopilot.Command.Recipe
import Autopilot.Proofs.Lexer.Leading
import Autopilot.Proofs.Tick.Lookups

/-!
# Registries put together by registering

A registry that is built from the empty one by registering handlers has only keys in
lower case, and no handlers but those that were registered.  So its names tell exactly
which commands have a handler.
-/

namespace Autopilot

variable {σ : Type}

/-! ## Handlers that look up no names -/

/-- A handler never stops at an unknown name.  A handler that looks up no names is one,
because only a world that is asked for a name stops at it. -/
def Handler.NeverMisses (handler : Handler σ) : Prop :=
  ∀ command world, Nameless (handler command world).1

/-- The commands of the drone look up no names: at most they empty the cargo hold. -/
theorem BuiltIn.neverMisses_handle [World σ]
    (hunload : ∀ world : σ, Nameless (World.unload world).1) (builtIn : BuiltIn) :
    (builtIn.handle : Handler σ).NeverMisses := by
  intro command world
  cases builtIn with
  | deposit =>
      have hworld := hunload world
      rw [handle]
      rcases hunloaded : World.unload world with ⟨fault | amount, left⟩
      · rw [hunloaded] at hworld
        exact hworld.error
      · apply amount.nameless_briefText.bind
        intro text
        exact nameless_ok _
  | _ => exact nameless_ok _

/-- A recipe that reads no variable and asks no query looks up no names. -/
theorem Recipe.neverMisses_handle [World σ]
    (hunload : ∀ world : σ, Nameless (World.unload world).1) {recipe : Recipe}
    (hreads : recipe.reads = none) (hasks : recipe.asks = none) :
    (recipe.handle : Handler σ).NeverMisses := by
  intro command world
  have hworld := hunload world
  simp only [handle, hreads, hasks, read, ask, empty]
  by_cases hunloads : recipe.unloads = true
  · rw [if_pos hunloads]
    rcases hunloaded : World.unload world with ⟨fault | amount, left⟩
    · rw [hunloaded] at hworld
      exact hworld.error
    · exact nameless_ok _
  · rw [if_neg hunloads]
    exact nameless_ok _

/-! ## Registering -/

/-- A table has no value for a key exactly if the key is none of its keys. -/
theorem lookup_eq_none_iff_notMem {α : Type} {table : List (String × α)} {key : String} :
    table.lookup key = none ↔ key ∉ table.map (·.1) := by
  simp only [List.lookup_eq_none_iff, List.mem_map, bne_iff_ne, ne_eq]
  constructor
  · rintro h ⟨entry, hentry, hkey⟩
    exact h entry hentry hkey.symm
  · intro h entry hentry hkey
    exact h ⟨entry, hentry, hkey.symm⟩

/-- The lower case of a word is its own lower case. -/
theorem lowercase_lowercase_of_isWord {name : String} (h : isWord name = true) :
    Text.lowercase (Text.lowercase name) = Text.lowercase name :=
  Text.lowercase_lowercase_of_ascii (toNat_lt_of_isWord h)

namespace Registry

variable {registry registry' : Registry σ} {name : String} {handler : Handler σ}

/-- A handler is registered under the lower case of a word. -/
theorem eq_put_of_register
    (h : registry.register name (some handler) = .ok registry') :
    isWord name = true ∧ registry' = registry.put (Text.lowercase name) handler := by
  rw [register] at h
  split at h
  · cases h
  rename_i hword
  split at h
  · cases h
  · exact ⟨by simpa using hword, (Except.ok.inj h).symm⟩

theorem mem_putIn {key : String} {entries : List (String × Handler σ)}
    {entry : String × Handler σ} (h : entry ∈ putIn key handler entries) :
    entry = (key, handler) ∨ entry ∈ entries := by
  induction entries with
  | nil => exact Or.inl (List.mem_singleton.mp h)
  | cons first rest ih =>
      rw [putIn] at h
      split at h
      · exact (List.mem_cons.mp h).imp_right (List.mem_cons_of_mem first)
      · rcases List.mem_cons.mp h with hfirst | hrest
        · exact Or.inr (List.mem_cons.mpr (Or.inl hfirst))
        · exact (ih hrest).imp_right (List.mem_cons_of_mem first)

theorem putIn_ne_nil (key : String) (handler : Handler σ)
    (entries : List (String × Handler σ)) : putIn key handler entries ≠ [] := by
  cases entries with
  | nil => exact List.cons_ne_nil _ _
  | cons first rest =>
      rw [putIn]
      split <;> exact List.cons_ne_nil _ _

/-- A registry has no handler for a name exactly if the lower case of the name is none of
its keys. -/
theorem lookup_eq_none_iff :
    registry.lookup name = none ↔ Text.lowercase name ∉ registry.names :=
  lookup_eq_none_iff_notMem

theorem exists_mem_of_lookup (h : registry.lookup name = some handler) :
    ∃ entry ∈ registry.entries, entry.2 = handler := by
  obtain ⟨before, after, hentries, -⟩ := List.lookup_eq_some_iff.mp h
  refine ⟨(Text.lowercase name, handler), ?_, rfl⟩
  rw [hentries]
  exact List.mem_append_right before List.mem_cons_self

/-- The registries that one handler or more, all of a certain sort, were registered
in, beginning with the empty registry. -/
inductive BuiltOf (sort : Handler σ → Prop) : Registry σ → Prop
  | first {name : String} {handler : Handler σ} {registry : Registry σ}
      (hregister : empty.register name (some handler) = .ok registry)
      (hhandler : sort handler) : BuiltOf sort registry
  | next {name : String} {handler : Handler σ} {earlier registry : Registry σ}
      (hearlier : BuiltOf sort earlier)
      (hregister : earlier.register name (some handler) = .ok registry)
      (hhandler : sort handler) : BuiltOf sort registry

variable {sort : Handler σ → Prop}

/-- What registering a handler keeps: keys in lower case, and handlers of one sort. -/
theorem forall_mem_entries_of_register
    (hregister : registry.register name (some handler) = .ok registry')
    (hhandler : sort handler)
    (h : ∀ entry ∈ registry.entries, Text.lowercase entry.1 = entry.1 ∧ sort entry.2) :
    ∀ entry ∈ registry'.entries, Text.lowercase entry.1 = entry.1 ∧ sort entry.2 := by
  obtain ⟨hword, rfl⟩ := eq_put_of_register hregister
  intro entry hentry
  rcases mem_putIn hentry with rfl | hentry
  · exact ⟨lowercase_lowercase_of_isWord hword, hhandler⟩
  · exact h entry hentry

namespace BuiltOf

theorem forall_mem_entries (h : registry.BuiltOf sort) :
    ∀ entry ∈ registry.entries, Text.lowercase entry.1 = entry.1 ∧ sort entry.2 := by
  induction h with
  | first hregister hhandler =>
      apply forall_mem_entries_of_register hregister hhandler
      intro entry hentry
      cases hentry
  | next hearlier hregister hhandler ih =>
      exact forall_mem_entries_of_register hregister hhandler ih

/-- Every handler that is found was registered. -/
theorem sort_of_lookup (h : registry.BuiltOf sort)
    (hlookup : registry.lookup name = some handler) : sort handler := by
  obtain ⟨entry, hentry, rfl⟩ := exists_mem_of_lookup hlookup
  exact (h.forall_mem_entries entry hentry).2

/-- The names are their own lower case. -/
theorem map_lowercase_names (h : registry.BuiltOf sort) :
    registry.names.map Text.lowercase = registry.names := by
  rw [names, List.map_map]
  apply List.map_congr_left
  intro entry hentry
  exact (h.forall_mem_entries entry hentry).1

theorem names_ne_nil (h : registry.BuiltOf sort) : registry.names ≠ [] := by
  have hput : ∃ earlier key handler, registry.entries = putIn key handler earlier := by
    cases h with
    | first hregister _ =>
        obtain ⟨-, rfl⟩ := eq_put_of_register hregister
        exact ⟨_, _, _, rfl⟩
    | next _ hregister _ =>
        obtain ⟨-, rfl⟩ := eq_put_of_register hregister
        exact ⟨_, _, _, rfl⟩
  obtain ⟨earlier, key, handler, hentries⟩ := hput
  rw [names, hentries, ne_eq, List.map_eq_nil_iff]
  exact putIn_ne_nil key handler earlier

end BuiltOf

end Registry

end Autopilot
