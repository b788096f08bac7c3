import Autopilot.Lexer.Lexeme
import Autopilot.Script.Text
import Autopilot.World.Basic

/-!
# Handlers of commands

A handler carries out a command in a world.  A registry finds the handler of a command
by the name of the command in lower case.  Handlers are registered under names that a
script can spell; the last one registered under a name counts.
-/

namespace Autopilot

/-- What a handler reports: whether the command acted, and what it says about it. -/
structure Outcome where
  performed : Bool
  messages : List String := []
deriving DecidableEq, Repr

/-- The report of a command that acted. -/
def Outcome.done (messages : List String) : Outcome := ⟨true, messages⟩

/-- The report of a command that did not act. -/
def Outcome.skipped (messages : List String) : Outcome := ⟨false, messages⟩

/-- Carries out a command in a world. -/
abbrev Handler (σ : Type) :=
  Command → Access σ Outcome

/-- Handlers by name. -/
structure Registry (σ : Type) where
  entries : List (String × Handler σ)

/-- Whether a name is a word: a letter or an underscore, then letters, digits and
underscores. -/
def isWord (name : String) : Bool :=
  match name.toList with
  | [] => false
  | c :: rest => isWordStart c && rest.all isWordPart

namespace Registry

variable {σ : Type}

/-- The registry without handlers. -/
def empty : Registry σ := ⟨[]⟩

/-- The entries with a handler under a key, in the place of an earlier one. -/
def putIn (key : String) (handler : Handler σ) :
    List (String × Handler σ) → List (String × Handler σ)
  | [] => [(key, handler)]
  | entry :: rest =>
    if entry.1 = key then (key, handler) :: rest else entry :: putIn key handler rest

/-- The registry with a handler under a key, which is taken as it is. -/
def put (registry : Registry σ) (key : String) (handler : Handler σ) : Registry σ :=
  ⟨putIn key handler registry.entries⟩

/-- The registry of a list of entries; of several with one key the last one counts. -/
def ofEntries (entries : List (String × Handler σ)) : Registry σ :=
  entries.foldl (fun registry entry => registry.put entry.1 entry.2) empty

/-- The handler for a name in any letter case. -/
def lookup (registry : Registry σ) (name : String) : Option (Handler σ) :=
  registry.entries.lookup (Text.lowercase name)

/-- The keys of a registry. -/
def names (registry : Registry σ) : List String :=
  registry.entries.map (·.1)

/-- Whether a name in any letter case is a key. -/
def contains (registry : Registry σ) (name : String) : Bool :=
  registry.names.contains (Text.lowercase name)

/-- The number of keys. -/
def length (registry : Registry σ) : Nat :=
  registry.entries.length

/-- The registry with a handler registered under a name.  The name has to be a word and
no keyword, and there has to be something that handles commands. -/
def register (registry : Registry σ) (name : String) (handler : Option (Handler σ)) :
    Except Fault (Registry σ) :=
  if !isWord name then .error (.invalidCommandName name)
  else if (keywordKind? name).isSome then .error (.reservedCommandName name)
  else
    match handler with
    | none => .error (.handlerNotCallable name)
    | some handler => .ok (registry.put (Text.lowercase name) handler)

/-- A handler under a key is found under this key, and no other key is touched. -/
theorem lookup_putIn (key other : String) (handler : Handler σ)
    (entries : List (String × Handler σ)) :
    (putIn key handler entries).lookup other =
      if other = key then some handler else entries.lookup other := by
  induction entries with
  | nil =>
    by_cases h : other = key
    · simp [putIn, h]
    · have hbeq : (other == key) = false := by simpa using h
      simp [putIn, List.lookup_cons, h, hbeq]
  | cons entry rest ih =>
    obtain ⟨name, value⟩ := entry
    by_cases hname : name = key
    · subst hname
      by_cases h : other = name
      · simp [putIn, h]
      · have hbeq : (other == name) = false := by simpa using h
        simp [putIn, List.lookup_cons, h, hbeq]
    · by_cases h : other = name
      · subst h
        simp [putIn, hname]
      · have hbeq : (other == name) = false := by simpa using h
        simp only [putIn, hname, if_false, List.lookup_cons, hbeq]
        exact ih

end Registry

end Autopilot
