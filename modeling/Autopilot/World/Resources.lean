/-!
# Resources

The resources around a drone: for each name that has been noted, whether it is near.
A name that has not been noted is not near.  The last note on a name counts.
-/

namespace Autopilot

/-- The notes on resources, one for each name, in the order in which the names were
first noted. -/
structure Resources where
  entries : List (String × Bool)
deriving DecidableEq, Repr

namespace Resources

/-- Whether a resource is near. -/
def isNear (resources : Resources) (name : String) : Bool :=
  (resources.entries.lookup name).getD false

/-- The entries with a note added in the place of an earlier one on the same name. -/
def noteIn (name : String) (near : Bool) :
    List (String × Bool) → List (String × Bool)
  | [] => [(name, near)]
  | entry :: rest =>
    if entry.1 = name then (name, near) :: rest else entry :: noteIn name near rest

/-- The notes with one more. -/
def note (resources : Resources) (name : String) (near : Bool) : Resources :=
  ⟨noteIn name near resources.entries⟩

/-- The resources noted by a list of entries, later ones replacing earlier ones. -/
def ofList (entries : List (String × Bool)) : Resources :=
  entries.foldl (fun resources entry => resources.note entry.1 entry.2) ⟨[]⟩

/-- A note counts for its own name and for no other one. -/
theorem isNear_note (resources : Resources) (name other : String) (near : Bool) :
    (resources.note name near).isNear other =
      if other = name then near else resources.isNear other := by
  obtain ⟨entries⟩ := resources
  simp only [isNear, note]
  induction entries with
  | nil =>
    by_cases h : other = name
    · simp [noteIn, h]
    · have hbeq : (other == name) = false := by simpa using h
      simp [noteIn, List.lookup_cons, h, hbeq]
  | cons entry rest ih =>
    obtain ⟨key, value⟩ := entry
    by_cases hkey : key = name
    · subst hkey
      by_cases h : other = key
      · simp [noteIn, h]
      · have hbeq : (other == key) = false := by simpa using h
        simp [noteIn, List.lookup_cons, h, hbeq]
    · by_cases h : other = key
      · subst h
        simp [noteIn, hkey]
      · have hbeq : (other == key) = false := by simpa using h
        simp only [noteIn, hkey, if_false, List.lookup_cons, hbeq]
        exact ih

end Resources

end Autopilot
