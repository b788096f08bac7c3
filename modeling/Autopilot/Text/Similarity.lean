import Autopilot.Number.Decimal
import Autopilot.Text.Lowercase

/-!
# Similar texts

Two texts are compared by the blocks they have in common.  The longest block is found
first, then, in turn, the longest blocks on its left and on its right; the similarity is
the share of the characters of both texts that lie in such blocks.

In a second text of two hundred characters or more the popular characters do not start
a block: those that make up more than about one in a hundred.  A block found without
them is then widened by all characters that agree.
-/

namespace Autopilot.Text

/-- The length of the longest common beginning of two texts whose characters all pass a
test. -/
def commonLength (test : Char → Bool) : List Char → List Char → Nat
  | c :: cs, d :: ds => if c = d ∧ test c then commonLength test cs ds + 1 else 0
  | _, _ => 0

theorem commonLength_le_left (test : Char → Bool) (cs ds : List Char) :
    commonLength test cs ds ≤ cs.length := by
  induction cs generalizing ds with
  | nil => simp [commonLength]
  | cons c cs ih =>
    cases ds with
    | nil => simp [commonLength]
    | cons d ds =>
      have := ih ds
      unfold commonLength
      split
      · simp only [List.length_cons]
        omega
      · exact Nat.zero_le _

/-- A block that two texts have in common: where it starts in each, and its length. -/
structure Block where
  left : Nat
  right : Nat
  size : Nat
deriving DecidableEq, Repr

namespace Block

/-- The empty block at the start of both texts. -/
def empty : Block := ⟨0, 0, 0⟩

/-- The first block longer than `best`, if there is one, among those that start at
`left` and from `right` on; texts are given from there. -/
def longestAt (test : Char → Bool) (left : Nat) (cs : List Char) (best : Block) :
    Nat → List Char → Block
  | _, [] => best
  | right, d :: ds =>
    let size := commonLength test cs (d :: ds)
    longestAt test left cs (if best.size < size then ⟨left, right, size⟩ else best)
      (right + 1) ds

/-- The first of the longest blocks whose characters pass a test, from `left` on. -/
def longestFrom (test : Char → Bool) (ds : List Char) (best : Block) :
    Nat → List Char → Block
  | _, [] => best
  | left, c :: cs =>
    longestFrom test ds (longestAt test left (c :: cs) best 0 ds) (left + 1) cs

/-- A block widened to both sides by all characters that agree. -/
def widen (cs ds : List Char) (block : Block) : Block :=
  let before :=
    commonLength (fun _ => true) (cs.take block.left).reverse
      (ds.take block.right).reverse
  let after :=
    commonLength (fun _ => true) (cs.drop (block.left + block.size))
      (ds.drop (block.right + block.size))
  ⟨block.left - before, block.right - before, before + block.size + after⟩

/-- The longest block of two texts, widened. -/
def longest (test : Char → Bool) (cs ds : List Char) : Block :=
  widen cs ds (longestFrom test ds empty 0 cs)

theorem longestAt_end_le {test : Char → Bool} {left n right : Nat} {cs ds : List Char}
    {best : Block} (hbest : best.left + best.size ≤ n) (hcs : left + cs.length ≤ n) :
    (longestAt test left cs best right ds).left +
      (longestAt test left cs best right ds).size ≤ n := by
  induction ds generalizing right best with
  | nil => exact hbest
  | cons d ds ih =>
    unfold longestAt
    apply ih
    have := commonLength_le_left test cs (d :: ds)
    split
    · dsimp only
      omega
    · exact hbest

theorem longestFrom_end_le {test : Char → Bool} {left n : Nat} {cs ds : List Char}
    {best : Block} (hbest : best.left + best.size ≤ n) (hcs : left + cs.length ≤ n) :
    (longestFrom test ds best left cs).left +
      (longestFrom test ds best left cs).size ≤ n := by
  induction cs generalizing left best with
  | nil => exact hbest
  | cons c cs ih =>
    unfold longestFrom
    simp only [List.length_cons] at hcs
    exact ih (longestAt_end_le hbest (by simpa using hcs)) (by omega)

/-- The longest block lies in the first text. -/
theorem longest_end_le (test : Char → Bool) (cs ds : List Char) :
    (longest test cs ds).left + (longest test cs ds).size ≤ cs.length := by
  have hfound : (longestFrom test ds empty 0 cs).left +
      (longestFrom test ds empty 0 cs).size ≤ cs.length :=
    longestFrom_end_le (by simp [empty]) (by omega)
  have hbefore := commonLength_le_left (fun _ => true)
    (cs.take (longestFrom test ds empty 0 cs).left).reverse
    (ds.take (longestFrom test ds empty 0 cs).right).reverse
  have hafter := commonLength_le_left (fun _ => true)
    (cs.drop ((longestFrom test ds empty 0 cs).left +
      (longestFrom test ds empty 0 cs).size))
    (ds.drop ((longestFrom test ds empty 0 cs).right +
      (longestFrom test ds empty 0 cs).size))
  simp only [List.length_reverse, List.length_take, List.length_drop] at hbefore hafter
  simp only [longest, widen]
  omega

end Block

/-- How many characters lie in common blocks. -/
def commonCount (test : Char → Bool) (cs ds : List Char) : Nat :=
  let block := Block.longest test cs ds
  if _hsize : block.size = 0 then 0
  else
    commonCount test (cs.take block.left) (ds.take block.right) + block.size +
      commonCount test (cs.drop (block.left + block.size))
        (ds.drop (block.right + block.size))
termination_by cs.length
decreasing_by
  all_goals
    have hend := Block.longest_end_le test cs ds
    have hpos : (Block.longest test cs ds).size ≠ 0 := _hsize
    simp only [List.length_take, List.length_drop]
    omega

/-- The characters that do not start a block in a second text because there are too
many of them. -/
def popular (ds : List Char) : List Char :=
  if 200 ≤ ds.length then
    ds.eraseDups.filter fun c => ds.length / 100 + 1 < ds.count c
  else []

/-- Twice a count of characters by the number of all characters, and one if there are
none.  Both numbers are taken for reals before one is divided by the other. -/
def ratio (count total : Nat) : Binary64 :=
  if total = 0 then .ofDecimal false 1 0
  else
    .ofMagnitude? false
      (Magnitude.ofRatio? (2 * Magnitude.rounded count 1 * Binary64.one)
        (Magnitude.rounded total 1))

/-- The similarity of two texts: the ratio of the characters in common blocks. -/
def similarity (first second : String) : Binary64 :=
  let cs := first.toList
  let ds := second.toList
  let excluded := popular ds
  ratio (commonCount (fun c => !excluded.contains c) cs ds) (cs.length + ds.length)

/-- Whether the first of two scored texts is to be preferred: it is more similar, or as
similar and later in the order of texts. -/
def isPreferred (a b : Binary64 × String) : Bool :=
  b.1.exact.lt a.1.exact || (!a.1.exact.lt b.1.exact && decide (b.2 < a.2))

/-- The better one of an earlier choice and a scored text. -/
def prefer (choice : Option (Binary64 × String)) (scored : Binary64 × String) :
    Option (Binary64 × String) :=
  match choice with
  | none => some scored
  | some earlier => if isPreferred scored earlier then some scored else some earlier

/-- The candidate closest to a name in lower case, among those whose similarity is at
least the cutoff. -/
def closest? (name : String) (candidates : List String) (cutoff : Number) :
    Option String :=
  let target := lowercase name
  let scored := candidates.map fun candidate => (similarity candidate target, candidate)
  let near := scored.filter fun score => cutoff.le (.real score.1)
  (near.foldl prefer none).map (·.2)

/-- Whether a number lies between zero and one. -/
def isShare (number : Number) : Bool :=
  (Number.int 0).le number && number.le (.int 1)

/-- The closest candidate, for a cutoff that may lie outside the unit interval. -/
def suggest (name : String) (candidates : List String) (cutoff : Number) :
    Except Fault (Option String) :=
  if isShare cutoff then .ok (closest? name candidates cutoff)
  else .error (.searchCutoff cutoff.text)

end Autopilot.Text
