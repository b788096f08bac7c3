import Autopilot.Token.Basic
import Autopilot.Text.Numeral

/-!
# Lexemes

A script's text is cut into lexemes: tokens, blanks, comments, and stray characters
that belong to nothing.  `Lexeme.first` cuts off the first lexeme of a text, which is
the longest one that the text starts with; `lexemes` cuts the whole text.

No character is lost: the characters of the lexemes, one after the other, are the
text (`flatMap_chars_lexemes`).
-/

namespace Autopilot

open Text

/-- A piece of a script's text. -/
inductive Lexeme where
  | token (kind : TokenKind) (text : List Char)
  | blank (c : Char)
  | comment (text : List Char)
  | stray (c : Char)
deriving DecidableEq, Repr

/-- The characters that may start a word: letters of ASCII and the underscore. -/
def isWordStart (c : Char) : Bool :=
  c = '_' || ('a' ≤ c && c ≤ 'z') || ('A' ≤ c && c ≤ 'Z')

/-- The characters that may follow in a word. -/
def isWordPart (c : Char) : Bool :=
  isWordStart c || isDigit c

/-- The characters between tokens that mean nothing. -/
def isBlank (c : Char) : Bool :=
  c = ' ' || c = '\t' || c = '\r'

/-- The tokens of two characters. -/
def pairKind? (c d : Char) : Option TokenKind :=
  if d = '=' then
    if c = '<' then some .lessOrEqual
    else if c = '>' then some .greaterOrEqual
    else if c = '=' then some .equalTo
    else if c = '!' then some .notEqualTo
    else none
  else none

/-- The tokens of one character, line breaks aside. -/
def singleKind? (c : Char) : Option TokenKind :=
  if c = '<' then some .lessThan
  else if c = '>' then some .greaterThan
  else if c = '(' then some .leftParen
  else if c = ')' then some .rightParen
  else if c = ',' then some .comma
  else none

/-- The kind of a word. -/
def wordKind (word : List Char) : TokenKind :=
  (keywordKind? (String.ofList word)).getD .identifier

/-- The number that a text starts with and what follows it: digits, and a point and
more digits if a digit follows the point. -/
def splitNumber (cs : List Char) : List Char × List Char :=
  match cs.dropWhile isDigit with
  | '.' :: d :: rest =>
    if isDigit d then
      (cs.takeWhile isDigit ++ '.' :: d :: rest.takeWhile isDigit,
        rest.dropWhile isDigit)
    else (cs.takeWhile isDigit, '.' :: d :: rest)
  | rest => (cs.takeWhile isDigit, rest)

namespace Lexeme

/-- The characters of a lexeme. -/
def chars : Lexeme → List Char
  | token _ text => text
  | blank c => [c]
  | comment text => text
  | stray c => [c]

/-- The lexeme of a character that starts no longer one. -/
def single (c : Char) : Lexeme :=
  match singleKind? c with
  | some kind => token kind [c]
  | none => stray c

/-- The lexeme of an operator, a punctuation mark or a stray character, and what
follows it. -/
def mark (c : Char) : List Char → Lexeme × List Char
  | [] => (single c, [])
  | d :: rest =>
    match pairKind? c d with
    | some kind => (token kind [c, d], rest)
    | none => (single c, d :: rest)

/-- The first lexeme of a text that starts with `c`, and what follows it. -/
def first (c : Char) (cs : List Char) : Lexeme × List Char :=
  if isBlank c then (blank c, cs)
  else if c = '#' then
    (comment (c :: cs.takeWhile (· ≠ '\n')), cs.dropWhile (· ≠ '\n'))
  else if c = '\n' then (token .newline [c], cs)
  else if isWordStart c then
    (token (wordKind (c :: cs.takeWhile isWordPart)) (c :: cs.takeWhile isWordPart),
      cs.dropWhile isWordPart)
  else if isDigit c then
    (token .number (splitNumber (c :: cs)).1, (splitNumber (c :: cs)).2)
  else mark c cs

theorem chars_single (c : Char) : (single c).chars = [c] := by
  unfold single
  split <;> rfl

theorem chars_mark (c : Char) (cs : List Char) :
    (mark c cs).1.chars ++ (mark c cs).2 = c :: cs := by
  cases cs with
  | nil => simp [mark, chars_single]
  | cons d rest =>
    unfold mark
    dsimp only
    split
    · rfl
    · simp [chars_single]

end Lexeme

theorem splitNumber_append (cs : List Char) :
    (splitNumber cs).1 ++ (splitNumber cs).2 = cs := by
  have hwhole : cs.takeWhile isDigit ++ cs.dropWhile isDigit = cs :=
    List.takeWhile_append_dropWhile
  unfold splitNumber
  split
  · rename_i d rest hdrop
    split
    · rw [List.append_assoc, List.cons_append, List.cons_append,
        List.takeWhile_append_dropWhile, ← hdrop, hwhole]
    · rw [← hdrop, hwhole]
  · rename_i hdrop
    exact hwhole

namespace Lexeme

/-- The first lexeme and what follows it make up the text. -/
theorem chars_first (c : Char) (cs : List Char) :
    (first c cs).1.chars ++ (first c cs).2 = c :: cs := by
  unfold first
  split
  · rfl
  split
  · exact congrArg (c :: ·) List.takeWhile_append_dropWhile
  split
  · rfl
  split
  · exact congrArg (c :: ·) List.takeWhile_append_dropWhile
  split
  · exact splitNumber_append (c :: cs)
  · exact chars_mark c cs

end Lexeme

/-- A number starts with the first digit. -/
theorem splitNumber_cons_ne_nil {c : Char} (cs : List Char) (hc : isDigit c = true) :
    (splitNumber (c :: cs)).1 ≠ [] := by
  have htake : (c :: cs).takeWhile isDigit ≠ [] := by simp [hc]
  unfold splitNumber
  split
  · split
    · simp
    · exact htake
  · exact htake

namespace Lexeme

/-- A lexeme has at least one character. -/
theorem chars_first_ne_nil (c : Char) (cs : List Char) :
    (first c cs).1.chars ≠ [] := by
  unfold first
  split
  · simp [chars]
  split
  · simp [chars]
  split
  · simp [chars]
  split
  · simp [chars]
  split
  · rename_i hdigit
    exact splitNumber_cons_ne_nil cs hdigit
  · unfold mark
    cases cs with
    | nil => simp [chars_single]
    | cons d rest =>
      dsimp only
      split
      · simp [chars]
      · simp [chars_single]

/-- What follows the first lexeme is shorter than the text. -/
theorem length_first_le (c : Char) (cs : List Char) :
    (first c cs).2.length ≤ cs.length := by
  have hlength := congrArg List.length (chars_first c cs)
  have hpos := List.length_pos_iff.mpr (chars_first_ne_nil c cs)
  simp only [List.length_append, List.length_cons] at hlength
  omega

end Lexeme

/-- The lexemes of a text. -/
def lexemes : List Char → List Lexeme
  | [] => []
  | c :: cs => (Lexeme.first c cs).1 :: lexemes (Lexeme.first c cs).2
termination_by cs => cs.length
decreasing_by
  have := Lexeme.length_first_le c cs
  simp only [List.length_cons]
  omega

/-- The lexemes of a text make up the text. -/
theorem flatMap_chars_lexemes (cs : List Char) :
    (lexemes cs).flatMap Lexeme.chars = cs := by
  fun_induction lexemes cs with
  | case1 => rfl
  | case2 c cs ih => rw [List.flatMap_cons, ih, Lexeme.chars_first]

end Autopilot
