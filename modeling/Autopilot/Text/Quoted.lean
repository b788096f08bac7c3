import Autopilot.Text.Printable

/-!
# Quoted text

The form in which a text is shown inside a message: between quotes, on one line,
with every character that cannot be shown replaced by an escape.  The quotes are
single ones unless the text holds a single quote and no double one.
-/

namespace Autopilot.Text

/-- The quote that stands around a text. -/
def quoteFor (cs : List Char) : Char :=
  if cs.contains '\'' && !cs.contains '"' then '"' else '\''

/-- The digits of a number in base sixteen, padded with zeros to a width. -/
def hexDigits (width n : Nat) : List Char :=
  let digits := Nat.toDigits 16 n
  List.replicate (width - digits.length) '0' ++ digits

/-- The escape of a code point that cannot be shown: two, four or eight digits. -/
def escapeCode (n : Nat) : List Char :=
  if n < 0x100 then '\\' :: 'x' :: hexDigits 2 n
  else if n < 0x10000 then '\\' :: 'u' :: hexDigits 4 n
  else '\\' :: 'U' :: hexDigits 8 n

/-- One character as it stands between quotes. -/
def escape (quote c : Char) : List Char :=
  if c = quote ∨ c = '\\' then ['\\', c]
  else if c = '\n' then ['\\', 'n']
  else if c = '\r' then ['\\', 'r']
  else if c = '\t' then ['\\', 't']
  else if isPrintable c then [c]
  else escapeCode c.toNat

/-- A text between quotes. -/
def quoted (text : String) : String :=
  let quote := quoteFor text.toList
  String.ofList (quote :: text.toList.flatMap (escape quote) ++ [quote])

/-- A quote inside the text never ends it: each one of its kind is escaped. -/
theorem escape_quote (quote : Char) : escape quote quote = ['\\', quote] := by
  simp [escape]

/-- A printable character other than the quote and the backslash stands for itself. -/
theorem escape_of_printable {quote c : Char} (hquote : c ≠ quote) (hslash : c ≠ '\\')
    (h : isPrintable c = true) : escape quote c = [c] := by
  have hn : c ≠ '\n' := by rintro rfl; exact absurd h (by decide)
  have hr : c ≠ '\r' := by rintro rfl; exact absurd h (by decide)
  have ht : c ≠ '\t' := by rintro rfl; exact absurd h (by decide)
  simp [escape, hquote, hslash, hn, hr, ht, h]

end Autopilot.Text
