import UnitWatch.Text.Printable

/-!
# Quoted text

How messages show a text so that its extent and its invisible characters can be seen.

**Mark.** The single quote, or the double quote for a text that holds single but no double quotes.

**Escapes.** The mark and the backslash are preceded by a backslash; line feed, carriage return and
tab have a letter; any other character that is not printable is written by its code point, in the
shortest of two, four or eight hexadecimal digits.
-/

namespace UnitWatch.Text

/-- The last `width` hexadecimal digits of a number, in lower case. -/
def hexDigits (width n : Nat) : List Char :=
  let digits := Nat.toDigits 16 n
  List.replicate (width - digits.length) '0' ++ digits

namespace Quoted

/-- The quotation mark for a text. -/
def mark (s : List Char) : Char := if '\'' ∈ s ∧ '"' ∉ s then '"' else '\''

/-- One character as written between two quotation marks `q`. -/
def escape (q c : Char) : List Char :=
  if c = q ∨ c = '\\' then ['\\', c]
  else if c = '\n' then ['\\', 'n']
  else if c = '\r' then ['\\', 'r']
  else if c = '\t' then ['\\', 't']
  else if isPrintable c then [c]
  else if c.toNat < 0x100 then '\\' :: 'x' :: hexDigits 2 c.toNat
  else if c.toNat < 0x10000 then '\\' :: 'u' :: hexDigits 4 c.toNat
  else '\\' :: 'U' :: hexDigits 8 c.toNat

def encode (s : List Char) : List Char :=
  let q := mark s
  q :: s.flatMap (escape q) ++ [q]

end Quoted

/-- A text between quotation marks. -/
def quoted (s : String) : String := String.ofList (Quoted.encode s.toList)

end UnitWatch.Text
