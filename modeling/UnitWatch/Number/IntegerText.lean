import UnitWatch.Text.Word

/-!
# Integers in texts

A text spells an integer if, without the blanks around it, it is an optional sign and decimal digits
of any script, where single low lines may stand between digits. The four separators of the control
characters are no blanks here.
-/

namespace UnitWatch.IntegerText

/-- Whether a character may stand around a number. -/
def isMargin (c : Char) : Bool := Text.isBlank c && !(0x1c ≤ c.toNat && c.toNat ≤ 0x1f)

/-- The text without the blanks around it. -/
def trim (s : List Char) : List Char :=
  ((s.dropWhile isMargin).reverse.dropWhile isMargin).reverse

/-- The digits of a number, greatest first; `afterDigit` says whether a low line may stand here. -/
def digits? (afterDigit : Bool) : List Char → Option (List Nat)
  | [] => if afterDigit then some [] else none
  | c :: rest =>
    if c = '_' then (if afterDigit then digits? false rest else none)
    else match Text.digitValue? c with
      | some d => (digits? true rest).map (d :: ·)
      | none => none

/-- The integer that a text spells. -/
def read? (s : List Char) : Option Int :=
  let (negative, body) := match trim s with
    | '-' :: rest => (true, rest)
    | '+' :: rest => (false, rest)
    | rest => (false, rest)
  (digits? false body).map fun ds =>
    let n : Nat := ds.foldl (fun n d => n * 10 + d) 0
    if negative then -(n : Int) else n

end UnitWatch.IntegerText
