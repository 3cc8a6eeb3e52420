import UnitWatch.Check.Result

/-!
# Checks of single values

Numbers are read leniently: a truth value counts as 0 or 1, a number without a fractional part as an
integer, and a text as the number that it spells.

**Texts of integers** (`readInteger`). Without the blanks around it: a plus sign, zeros in front,
single low lines between digits, and a fraction of nothing but zeros are dropped; what is left is a
decimal integer.

**Texts of numbers** (`readNumber`). Decimal digits with an optional point and exponent, or a word
for infinity or for no number. It may have blanks around it, or single low lines between characters.
-/

namespace UnitWatch.Check

/-! ## Texts -/

/-- The blanks that a text may have around a number. -/
def isBlank (c : Char) : Bool :=
  let n := c.toNat
  (0x09 ≤ n && n ≤ 0x0d) || n == 0x20 || n == 0x85 || n == 0xa0 || n == 0x1680
    || (0x2000 ≤ n && n ≤ 0x200a) || n == 0x2028 || n == 0x2029 || n == 0x202f || n == 0x205f
    || n == 0x3000

def trim (s : List Char) : List Char :=
  ((s.dropWhile isBlank).reverse.dropWhile isBlank).reverse

def isDigit (c : Char) : Bool := '0' ≤ c && c ≤ '9'

def decimal (digits : List Char) : Nat := digits.foldl (fun n c => n * 10 + (c.toNat - 48)) 0

/-- Whether two low lines stand side by side. -/
def hasDoubleLine : List Char → Bool
  | '_' :: '_' :: _ => true
  | _ :: rest => hasDoubleLine rest
  | [] => false

/-- The text without low lines, if each of them stands alone and inside. -/
def dropLines? (s : List Char) : Option (List Char) :=
  if s.head? = some '_' ∨ s.getLast? = some '_' ∨ hasDoubleLine s then none
  else some (s.filter (· != '_'))

/-! ## Integers -/

/-- Removes zeros in front, and low lines between them, as long as a digit follows. -/
def dropZeros (last : Char) : List Char → Option (List Char)
  | [] => some [last]
  | c :: rest =>
    if c = '0' ∨ c = '_' then dropZeros c rest
    else if c = '.' then some (last :: '.' :: rest)
    else if isDigit c then some (c :: rest)
    else none

/-- The text with zeros in front removed; none unless it starts with a digit or a minus sign. -/
def leadingDigits? : List Char → Option (List Char)
  | [] => none
  | c :: rest =>
    if c = '0' then dropZeros c rest
    else if isDigit c ∨ c = '-' then some (c :: rest)
    else none

/-- Removes a point with zeros, at least one, after it. -/
def dropFraction (s : List Char) : List Char :=
  let part := (s.dropWhile (· != '.')).drop 1
  if !part.isEmpty && part.all (· == '0') then s.takeWhile (· != '.') else s

/-- A decimal integer without superfluous zeros. -/
def plainInteger? (s : List Char) : Option Int :=
  let (negative, digits) := match s with
    | '-' :: rest => (true, rest)
    | rest => (false, rest)
  if digits.isEmpty || !digits.all isDigit || (digits.head? == some '0' && digits != ['0'])
  then none
  else some (if negative then -(decimal digits : Int) else decimal digits)

/-- The most digits of an integer that a text may spell. -/
def maxDigits : Nat := 4300

/-- Reads the integer that a text spells. -/
def readInteger (s : List Char) : Result Int :=
  let body := match trim s with
    | '+' :: '-' :: _ => []
    | '+' :: rest => rest
    | rest => rest
  match leadingDigits? body with
  | none => .reject .unreadableInteger
  | some body =>
    let body := dropFraction body
    let body := (dropLines? body).getD body
    match plainInteger? body with
    | none => .reject .unreadableInteger
    | some n => if maxDigits < body.length then .reject .oversizedInteger else .valid n

/-- The numbers whose integer part is kept: those strictly inside the signed 64-bit range. -/
def fitsInteger (n : Int) : Bool := -9223372036854775808 < n && n < 9223372036854775808

/-- An integer, or something that stands for one. -/
def integer : Checker Int
  | .int n => .valid n
  | .bool b => .valid (if b then 1 else 0)
  | .float x =>
      match x.toRat? with
      | none => .reject .notFinite
      | some q =>
        if q.den ≠ 1 then .reject .fractionalInteger
        else if fitsInteger q.num then .valid q.num
        else .reject .oversizedInteger
  | .text s => readInteger s.toList
  | .brokenText _ => .reject .brokenText
  | _ => .reject .notInteger

/-! ## Numbers -/

/-- The word without distinction of case. -/
def spells (word : String) (s : List Char) : Bool := s.map Char.toLower == word.toList

/-- The exponent after a mark, if the text is one. -/
def exponent? : List Char → Option Int
  | [] => some 0
  | e :: rest =>
    if e = 'e' ∨ e = 'E' then
      let (sign, digits) : Int × List Char := match rest with
        | '-' :: r => (-1, r)
        | '+' :: r => (1, r)
        | r => (1, r)
      if digits.isEmpty || !digits.all isDigit then none else some (sign * decimal digits)
    else none

/-- The number that a text without a sign spells. -/
def unsigned? (negative : Bool) (s : List Char) : Option Binary64 :=
  if spells "inf" s || spells "infinity" s then some (.infinite negative)
  else if spells "nan" s then some .nan
  else
    let whole := s.takeWhile isDigit
    let rest := s.dropWhile isDigit
    let (part, rest) := match rest with
      | '.' :: r => (r.takeWhile isDigit, r.dropWhile isDigit)
      | r => ([], r)
    if whole.isEmpty && part.isEmpty then none
    else (exponent? rest).map fun e =>
      Binary64.ofDecimal negative (decimal (whole ++ part)) (e - part.length)

/-- The number that a text spells. -/
def number? : List Char → Option Binary64
  | '-' :: rest => unsigned? true rest
  | '+' :: rest => unsigned? false rest
  | s => unsigned? false s

/-- Reads the number that a text spells. -/
def readNumber (s : List Char) : Result Binary64 :=
  match (number? (trim s)).orElse fun _ => (dropLines? s).bind number? with
  | some x => .valid x
  | none => .reject .unreadableNumber

/-- A number, or something that stands for one. -/
def number : Checker Binary64
  | .int n =>
      match Binary64.ofInt n with
      | .infinite _ => .reject .notNumber
      | x => .valid x
  | .bool b => .valid (.real (if b then 1 else 0))
  | .float x => .valid x
  | .text s => readNumber s.toList
  | .brokenText _ => .reject .brokenText
  | _ => .reject .notNumber

/-! ## Words and bounds -/

def text : Checker String
  | .text s => .valid s
  | .brokenText _ => .reject .brokenText
  | _ => .reject .notText

/-- One of the members of a type, by its word. -/
def member {α : Type} (all : List α) (word : α → String) : Checker α := fun v =>
  match v.text?.bind fun s => all.find? fun a => word a == s with
  | some a => .valid a
  | none => .reject (.notMember (all.map word))

/-- One of the values of an option, by its word. -/
def oneOf {α : Type} (all : List α) (word : α → String) : Checker α := fun v =>
  match v.text?.bind fun s => all.find? fun a => word a == s with
  | some a => .valid a
  | none => .reject (.notOption (all.map word))

/-- A number above a bound. -/
def above (bound : Int) : Checker Binary64 := fun v =>
  (number v).andThen fun x =>
    if (Binary64.ofInt bound).lt x then .valid x else .reject (.notAbove bound)

/-- An integer between two bounds. -/
def between (low high : Int) : Checker Int := fun v =>
  (integer v).andThen fun n =>
    if n < low then .reject (.below low) else if high < n then .reject (.above high) else .valid n

end UnitWatch.Check
