import UnitWatch.Number.Binary64

/-!
# Decimal text of binary numbers

**Shortest text** (`shortestDigits`). The fewest decimal digits that read back as the same number,
and of those the nearest to it. A decimal reads back exactly when it lies in the interval of
rationals that round to the number; the ends belong to it iff the number is an even multiple of its
quantum. With `n` digits only the two neighbours of the number on the `n`-digit grid can qualify.

**Fixed places** (`fixedPlaces`). The exact value rounded to a given number of decimals, a half going
to the even digit.

**Layout** (`display`). Positional from `1e-4` up to (not including) `1e16`, with at least one
decimal; elsewhere one leading digit, the rest as decimals, and a signed exponent of at least two
digits.
-/

namespace UnitWatch

namespace Binary64

/-! ## Digits -/

/-- The largest `k` with `10 ^ k ≤ q`, for positive `q`, searched from a rough guess. -/
def decimalMagnitude (q : Rat) : Int :=
  let guess := (magnitude q * 30103) / 100000
  if (10 : Rat) ^ (guess + 1) ≤ q then guess + 1
  else if (10 : Rat) ^ guess ≤ q then guess
  else guess - 1

/-- The rationals that round to the positive number `q`: low end, high end, and whether the ends
themselves do. Just above a power of two the numbers below lie half as far apart. -/
def roundingInterval (q : Rat) : Rat × Rat × Bool :=
  let step := quantum q
  let multiple := q / step
  let below :=
    if multiple = (2 : Rat) ^ (52 : Nat) ∧ (2 : Rat) ^ (-1074 : Int) < step then step / 4
    else step / 2
  (q - below, q + step / 2, multiple.num % 2 = 0)

/-- The grid point with `n` digits that reads back as `q`, if one does. -/
def digitsAt (q : Rat) (k : Int) (n : Nat) : Option (Nat × Int) :=
  let exponent := k - n + 1
  let unit := (10 : Rat) ^ exponent
  let (low, high, closed) := roundingInterval q
  let inside (r : Rat) : Bool := if closed then low ≤ r && r ≤ high else low < r && r < high
  let a := (q / unit).floor
  let down := (a : Rat) * unit
  let up := ((a + 1 : Int) : Rat) * unit
  match inside down && a ≠ 0, inside up with
  | true, true =>
      let nearer := if q - down < up - q then a
        else if up - q < q - down then a + 1
        else if a % 2 = 0 then a else a + 1
      some (nearer.toNat, exponent)
  | true, false => some (a.toNat, exponent)
  | false, true => some ((a + 1).toNat, exponent)
  | false, false => none

/-- Digits and exponent of the shortest decimal of the positive number `q`. -/
def shortestDigits (q : Rat) : Nat × Int :=
  let k := decimalMagnitude q
  ((List.range 17).findSome? fun i => digitsAt q k (i + 1)).getD
    ((q / (10 : Rat) ^ (k - 16)).floor.toNat, k - 16)

/-- Trailing zeros moved into the exponent. -/
def stripZeros : Nat → List Char → Int → List Char × Int
  | 0, digits, e => (digits, e)
  | n + 1, digits, e =>
      match digits.getLast? with
      | some '0' => stripZeros n digits.dropLast (e + 1)
      | _ => (digits, e)

/-! ## Layout -/

/-- Digits `d₁d₂…` standing for `d₁.d₂… · 10 ^ point`, in positional or exponent notation. -/
def layout (digits : List Char) (point : Int) : String :=
  let zeros (n : Int) : List Char := List.replicate n.toNat '0'
  if -4 ≤ point ∧ point < 16 then
    if point < 0 then
      String.ofList (['0', '.'] ++ zeros (-point - 1) ++ digits)
    else
      let whole := digits.take (point + 1).toNat
      let part := digits.drop (point + 1).toNat
      String.ofList (whole ++ zeros (point + 1 - digits.length) ++ ['.']
        ++ (if part.isEmpty then ['0'] else part))
  else
    let head := digits.take 1
    let part := digits.drop 1
    let size := Nat.toDigits 10 point.natAbs
    String.ofList (head ++ (if part.isEmpty then [] else '.' :: part)
      ++ ['e', if point < 0 then '-' else '+']
      ++ (if size.length < 2 then '0' :: size else size))

/-- The shortest text that reads back as the number. -/
def display : Binary64 → String
  | .nan => "nan"
  | .infinite n => if n then "-inf" else "inf"
  | .negativeZero => "-0.0"
  | .real q =>
      if q = 0 then "0.0"
      else
        let (d, e) := shortestDigits q.abs
        let (digits, e) := stripZeros 17 (Nat.toDigits 10 d) e
        (if q < 0 then "-" else "") ++ layout digits (e + digits.length - 1)

/-- The number with a fixed count of decimals. -/
def fixedPlaces (places : Nat) : Binary64 → String
  | .nan => "nan"
  | .infinite n => if n then "-inf" else "inf"
  | x =>
      let scaled := roundHalfEven ((x.toRat?.getD 0).abs * (10 : Rat) ^ places)
      let digits := Nat.toDigits 10 scaled.toNat
      let padded := List.replicate (places + 1 - digits.length) '0' ++ digits
      let whole := padded.take (padded.length - places)
      let part := padded.drop (padded.length - places)
      (if x.isNegative then "-" else "") ++ String.ofList whole
        ++ (if places = 0 then "" else "." ++ String.ofList part)

end Binary64

end UnitWatch
