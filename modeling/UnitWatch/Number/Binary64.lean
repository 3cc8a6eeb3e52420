/-!
# Binary floating-point numbers

A number of the 64-bit binary format, kept as the exact rational it stands for.

**Rounding.** Every operation computes exactly and then rounds once. `Binary64.ofRat` picks the
nearest multiple of the quantum at that magnitude, the even multiple of two equally near ones.
The quantum is `2 ^ (e - 52)` for magnitudes in `[2 ^ e, 2 ^ (e + 1))`, and never below `2 ^ (-1074)`.

**Zero.** `real 0` is the positive zero; the negative zero is a value of its own because it prints
with its sign.
-/

namespace UnitWatch

/-- A binary floating-point number. `real q` stands for exactly `q`. -/
inductive Binary64 where
  | nan
  | infinite (negative : Bool)
  | negativeZero
  | real (q : Rat)
  deriving DecidableEq, Inhabited

namespace Binary64

/-! ## Rounding -/

/-- The largest `e` with `2 ^ e ≤ |q|`, for `q ≠ 0`. -/
def magnitude (q : Rat) : Int :=
  let e : Int := (q.num.natAbs.log2 : Int) - (q.den.log2 : Int)
  if (2 : Rat) ^ e ≤ q.abs then e else e - 1

/-- The distance between neighbouring numbers of the format around `q`. -/
def quantum (q : Rat) : Rat := (2 : Rat) ^ max (magnitude q - 52) (-1074)

/-- The nearest integer; a half goes to the even neighbour. -/
def roundHalfEven (q : Rat) : Int :=
  let low := q.floor
  let part := q - low
  if part < 1 / 2 then low
  else if 1 / 2 < part then low + 1
  else if low % 2 = 0 then low else low + 1

/-- The number nearest to `q`, infinite from `2 ^ 1024` on. -/
def ofRat (q : Rat) : Binary64 :=
  if q = 0 then .real 0
  else
    let step := quantum q
    let r := (roundHalfEven (q / step) : Rat) * step
    if r = 0 then (if q < 0 then .negativeZero else .real 0)
    else if (2 : Rat) ^ (1024 : Nat) ≤ r.abs then .infinite (q < 0)
    else .real r

/-- The number nearest to an integer. -/
def ofInt (n : Int) : Binary64 := ofRat n

/-- The number nearest to `digits · 10 ^ exponent`. Exponents far outside the format are answered
without computing the power. -/
def ofDecimal (negative : Bool) (digits : Nat) (exponent : Int) : Binary64 :=
  let zero : Binary64 := if negative then .negativeZero else .real 0
  let size : Int := (Nat.toDigits 10 digits).length + exponent
  if digits = 0 then zero
  else if 400 < size then .infinite negative
  else if size < -400 then zero
  else
    let q : Rat := (digits : Rat) * (10 : Rat) ^ exponent
    ofRat (if negative then -q else q)

/-! ## Reading a number -/

/-- The rational a finite number stands for. -/
def toRat? : Binary64 → Option Rat
  | .nan | .infinite _ => none
  | .negativeZero => some 0
  | .real q => some q

/-- The sign bit. -/
def isNegative : Binary64 → Bool
  | .nan => false
  | .infinite n => n
  | .negativeZero => true
  | .real q => q < 0

/-- The integer part, toward zero. -/
def trunc? (x : Binary64) : Option Int :=
  x.toRat?.map fun q => if q < 0 then -((-q).floor) else q.floor

/-- The integer it stands for, if it stands for one. -/
def toInt? (x : Binary64) : Option Int :=
  x.toRat?.bind fun q => if q.den = 1 then some q.num else none

/-- Strictly smaller; false as soon as one side is not a number. -/
def lt : Binary64 → Binary64 → Bool
  | .nan, _ | _, .nan => false
  | .infinite true, y => y != .infinite true
  | .infinite false, _ => false
  | _, .infinite n => !n
  | x, y => (x.toRat?.getD 0) < (y.toRat?.getD 0)

/-- Smaller or equal; false as soon as one side is not a number. -/
def le (x y : Binary64) : Bool := x != .nan && y != .nan && !y.lt x

/-- Equal as numbers: both zeros are equal, and no number equals one that is not a number. -/
def sameValue (x y : Binary64) : Bool := x.le y && y.le x

/-! ## Arithmetic -/

def neg : Binary64 → Binary64
  | .nan => .nan
  | .infinite n => .infinite !n
  | .negativeZero => .real 0
  | .real q => if q = 0 then .negativeZero else .real (-q)

def add : Binary64 → Binary64 → Binary64
  | .nan, _ | _, .nan => .nan
  | .infinite a, .infinite b => if a = b then .infinite a else .nan
  | .infinite a, _ => .infinite a
  | _, .infinite b => .infinite b
  | .negativeZero, .negativeZero => .negativeZero
  | x, y => ofRat (x.toRat?.getD 0 + y.toRat?.getD 0)

def mul (x y : Binary64) : Binary64 :=
  let negative := x.isNegative != y.isNegative
  let zero : Binary64 := if negative then .negativeZero else .real 0
  match x, y with
  | .nan, _ | _, .nan => .nan
  | .infinite _, z | z, .infinite _ =>
      if z.toRat? = some 0 then .nan else .infinite negative
  | x, y =>
      let q := x.toRat?.getD 0 * y.toRat?.getD 0
      if q = 0 then zero else ofRat q

end Binary64

end UnitWatch
