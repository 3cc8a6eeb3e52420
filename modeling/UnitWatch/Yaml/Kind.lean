import UnitWatch.Check.Scalar
import UnitWatch.Json.Reader
import UnitWatch.Number.IntegerText
import UnitWatch.Yaml.Cursor

/-!
# What plain scalars are

A plain scalar without a tag is a truth value, a number, nothing, a moment, or a mark of its own if its
text has the form of one, and a text otherwise (`Kind.ofText`).

**Values.** The text of a scalar with a tag need not have the form of its kind; reading it can go
wrong (`readInteger`, `readNumber`, `readTruth`, `readMoment`).
-/

namespace UnitWatch.Yaml

inductive Kind where
  | truth | number | integer | merge | nothing | moment | default | text
  deriving DecidableEq, Repr, Inhabited

namespace Kind

/-- The name of a kind in tags. -/
def name : Kind → String
  | truth => "bool"
  | number => "float"
  | integer => "int"
  | merge => "merge"
  | nothing => "null"
  | moment => "timestamp"
  | default => "value"
  | text => "str"

/-! ## Forms -/

/-- A word in small letters, in capitals, or with a capital first. -/
def spellings (word : String) : List String := [word, word.capitalize, word.toUpper]

def truths : List (String × Bool) :=
  [("yes", true), ("no", false), ("true", true), ("false", false), ("on", true), ("off", false)]

def isTruth (s : String) : Bool := truths.any fun t => (spellings t.1).contains s

def isNothing (s : String) : Bool := s == "" || s == "~" || (spellings "null").contains s

/-- Whether characters are digits of a kind, at least one of them, with low lines anywhere. -/
def areDigits (isDigit : Char → Bool) (s : List Char) : Bool :=
  !s.isEmpty && s.all fun c => isDigit c || c == '_'

/-- Whether a text is a decimal digit followed by digits and low lines. -/
def isDecimal (s : List Char) : Bool :=
  match s with
  | c :: rest => c.isDigit && rest.all fun c => c.isDigit || c == '_'
  | [] => false

/-- Whether a text is one of the later parts of a number to the base sixty. -/
def isSixtieth : List Char → Bool
  | [a] => a.isDigit
  | [a, b] => '0' ≤ a && a ≤ '5' && b.isDigit
  | _ => false

/-- The parts of a text between colons. -/
def parts (s : List Char) : List (List Char) :=
  match s with
  | [] => [[]]
  | c :: rest =>
    match parts rest with
    | p :: ps => if c == ':' then [] :: p :: ps else (c :: p) :: ps
    | [] => [[c]]

def dropSign : List Char → List Char
  | '-' :: rest | '+' :: rest => rest
  | s => s

/-- Whether a text starts with a digit other than zero. -/
def isPositive (s : List Char) : Bool := s.head?.any fun c => c.isDigit && c != '0'

def isInteger (s : List Char) : Bool :=
  match dropSign s with
  | '0' :: 'b' :: digits => areDigits (fun c => c == '0' || c == '1') digits
  | '0' :: 'x' :: digits => areDigits (fun c => (Json.hexValue? c).isSome) digits
  | ['0'] => true
  | '0' :: digits => areDigits (fun c => '0' ≤ c && c ≤ '7') digits
  | s =>
    match parts s with
    | first :: rest => isPositive first && isDecimal first && rest.all isSixtieth
    | [] => false

/-- Whether a text is nothing, or a decimal exponent with a sign. -/
def isExponent : List Char → Bool
  | [] => true
  | e :: sign :: digits =>
      (e == 'e' || e == 'E') && (sign == '+' || sign == '-') && !digits.isEmpty
        && digits.all (·.isDigit)
  | _ => false

/-- Whether a text is made of digits and low lines up to an exponent. -/
def isFraction (s : List Char) : Bool :=
  isExponent (s.dropWhile fun c => c.isDigit || c == '_')

def isNumber (s : List Char) : Bool :=
  let body := dropSign s
  let whole := body.takeWhile (· != '.')
  match body.dropWhile (· != '.') with
  | _ :: fraction =>
    if whole.isEmpty then
      (spellings "inf").any (·.toList == fraction)
        || (s.head? == some '.'
          && (["nan", "NaN", "NAN"].any (·.toList == fraction)
            || (fraction.head?.any (·.isDigit) && isFraction fraction)))
    else
      match parts whole with
      | [w] => isDecimal w && isFraction fraction
      | w :: rest =>
          isDecimal w && rest.all isSixtieth && fraction.all fun c => c.isDigit || c == '_'
      | [] => false
  | [] => false

/-! ## Moments -/

/-- A date, and a time of day with its offset if there is one. -/
structure Moment where
  year : Nat
  month : Nat
  day : Nat
  /-- Hours, minutes and seconds, and the minutes by which the clock is ahead. -/
  time : Option (Nat × Nat × Nat × Int)
  deriving DecidableEq, Inhabited

/-- A number of one or two digits. -/
def shortNumber : List Char → Option (Nat × List Char)
  | a :: b :: rest =>
    if a.isDigit then
      if b.isDigit then some (Json.decimal [a, b], rest) else some (Json.decimal [a], b :: rest)
    else none
  | [a] => if a.isDigit then some (Json.decimal [a], []) else none
  | [] => none

/-- A number of exactly two digits. -/
def twoDigits : List Char → Option (Nat × List Char)
  | a :: b :: rest => if a.isDigit && b.isDigit then some (Json.decimal [a, b], rest) else none
  | _ => none

/-- The offset of a clock in minutes: none, or a letter, or hours and perhaps minutes. -/
def offset (s : List Char) : Option Int := do
  match s.dropWhile fun c => c == ' ' || c == '\t' with
  | [] => if s.isEmpty then some 0 else none
  | ['Z'] => some 0
  | sign :: rest =>
    if sign != '+' && sign != '-' then none
    else
      let (hours, rest) ← shortNumber rest
      let minutes ← match rest with
        | [] => some 0
        | ':' :: rest =>
          (twoDigits rest).bind fun (n, rest) => if rest.isEmpty then some n else none
        | _ => none
      let ahead : Int := hours * 60 + minutes
      some (if sign == '-' then -ahead else ahead)

/-- A time of day with its offset. -/
def timeOfDay (s : List Char) : Option (Nat × Nat × Nat × Int) := do
  let (hour, s) ← shortNumber s
  let ':' :: s := s | none
  let (minute, s) ← twoDigits s
  let ':' :: s := s | none
  let (second, s) ← twoDigits s
  let s := match s with
    | '.' :: rest => rest.dropWhile (·.isDigit)
    | s => s
  let ahead ← offset s
  some (hour, minute, second, ahead)

/-- What stands behind the date if it is the time of day. -/
def timeMark : List Char → Option (List Char)
  | [] => none
  | c :: rest =>
    if c == 'T' || c == 't' then some rest
    else if c == ' ' || c == '\t' then some (rest.dropWhile fun c => c == ' ' || c == '\t')
    else none

/-- The moment that a text writes. `strict` asks for two digits each of the month and the day where
there is no time of day. -/
def moment? (strict : Bool) (s : List Char) : Option Moment := do
  let digits := s.takeWhile (·.isDigit)
  if digits.length ≠ 4 then none
  else
    let year := Json.decimal digits
    let '-' :: rest := s.drop 4 | none
    let (month, rest) ← shortNumber rest
    let '-' :: rest := rest | none
    let (day, rest) ← shortNumber rest
    match rest with
    | [] => if strict && s.length ≠ 10 then none else some ⟨year, month, day, none⟩
    | rest => do
        let time ← (timeMark rest).bind timeOfDay
        some ⟨year, month, day, some time⟩

/-! ## The kind of a plain scalar -/

/-- What the text of a plain scalar without a tag is. -/
def ofText (s : String) : Kind :=
  let cs := s.toList
  if isTruth s then truth
  else if isNumber cs then number
  else if isInteger cs then integer
  else if s == "<<" then merge
  else if isNothing s then nothing
  else if (moment? true cs).isSome then moment
  else if s == "=" then default
  else text

end Kind

/-! ## Values -/

/-- The sign in front of a number, and the rest. -/
def splitSign : List Char → Bool × List Char
  | '-' :: rest => (true, rest)
  | '+' :: rest => (false, rest)
  | s => (false, s)

/-- Reads digits of a base. -/
def readDigits (base : Nat) (whole digits : List Char) : Except Crash Int :=
  let value? (c : Char) : Option Nat :=
    (Json.hexValue? c).bind fun n => if n < base then some n else none
  match digits.mapM value? with
  | some (n :: ns) => .ok ((n :: ns).foldl (fun a n => a * base + n) 0 : Nat)
  | _ => .error (.notInBase base (String.ofList whole))

def readDecimal (s : List Char) : Except Crash Int :=
  match IntegerText.read? s with
  | some n => .ok n
  | none => .error (.notAnInteger (String.ofList s))

/-- The number whose parts to the base sixty are given, the greatest first. -/
def joinSixtieths (parts : List Int) : Int := parts.foldl (fun a n => a * 60 + n) 0

/-- The integer that a scalar is: in base two, eight, ten, sixteen or sixty. -/
def readInteger (s : List Char) : Except Crash Int := do
  let (negative, body) := splitSign (s.filter (· != '_'))
  let n ← match body with
    | [] => .error .pastEnd
    | ['0'] => .ok 0
    | '0' :: 'b' :: digits => readDigits 2 digits digits
    | '0' :: 'x' :: digits => readDigits 16 digits digits
    | '0' :: digits => readDigits 8 body digits
    | _ =>
      if body.contains ':' then ((Kind.parts body).mapM readDecimal).map joinSixtieths
      else readDecimal body
  .ok (if negative then -n else n)

/-- A number with decimals, written out. -/
def readDecimals (s : List Char) : Except Crash Binary64 :=
  match Check.number? (Check.trim s) with
  | some x => .ok x
  | none => .error (.notANumber (String.ofList s))

/-- The number whose parts to the base sixty are given, the greatest first. The parts are added from
the least on, and each sum is rounded. -/
def addSixtieths (parts : List Binary64) : Binary64 :=
  (parts.foldr (fun x (sum, unit) => (sum.add (x.mul (.ofInt unit)), unit * 60))
    (Binary64.ofInt 0, (1 : Int))).1

/-- The number that a scalar is, written with decimals or in parts to the base sixty. -/
def readNumber (s : List Char) : Except Crash Binary64 := do
  let (negative, body) := splitSign ((s.filter (· != '_')).map Char.toLower)
  let x ← if s.all (· == '_') then .error .pastEnd
    else if body == ".inf".toList then .ok (.infinite false)
    else if body == ".nan".toList then .ok .nan
    else if body.contains ':' then do
      let parts ← (Kind.parts body).mapM readDecimals
      .ok (addSixtieths parts)
    else readDecimals body
  .ok (if negative then x.neg else x)

/-- The truth value that a word stands for. -/
def readTruth (s : String) : Except Crash Bool :=
  match Kind.truths.lookup s.toLower with
  | some b => .ok b
  | none => .error (.missingKey s.toLower)

/-- How many days a month has. -/
def daysIn (year month : Nat) : Nat :=
  if month = 2 then
    if year % 4 = 0 ∧ (year % 100 ≠ 0 ∨ year % 400 = 0) then 29 else 28
  else if month = 4 ∨ month = 6 ∨ month = 9 ∨ month = 11 then 30
  else 31

/-- A span of minutes in days and seconds; the seconds are never negative. -/
def spanText (minutes : Int) : String :=
  let days := minutes.fdiv (24 * 60)
  let seconds := minutes.fmod (24 * 60) * 60
  "datetime.timedelta(days=" ++ toString days
    ++ (if seconds = 0 then "" else ", seconds=" ++ toString seconds) ++ ")"

/-- Why a moment does not exist, if so. -/
def Kind.Moment.flaw? (m : Kind.Moment) : Option String :=
  let (hour, minute, second, ahead) := m.time.getD (0, 0, 0, 0)
  if 24 * 60 ≤ ahead.natAbs then
    some ("offset must be a timedelta strictly between -timedelta(hours=24) and timedelta(hours=24), "
      ++ "not " ++ spanText ahead ++ ".")
  else if m.year = 0 then some "year 0 is out of range"
  else if m.month = 0 ∨ 12 < m.month then some "month must be in 1..12"
  else if m.day = 0 ∨ daysIn m.year m.month < m.day then some "day is out of range for month"
  else if 23 < hour then some "hour must be in 0..23"
  else if 59 < minute then some "minute must be in 0..59"
  else if 59 < second then some "second must be in 0..59"
  else none

/-- Checks that a scalar is a moment that exists. -/
def readMoment (s : List Char) : Except Crash Unit :=
  match Kind.moment? false s with
  | none => .error .noAttribute
  | some m =>
    match m.flaw? with
    | some reason => .error (.noSuchTime reason)
    | none => .ok ()

end UnitWatch.Yaml
