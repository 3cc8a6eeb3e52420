import UnitWatch.Text.Encoding
import UnitWatch.Value

/-!
# Reading JSON

A reader for JSON texts with three extensions (`NaN`, `Infinity` and `-Infinity` are numbers).

**Faults.** The reader stops at the first place where no JSON text can go on as the input does, and
names that place by line, column and offset. Three faults have no place: nesting beyond `maxDepth`,
an integer of more than `maxDigits` digits, and octets that are no text.

**Fields.** A name that occurs twice keeps its first place and its last value.

**Recursion.** Nesting is bounded by `maxDepth`, and every item of a list or an object takes at least
one character, so the length of the input bounds each loop.
-/

namespace UnitWatch.Json

/-! ## Faults -/

inductive Problem where
  | valueExpected
  | nameExpected
  | colonExpected
  | commaExpected
  | extraData
  | unterminatedText
  | controlCharacter
  | badEscape
  | badUnicodeEscape
  | byteOrderMark
  deriving DecidableEq, Inhabited

def Problem.message : Problem → String
  | valueExpected => "Expecting value"
  | nameExpected => "Expecting property name enclosed in double quotes"
  | colonExpected => "Expecting ':' delimiter"
  | commaExpected => "Expecting ',' delimiter"
  | extraData => "Extra data"
  | unterminatedText => "Unterminated string starting at"
  | controlCharacter => "Invalid control character at"
  | badEscape => "Invalid \\escape"
  | badUnicodeEscape => "Invalid \\uXXXX escape"
  | byteOrderMark => "Unexpected UTF-8 BOM (decode using utf-8-sig)"

inductive ReadError where
  /-- The text is no JSON text from some place on. -/
  | malformed (problem : Problem) (line column offset : Nat)
  | tooManyDigits (count : Nat)
  | undecodable (e : Text.DecodeError)
  | tooDeep
  deriving DecidableEq, Inhabited

/-- The most digits an integer may have. -/
def maxDigits : Nat := 4300

/-- The deepest nesting the reader follows. -/
def maxDepth : Nat := 990

/-- The text of a fault; nesting too deep has none. -/
def ReadError.message : ReadError → String
  | malformed problem line column offset =>
      problem.message ++ ": line " ++ toString line ++ " column " ++ toString column
        ++ " (char " ++ toString offset ++ ")"
  | tooManyDigits count =>
      "Exceeds the limit (" ++ toString maxDigits ++ " digits) for integer string conversion: value has "
        ++ toString count ++ " digits; use sys.set_int_max_str_digits() to increase the limit"
  | undecodable e => e.message
  | tooDeep => ""

/-- A fault inside the reader: its place is given by the characters that are left there. -/
inductive Stop where
  | at (problem : Problem) (left : List Char)
  | tooManyDigits (count : Nat)
  | tooDeep

/-- Line and column of an offset, both from one. -/
def lineColumn (s : List Char) (offset : Nat) : Nat × Nat :=
  let before := s.take offset
  (before.count '\n' + 1, (before.reverse.takeWhile (· != '\n')).length + 1)

def Stop.toError (whole : List Char) : Stop → ReadError
  | .at problem left =>
      let offset := whole.length - left.length
      let (line, column) := lineColumn whole offset
      .malformed problem line column offset
  | .tooManyDigits count => .tooManyDigits count
  | .tooDeep => .tooDeep

/-! ## Blanks, names and texts -/

def isBlank (c : Char) : Bool := c == ' ' || c == '\t' || c == '\n' || c == '\r'

def skipBlanks (s : List Char) : List Char := s.dropWhile isBlank

def hexValue? (c : Char) : Option Nat :=
  if '0' ≤ c ∧ c ≤ '9' then some (c.toNat - 48)
  else if 'a' ≤ c ∧ c ≤ 'f' then some (c.toNat - 87)
  else if 'A' ≤ c ∧ c ≤ 'F' then some (c.toNat - 55)
  else none

/-- The number spelled by hexadecimal digits. -/
def hexNumber? (s : List Char) : Option Nat :=
  s.foldl (fun n c => n.bind fun n => (hexValue? c).map (n * 16 + ·)) (some 0)

/-- The character that a letter after the backslash stands for. -/
def escaped? : Char → Option Char
  | '"' => some '"'
  | '\\' => some '\\'
  | '/' => some '/'
  | 'b' => some '\x08'
  | 'f' => some '\x0c'
  | 'n' => some '\n'
  | 'r' => some '\r'
  | 't' => some '\t'
  | _ => none

/-- Reads the rest of a quoted text that began at `opening`, as code units: a character, or the
number of an escape, which may be half of a surrogate pair. -/
def readUnits (opening : List Char) (done : List Nat) :
    List Char → Except Stop (List Nat × List Char)
  | [] => .error (.at .unterminatedText opening)
  | '"' :: rest => .ok (done.reverse, rest)
  | ['\\'] => .error (.at .unterminatedText opening)
  | '\\' :: 'u' :: a :: b :: c :: d :: rest =>
    match hexNumber? [a, b, c, d], rest with
    | some n, _ :: _ => readUnits opening (n :: done) rest
    | _, _ => .error (.at .badUnicodeEscape ('u' :: a :: b :: c :: d :: rest))
  | '\\' :: c :: rest =>
    if c = 'u' then .error (.at .badUnicodeEscape (c :: rest))
    else match escaped? c with
      | some x => readUnits opening (x.toNat :: done) rest
      | none => .error (.at .badEscape ('\\' :: c :: rest))
  | c :: rest =>
    if c.toNat < 0x20 then .error (.at .controlCharacter (c :: rest))
    else readUnits opening (c.toNat :: done) rest

/-- Code points of code units: a high surrogate and the low one after it are one character. -/
def joinPairs : List Nat → List Nat
  | n :: m :: rest =>
    if Text.isHighSurrogate n && Text.isLowSurrogate m then
      Text.joinSurrogates n m :: joinPairs rest
    else n :: joinPairs (m :: rest)
  | rest => rest

/-- Reads the rest of a quoted text as code points. -/
def readText (opening rest : List Char) : Except Stop (List Nat × List Char) :=
  (readUnits opening [] rest).map fun (units, rest) => (joinPairs units, rest)

/-- A text value of code points. -/
def textValue (codes : List Nat) : Value :=
  match Text.ofCodes? codes with
  | some s => .text s
  | none => .brokenText codes

/-- An object value of fields with names of code points. -/
def objectValue (entries : List (List Nat × Value)) : Value :=
  match entries.mapM fun e => (Text.ofCodes? e.1).map fun name => (name, e.2) with
  | some fields => .object fields
  | none => .foreign (.fields entries)

/-! ## Numbers -/

def isDigit (c : Char) : Bool := '0' ≤ c && c ≤ '9'

/-- The number spelled by decimal digits. -/
def decimal (digits : List Char) : Nat := digits.foldl (fun n c => n * 10 + (c.toNat - 48)) 0

/-- Decimals after a point, if a digit follows it, and the rest. -/
def readDecimals : List Char → Option (List Char) × List Char
  | '.' :: c :: rest =>
      if isDigit c then (some (c :: rest.takeWhile isDigit), rest.dropWhile isDigit)
      else (none, '.' :: c :: rest)
  | rest => (none, rest)

/-- A decimal exponent, if it has a digit, and the rest. -/
def readExponent (s : List Char) : Option Int × List Char :=
  match s with
  | e :: rest =>
    if e == 'e' || e == 'E' then
      let (sign, digits) : Int × List Char := match rest with
        | '-' :: r => (-1, r)
        | '+' :: r => (1, r)
        | r => (1, r)
      if (digits.takeWhile isDigit).isEmpty then (none, s)
      else (some (sign * decimal (digits.takeWhile isDigit)), digits.dropWhile isDigit)
    else (none, s)
  | [] => (none, s)

/-- Reads the number at the front: an integer unless it has decimals or an exponent. -/
def readNumber (s : List Char) : Except Stop (Value × List Char) :=
  let (negative, body) := match s with
    | '-' :: rest => (true, rest)
    | rest => (false, rest)
  let whole? := match body with
    | '0' :: rest => some (['0'], rest)
    | c :: rest =>
        if isDigit c then some (c :: rest.takeWhile isDigit, rest.dropWhile isDigit) else none
    | [] => none
  match whole? with
  | none => .error (.at .valueExpected s)
  | some (whole, rest) =>
    let (decimals, rest) := readDecimals rest
    let (exponent, rest) := readExponent rest
    if decimals.isNone && exponent.isNone then
      if maxDigits < whole.length then .error (.tooManyDigits whole.length)
      else .ok (.int (if negative then -(decimal whole : Int) else decimal whole), rest)
    else
      let part := decimals.getD []
      .ok (.float (Binary64.ofDecimal negative (decimal (whole ++ part))
        (exponent.getD 0 - part.length)), rest)

/-! ## Values -/

/-- Reads the items of a list up to its end, the first one at the front. -/
def readItems (value : List Char → Except Stop (Value × List Char)) :
    Nat → List Value → List Char → Except Stop (List Value × List Char)
  | 0, _, s => .error (.at .valueExpected s)
  | fuel + 1, done, s => do
    let (v, s) ← value s
    match skipBlanks s with
    | ']' :: rest => .ok ((v :: done).reverse, rest)
    | ',' :: rest => readItems value fuel (v :: done) (skipBlanks rest)
    | s => .error (.at .commaExpected s)

/-- Reads the fields of an object up to its end, the first one at the front. -/
def readFields (value : List Char → Except Stop (Value × List Char)) :
    Nat → List (List Nat × Value) → List Char → Except Stop (List (List Nat × Value) × List Char)
  | 0, _, s => .error (.at .nameExpected s)
  | fuel + 1, done, s =>
    match s with
    | '"' :: rest => do
      let (name, s) ← readText s rest
      match skipBlanks s with
      | ':' :: s =>
        let (v, s) ← value (skipBlanks s)
        let done := Value.put done name v
        match skipBlanks s with
        | '\x7d' :: rest => .ok (done, rest)
        | ',' :: rest => readFields value fuel done (skipBlanks rest)
        | s => .error (.at .commaExpected s)
      | s => .error (.at .colonExpected s)
    | s => .error (.at .nameExpected s)

/-- Removes a word from the front. -/
def dropWord? (word : String) (s : List Char) : Option (List Char) :=
  if word.toList.isPrefixOf s then some (s.drop word.length) else none

/-- The words that stand for values. -/
def words : List (String × Value) :=
  [("null", .null), ("true", .bool true), ("false", .bool false), ("NaN", .float .nan),
   ("Infinity", .float (.infinite false)), ("-Infinity", .float (.infinite true))]

/-- Reads the value at the front. `fuel` bounds the items of a list, `depth` the nesting. -/
def readValue (fuel : Nat) : Nat → List Char → Except Stop (Value × List Char)
  | depth, s =>
    match s with
    | '"' :: rest => do
      let (codes, rest) ← readText s rest
      .ok (textValue codes, rest)
    | '[' :: rest =>
      match depth with
      | 0 => .error .tooDeep
      | depth + 1 =>
        match skipBlanks rest with
        | ']' :: rest => .ok (.list [], rest)
        | s => do
          let (items, rest) ← readItems (readValue fuel depth) fuel [] s
          .ok (.list items, rest)
    | '\x7b' :: rest =>
      match depth with
      | 0 => .error .tooDeep
      | depth + 1 =>
        match skipBlanks rest with
        | '\x7d' :: rest => .ok (.object [], rest)
        | s => do
          let (entries, rest) ← readFields (readValue fuel depth) fuel [] s
          .ok (objectValue entries, rest)
    | s =>
      match words.findSome? fun w => (dropWord? w.1 s).map fun rest => (w.2, rest) with
      | some found => .ok found
      | none => readNumber s

/-- The value that a decoded text spells. -/
def readDecoded (s : List Char) : Except ReadError Value :=
  let result : Except Stop Value := do
    let (v, rest) ← readValue (s.length + 1) maxDepth (skipBlanks s)
    match skipBlanks rest with
    | [] => .ok v
    | rest => .error (.at .extraData rest)
  result.mapError (Stop.toError s)

/-- The value that a text spells. A byte order mark belongs to octets, and is refused in a text. -/
def readChars (s : List Char) : Except ReadError Value :=
  if s.head? = some '\ufeff' then .error (Stop.toError s (.at .byteOrderMark s)) else readDecoded s

def read (s : String) : Except ReadError Value := readChars s.toList

/-! ## Octets -/

/-- The encoding of a JSON text, told from its byte order mark or from where its zero octets stand,
and the octets after a mark of UTF-8. -/
def detect (octets : List UInt8) : Text.Encoding × Nat :=
  match octets with
  | 0x00 :: 0x00 :: 0xfe :: 0xff :: _ => (.utf32 true, 4)
  | 0xff :: 0xfe :: 0x00 :: 0x00 :: _ => (.utf32 false, 4)
  | 0xfe :: 0xff :: _ => (.utf16 true, 2)
  | 0xff :: 0xfe :: _ => (.utf16 false, 2)
  | 0xef :: 0xbb :: 0xbf :: _ => (.utf8, 3)
  | a :: b :: c :: d :: _ =>
    if a = 0 then (if b = 0 then .utf32 true else .utf16 true, 0)
    else if b = 0 then (if c = 0 ∧ d = 0 then .utf32 false else .utf16 false, 0)
    else (.utf8, 0)
  | [a, b] =>
    if a = 0 then (.utf16 true, 0) else if b = 0 then (.utf16 false, 0) else (.utf8, 0)
  | _ => (.utf8, 0)

/-- The value that octets spell. Faults count from the first octet, except that a mark of UTF-8 is
not counted. -/
def readOctets (octets : List UInt8) : Except ReadError Value :=
  let (encoding, mark) := detect octets
  let start := if encoding = .utf8 then 0 else mark
  match encoding.decodeFrom true start (octets.drop mark) [] with
  | .ok s => readDecoded s
  | .error e => .error (.undecodable e)

end UnitWatch.Json
