import UnitWatch.Value

/-!
# Writing JSON

One line of JSON text for a value, in printable ASCII: other characters are written as escapes of
their UTF-16 code units. Items are separated by a comma and a blank, a name and its value by a colon
and a blank.
-/

namespace UnitWatch.Json

/-- The UTF-16 code units of a code point. -/
def codeUnits (n : Nat) : List Nat :=
  if n < 0x10000 then [n] else [0xd800 + (n - 0x10000) / 0x400, 0xdc00 + (n - 0x10000) % 0x400]

def unicodeEscape (unit : Nat) : List Char := '\\' :: 'u' :: Text.hexDigits 4 unit

/-- One character inside a quoted text. -/
def escapeCode (n : Nat) : List Char :=
  if n = 0x22 then ['\\', '"']
  else if n = 0x5c then ['\\', '\\']
  else if n = 0x0a then ['\\', 'n']
  else if n = 0x0d then ['\\', 'r']
  else if n = 0x09 then ['\\', 't']
  else if n = 0x08 then ['\\', 'b']
  else if n = 0x0c then ['\\', 'f']
  else if 0x20 ≤ n ∧ n < 0x7f then [Char.ofNat n]
  else (codeUnits n).flatMap unicodeEscape

def writeCodes (codes : List Nat) : String :=
  String.ofList (['"'] ++ codes.flatMap escapeCode ++ ['"'])

def writeText (s : String) : String := writeCodes (s.toList.map Char.toNat)

/-- The text of a number. -/
def writeFloat : Binary64 → String
  | .nan => "NaN"
  | .infinite n => if n then "-Infinity" else "Infinity"
  | x => x.display

mutual

def write : Value → String
  | .null => "null"
  | .bool b => if b then "true" else "false"
  | .int n => toString n
  | .float x => writeFloat x
  | .text s => writeText s
  | .brokenText codes => writeCodes codes
  | .list items => Value.bracketed "[" "]" (writeItems items)
  | .object fields => Value.bracketed "\x7b" "\x7d" (writeFields fields)
  | .foreign (.kind name) => writeText name
  | .foreign (.fields entries) => Value.bracketed "\x7b" "\x7d" (writeBrokenFields entries)

def writeItems : List Value → List String
  | [] => []
  | v :: rest => write v :: writeItems rest

def writeFields : List (String × Value) → List String
  | [] => []
  | (name, v) :: rest => (writeText name ++ ": " ++ write v) :: writeFields rest

def writeBrokenFields : List (List Nat × Value) → List String
  | [] => []
  | (name, v) :: rest => (writeCodes name ++ ": " ++ write v) :: writeBrokenFields rest

end

end UnitWatch.Json
