import UnitWatch.Text.Quoted

/-!
# Octets as text

Decoding of UTF-8, UTF-16 and UTF-32. A fault names the octets that could not be read: where they
begin, where they end, and why.

**UTF-8 faults.** An octet that starts no sequence is faulty alone. A sequence that is cut off by the
end of the input is faulty to the end. One that is interrupted by a foreign octet, or that could only
lead to an overlong form, a surrogate or a code point out of range, is faulty up to that octet.

**Surrogates.** With `surrogates` the encoded forms of surrogate code points are let through, as the
replacement character.
-/

namespace UnitWatch.Text

inductive Encoding where
  | utf8
  | utf16 (bigEndian : Bool)
  | utf32 (bigEndian : Bool)
  deriving DecidableEq, Inhabited

def Encoding.name : Encoding → String
  | .utf8 => "utf-8"
  | .utf16 true => "utf-16-be"
  | .utf16 false => "utf-16-le"
  | .utf32 true => "utf-32-be"
  | .utf32 false => "utf-32-le"

/-- Octets `start` to `stop` (not included) could not be decoded; `first` is the octet at `start`. -/
structure DecodeError where
  encoding : Encoding
  start : Nat
  stop : Nat
  first : UInt8
  reason : String
  deriving DecidableEq, Inhabited

def DecodeError.message (e : DecodeError) : String :=
  let octets :=
    if e.stop = e.start + 1 then
      "byte 0x" ++ String.ofList (hexDigits 2 e.first.toNat) ++ " in position " ++ toString e.start
    else "bytes in position " ++ toString e.start ++ "-" ++ toString (e.stop - 1)
  "'" ++ e.encoding.name ++ "' codec can't decode " ++ octets ++ ": " ++ e.reason

/-! ## One character -/

/-- What the front of an octet sequence holds. -/
inductive Front where
  /-- A character in the first `size` octets. -/
  | char (c : Char) (size : Nat)
  /-- The first `size` octets are faulty. -/
  | fault (reason : String) (size : Nat)
  deriving DecidableEq, Inhabited

namespace Utf8

def isContinuation (b : UInt8) : Bool := 0x80 ≤ b && b < 0xc0

/-- Whether `second` may follow the start octet `first` of a longer sequence. -/
def mayFollow (first second : UInt8) : Bool :=
  isContinuation second
    && !(first == 0xe0 && second < 0xa0) && !(first == 0xed && 0xa0 ≤ second)
    && !(first == 0xf0 && second < 0x90) && !(first == 0xf4 && 0x90 ≤ second)

/-- The bits that continuation octets add to those of the start octet. -/
def join (start : Nat) (rest : List UInt8) : Char :=
  Char.ofNat (rest.foldl (fun n b => n * 64 + (b.toNat - 0x80)) start)

def unexpectedEnd : String := "unexpected end of data"

def badContinuation : String := "invalid continuation byte"

/-- Reads one character. -/
def front (surrogates : Bool) : List UInt8 → Front
  | [] => .fault unexpectedEnd 0
  | a :: rest =>
    if a < 0x80 then .char (Char.ofNat a.toNat) 1
    else if a < 0xc2 ∨ 0xf5 ≤ a then .fault "invalid start byte" 1
    else match rest with
      | [] => .fault unexpectedEnd 1
      | b :: rest =>
        if !mayFollow a b then
          match a, b, rest with
          | 0xed, b, c :: _ =>
              if surrogates && isContinuation b && isContinuation c then .char '\ufffd' 3
              else .fault badContinuation 1
          | _, _, _ => .fault badContinuation 1
        else if a < 0xe0 then .char (join (a.toNat - 0xc0) [b]) 2
        else match rest with
          | [] => .fault unexpectedEnd 2
          | c :: rest =>
            if !isContinuation c then .fault badContinuation 2
            else if a < 0xf0 then .char (join (a.toNat - 0xe0) [b, c]) 3
            else match rest with
              | [] => .fault unexpectedEnd 3
              | d :: _ =>
                if isContinuation d then .char (join (a.toNat - 0xf0) [b, c, d]) 4
                else .fault badContinuation 3

end Utf8

/-- The number that octets spell in the given order. -/
def joinOctets (bigEndian : Bool) (octets : List UInt8) : Nat :=
  (if bigEndian then octets else octets.reverse).foldl (fun n b => n * 256 + b.toNat) 0

def isHighSurrogate (n : Nat) : Bool := 0xd800 ≤ n && n < 0xdc00

def isLowSurrogate (n : Nat) : Bool := 0xdc00 ≤ n && n < 0xe000

def isSurrogate (n : Nat) : Bool := isHighSurrogate n || isLowSurrogate n

/-- The code point of a surrogate pair. -/
def joinSurrogates (high low : Nat) : Nat := 0x10000 + (high - 0xd800) * 0x400 + (low - 0xdc00)

/-- The text of code points; a surrogate is in no text. -/
def ofCodes? (codes : List Nat) : Option String :=
  if ∀ n ∈ codes, n.isValidChar then some (String.ofList (codes.map Char.ofNat)) else none

/-- How code points are shown. A surrogate takes three octets, and none of them can be decoded. -/
def shown (codes : List Nat) : String :=
  String.ofList <| codes.flatMap fun n =>
    if isSurrogate n then List.replicate 3 '\ufffd' else [Char.ofNat n]

/-- Reads one character of UTF-16; surrogates without a partner are let through. -/
def Utf16.front (bigEndian : Bool) : List UInt8 → Front
  | a :: b :: rest =>
    let u := joinOctets bigEndian [a, b]
    match rest with
    | c :: d :: _ =>
      let v := joinOctets bigEndian [c, d]
      if isHighSurrogate u && isLowSurrogate v then .char (Char.ofNat (joinSurrogates u v)) 4
      else if isHighSurrogate u || isLowSurrogate u then .char '\ufffd' 2
      else .char (Char.ofNat u) 2
    | _ =>
      if isHighSurrogate u || isLowSurrogate u then .char '\ufffd' 2 else .char (Char.ofNat u) 2
  | rest => .fault "truncated data" rest.length

/-- Reads one character of UTF-32; surrogates are let through. -/
def Utf32.front (bigEndian : Bool) : List UInt8 → Front
  | a :: b :: c :: d :: _ =>
    let u := joinOctets bigEndian [a, b, c, d]
    if 0x110000 ≤ u then .fault "code point not in range(0x110000)" 4
    else if isHighSurrogate u || isLowSurrogate u then .char '\ufffd' 4
    else .char (Char.ofNat u) 4
  | rest => .fault "truncated data" rest.length

def Encoding.front (surrogates : Bool) : Encoding → List UInt8 → Front
  | .utf8 => Utf8.front surrogates
  | .utf16 big => Utf16.front big
  | .utf32 big => Utf32.front big

/-! ## A whole text -/

/-- Decodes octets; `position` counts those that came before. -/
def Encoding.decodeFrom (e : Encoding) (surrogates : Bool) (position : Nat) (octets : List UInt8)
    (done : List Char) : Except DecodeError (List Char) :=
  match octets with
  | [] => .ok done.reverse
  | a :: rest =>
    match e.front surrogates (a :: rest) with
    | .char c size =>
        e.decodeFrom surrogates (position + size) (rest.drop (size - 1)) (c :: done)
    | .fault reason size =>
        .error ⟨e, position, position + size, a, reason⟩
termination_by octets.length
decreasing_by simp only [List.length_drop, List.length_cons]; omega

/-- Decodes octets as UTF-8 without surrogates. -/
def decodeUtf8 (octets : List UInt8) : Except DecodeError (List Char) :=
  Encoding.utf8.decodeFrom false 0 octets []

end UnitWatch.Text
