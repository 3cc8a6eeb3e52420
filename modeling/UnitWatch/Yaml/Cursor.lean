/-!
# Places in a YAML text

A cursor is what is left of a text, with the line, the column and the number of characters before it.
The classes of characters that YAML knows are predicates on the next character, `none` at the end of
the text.
-/

namespace UnitWatch.Yaml

/-! ## Characters -/

/-- Whether a character ends a line. -/
def isBreak (c : Char) : Bool :=
  c == '\n' || c == '\r' || c == '\u0085' || c == '\u2028' || c == '\u2029'

/-- Whether a line, or the text, ends here. -/
def endsLine : Option Char → Bool
  | some c => isBreak c
  | none => true

/-- Whether here is a blank, or the end of a line. -/
def endsWord : Option Char → Bool
  | some c => c == ' ' || isBreak c
  | none => true

/-- Whether here is a blank or a tab, or the end of a line. -/
def isGap : Option Char → Bool
  | some c => c == ' ' || c == '\t' || isBreak c
  | none => true

/-- Whether a character may stand in the name of an anchor, a tag handle or a directive. -/
def isNameChar (c : Char) : Bool := c.isAlphanum || c == '-' || c == '_'

/-- Whether a document may hold a character. -/
def isPrintable (c : Char) : Bool :=
  let n := c.toNat
  n == 0x09 || n == 0x0a || n == 0x0d || (0x20 ≤ n && n ≤ 0x7e) || n == 0x85
    || (0xa0 ≤ n && n ≤ 0xd7ff) || (0xe000 ≤ n && n ≤ 0xfffd) || 0x10000 ≤ n

/-! ## Cursors -/

structure Cursor where
  rest : List Char
  line : Nat := 0
  column : Nat := 0
  index : Nat := 0
  deriving Inhabited

namespace Cursor

/-- The character that stands `n` characters ahead. -/
def peek (c : Cursor) (n : Nat) : Option Char := c.rest[n]?

def here (c : Cursor) : Option Char := c.rest.head?

/-- Goes on by one character. The two characters of a carriage return and a line feed end one line. -/
def next (c : Cursor) : Cursor :=
  match c.rest with
  | [] => c
  | x :: rest =>
    if isBreak x && !(x == '\r' && rest.head? == some '\n') then
      { rest, line := c.line + 1, column := 0, index := c.index + 1 }
    else
      { rest, line := c.line, column := if x == '\ufeff' then c.column else c.column + 1,
        index := c.index + 1 }

def skip : Nat → Cursor → Cursor
  | 0, c => c
  | n + 1, c => skip n c.next

/-- The characters up to the first that does not qualify, and the cursor behind them. -/
def span (c : Cursor) (p : Char → Bool) : List Char × Cursor :=
  let run := c.rest.takeWhile p
  (run, c.skip run.length)

def skipWhile (c : Cursor) (p : Char → Bool) : Cursor := (c.span p).2

def skipSpaces (c : Cursor) : Cursor := c.skipWhile (· == ' ')

/-- The rest of the line, without its end. -/
def skipLine (c : Cursor) : Cursor := c.skipWhile (!isBreak ·)

/-- Goes past the end of a line, which counts as one character. -/
def takeBreak? (c : Cursor) : Option (Char × Cursor) :=
  match c.rest with
  | '\r' :: '\n' :: _ => some ('\n', c.skip 2)
  | x :: _ =>
    if x == '\u2028' || x == '\u2029' then some (x, c.next)
    else if isBreak x then some ('\n', c.next)
    else none
  | [] => none

/-- Whether one of the two marks between documents stands here. -/
def isSeparator (c : Cursor) : Bool :=
  (c.rest.take 3 == ['-', '-', '-'] || c.rest.take 3 == ['.', '.', '.']) && isGap (c.peek 3)

end Cursor

end UnitWatch.Yaml
