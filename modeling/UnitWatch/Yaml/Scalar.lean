import UnitWatch.Json.Reader
import UnitWatch.Yaml.Cursor
import UnitWatch.Yaml.Error

/-!
# Scalars in a YAML text

The text of a scalar is made of code points. It is written plain, in quotes, or as a block of indented
lines. In plain and quoted scalars a single end of line is a blank, and of several ends of line the
first is dropped.
-/

namespace UnitWatch.Yaml

/-- A scalar, and the cursor behind it. -/
abbrev ScalarAt := List Nat × Cursor

def codesOf (s : List Char) : List Nat := s.map Char.toNat

def Cursor.error (c : Cursor) : Error := .token c.line c.column

/-- What an end of line and the empty lines after it stand for. -/
def folded (first : Char) (others : List Char) : List Char :=
  (if first ≠ '\n' then [first] else if others.isEmpty then [' '] else []) ++ others

/-! ## Plain scalars -/

/-- The characters that have a meaning of their own inside brackets. -/
def isFlowMark (c : Char) : Bool := c == ',' || c == '[' || c == ']' || c == '\x7b' || c == '\x7d'

/-- How many characters belong to a word of a plain scalar. -/
def plainLength (inFlow : Bool) : List Char → Nat
  | [] => 0
  | c :: rest =>
    if isGap (some c) || (inFlow && (isFlowMark c || c == '?'))
        || (c == ':' && (isGap rest.head? || (inFlow && rest.head?.any isFlowMark))) then 0
    else plainLength inFlow rest + 1

/-- Empty lines and indentation; `none` where a mark between documents follows. -/
def emptyLines : Nat → Cursor → List Char → Option (List Char) × Cursor
  | 0, c, breaks => (some breaks, c)
  | fuel + 1, c, breaks =>
    match c.skipSpaces.takeBreak? with
    | some (x, c) => if c.isSeparator then (none, c) else emptyLines fuel c (breaks ++ [x])
    | none => (some breaks, c.skipSpaces)

/-- What stands between two words of a plain scalar, the cursor behind it, and whether a line ended.
Nothing stands there at the end of the scalar. -/
def plainGap (c : Cursor) : List Char × Cursor × Bool :=
  let (spaces, c) := c.span (· == ' ')
  match c.takeBreak? with
  | none => (spaces, c, false)
  | some (x, c) =>
    if c.isSeparator then ([], c, true)
    else match emptyLines c.rest.length c [] with
      | (some breaks, c) => (folded x breaks, c, true)
      | (none, c) => ([], c, true)

/-- The words of a plain scalar. `indent` is the least column of its later lines. The last component
says whether the scalar is followed by the end of a line. -/
def plainWords (inFlow : Bool) (indent : Int) :
    Nat → Cursor → List Char → List Char → Bool → List Char × Cursor × Bool
  | 0, c, done, _, ended => (done, c, ended)
  | fuel + 1, c, done, gap, ended =>
    let n := if c.here == some '#' then 0 else plainLength inFlow c.rest
    if n = 0 then (done, c, ended)
    else
      let done := done ++ gap ++ c.rest.take n
      let (gap, c, ended) := plainGap (c.skip n)
      if gap.isEmpty || c.here == some '#' || (!inFlow && c.column < indent) then (done, c, ended)
      else plainWords inFlow indent fuel c done gap ended

def scanPlain (inFlow : Bool) (indent : Int) (c : Cursor) : List Nat × Cursor × Bool :=
  let (s, c, ended) := plainWords inFlow indent (c.rest.length + 1) c [] [] false
  (codesOf s, c, ended)

/-! ## Quoted scalars -/

/-- What a character after a backslash stands for. -/
def escapes : List (Char × Nat) :=
  [('0', 0), ('a', 7), ('b', 8), ('t', 9), ('\t', 9), ('n', 10), ('v', 11), ('f', 12), ('r', 13),
   ('e', 27), (' ', 32), ('"', 34), ('\\', 92), ('/', 47), ('N', 0x85), ('_', 0xa0), ('L', 0x2028),
   ('P', 0x2029)]

/-- How many hexadecimal digits follow a character after a backslash. -/
def codeWidth? : Char → Option Nat
  | 'x' => some 2
  | 'u' => some 4
  | 'U' => some 8
  | _ => none

/-- The lines between two lines of a quoted scalar. -/
def quotedBreaks : Nat → Cursor → List Char → Except Error (List Char × Cursor)
  | 0, c, breaks => .ok (breaks, c)
  | fuel + 1, c, breaks =>
    if c.isSeparator then .error c.error
    else
      let c := c.skipWhile fun x => x == ' ' || x == '\t'
      match c.takeBreak? with
      | some (x, c) => quotedBreaks fuel c (breaks ++ [x])
      | none => .ok (breaks, c)

/-- A character after a backslash, or the end of a line there. -/
def scanEscape (c : Cursor) : Except Error ScalarAt :=
  match c.here with
  | none => .error c.error
  | some x =>
    match escapes.lookup x, codeWidth? x with
    | some n, _ => .ok ([n], c.next)
    | none, some width =>
      match Json.hexNumber? (c.next.rest.take width) with
      | some n =>
        if (c.next.rest.take width).length < width then .error c.error
        else if 0x80000000 ≤ n then .error (.crash .codeTooLarge)
        else if 0x110000 ≤ n then .error (.crash .noCodePoint)
        else .ok ([n], c.next.skip width)
      | none => .error c.error
    | none, none =>
      match c.takeBreak? with
      | some (_, c) => do
          let (breaks, c) ← quotedBreaks (c.rest.length + 1) c []
          .ok (codesOf breaks, c)
      | none => .error c.error

/-- The blanks between two words of a quoted scalar, or the lines between them. -/
def quotedGap (c : Cursor) : Except Error (List Char × Cursor) :=
  let (blanks, c) := c.span fun x => x == ' ' || x == '\t'
  match c.here, c.takeBreak? with
  | none, _ => .error c.error
  | some _, none => .ok (blanks, c)
  | some _, some (x, c) => do
      let (breaks, c) ← quotedBreaks (c.rest.length + 1) c []
      .ok (folded x breaks, c)

/-- The rest of a quoted scalar after its opening quote. -/
def quotedWords (quote : Char) : Nat → Cursor → List Nat → Except Error ScalarAt
  | 0, c, _ => .error c.error
  | fuel + 1, c, done =>
    match c.here with
    | none => .error c.error
    | some x =>
      if x == quote then
        if quote == '\'' && c.peek 1 == some '\'' then
          quotedWords quote fuel (c.skip 2) (done ++ [39])
        else .ok (done, c.next)
      else if quote == '"' && x == '\\' then do
        let (codes, c) ← scanEscape c.next
        quotedWords quote fuel c (done ++ codes)
      else if isGap (some x) then do
        let (gap, c) ← quotedGap c
        quotedWords quote fuel c (done ++ codesOf gap)
      else quotedWords quote fuel c.next (done ++ [x.toNat])

/-- A quoted scalar from its opening quote on. -/
def scanQuoted (quote : Char) (c : Cursor) : Except Error ScalarAt :=
  quotedWords quote (c.rest.length + 1) c.next []

/-! ## Blocks -/

/-- What becomes of the ends of lines at the end of a block. -/
inductive Chomping where
  | clip | strip | keep
  deriving DecidableEq, Repr, Inhabited

def chomping? : Option Char → Option Chomping
  | some '+' => some .keep
  | some '-' => some .strip
  | _ => none

/-- The indentation that a digit stands for. -/
def indentation? : Option Char → Option Nat
  | some c => if c.isDigit then some (c.toNat - 48) else none
  | none => none

/-- The header of a block: how it ends, and how much further than its surroundings it is indented. -/
def blockHeader (c : Cursor) : Except Error (Chomping × Option Nat × Cursor) := do
  let (chomping, indent, c) := match chomping? c.here, indentation? c.here with
    | some k, _ =>
      match indentation? c.next.here with
      | some n => (k, some n, c.skip 2)
      | none => (k, none, c.next)
    | none, some n =>
      match chomping? c.next.here with
      | some k => (k, some n, c.skip 2)
      | none => (.clip, some n, c.next)
    | none, none => (.clip, none, c)
  if indent == some 0 || !endsWord c.here then .error c.error
  else
    let c := c.skipSpaces
    let c := if c.here == some '#' then c.skipLine else c
    if !endsLine c.here then .error c.error
    else .ok (chomping, indent, ((c.takeBreak?).map (·.2)).getD c)

/-- The empty lines at the start of a block, and the greatest column that they reach. -/
def leadingLines : Nat → Cursor → List Char → Nat → List Char × Nat × Cursor
  | 0, c, breaks, widest => (breaks, widest, c)
  | fuel + 1, c, breaks, widest =>
    let c := c.skipSpaces
    let widest := max widest c.column
    match c.takeBreak? with
    | some (x, c) => leadingLines fuel c (breaks ++ [x]) widest
    | none => (breaks, widest, c)

/-- Indentation up to a column. -/
def indentTo (indent : Nat) (c : Cursor) : Cursor :=
  c.skip (min (indent - c.column) (c.rest.takeWhile (· == ' ')).length)

/-- The empty lines before the next line of a block. -/
def blockBreaks (indent : Nat) : Nat → Cursor → List Char → List Char × Cursor
  | 0, c, breaks => (breaks, c)
  | fuel + 1, c, breaks =>
    let c := indentTo indent c
    match c.takeBreak? with
    | some (x, c) => blockBreaks indent fuel c (breaks ++ [x])
    | none => (breaks, c)

/-- Whether a line of a block is indented further than the block. -/
def isDeeper (c : Cursor) : Bool := c.here == some ' ' || c.here == some '\t'

/-- The lines of a block: their text, the last end of line, the empty lines after it. In a folded
block, the end of a line between two lines that are not indented further is a blank, or nothing if
empty lines follow. -/
def blockLines (fold : Bool) (indent : Nat) :
    Nat → Cursor → List Char → List Char → List Char × List Char × List Char × Cursor
  | 0, c, done, breaks => (done, [], breaks, c)
  | fuel + 1, c, done, breaks =>
    if c.column ≠ indent || c.here.isNone then (done, [], breaks, c)
    else
      let (line, after) := c.span (!isBreak ·)
      let done := done ++ breaks ++ line
      let (lineEnd, after) := match after.takeBreak? with
        | some (x, after) => ([x], after)
        | none => ([], after)
      let (breaks, after) := blockBreaks indent (after.rest.length + 1) after []
      if after.column ≠ indent || after.here.isNone then (done, lineEnd, breaks, after)
      else
        let between :=
          if fold && lineEnd == ['\n'] && !isDeeper c && !isDeeper after then
            if breaks.isEmpty then [' '] else []
          else lineEnd
        blockLines fold indent fuel after (done ++ between) breaks

/-- A block from its mark on, in surroundings that are indented to a column. -/
def scanBlock (fold : Bool) (surroundings : Int) (c : Cursor) : Except Error ScalarAt := do
  let (chomping, increment, c) ← blockHeader c.next
  let least := (max 1 (surroundings + 1)).toNat
  let (indent, breaks, c) := match increment with
    | some n =>
      let indent := least + n - 1
      let (breaks, c) := blockBreaks indent (c.rest.length + 1) c []
      (indent, breaks, c)
    | none =>
      let (breaks, widest, c) := leadingLines (c.rest.length + 1) c [] 0
      (max least widest, breaks, c)
  let (text, lineEnd, breaks, c) := blockLines fold indent (c.rest.length + 1) c [] breaks
  let ending := match chomping with
    | .strip => []
    | .clip => lineEnd
    | .keep => lineEnd ++ breaks
  .ok (codesOf (text ++ ending), c)

end UnitWatch.Yaml
