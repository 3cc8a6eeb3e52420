import UnitWatch.Yaml.Scalar

/-!
# YAML tokens

The words of a document: marks, names and scalars. In blocks the structure is in the indentation, and
`Token.scan` makes it explicit: a block starts with `sequenceStart` or `mappingStart` and ends with
`blockEnd`.

**Keys.** That a node is a key shows only at the colon behind it. Where a key may start, a **slot** is
left among the tokens. A colon fills the slot, with the key mark and, where a mapping starts with
this key, the mark of the mapping. A slot that stays empty vanishes (`fill`). A key lies on one line
and has at most 1024 characters; where the indentation promises a key, a slot must be filled.
-/

namespace UnitWatch.Yaml

inductive Directive where
  | version (major minor : Nat)
  | tag (handle address : String)
  | other
  deriving DecidableEq, Inhabited

inductive Token where
  | directive (d : Directive)
  | documentStart
  | documentEnd
  | sequenceStart
  | mappingStart
  | blockEnd
  | flowSequenceStart
  | flowSequenceEnd
  | flowMappingStart
  | flowMappingEnd
  /-- The dash of an item in a block. -/
  | entry
  | flowEntry
  | key
  | value
  | alias (name : String)
  | anchor (name : String)
  /-- A tag in two parts; one that is written out has no handle. -/
  | tag (handle : Option String) (suffix : String)
  | scalar (codes : List Nat) (plain : Bool)
  deriving DecidableEq, Inhabited

namespace Token

/-- A token, or a place that a key may need. -/
inductive Item where
  | token (t : Token)
  | slot (n : Nat)

/-- A place where a key may have started. -/
structure Candidate where
  /-- How many brackets are open. -/
  depth : Nat
  slot : Nat
  required : Bool
  line : Nat
  column : Nat
  index : Nat

structure Scanner where
  cursor : Cursor
  /-- What has been found, newest first. -/
  items : List Item := []
  slots : Nat := 0
  /-- The filled slots; the flag says whether a mapping starts there. -/
  filled : List (Nat × Bool) := []
  /-- The columns of the open blocks, innermost first. -/
  indents : List Nat := []
  /-- How many brackets are open. -/
  depth : Nat := 0
  /-- Whether a key may start here. -/
  keyAllowed : Bool := true
  candidates : List Candidate := []

namespace Scanner

def inFlow (s : Scanner) : Bool := s.depth != 0

/-- The column of the innermost block; less than any column outside of blocks. -/
def indent (s : Scanner) : Int :=
  match s.indents with
  | n :: _ => n
  | [] => -1

def error (s : Scanner) : Error := s.cursor.error

def emit (s : Scanner) (t : Token) : Scanner := { s with items := .token t :: s.items }

/-- Emits a token of so many characters. -/
def mark (s : Scanner) (t : Token) (length : Nat) : Scanner :=
  { s.emit t with cursor := s.cursor.skip length }

/-! ## Keys -/

/-- Gives up the candidate among the open brackets. -/
def dropCandidate (s : Scanner) : Except Error Scanner :=
  if s.candidates.any fun k => k.depth == s.depth && k.required then .error s.error
  else .ok { s with candidates := s.candidates.filter (·.depth != s.depth) }

def isStale (c : Cursor) (k : Candidate) : Bool := k.line != c.line || 1024 < c.index - k.index

/-- Gives up the candidates that are too far away. -/
def dropStale (s : Scanner) : Except Error Scanner :=
  if s.candidates.any fun k => isStale s.cursor k && k.required then .error s.error
  else .ok { s with candidates := s.candidates.filter (!isStale s.cursor ·) }

/-- A key may start here. -/
def saveCandidate (s : Scanner) : Except Error Scanner := do
  if s.keyAllowed then
    let s ← s.dropCandidate
    let c := s.cursor
    let k : Candidate :=
      ⟨s.depth, s.slots, !s.inFlow && s.indent == c.column, c.line, c.column, c.index⟩
    return { s with items := .slot s.slots :: s.items, slots := s.slots + 1,
                    candidates := k :: s.candidates }
  else return s

/-! ## Blocks -/

/-- Ends the blocks that are indented further than a column. -/
def unwind (s : Scanner) (column : Int) : Scanner :=
  if s.inFlow then s
  else
    let ended := s.indents.takeWhile fun (n : Nat) => decide (column < (n : Int))
    { s with indents := s.indents.drop ended.length,
             items := ended.map (fun _ => .token .blockEnd) ++ s.items }

/-- Whether a block at a column is a new one. -/
def isInner (s : Scanner) (column : Nat) : Bool := s.indent < (column : Int)

/-- Starts a block at the current column unless it is open. -/
def openBlock (s : Scanner) (t : Token) : Scanner :=
  if s.isInner s.cursor.column then
    { s.emit t with indents := s.cursor.column :: s.indents }
  else s

/-! ## Blanks -/

/-- Goes to the next token: past spaces, comments and ends of lines. -/
def toNext : Nat → Scanner → Scanner
  | 0, s => s
  | fuel + 1, s =>
    let c := s.cursor.skipSpaces
    let c := if c.here == some '#' then c.skipLine else c
    match c.takeBreak? with
    | some (_, c) => toNext fuel { s with cursor := c, keyAllowed := s.keyAllowed || !s.inFlow }
    | none => { s with cursor := c }

/-- The mark of byte order at the start of a text is skipped. -/
def skipOrderMark (s : Scanner) : Scanner :=
  if s.cursor.index == 0 && s.cursor.here == some '\ufeff' then { s with cursor := s.cursor.next }
  else s

/-! ## Directives and documents -/

/-- A decimal number. -/
def number (c : Cursor) : Except Error (Nat × Cursor) :=
  let (digits, after) := c.span (·.isDigit)
  if digits.isEmpty then .error c.error else .ok (Json.decimal digits, after)

def versionDirective (c : Cursor) : Except Error (Directive × Cursor) := do
  let (major, c) ← number c.skipSpaces
  if c.here == some '.' then
    let (minor, c) ← number c.next
    if endsWord c.here then return (.version major minor, c)
    else .error c.error
  else .error c.error

/-- A tag handle: exclamation marks around a name, or a single one. -/
def tagHandle (c : Cursor) : Except Error (String × Cursor) :=
  if c.here == some '!' then
    let (name, after) := c.next.span isNameChar
    if after.here == some '!' then .ok ("!" ++ String.ofList name ++ "!", after.next)
    else if c.peek 1 == some ' ' then .ok ("!", c.next)
    else .error after.error
  else .error c.error

/-- Whether a character may stand in the address of a tag. -/
def isAddressChar (c : Char) : Bool := isNameChar c || ";/?:@&=+$,.!~*'()[]%".toList.contains c

/-- Octets in an address, written with two hexadecimal digits after a percent sign. -/
def decodeAddress (fuel : Nat) (s : List Char) : Option (List Char) :=
  match fuel, s with
  | _, [] => some []
  | 0, _ => none
  | fuel + 1, '%' :: _ =>
    let run := octets s
    match Text.decodeUtf8 run with
    | .ok text =>
      if run.isEmpty then none
      else (decodeAddress fuel (s.drop (3 * run.length))).map (text ++ ·)
    | .error _ => none
  | fuel + 1, c :: rest => (decodeAddress fuel rest).map (c :: ·)
where
  octets : List Char → List UInt8
    | '%' :: a :: b :: rest =>
      match Json.hexValue? a, Json.hexValue? b with
      | some m, some n => (16 * m + n).toUInt8 :: octets rest
      | _, _ => []
    | _ => []

def tagAddress (c : Cursor) : Except Error (String × Cursor) :=
  let (run, after) := c.span isAddressChar
  match run, decodeAddress run.length run with
  | _ :: _, some text => .ok (String.ofList text, after)
  | _, _ => .error c.error

def tagDirective (c : Cursor) : Except Error (Directive × Cursor) := do
  let (handle, c) ← tagHandle c.skipSpaces
  if c.here == some ' ' then
    let (address, c) ← tagAddress c.skipSpaces
    if endsWord c.here then return (.tag handle address, c)
    else .error c.error
  else .error c.error

def directive (c : Cursor) : Except Error (Directive × Cursor) := do
  let (name, after) := c.next.span isNameChar
  if name.isEmpty || !endsWord after.here then .error after.error
  else
    let (d, after) ← match String.ofList name with
      | "YAML" => versionDirective after
      | "TAG" => tagDirective after
      | _ => .ok (.other, after.skipLine)
    let after := after.skipSpaces
    let after := if after.here == some '#' then after.skipLine else after
    if endsLine after.here then return (d, ((after.takeBreak?).map (·.2)).getD after)
    else .error after.error

/-- Ends all blocks for something that stands between documents. -/
def leaveBlocks (s : Scanner) : Except Error Scanner := do
  let s ← (s.unwind (-1)).dropCandidate
  return { s with keyAllowed := false }

def onDirective (s : Scanner) : Except Error Scanner := do
  let s ← s.leaveBlocks
  let (d, c) ← directive s.cursor
  return { s.emit (.directive d) with cursor := c }

def onSeparator (s : Scanner) (t : Token) : Except Error Scanner := do
  return (← s.leaveBlocks).mark t 3

/-! ## Brackets -/

def onOpening (s : Scanner) (t : Token) : Except Error Scanner := do
  let s ← s.saveCandidate
  return { s.mark t 1 with depth := s.depth + 1, keyAllowed := true }

def onClosing (s : Scanner) (t : Token) : Except Error Scanner := do
  let s ← s.dropCandidate
  if s.depth = 0 then .error s.error
  else return { s.mark t 1 with depth := s.depth - 1, keyAllowed := false }

def onFlowEntry (s : Scanner) : Except Error Scanner := do
  let s ← s.dropCandidate
  return { s.mark .flowEntry 1 with keyAllowed := true }

/-! ## Items, keys and values -/

def onEntry (s : Scanner) : Except Error Scanner := do
  if !s.inFlow && !s.keyAllowed then .error s.error
  else
    let s := if s.inFlow then s else s.openBlock .sequenceStart
    let s ← s.dropCandidate
    return { s.mark .entry 1 with keyAllowed := true }

def onKey (s : Scanner) : Except Error Scanner := do
  if !s.inFlow && !s.keyAllowed then .error s.error
  else
    let s := if s.inFlow then s else s.openBlock .mappingStart
    let s ← s.dropCandidate
    return { s.mark .key 1 with keyAllowed := !s.inFlow }

def onValue (s : Scanner) : Except Error Scanner := do
  match s.candidates.find? (·.depth == s.depth) with
  | some k =>
    let starts := !s.inFlow && s.isInner k.column
    return { s.mark .value 1 with
      candidates := s.candidates.filter (·.depth != s.depth)
      filled := (k.slot, starts) :: s.filled
      indents := if starts then k.column :: s.indents else s.indents
      keyAllowed := false }
  | none =>
    if !s.inFlow && !s.keyAllowed then .error s.error
    else
      let s := if s.inFlow then s else s.openBlock .mappingStart
      let s ← s.dropCandidate
      return { s.mark .value 1 with keyAllowed := !s.inFlow }

/-! ## Names and scalars -/

/-- Emits a token with which a key may start. -/
def word (s : Scanner) (read : Cursor → Except Error (Token × Cursor)) : Except Error Scanner := do
  let s ← s.saveCandidate
  let (t, c) ← read s.cursor
  return { s.emit t with cursor := c, keyAllowed := false }

/-- A name after the mark of an anchor or an alias. -/
def name (make : String → Token) (c : Cursor) : Except Error (Token × Cursor) :=
  let (name, after) := c.next.span isNameChar
  if name.isEmpty || !(isGap after.here || after.here.any ("?:,]\x7d%@`".toList.contains ·)) then
    .error after.error
  else .ok (make (String.ofList name), after)

/-- Whether a tag has a name between two exclamation marks in front. -/
def hasHandle (c : Cursor) : Bool :=
  (c.next.rest.takeWhile fun x => !endsWord (some x)).contains '!'

def tag (c : Cursor) : Except Error (Token × Cursor) := do
  let (t, c) ← match c.peek 1 with
    | some '<' => do
        let (address, after) ← tagAddress (c.skip 2)
        if after.here == some '>' then pure (Token.tag none address, after.next)
        else .error after.error
    | x =>
      if isGap x then pure (Token.tag none "!", c.next)
      else do
        let (handle, after) ← if hasHandle c then tagHandle c else pure ("!", c.next)
        let (suffix, after) ← tagAddress after
        pure (Token.tag (some handle) suffix, after)
  if endsWord c.here then return (t, c) else .error c.error

def quoted (quote : Char) (c : Cursor) : Except Error (Token × Cursor) :=
  (scanQuoted quote c).map fun (codes, c) => (.scalar codes false, c)

def onBlock (s : Scanner) (fold : Bool) : Except Error Scanner := do
  let s ← s.dropCandidate
  let (codes, c) ← scanBlock fold s.indent s.cursor
  return { s.emit (.scalar codes false) with cursor := c, keyAllowed := true }

def onPlain (s : Scanner) : Except Error Scanner := do
  let s ← s.saveCandidate
  let (codes, c, ended) := scanPlain s.inFlow (s.indent + 1) s.cursor
  return { s.emit (.scalar codes true) with cursor := c, keyAllowed := ended }

/-- Whether a plain scalar may start with a character that has a second one behind it. -/
def startsPlain (inFlow : Bool) (x : Char) (second : Option Char) : Bool :=
  (!isGap (some x) && !"-?:,[]\x7b\x7d#&*!|>'\"%@`".toList.contains x)
    || (!isGap second && (x == '-' || (!inFlow && (x == '?' || x == ':'))))

/-! ## The whole text -/

/-- The next token. -/
def step (s : Scanner) (x : Char) : Except Error Scanner :=
  let c := s.cursor
  let second := c.peek 1
  if x == '%' && c.column == 0 then s.onDirective
  else if c.column == 0 && c.isSeparator then
    s.onSeparator (if x == '-' then .documentStart else .documentEnd)
  else if x == '[' then s.onOpening .flowSequenceStart
  else if x == '\x7b' then s.onOpening .flowMappingStart
  else if x == ']' then s.onClosing .flowSequenceEnd
  else if x == '\x7d' then s.onClosing .flowMappingEnd
  else if x == ',' then s.onFlowEntry
  else if x == '-' && isGap second then s.onEntry
  else if x == '?' && (s.inFlow || isGap second) then s.onKey
  else if x == ':' && (s.inFlow || isGap second) then s.onValue
  else if x == '*' then s.word (name .alias)
  else if x == '&' then s.word (name .anchor)
  else if x == '!' then s.word tag
  else if x == '|' && !s.inFlow then s.onBlock false
  else if x == '>' && !s.inFlow then s.onBlock true
  else if x == '\'' || x == '"' then s.word (quoted x)
  else if startsPlain s.inFlow x second then s.onPlain
  else .error s.error

/-- Goes on to the end of the text. -/
def run : Nat → Scanner → Except Error Scanner
  | 0, s => .error s.error
  | fuel + 1, s => do
    let s ← (toNext (s.cursor.rest.length + 1) s.skipOrderMark).dropStale
    let s := s.unwind s.cursor.column
    match s.cursor.here with
    | none => (s.unwind (-1)).dropCandidate
    | some x => run fuel (← s.step x)

/-- Puts the marks of keys into their slots. -/
def fill (filled : List (Nat × Bool)) : List Item → List Token
  | [] => []
  | .token t :: rest => t :: fill filled rest
  | .slot n :: rest =>
    match filled.lookup n with
    | some true => .mappingStart :: .key :: fill filled rest
    | some false => .key :: fill filled rest
    | none => fill filled rest

end Scanner

/-- The tokens of a text. -/
def scan (text : List Char) : Except Error (List Token) :=
  match text.find? (!isPrintable ·) with
  | some c => .error (.character c)
  | none => do
    let s ← Scanner.run (text.length + 1) { cursor := { rest := text } }
    return Scanner.fill s.filled s.items.reverse

end Token

end UnitWatch.Yaml
