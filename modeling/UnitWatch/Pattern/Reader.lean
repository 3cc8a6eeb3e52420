import UnitWatch.Number.IntegerText
import UnitWatch.Pattern.Error
import UnitWatch.Pattern.Node
import UnitWatch.Text.CharacterName
import UnitWatch.Text.Identifier

/-!
# Reading patterns

The text of a pattern is read token by token; a token is a character, or a backslash with the
character after it. A text that ends in a lone backslash is refused as soon as that backslash becomes
the next token.

**Groups.** A group counts as soon as its bracket opens, and can be referred to once it is closed.
Conditions may name a group by number before it opens; whether it ever does is checked at the end.

**Flags.** Flags for the whole pattern stand at its start. Flags of a group hold inside it.

**Recursion.** Every call takes a token or goes one bracket deeper, so a small multiple of the
pattern's length bounds the recursion; brackets deeper than `maxDepth` are refused.
-/

namespace UnitWatch.Pattern

/-! ## The reader's state -/

inductive Token where
  | stop
  | plain (c : Char)
  | escape (c : Char)
  deriving DecidableEq, Inhabited

def Token.chars : Token → List Char
  | .stop => []
  | .plain c => [c]
  | .escape c => ['\\', c]

structure Cursor where
  /-- The pattern from the next token on. -/
  rest : List Char
  /-- The length of the whole pattern. -/
  size : Nat
  flags : Flags := {}
  names : List (List Char × Nat) := []
  /-- The widths of the groups, `none` while a group is open; number zero is the pattern itself. -/
  widths : List (Option (Nat × Nat)) := [none]
  /-- How many groups there were when the outermost look-behind began. -/
  lookBehind : Option Nat := none
  /-- Groups that conditions name by number, with the place of the first such condition. -/
  conditions : List (Nat × Nat) := []
  deriving Inhabited

abbrev Reader := StateT Cursor (Except Fault)

/-- The largest repetition count, which no count may reach. -/
def maxRepeat : Nat := 4294967295

/-- How deep brackets may be nested. -/
def maxDepth : Nat := 480

def tokenAt : List Char → Token
  | [] => .stop
  | '\\' :: c :: _ => .escape c
  | c :: _ => .plain c

/-- The next token, which stays the next. -/
def peek : Reader Token := do return tokenAt (← get).rest

/-- The place of the next token. -/
def position : Reader Nat := do
  let s ← get
  return s.size - s.rest.length

/-- Fails at a place so many characters before the next token. -/
def failBack {α : Type} (problem : Problem) (back : Nat := 0) : Reader α := do
  throw (.malformed problem (some ((← position) - back)))

/-- Fails at a given place. -/
def failAt {α : Type} (problem : Problem) (place : Nat) : Reader α :=
  throw (.malformed problem (some place))

/-- Goes on with the given rest of the pattern. -/
def moveTo (rest : List Char) : Reader Unit := do
  let s ← get
  if rest = ['\\'] then failAt .badEscapeAtEnd (s.size - 1)
  else set { s with rest := rest }

/-- Steps over the next token. -/
def skip : Reader Unit := do
  match (← get).rest with
  | '\\' :: _ :: rest | _ :: rest | rest => moveTo rest

/-- Takes the next token. -/
def take : Reader Token := do
  let t ← peek
  skip
  return t

/-- Takes the next token if it is the given character. -/
def takeIf (c : Char) : Reader Bool := do
  if (← peek) = .plain c then
    skip
    return true
  else return false

/-- Takes up to `n` characters of a class. -/
def takeWhile (p : Char → Bool) : Nat → Reader (List Char)
  | 0 => return []
  | n + 1 => do
    match ← peek with
    | .plain c => if p c then skip; return c :: (← takeWhile p n) else return []
    | _ => return []

/-- Takes a name and the terminator after it. -/
def takeName (terminator : Char) (what : String) : Nat → List Char → Reader (List Char)
  | 0, done => return done
  | fuel + 1, done => do
    match ← take with
    | .stop =>
      if done.isEmpty then failBack (.missingName what)
      else failBack (.unterminatedName terminator) done.length
    | t =>
      if t = .plain terminator then
        if done.isEmpty then failBack (.missingName what) 1 else return done
      else takeName terminator what fuel (done ++ t.chars)

/-- Takes a name up to its terminator. -/
def takeNameTo (terminator : Char) (what : String) : Reader (List Char) := do
  takeName terminator what ((← get).rest.length + 1) []

/-! ## Groups -/

def groupCount : Reader Nat := do return (← get).widths.length

/-- Whether a group is there and closed. -/
def isClosed (index : Nat) : Reader Bool := do
  return (((← get).widths[index]?).bind id).isSome

/-- Inside a look-behind only groups closed before it can be referred to. -/
def checkLookBehind (index : Nat) : Reader Unit := do
  match (← get).lookBehind with
  | none => return
  | some groups =>
    if !(← isClosed index) then failBack .openGroupReference
    else if groups ≤ index then failBack .lookBehindReference

def openGroup (name : Option (List Char)) : Reader Nat := do
  let index ← groupCount
  match name with
  | none => modify fun s => { s with widths := s.widths ++ [none] }
  | some n =>
    match (← get).names.lookup n with
    | some previous => failBack (.redefinedGroup n index previous) (n.length + 1)
    | none => modify fun s => { s with widths := s.widths ++ [none], names := (n, index) :: s.names }
  return index

def closeGroup (index : Nat) (body : List Node) : Reader Unit :=
  modify fun s => { s with widths := s.widths.set index (some (widthOf s.widths body)) }

/-! ## Escapes -/

def isOctal (c : Char) : Bool := '0' ≤ c && c ≤ '7'

def isDecimal (c : Char) : Bool := '0' ≤ c && c ≤ '9'

def isHex (c : Char) : Bool :=
  isDecimal c || ('a' ≤ c && c ≤ 'f') || ('A' ≤ c && c ≤ 'F')

/-- The value of a digit in a base up to sixteen. -/
def digitOf (c : Char) : Nat :=
  if isDecimal c then c.toNat - 48 else if 'a' ≤ c then c.toNat - 87 else c.toNat - 55

/-- The number that digits spell. -/
def numberIn (base : Nat) (digits : List Char) : Nat :=
  digits.foldl (fun n c => n * base + digitOf c) 0

/-- The control character that a letter after a backslash stands for. -/
def controlEscape? : Char → Option Nat
  | 'a' => some 7
  | 'f' => some 12
  | 'n' => some 10
  | 'r' => some 13
  | 't' => some 9
  | 'v' => some 11
  | '\\' => some 92
  | _ => none

def categoryEscape? : Char → Option Category
  | 'd' => some .digit
  | 'D' => some .notDigit
  | 's' => some .blank
  | 'S' => some .notBlank
  | 'w' => some .word
  | 'W' => some .notWord
  | _ => none

def anchorEscape? : Char → Option Anchor
  | 'A' => some .textStart
  | 'b' => some .wordBoundary
  | 'B' => some .notWordBoundary
  | 'Z' => some .textEnd
  | _ => none

/-- Fails with an escape that has just been taken. -/
def badEscape {α : Type} (escape : List Char) : Reader α :=
  failBack (.badEscape escape) escape.length

/-- Takes exactly `n` hexadecimal digits after an escape letter. -/
def hexEscape (c : Char) (n : Nat) : Reader Nat := do
  let digits ← takeWhile isHex n
  let escape := '\\' :: c :: digits
  if digits.length ≠ n then failBack (.incompleteEscape escape) escape.length
  else
    let code := numberIn 16 digits
    if 0x110000 ≤ code then badEscape escape else return code

/-- Takes a character name in braces. -/
def namedEscape : Reader Nat := do
  if !(← takeIf '\x7b') then failBack .missingBrace
  let name ← takeNameTo '\x7d' "character name"
  match Text.characterNamed? (String.ofList name) with
  | some c => return c.toNat
  | none => failBack (.undefinedCharacterName name) (name.length + 4)

/-- The code point of an escape that is written the same inside and outside of sets. -/
def codeEscape? (c : Char) : Option (Reader Nat) :=
  match c with
  | 'x' => some (hexEscape c 2)
  | 'u' => some (hexEscape c 4)
  | 'U' => some (hexEscape c 8)
  | 'N' => some namedEscape
  | _ => none

/-- Checks an octal escape of three digits. -/
def octalEscape (digits : List Char) : Reader Nat := do
  let code := numberIn 8 digits
  if 0o377 < code then failBack (.octalOutOfRange ('\\' :: digits)) (digits.length + 1)
  else return code

/-- An escape inside a character set, with its backslash and letter already taken. -/
def setEscape (c : Char) : Reader SetItem := do
  if c = 'b' then return .one 8
  match controlEscape? c, categoryEscape? c, codeEscape? c with
  | some code, _, _ => return .one code
  | _, some cat, _ => return .category cat
  | _, _, some code => return .one (← code)
  | _, _, _ =>
    if isOctal c then return .one (← octalEscape (c :: (← takeWhile isOctal 2)))
    else if isDecimal c || c.isAlpha then badEscape ['\\', c]
    else return .one c.toNat

/-- A reference to a group by number. -/
def groupReference (digits : List Char) : Reader Node := do
  let index := numberIn 10 digits
  if index < (← groupCount) then
    if !(← isClosed index) then failBack .openGroupReference (digits.length + 1)
    else
      checkLookBehind index
      return .backReference index
  else failBack (.invalidGroupReference index) digits.length

/-- An escape outside of sets, with its backslash and letter already taken. Up to two digits refer to
a group; three octal digits, or digits after a zero, name a character. -/
def nodeEscape (c : Char) : Reader Node := do
  match anchorEscape? c, categoryEscape? c, controlEscape? c, codeEscape? c with
  | some a, _, _, _ => return .anchor a
  | _, some cat, _, _ => return .oneOf false [.category cat]
  | _, _, some code, _ => return .one code
  | _, _, _, some code => return .one (← code)
  | _, _, _, _ =>
    if c = '0' then return .one (numberIn 8 (c :: (← takeWhile isOctal 2)))
    else if isDecimal c then
      match ← takeWhile isDecimal 1 with
      | [d] =>
        if isOctal c && isOctal d then
          match ← takeWhile isOctal 1 with
          | [e] => return .one (← octalEscape [c, d, e])
          | _ => groupReference [c, d]
        else groupReference [c, d]
      | _ => groupReference [c]
    else if c.isAlpha then badEscape ['\\', c]
    else return .one c.toNat

/-! ## Character sets -/

/-- One member of a set, with its token already taken. -/
def setMember : Token → Reader SetItem
  | .escape c => setEscape c
  | .plain c => return .one c.toNat
  | .stop => return .one 0

/-- The members of a set that opened at `start`, up to its closing bracket. -/
def setItems (start : Nat) : Nat → List SetItem → Reader (List SetItem)
  | 0, done => return done
  | fuel + 1, done => do
    let low ← take
    if low = .stop then failAt .unterminatedSet start
    if low = .plain ']' && !done.isEmpty then return done
    let first ← setMember low
    if ← takeIf '-' then
      let high ← take
      if high = .stop then failAt .unterminatedSet start
      if high = .plain ']' then return done ++ [first, .one 45]
      let second ← setMember high
      match first, second with
      | .one a, .one b =>
        if b < a then
          failBack (.badRange low.chars high.chars) (low.chars.length + 1 + high.chars.length)
        else setItems start fuel (done ++ [.range a b])
      | _, _ => failBack (.badRange low.chars high.chars) (low.chars.length + 1 + high.chars.length)
    else setItems start fuel (done ++ [first])

/-- A character set, with its opening bracket already taken. A set of one character is that
character. -/
def charSet : Reader Node := do
  let start := (← position) - 1
  let negated ← takeIf '^'
  let items := (← setItems start ((← get).rest.length + 1) []).eraseDups
  match items with
  | [.one c] => return if negated then .notOne c else .one c
  | items => return .oneOf negated items

/-! ## Repetitions -/

/-- The number of repetitions that digits spell. -/
def repeatCount (digits : List Char) : Reader Nat := do
  if 4300 < digits.length then throw (.tooManyDigits digits.length)
  let n := numberIn 10 digits
  if maxRepeat ≤ n then throw .countTooLarge else return n

/-- The bounds of a repetition whose sign has just been taken; `none` if the brace is no such sign. -/
def repeatBounds (sign : Char) : Reader (Option (Nat × Option Nat)) := do
  match sign with
  | '?' => return some (0, some 1)
  | '*' => return some (0, none)
  | '+' => return some (1, none)
  | _ =>
    let s ← get
    let place ← position
    if (← peek) = .plain '\x7d' then return none
    let low ← takeWhile isDecimal s.rest.length
    let high ← if ← takeIf ',' then takeWhile isDecimal s.rest.length else pure low
    if !(← takeIf '\x7d') then
      moveTo s.rest
      return none
    let least ← if low.isEmpty then pure 0 else repeatCount low
    if high.isEmpty then return some (least, none)
    let most ← repeatCount high
    if most < least then failAt .minAboveMax place
    return some (least, some most)

/-- How much a repetition takes, by the mark behind its count. -/
def takeGreed : Reader Greed := do
  if ← takeIf '?' then return .lazy
  if ← takeIf '+' then return .possessive
  return .greedy

/-- Repeats the last of the nodes read so far; they are given last first. -/
def repeatLast (place : Nat) (least : Nat) (most : Option Nat) (done : List Node) :
    Reader (List Node) := do
  match done with
  | [] | .anchor _ :: _ => failAt .nothingToRepeat place
  | .repetition _ _ _ _ :: _ => failAt .multipleRepeat place
  | last :: before =>
    let body := match last with
      | .group none add remove nodes =>
          if add.isEmpty && remove.isEmpty then nodes else [last]
      | _ => [last]
    return .repetition (← takeGreed) least most body :: before

/-! ## Inline flags -/

def flagOf? : Char → Option Flags
  | 'i' => some { ignoreCase := true }
  | 'm' => some { multiline := true }
  | 's' => some { dotAll := true }
  | 'x' => some { verbose := true }
  | 'a' => some { ascii := true }
  | 'u' => some { unicode := true }
  | 't' => some { template := true }
  | _ => none

/-- Whether a character is a flag letter. -/
def isFlag (c : Char) : Bool := (flagOf? c).isSome || c == 'L'

/-- Fails at a token that stands where a flag or the end of the flags should be. -/
def failAtFlag {α : Type} (t : Token) (otherwise : Problem) : Reader α :=
  let letter := match t with
    | .plain c => Text.isLetter c
    | _ => false
  failBack (if letter then .unknownFlag else otherwise) t.chars.length

/-- The flags to be set, with the first letter already taken, and the character after them. -/
def flagsOn : Nat → Char → Flags → Reader (Flags × Char)
  | 0, c, flags => return (flags, c)
  | fuel + 1, c, flags => do
    if c = 'L' then failBack .localeFlag
    let flags := flags.union ((flagOf? c).getD {})
    if (c = 'a' ∨ c = 'u') ∧ flags.ascii ∧ flags.unicode then failBack .incompatibleFlags
    match ← take with
    | .stop => failBack .missingFlagEnd
    | .plain d =>
      if d = ')' ∨ d = '-' ∨ d = ':' then return (flags, d)
      else if isFlag d then flagsOn fuel d flags
      else failAtFlag (.plain d) .missingFlagEnd
    | t => failAtFlag t .missingFlagEnd

/-- The flags to be cleared, with the first letter already taken, up to the colon. -/
def flagsOff : Nat → Char → Flags → Reader Flags
  | 0, _, flags => return flags
  | fuel + 1, c, flags => do
    if c = 'a' ∨ c = 'u' ∨ c = 'L' then failBack .turnOffCharacterSet
    let flags := flags.union ((flagOf? c).getD {})
    match ← take with
    | .stop => failBack .missingColon
    | .plain d =>
      if d = ':' then return flags
      else if isFlag d then flagsOff fuel d flags
      else failAtFlag (.plain d) .missingColon
    | t => failAtFlag t .missingColon

/-- Inline flags, with their first character already taken. `none` means that they were flags for the
whole pattern; otherwise they open a group that sets some and clears some. -/
def inlineFlags (c : Char) : Reader (Option (Flags × Flags)) := do
  let fuel := (← get).rest.length + 1
  let (on, ending) ← if c = '-' then pure (({} : Flags), '-') else flagsOn fuel c {}
  if ending = ')' then
    modify fun s => { s with flags := s.flags.union on }
    return none
  if on.template then failBack .turnOnGlobalFlag 1
  let off ←
    if ending = '-' then
      match ← take with
      | .stop => failBack .missingFlag
      | .plain d => if isFlag d then flagsOff fuel d {} else failAtFlag (.plain d) .missingFlag
      | t => failAtFlag t .missingFlag
    else pure {}
  if off.template then failBack .turnOffGlobalFlag 1
  if !(on.inter off).isEmpty then failBack .flagOnAndOff 1
  return some (on, off)

/-! ## Names of groups -/

/-- Takes a group's name and checks that it is an identifier. -/
def groupName (terminator : Char) : Reader (List Char) := do
  let name ← takeNameTo terminator "group name"
  if Text.isIdentifier name then return name
  else failBack (.badGroupName name) (name.length + 1)

/-- A reference to a group by name. -/
def namedReference : Reader Node := do
  let name ← groupName ')'
  match (← get).names.lookup name with
  | none => failBack (.unknownGroupName name) (name.length + 1)
  | some index =>
    if !(← isClosed index) then failBack .openGroupReference (name.length + 1)
    checkLookBehind index
    return .backReference index

/-- The group that a condition names. -/
def conditionGroup : Reader Nat := do
  let name ← takeNameTo ')' "group name"
  let back := name.length + 1
  if Text.isIdentifier name then
    match (← get).names.lookup name with
    | none => failBack (.unknownGroupName name) back
    | some index =>
      checkLookBehind index
      return index
  else
    match IntegerText.read? name with
    | some (.ofNat index) =>
      if index = 0 then failBack .badGroupNumber back
      else if 1073741823 ≤ index then failBack (.invalidGroupReference index) back
      else
        let place := (← position) - back
        modify fun s =>
          if (s.conditions.lookup index).isSome then s
          else { s with conditions := s.conditions ++ [(index, place)] }
        checkLookBehind index
        return index
    | _ => failBack (.badGroupName name) back

/-! ## Nodes -/

def isVerboseBlank (c : Char) : Bool :=
  c == ' ' || c == '\t' || c == '\n' || c == '\r' || c == '\x0b' || c == '\x0c'

/-- Skips a comment to the end of its line. -/
def skipLineComment : Nat → Reader Unit
  | 0 => return
  | fuel + 1 => do
    match ← take with
    | .stop | .plain '\n' => return
    | _ => skipLineComment fuel

/-- Skips a bracketed comment that opened at `start`. -/
def skipComment (start : Nat) : Nat → Reader Unit
  | 0 => return
  | fuel + 1 => do
    if (← peek) = .stop then failAt .unterminatedComment start
    if (← take) = .plain ')' then return else skipComment start fuel

/-- Takes the bracket that closes what opened at `start`. -/
def closeBracket (start : Nat) : Reader Unit := do
  if !(← takeIf ')') then failAt .unterminatedGroup start

/-- Plain groups with nothing to tell them apart are replaced by what they hold. -/
def unpackGroups (nodes : List Node) : List Node :=
  nodes.flatMap fun n =>
    match n with
    | .group none add remove body => if add.isEmpty && remove.isEmpty then body else [n]
    | _ => [n]

/-- What an opening bracket begins. -/
inductive Opening where
  /-- A group, with its number if it captures and the flags that it sets and clears. -/
  | group (index : Option Nat) (add remove : Flags)
  | atomic
  | look (behind negated : Bool)
  | conditional (index : Nat)
  /-- Something that is complete: a reference, or nothing for a comment or flags. -/
  | done (node : Option Node)

/-- Reads what follows an opening bracket at `start` and a question mark. `atStart` says whether flags
for the whole pattern may stand here. -/
def readExtension (start : Nat) (atStart : Bool) : Reader Opening := do
  match ← take with
  | .stop => failBack .unexpectedEnd
  | .escape c => failBack (.unknownExtension ['\\', c]) 3
  | .plain c =>
    match c with
    | 'P' =>
      if ← takeIf '<' then
        let name ← groupName '>'
        return .group (some (← openGroup (some name))) {} {}
      else if ← takeIf '=' then return .done (some (← namedReference))
      else match ← take with
        | .stop => failBack .unexpectedEnd
        | t => failBack (.unknownExtension ('P' :: t.chars)) (t.chars.length + 2)
    | ':' => return .group none {} {}
    | '#' =>
      skipComment start ((← get).rest.length + 1)
      return .done none
    | '=' => return .look false false
    | '!' => return .look false true
    | '<' =>
      match ← take with
      | .stop => failBack .unexpectedEnd
      | .plain '=' => return .look true false
      | .plain '!' => return .look true true
      | t => failBack (.unknownExtension ('<' :: t.chars)) (t.chars.length + 2)
    | '(' => return .conditional (← conditionGroup)
    | '>' => return .atomic
    | c =>
      if isFlag c || c == '-' then
        match ← inlineFlags c with
        | some (add, remove) => return .group none add remove
        | none => if atStart then return .done none else failAt .flagsNotAtStart start
      else failBack (.unknownExtension [c]) 2

mutual

/-- Reads alternatives up to a closing bracket or the end. -/
def readAlternatives (depth : Nat) (verbose : Bool) (fuel : Nat) (done : List (List Node)) :
    Reader (List Node) :=
  match fuel with
  | 0 => throw .tooDeep
  | fuel + 1 => do
    let nodes ← readNodes depth verbose (depth == 0 && done.isEmpty) fuel []
    if ← takeIf '|' then
      let s ← get
      let verbose := if depth = 0 then s.flags.verbose else verbose
      readAlternatives depth verbose fuel (done ++ [nodes])
    else
      match done with
      | [] => return nodes
      | _ => return [.branch (done ++ [nodes])]
termination_by structural fuel

/-- Reads nodes up to a bar, a closing bracket or the end; those read so far are given last first. -/
def readNodes (depth : Nat) (verbose first : Bool) (fuel : Nat) (done : List Node) :
    Reader (List Node) :=
  match fuel with
  | 0 => throw .tooDeep
  | fuel + 1 => do
    match ← peek with
    | .stop | .plain '|' | .plain ')' => return unpackGroups done.reverse
    | .escape c =>
      skip
      readNodes depth verbose first fuel ((← nodeEscape c) :: done)
    | .plain c =>
      skip
      if verbose && isVerboseBlank c then readNodes depth verbose first fuel done
      else if verbose && c == '#' then
        skipLineComment ((← get).rest.length + 1)
        readNodes depth verbose first fuel done
      else match c with
        | '[' => readNodes depth verbose first fuel ((← charSet) :: done)
        | '.' => readNodes depth verbose first fuel (.anyChar :: done)
        | '^' => readNodes depth verbose first fuel (.anchor .lineStart :: done)
        | '$' => readNodes depth verbose first fuel (.anchor .lineEnd :: done)
        | '(' =>
          let start := (← position) - 1
          let opening ←
            if ← takeIf '?' then readExtension start (first && done.isEmpty)
            else pure (.group (some (← openGroup none)) {} {})
          match opening with
          | .done (some node) => readNodes depth verbose first fuel (node :: done)
          | .done none =>
            let s ← get
            let verbose := verbose || (first && done.isEmpty && s.flags.verbose)
            readNodes depth verbose first fuel done
          | opening =>
            let node ← readBracket depth verbose start opening fuel
            readNodes depth verbose first fuel (node :: done)
        | c =>
          if c == '*' || c == '+' || c == '?' || c == '\x7b' then
            let place := (← position) - 1
            match ← repeatBounds c with
            | none => readNodes depth verbose first fuel (.one c.toNat :: done)
            | some (least, most) =>
              readNodes depth verbose first fuel (← repeatLast place least most done)
          else readNodes depth verbose first fuel (.one c.toNat :: done)
termination_by structural fuel

/-- Reads what a bracket at `start` holds, and its end. -/
def readBracket (depth : Nat) (verbose : Bool) (start : Nat) (opening : Opening)
    (fuel : Nat) : Reader Node :=
  match fuel with
  | 0 => throw .tooDeep
  | fuel + 1 => do
    if maxDepth ≤ depth then throw .tooDeep
    match opening with
    | .group index add remove =>
      let verbose := (verbose || add.verbose) && !remove.verbose
      let body ← readAlternatives (depth + 1) verbose fuel []
      closeBracket start
      match index with
      | some i => closeGroup i body
      | none => pure ()
      return .group index add remove body
    | .atomic =>
      let body ← readAlternatives (depth + 1) verbose fuel []
      closeBracket start
      return .atomic body
    | .look behind negated =>
      let outer := (← get).lookBehind
      if behind && outer.isNone then
        modify fun s => { s with lookBehind := some s.widths.length }
      let body ← readAlternatives (depth + 1) verbose fuel []
      if behind then modify fun s => { s with lookBehind := outer }
      closeBracket start
      return .look behind negated body
    | .conditional index =>
      let yes ← readNodes (depth + 1) verbose false fuel []
      let no ←
        if ← takeIf '|' then
          let no ← readNodes (depth + 1) verbose false fuel []
          if (← peek) = .plain '|' then failBack .tooManyBranches
          pure (some no)
        else pure none
      closeBracket start
      return .conditional index yes no
    | .done node => return node.getD (.branch [])
termination_by structural fuel

end

/-! ## Whole patterns -/

/-- Reads a whole pattern and checks what can only be told at its end. -/
def readSource : Reader Source := do
  moveTo (← get).rest
  let nodes ← readAlternatives 0 false (3 * (← get).size + 10) []
  let s ← get
  if s.flags.ascii && s.flags.unicode then throw .contradiction
  if !s.rest.isEmpty then failBack .unbalancedBracket
  match s.conditions.find? fun c => s.widths.length ≤ c.1 with
  | some (index, place) => failAt (.invalidGroupReference index) place
  | none => return ⟨nodes, s.flags, s.widths⟩

mutual

/-- The first node that cannot be matched although it can be written: a look-behind whose width is
not fixed, or a repetition where the template flag is set. -/
def checkNode (groups : List (Option (Nat × Nat))) (flags : Flags) : Node → Option Problem
  | .one _ | .notOne _ | .anyChar | .oneOf _ _ | .anchor _ | .backReference _ => none
  | .branch alternatives => checkAlternatives groups flags alternatives
  | .group _ add remove body => checkNodes groups (flags.inside add remove) body
  | .repetition greed _ _ body =>
      if flags.template then
        some (.templateRepeat (match greed with
          | .greedy => "MAX_REPEAT"
          | .lazy => "MIN_REPEAT"
          | .possessive => "POSSESSIVE_REPEAT"))
      else checkNodes groups flags body
  | .conditional _ yes none => checkNodes groups flags yes
  | .conditional _ yes (some no) =>
      (checkNodes groups flags yes).orElse fun _ => checkNodes groups flags no
  | .look behind _ body =>
      let (low, high) := widthOf groups body
      if behind && maxRepeat < low then some .lookBehindTooWide
      else if behind && low != high then some .lookBehindNotFixed
      else checkNodes groups flags body
  | .atomic body => checkNodes groups flags body

def checkNodes (groups : List (Option (Nat × Nat))) (flags : Flags) : List Node → Option Problem
  | [] => none
  | n :: rest => (checkNode groups flags n).orElse fun _ => checkNodes groups flags rest

def checkAlternatives (groups : List (Option (Nat × Nat))) (flags : Flags) :
    List (List Node) → Option Problem
  | [] => none
  | nodes :: rest =>
    (checkNodes groups flags nodes).orElse fun _ => checkAlternatives groups flags rest

end

/-- Reads the text of a pattern. -/
def read (pattern : List Char) : Except Fault Source := do
  let (source, _) ← readSource.run { rest := pattern, size := pattern.length }
  match checkNodes source.groupWidths source.flags source.nodes with
  | some problem => throw (.malformed problem none)
  | none => return source

end UnitWatch.Pattern
