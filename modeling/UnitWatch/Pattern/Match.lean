import UnitWatch.Pattern.Reader
import UnitWatch.Text.LowerCase

/-!
# Matching patterns

A backtracking matcher in continuation-passing style: `matchNodes nodes k s` tries the ways in which
`nodes` can take characters from the place in `s`, in order of preference, until the continuation `k`
accepts what is left. A pattern matches a text if some way takes all of it.

**Marks** remember where groups began and ended. They are kept in order of their numbers with the
highest one that counts, `last`; going back to an earlier choice forgets the marks above it. Inside a
repetition, whose groups are entered again and again, going back also brings the old marks back.

**Repetitions** are bounded: after the least count, a turn that took nothing is the last one, so
there are at most as many turns as the least count and the characters left require.
-/

namespace UnitWatch.Pattern

/-! ## Characters -/

def asciiLower (c : Nat) : Nat := if 0x41 ≤ c ∧ c ≤ 0x5a then c + 32 else c

/-- The lower case of a code point, of ASCII letters only where the flags restrict patterns to it. -/
def lowerFor (flags : Flags) (c : Nat) : Nat :=
  if flags.ascii then asciiLower c else Text.lowerCode c

/-- The code points that have the lower case `c`. -/
def withLower (c : Nat) : List Nat :=
  c :: Text.lowerRuns.filterMap fun r =>
    let x := ((c : Int) - r.offset).toNat
    if r.first ≤ x ∧ x ≤ r.last ∧ (x - r.first) % r.step = 0 then some x else none

def Category.holds (flags : Flags) (c : Char) : Category → Bool
  | .digit => if flags.ascii then isDecimal c else Text.isDigit c
  | .notDigit => !(if flags.ascii then isDecimal c else Text.isDigit c)
  | .blank => if flags.ascii then isVerboseBlank c else Text.isBlank c
  | .notBlank => !(if flags.ascii then isVerboseBlank c else Text.isBlank c)
  | .word => if flags.ascii then c.isAlphanum || c == '_' else Text.isWord c
  | .notWord => !(if flags.ascii then c.isAlphanum || c == '_' else Text.isWord c)

/-- Whether a character is the one with the given code point. -/
def isOne (flags : Flags) (code : Nat) (c : Char) : Bool :=
  if !flags.ignoreCase then c.toNat == code
  else if flags.ascii then asciiLower c.toNat == asciiLower code
  else (Text.caseVariants (Text.lowerCode code)).contains (Text.lowerCode c.toNat)

/-- Whether a character is a member of a set through one of its items. -/
def SetItem.holds (flags : Flags) (c : Char) : SetItem → Bool
  | .one code =>
      if flags.ignoreCase && !flags.ascii && 0x10000 ≤ code then
        Text.lowerCode c.toNat == code
      else isOne flags code c
  | .range low high =>
      let inside (x : Nat) : Bool := low ≤ x && x ≤ high
      if !flags.ignoreCase then inside c.toNat
      else
        let lower := lowerFor flags c.toNat
        if flags.ascii then
          inside lower || (0x61 ≤ lower && lower ≤ 0x7a && inside (lower - 32))
        else (Text.caseVariants lower).any fun x => (withLower x).any inside
  | .category k => k.holds flags c

/-- The test that a node of one character makes. -/
def unitTest? (flags : Flags) : Node → Option (Char → Bool)
  | .one code => some (isOne flags code)
  | .notOne code => some fun c => !isOne flags code c
  | .anyChar => some fun c => flags.dotAll || c != '\n'
  | .oneOf negated items => some fun c => items.any (·.holds flags c) != negated
  | _ => none

/-- The test that the body of a repetition makes if it takes one character a turn. -/
def simpleTest? (flags : Flags) : List Node → Option (Char → Bool)
  | [.group none add remove body] => simpleTest? (flags.inside add remove) body
  | [n] => unitTest? flags n
  | _ => none

/-! ## Places and marks -/

/-- Where groups begin (even numbers) and end (odd numbers); marks from `count` on do not count. -/
structure Marks where
  count : Nat := 0
  places : List (Nat × Nat) := []
  deriving Inhabited

namespace Marks

def get? (m : Marks) (i : Nat) : Option Nat :=
  if i < m.count then m.places.lookup i else none

/-- Sets a mark. Marks that begin to count by this have no place. -/
def set (m : Marks) (i place : Nat) : Marks :=
  let kept := m.places.filter fun p => p.1 != i && (p.1 < m.count || i < p.1)
  ⟨max m.count (i + 1), (i, place) :: kept⟩

/-- The extent of a group, if it has been matched. -/
def extent? (m : Marks) (index : Nat) : Option (Nat × Nat) :=
  match m.get? (2 * index - 2), m.get? (2 * index - 1) with
  | some a, some b => if a ≤ b then some (a, b) else none
  | _, _ => none

end Marks

/-- A place in the text and the marks set on the way there. -/
structure Spot where
  place : Nat
  marks : Marks := {}
  deriving Inhabited

/-- How an attempt ends; a failure hands back the marks as it left them. -/
inductive Outcome where
  | found (s : Spot)
  | failed (marks : Marks)
  deriving Inhabited

/-- The marks after going back to where they were `saved`. -/
def goBack (inRepetition : Bool) (saved left : Marks) : Marks :=
  if inRepetition then saved else { left with count := saved.count }

/-- What a match works on. -/
structure Subject where
  text : Array Char
  groupWidths : List (Option (Nat × Nat))

namespace Subject

def isWordAt (t : Subject) (flags : Flags) (i : Nat) : Bool :=
  (t.text[i]?).any (Category.holds flags · .word)

/-- Whether a word begins or ends at a place. -/
def boundary (t : Subject) (flags : Flags) (i : Nat) : Bool :=
  (0 < i && t.isWordAt flags (i - 1)) != t.isWordAt flags i

/-- Whether a condition holds at a place; an empty text has neither word boundaries nor places
between two. -/
def anchorHolds (t : Subject) (flags : Flags) (i : Nat) : Anchor → Bool
  | .textStart => i == 0
  | .textEnd => i == t.text.size
  | .lineStart => i == 0 || (flags.multiline && t.text[i - 1]? == some '\n')
  | .lineEnd =>
      i == t.text.size || (t.text[i]? == some '\n' && (flags.multiline || i + 1 == t.text.size))
  | .wordBoundary => !t.text.isEmpty && t.boundary flags i
  | .notWordBoundary => !t.text.isEmpty && !t.boundary flags i

/-- Whether the text goes on at `i` as it does at `j`, for so many characters. -/
def repeats (t : Subject) (flags : Flags) (i j : Nat) : Nat → Bool
  | 0 => true
  | n + 1 =>
    match t.text[i]?, t.text[j]? with
    | some a, some b =>
      (if flags.ignoreCase then lowerFor flags a.toNat == lowerFor flags b.toNat else a == b)
        && t.repeats flags (i + 1) (j + 1) n
    | _, _ => false

/-- How many characters in a row pass a test, up to a limit. -/
def countWhile (t : Subject) (test : Char → Bool) (i : Nat) : Nat → Nat
  | 0 => 0
  | limit + 1 => if (t.text[i]?).any test then t.countWhile test (i + 1) limit + 1 else 0

end Subject

/-! ## Repetitions of one character -/

/-- Takes `extra` characters more than `least`, or fewer and fewer down to none more. -/
def fewerAndFewer (inRepetition : Bool) (k : Spot → Outcome) (start : Nat) (saved : Marks) :
    Nat → Marks → Outcome
  | extra, marks =>
    match k ⟨start + extra, marks⟩ with
    | .found s => .found s
    | .failed left =>
      let marks := goBack inRepetition saved left
      match extra with
      | 0 => .failed marks
      | extra + 1 => fewerAndFewer inRepetition k start saved extra marks

/-- Takes no character more, or one by one up to `extra` more as long as they pass the test. -/
def moreAndMore (t : Subject) (test : Char → Bool) (inRepetition : Bool) (k : Spot → Outcome)
    (saved : Marks) : Nat → Spot → Outcome
  | extra, s =>
    match k s with
    | .found s => .found s
    | .failed left =>
      let marks := goBack inRepetition saved left
      match extra with
      | 0 => .failed marks
      | extra + 1 =>
        if (t.text[s.place]?).any test then
          moreAndMore t test inRepetition k saved extra ⟨s.place + 1, marks⟩
        else .failed marks

/-- A repetition of a single-character test. -/
def matchSimple (t : Subject) (test : Char → Bool) (inRepetition : Bool) (greed : Greed)
    (least : Nat) (most : Option Nat) (k : Spot → Outcome) (s : Spot) : Outcome :=
  let room := t.text.size - s.place
  let limit := match most with
    | some m => min m room
    | none => room
  if room < least then .failed s.marks
  else match greed with
    | .lazy =>
      if t.countWhile test s.place least < least then .failed s.marks
      else moreAndMore t test inRepetition k s.marks (limit - least) ⟨s.place + least, s.marks⟩
    | .greedy =>
      let taken := t.countWhile test s.place limit
      if taken < least then .failed s.marks
      else fewerAndFewer inRepetition k (s.place + least) s.marks (taken - least) s.marks
    | .possessive =>
      let taken := t.countWhile test s.place limit
      if taken < least then .failed s.marks else k ⟨s.place + taken, s.marks⟩

/-! ## Repetitions of groups -/

/-- Whether one turn more is allowed: the bound is not reached and the last turn took something. -/
def mayRepeat (most : Option Nat) (count : Nat) (turnStart : Option Nat) (s : Spot) : Bool :=
  most.all (count < ·) && turnStart != some s.place

/-- As many turns as possible first. `count` turns are done; `turnStart` is where the last of those
that were not required began. -/
def greedyTurns (body : (Spot → Outcome) → Spot → Outcome) (least : Nat) (most : Option Nat)
    (k : Spot → Outcome) : Nat → Nat → Option Nat → Spot → Outcome
  | 0, _, _, s => .failed s.marks
  | fuel + 1, count, turnStart, s =>
    if count < least then body (greedyTurns body least most k fuel (count + 1) turnStart) s
    else if mayRepeat most count turnStart s then
      match body (greedyTurns body least most k fuel (count + 1) (some s.place)) s with
      | .found r => .found r
      | .failed _ => k s
    else k s

/-- As few turns as possible first. -/
def lazyTurns (body : (Spot → Outcome) → Spot → Outcome) (inRepetition : Bool) (least : Nat)
    (most : Option Nat) (k : Spot → Outcome) : Nat → Nat → Option Nat → Spot → Outcome
  | 0, _, _, s => .failed s.marks
  | fuel + 1, count, turnStart, s =>
    if count < least then
      body (lazyTurns body inRepetition least most k fuel (count + 1) turnStart) s
    else match k s with
      | .found r => .found r
      | .failed left =>
        let s := { s with marks := goBack inRepetition s.marks left }
        if mayRepeat most count turnStart s then
          body (lazyTurns body inRepetition least most k fuel (count + 1) (some s.place)) s
        else .failed s.marks

/-- As many turns as possible, each settled before the next. -/
def settledTurns (body : (Spot → Outcome) → Spot → Outcome) (least : Nat) (most : Option Nat) :
    Nat → Nat → Option Nat → Spot → Outcome
  | 0, _, _, s => .failed s.marks
  | fuel + 1, count, turnStart, s =>
    if count < least then
      match body .found s with
      | .found r => settledTurns body least most fuel (count + 1) turnStart r
      | .failed left => .failed left
    else if mayRepeat most count turnStart s then
      match body .found s with
      | .found r => settledTurns body least most fuel (count + 1) (some s.place) r
      | .failed _ => .found s
    else .found s

/-! ## Nodes -/

/-- Takes one character that passes a test. -/
def stepOver (t : Subject) (test : Char → Bool) (k : Spot → Outcome) (s : Spot) : Outcome :=
  if (t.text[s.place]?).any test then k { s with place := s.place + 1 } else .failed s.marks

mutual

/-- Matches one node and then what `k` stands for. -/
def matchNode (t : Subject) (flags : Flags) (inRepetition : Bool) (k : Spot → Outcome) (s : Spot) :
    Node → Outcome
  | .one code => stepOver t (isOne flags code) k s
  | .notOne code => stepOver t (fun c => !isOne flags code c) k s
  | .anyChar => stepOver t (fun c => flags.dotAll || c != '\n') k s
  | .oneOf negated items => stepOver t (fun c => items.any (·.holds flags c) != negated) k s
  | .anchor a => if t.anchorHolds flags s.place a then k s else .failed s.marks
  | .branch alternatives => matchAlternatives t flags inRepetition k s s.marks alternatives
  | .group none add remove body => matchNodes t (flags.inside add remove) inRepetition k s body
  | .group (some index) add remove body =>
      matchNodes t (flags.inside add remove) inRepetition
        (fun s => k { s with marks := s.marks.set (2 * index - 1) s.place })
        { s with marks := s.marks.set (2 * index - 2) s.place } body
  | .repetition greed least most body =>
      match simpleTest? flags body with
      | some test => matchSimple t test inRepetition greed least most k s
      | none =>
        let turn (k : Spot → Outcome) (s : Spot) : Outcome := matchNodes t flags true k s body
        let fuel := least + (t.text.size - s.place) + 2
        match greed with
        | .greedy => greedyTurns turn least most k fuel 0 none s
        | .lazy => lazyTurns turn inRepetition least most k fuel 0 none s
        | .possessive =>
          match settledTurns turn least most fuel 0 none s with
          | .found r => k r
          | .failed left => .failed left
  | .backReference index =>
      match s.marks.extent? index with
      | some (a, b) =>
        if t.repeats flags s.place a (b - a) then k { s with place := s.place + (b - a) }
        else .failed s.marks
      | none => .failed s.marks
  | .conditional index yes no =>
      if (s.marks.extent? index).isSome then matchNodes t flags inRepetition k s yes
      else match no with
        | some no => matchNodes t flags inRepetition k s no
        | none => k s
  | .look behind negated body =>
      let back := if behind then (widthOf t.groupWidths body).1 else 0
      if s.place < back then (if negated then k s else .failed s.marks)
      else
        match matchNodes t flags inRepetition .found { s with place := s.place - back } body with
        | .found r =>
          if negated then .failed r.marks else k { s with marks := r.marks }
        | .failed left =>
          if negated then k { s with marks := goBack inRepetition s.marks left } else .failed left
  | .atomic body =>
      match matchNodes t flags inRepetition .found s body with
      | .found r => k r
      | .failed left => .failed left

/-- Matches nodes one after the other. -/
def matchNodes (t : Subject) (flags : Flags) (inRepetition : Bool) (k : Spot → Outcome) (s : Spot) :
    List Node → Outcome
  | [] => k s
  | n :: rest =>
    matchNode t flags inRepetition (fun s => matchNodes t flags inRepetition k s rest) s n

/-- Matches the first alternative that lets `k` accept the rest. -/
def matchAlternatives (t : Subject) (flags : Flags) (inRepetition : Bool) (k : Spot → Outcome)
    (s : Spot) (marks : Marks) : List (List Node) → Outcome
  | [] => .failed marks
  | nodes :: rest =>
    match matchNodes t flags inRepetition k { s with marks := marks } nodes with
    | .found r => .found r
    | .failed left =>
      matchAlternatives t flags inRepetition k s (goBack inRepetition s.marks left) rest

end

/-- Whether a pattern matches a whole text. -/
def Source.matchesAll (p : Source) (text : List Char) : Bool :=
  let t : Subject := ⟨text.toArray, p.groupWidths⟩
  let accept (s : Spot) : Outcome := if s.place = t.text.size then .found s else .failed s.marks
  match matchNodes t p.flags false accept ⟨0, {}⟩ p.nodes with
  | .found _ => true
  | .failed _ => false

end UnitWatch.Pattern
