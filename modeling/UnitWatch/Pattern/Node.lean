/-!
# Patterns

The pieces that a regular expression is made of. A pattern is a list of nodes, matched one after the
other. Characters are given by their code points, because a pattern can name surrogates, which no
text holds.

**Groups** are numbered from one in the order of their opening brackets.

**Widths.** `widthOf` gives the least and the greatest number of characters that nodes can take; a
look-behind needs the two to be equal. Widths are capped at `maxWidth`, which stands for
"without bound".
-/

namespace UnitWatch.Pattern

/-! ## Flags -/

/-- The switches that change what a pattern means. -/
structure Flags where
  ignoreCase : Bool := false
  multiline : Bool := false
  dotAll : Bool := false
  verbose : Bool := false
  ascii : Bool := false
  unicode : Bool := false
  template : Bool := false
  deriving DecidableEq, Inhabited

namespace Flags

def union (a b : Flags) : Flags :=
  ⟨a.ignoreCase || b.ignoreCase, a.multiline || b.multiline, a.dotAll || b.dotAll,
   a.verbose || b.verbose, a.ascii || b.ascii, a.unicode || b.unicode, a.template || b.template⟩

def inter (a b : Flags) : Flags :=
  ⟨a.ignoreCase && b.ignoreCase, a.multiline && b.multiline, a.dotAll && b.dotAll,
   a.verbose && b.verbose, a.ascii && b.ascii, a.unicode && b.unicode, a.template && b.template⟩

def without (a b : Flags) : Flags :=
  ⟨a.ignoreCase && !b.ignoreCase, a.multiline && !b.multiline, a.dotAll && !b.dotAll,
   a.verbose && !b.verbose, a.ascii && !b.ascii, a.unicode && !b.unicode,
   a.template && !b.template⟩

def isEmpty (a : Flags) : Bool := a == {}

/-- The flags inside a group that adds and removes some. Choosing one character set drops the other. -/
def inside (outer add remove : Flags) : Flags :=
  let outer := if add.ascii || add.unicode then outer.without { ascii := true, unicode := true }
    else outer
  (outer.union add).without remove

end Flags

/-! ## Nodes -/

/-- The character classes that a backslash and a letter name. -/
inductive Category where
  | digit | notDigit | blank | notBlank | word | notWord
  deriving DecidableEq, Inhabited

/-- A member of a character set. -/
inductive SetItem where
  | one (code : Nat)
  | range (low high : Nat)
  | category (c : Category)
  deriving DecidableEq, Inhabited

/-- A condition on a place in the text. -/
inductive Anchor where
  | lineStart | lineEnd | textStart | textEnd | wordBoundary | notWordBoundary
  deriving DecidableEq, Inhabited

/-- How a repetition chooses its count: as many as possible first, as few as possible first, or as
many as possible with no second choice. -/
inductive Greed where
  | greedy | lazy | possessive
  deriving DecidableEq, Inhabited

inductive Node where
  | one (code : Nat)
  | notOne (code : Nat)
  | anyChar
  | oneOf (negated : Bool) (items : List SetItem)
  | anchor (a : Anchor)
  | branch (alternatives : List (List Node))
  | group (index : Option Nat) (add remove : Flags) (body : List Node)
  /-- `most` is `none` for a repetition without bound. -/
  | repetition (greed : Greed) (least : Nat) (most : Option Nat) (body : List Node)
  | backReference (index : Nat)
  | conditional (index : Nat) (yes : List Node) (no : Option (List Node))
  | look (behind negated : Bool) (body : List Node)
  | atomic (body : List Node)
  deriving Inhabited

/-- A pattern as written: its nodes, the flags set for all of it, and the widths of its groups. -/
structure Source where
  nodes : List Node
  flags : Flags
  groupWidths : List (Option (Nat × Nat))
  deriving Inhabited

namespace Node

/-- Whether the node takes exactly one character and nothing else. -/
def isUnit : Node → Bool
  | one _ | notOne _ | anyChar | oneOf _ _ => true
  | _ => false

/-- Whether a repetition of the body is one of a single character. -/
def isSimple : List Node → Bool
  | [.group none _ _ body] => isSimple body
  | [n] => n.isUnit
  | _ => false

end Node

/-! ## Widths -/

/-- Stands for a width without bound. -/
def maxWidth : Nat := 18446744073709551616

def capWidth (w : Nat × Nat) : Nat × Nat := (min w.1 maxWidth, min w.2 maxWidth)

mutual

/-- The width of one node, given the widths of the groups before it. -/
def nodeWidth (groups : List (Option (Nat × Nat))) : Node → Nat × Nat
  | .one _ | .notOne _ | .anyChar | .oneOf _ _ => (1, 1)
  | .anchor _ | .look _ _ _ => (0, 0)
  | .branch alternatives => alternativesWidth groups alternatives
  | .group _ _ _ body | .atomic body => widthOf groups body
  | .repetition _ least most body =>
      let (low, high) := widthOf groups body
      (low * least, match most with
        | some m => high * m
        | none => if high = 0 then 0 else maxWidth)
  | .backReference i => ((groups[i]?).bind id).getD (0, 0)
  | .conditional _ yes none => (0, (widthOf groups yes).2)
  | .conditional _ yes (some no) =>
      let (a, b) := widthOf groups yes
      let (c, d) := widthOf groups no
      (min a c, max b d)

/-- The least and the greatest number of characters that nodes can take. -/
def widthOf (groups : List (Option (Nat × Nat))) : List Node → Nat × Nat
  | [] => (0, 0)
  | n :: rest =>
    let (a, b) := nodeWidth groups n
    let (c, d) := widthOf groups rest
    capWidth (a + c, b + d)

/-- The width of whichever alternative is taken. -/
def alternativesWidth (groups : List (Option (Nat × Nat))) : List (List Node) → Nat × Nat
  | [] => (maxWidth, 0)
  | nodes :: rest =>
    let (a, b) := widthOf groups nodes
    let (c, d) := alternativesWidth groups rest
    (min a c, max b d)

end

end UnitWatch.Pattern
