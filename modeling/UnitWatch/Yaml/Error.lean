import UnitWatch.Failure

/-!
# Errors of YAML documents

Where a document stops making sense: in its characters, in its words, in their order, in a reference,
or in the value of a node. A value can also be written in the right way and still be none, as a day
that is in no calendar; that is a crash of its own.
-/

namespace UnitWatch.Yaml

inductive Error where
  /-- A character that no document holds. -/
  | character (c : Char)
  /-- Text at a place that is no token. -/
  | token (line column : Nat)
  /-- Tokens in an order that makes no document. -/
  | order
  /-- A name for a node that no node has, or that two have. -/
  | reference (anchor : String)
  /-- A node that is not what its tag says. -/
  | value (tag : String)
  | crash (c : Crash)
  deriving DecidableEq, Inhabited

end UnitWatch.Yaml
