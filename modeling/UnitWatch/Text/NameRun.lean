/-!
# Runs of names

Characters that follow each other often have names that begin alike. A run tells their names together:
the first code point, what the names begin with, and what each of them goes on with.
-/

namespace UnitWatch.Text

structure NameRun where
  /-- The first code point; the others follow it. -/
  first : Nat
  /-- What every name begins with. -/
  start : String
  /-- What the names go on with, with semicolons between them; nothing where there is no name. Lines
  can be broken after a semicolon. -/
  ends : String
  deriving Inhabited

/-- The code point that has the name. -/
def NameRun.find? (r : NameRun) (name : String) : Option Nat :=
  if r.start.isPrefixOf name then
    let ends := (r.ends.splitOn ";").map fun e => e.trimAsciiStart.toString
    (ends.findIdx? fun e => !e.isEmpty && r.start ++ e == name).map (r.first + ·)
  else none

end UnitWatch.Text
