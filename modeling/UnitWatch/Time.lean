import UnitWatch.Number.Binary64

/-!
# Time

A length of time is an exact number of seconds, or endless. A moment is an exact number of seconds on
a clock; a clock moves in numbers of the binary format, so `Moment.after` rounds.
-/

namespace UnitWatch

/-- A length of time in seconds. -/
inductive Span where
  | seconds (q : Rat)
  | endless
  deriving DecidableEq, Inhabited

namespace Span

def ofBinary (x : Binary64) : Span :=
  match x.toRat? with
  | some q => seconds q
  | none => endless

def toBinary : Span → Binary64
  | seconds q => Binary64.ofRat q
  | endless => .infinite false

/-- The span that is `2 ^ k` times as long. -/
def double (k : Int) : Span → Span
  | seconds q => seconds (q * (2 : Rat) ^ k)
  | endless => endless

/-- The shorter of two spans. -/
def min : Span → Span → Span
  | seconds p, seconds q => seconds (if q < p then q else p)
  | seconds p, endless => seconds p
  | endless, s => s

/-- Whether a span takes no time. -/
def isInstant : Span → Bool
  | seconds q => q ≤ 0
  | endless => false

end Span

/-- A moment on a clock, in seconds since its start. -/
abbrev Moment := Rat

namespace Moment

/-- The moment when a span that starts at `t` is over, if it ever is. -/
def after (t : Moment) : Span → Option Moment
  | .seconds q => (Binary64.ofRat (t + q)).toRat?
  | .endless => none

end Moment

/-- Microseconds, as bus timestamps count. -/
abbrev Microseconds := Int

/-- A wall clock reading of so many seconds, in microseconds. -/
def wallClock (seconds : Binary64) : Microseconds :=
  ((seconds.mul (Binary64.ofInt 1000000)).trunc?).getD 0

end UnitWatch
