import UnitWatch.Failure
import UnitWatch.Time

/-!
# Backoff

The delay before a reconnect doubles from one attempt to the next, up to a limit. Delays are exact.
The factor of an attempt has to be a number of the binary format, though, and from the 1025th attempt
on there is none (`Backoff.delay?`).
-/

namespace UnitWatch

structure Backoff where
  /-- The delay before the first attempt. -/
  base : Span
  /-- The longest delay. -/
  max : Span
  deriving DecidableEq, Inhabited

namespace Backoff

/-- The delay before an attempt; attempts count from one. -/
def delay (b : Backoff) (attempt : Int) : Span := (b.base.double (attempt - 1)).min b.max

/-- The delay before an attempt, if its factor is a number of the binary format. -/
def delay? (b : Backoff) (attempt : Int) : Except Crash Span :=
  if 1024 < attempt then .error .tooLargeForBinary else .ok (b.delay attempt)

end Backoff

end UnitWatch
