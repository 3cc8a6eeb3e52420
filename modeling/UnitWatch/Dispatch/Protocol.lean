import UnitWatch.Event
import UnitWatch.Log.Record
import UnitWatch.Process
import UnitWatch.Settings.Basic
import UnitWatch.Time

/-!
# What dispatching asks for

Dispatching an event asks for sends, one after the other. A **delivery** says whom to contact, what
to tell, and how long the notifier may take to reply. A send is acknowledged, fails, or is given up
when it has not ended a short time after the reply was due.
-/

namespace UnitWatch.Dispatch

/-- One call to a notifier. -/
structure Delivery where
  notifier : Notifier
  notification : Notification
  /-- How long the notifier may take to reply. -/
  timeout : Span
  deriving Inhabited

/-- The time beyond the reply timeout after which a send is given up. -/
def grace : Rat := 1

/-- When a send is given up, counted from its start. -/
def Delivery.limit (d : Delivery) : Span :=
  match d.timeout with
  | .seconds t => .ofBinary (.ofRat (t + grace))
  | .endless => .endless

/-- How a send ends. -/
inductive Outcome where
  | acknowledged
  /-- Given up because it took too long. -/
  | overdue
  | failed (e : Failure)
  deriving Inhabited

/-- What dispatching notes for the log. -/
inductive Notice where
  | unmatched (unit : UnitId) (state : ActiveState)
  | dispatched (unit : UnitId) (state : ActiveState) (rules delivered : Nat)
  | timedOut (notifier : Notifier) (timeout : Value) (unit : String)
  | undelivered (notifier : Notifier) (unit error : String)
  | broken (notifier : Notifier) (unit error : String)
  | sent (notifier : Notifier) (notification : Notification)
  deriving Inhabited

namespace Notice

/-- Whom a notice is about. -/
def addressee (n : Notifier) : List (String × Value) :=
  [("notifier", .text n.label), ("bus_name", .text n.busName)]

def record : Notice → Log.Record
  | unmatched unit state =>
      ⟨.debug, "transition_unmatched",
        [("unit", .text unit.display), ("new_state", .text state.word)]⟩
  | dispatched unit state rules delivered =>
      ⟨.debug, "transition_dispatched",
        [("unit", .text unit.display), ("new_state", .text state.word), ("rules", .int rules),
         ("delivered", .int delivered)]⟩
  | timedOut n timeout unit =>
      ⟨.warning, "notify_timeout", addressee n ++ [("timeout", timeout), ("unit", .text unit)]⟩
  | undelivered n unit error =>
      ⟨.warning, "notify_failed", addressee n ++ [("unit", .text unit), ("error", .text error)]⟩
  | broken n unit error =>
      ⟨.error, "notify_error", addressee n ++ [("unit", .text unit), ("error", .text error)]⟩
  | sent n notification =>
      ⟨.info, "notify_sent",
        [("notifier", .text n.label), ("unit", .text notification.unit),
         ("active_states", .texts notification.states)]⟩

end Notice

inductive Request where
  | send (d : Delivery)
  | note (n : Notice)

def Answer : Request → Type
  | .send _ => Outcome
  | .note _ => Unit

/-- A step of dispatching; it keeps no state. -/
abbrev Step (α : Type) : Type := Action Unit Answer α

end UnitWatch.Dispatch
