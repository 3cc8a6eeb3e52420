import UnitWatch.Dispatch.Protocol

/-!
# Dispatching

For an event, the rules of its scope are taken in declared order. Each rule that fires sends one
notification to each of its notifiers in the listed order; a notifier that several rules name is
contacted several times. A send that fails or takes too long is noted, and the next one follows.
-/

namespace UnitWatch.Dispatch

def ask (q : Request) : Step (Answer q) := Action.ask q

def note (n : Notice) : Step Unit := Action.ask (A := Answer) (.note n)

/-- Sends one notification; the result is whether it was acknowledged. -/
def deliver (timeout : Span) (notification : Notification) (n : Notifier) : Step Bool := do
  match ← ask (.send ⟨n, notification, timeout⟩) with
  | .acknowledged => do
      note (.sent n notification)
      return true
  | .overdue => do
      note (.timedOut n (.float timeout.toBinary) notification.unit)
      return false
  | .failed (.fault (.notifierTimeout _ seconds)) => do
      note (.timedOut n seconds notification.unit)
      return false
  | .failed .cancelled => Action.fail .cancelled
  | .failed (.fault f) => do
      if f.lineage.contains "NotificationError" then
        note (.undelivered n notification.unit f.message)
      else note (.broken n notification.unit f.message)
      return false
  | .failed (.crash c) => do
      note (.broken n notification.unit c.message)
      return false

/-- Sends a notification to each notifier in order; the result is how many acknowledged it. -/
def deliverAll (timeout : Span) (notification : Notification) : List Notifier → Step Nat
  | [] => return 0
  | n :: rest => do
      let acknowledged ← deliver timeout notification n
      let others ← deliverAll timeout notification rest
      return (if acknowledged then 1 else 0) + others

/-- The sends that an event calls for, in order. -/
def recipients (s : Settings) (t : Transition) : List Notifier :=
  (s.matchingRules t.unit.scope t.unit.name t.current).flatMap (·.notifiers)

/-- Dispatches an event; the result is how many sends were acknowledged. -/
def dispatch (s : Settings) (timeout : Span) (t : Transition) : Step Nat := do
  let rules := s.matchingRules t.unit.scope t.unit.name t.current
  if rules.isEmpty then
    note (.unmatched t.unit t.current)
    return 0
  let delivered ← deliverAll timeout (.ofTransition t) (recipients s t)
  note (.dispatched t.unit t.current rules.length delivered)
  return delivered

end UnitWatch.Dispatch
