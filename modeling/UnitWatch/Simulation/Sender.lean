import UnitWatch.Dispatch.Program

/-!
# Notifiers in memory

Notifiers that behave as they are told, on a virtual clock. A send begins, and then ends at once or
at a later moment; it is given up at its limit if it has not ended before.
-/

namespace UnitWatch.Simulation

open Dispatch

/-- What a notifier does when it is contacted. -/
inductive Behaviour where
  | acknowledge
  /-- Acknowledges after a while. -/
  | delay (d : Span)
  | fail (reason : String)
  | timeOut (seconds : Value)
  /-- Gives up by itself. -/
  | giveUp
  | crash (text : String)
  deriving Inhabited

/-- How long a notifier hangs that never replies in time. -/
def hangTime : Span := .seconds 1000000

/-- What a sender has recorded. -/
inductive SendRecord where
  | begun (d : Delivery)
  | sent (busName : String)
  | closed
  deriving Inhabited

/-- A send that has not ended yet. -/
structure Flight where
  ends : Moment
  outcome : Outcome
  record : List SendRecord
  deriving Inhabited

/-- The notifiers' behaviours by bus name. -/
abbrev Behaviours := List (String × Behaviour)

/-- How a send that begins at a moment goes on. -/
inductive Course where
  | over (outcome : Outcome) (record : List SendRecord)
  | flying (record : List SendRecord) (flight : Flight)
  deriving Inhabited

/-- A send that takes a while. -/
def flight (now : Moment) (d : Delivery) (delay : Span) : Course :=
  match now.after delay, now.after d.limit with
  | some t, some l =>
    if t < l then .flying [.begun d] ⟨t, .acknowledged, [.sent d.notifier.busName]⟩
    else .flying [.begun d] ⟨l, .overdue, []⟩
  | some t, none => .flying [.begun d] ⟨t, .acknowledged, [.sent d.notifier.busName]⟩
  | none, some l => .flying [.begun d] ⟨l, .overdue, []⟩
  | none, none => .over .overdue [.begun d]

/-- What becomes of a send. One whose limit is over at once does not even begin. -/
def course (bs : Behaviours) (now : Moment) (d : Delivery) : Course :=
  if d.limit.isInstant then .over .overdue []
  else
    let busName := d.notifier.busName
    match (bs.lookup busName).getD .acknowledge with
    | .acknowledge => .over .acknowledged [.begun d, .sent busName]
    | .delay s =>
        if s.isInstant then .over .acknowledged [.begun d, .sent busName] else flight now d s
    | .fail reason => .over (.failed (.fault (.notifierDelivery busName reason))) [.begun d]
    | .timeOut seconds => .over (.failed (.fault (.notifierTimeout busName seconds))) [.begun d]
    | .giveUp => .over .overdue [.begun d]
    | .crash text => .over (.failed (.crash (.runtime text))) [.begun d]

/-! ## One event after another -/

/-- A clock with what has been sent and noted, newest first. -/
structure Delivering where
  behaviours : Behaviours
  clock : Moment := 0
  sends : List SendRecord := []
  notices : List Notice := []
  deriving Inhabited

/-- Runs a dispatch to its end, letting time pass as needed. -/
def deliverAll {α : Type} : Process Unit Answer (Except Failure α) → Delivering →
    Except Failure α × Delivering
  | .done _ r, w => (r, w)
  | .ask _ (.note n) resume, w => deliverAll (resume ()) { w with notices := n :: w.notices }
  | .ask _ (.send d) resume, w =>
    match course w.behaviours w.clock d with
    | .over outcome record =>
      deliverAll (resume outcome) { w with sends := record.reverse ++ w.sends }
    | .flying record f =>
      deliverAll (resume f.outcome)
        { w with clock := f.ends, sends := f.record.reverse ++ record.reverse ++ w.sends }

end UnitWatch.Simulation
