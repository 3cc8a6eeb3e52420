import UnitWatch.Bus.Scope
import UnitWatch.Time
import UnitWatch.Unit.State

/-!
# Events and notifications

A unit is identified by its bus scope and its name. A **report** is a state observation with the
times the bus gave for it; its state is a `RawState` as long as the bus's word for it has not been
recognised. A **transition** is one observed change of state. A **notification** tells a notifier
about a transition: the time, the unit, the new and the previous state in that order, and the scope
the unit lives on.
-/

namespace UnitWatch

structure UnitId where
  scope : BusScope
  name : String
  deriving DecidableEq, Inhabited

def UnitId.display (u : UnitId) : String := u.scope.word ++ ":" ++ u.name

/-- A unit's state as the bus spells it. `monotonic` orders the reports about one unit; `realtime` is
what notifiers are told. -/
structure RawState where
  unit : String
  state : String
  monotonic : Option Int := none
  realtime : Option Int := none
  deriving DecidableEq, Inhabited

/-- A state report whose state is one of the five. -/
structure Report where
  unit : String
  state : ActiveState
  monotonic : Option Int := none
  realtime : Option Int := none
  deriving DecidableEq, Inhabited

/-- The report behind a raw state, if its word is one of the five. -/
def RawState.report? (r : RawState) : Option Report :=
  (ActiveState.ofWord? r.state).map fun s => ⟨r.unit, s, r.monotonic, r.realtime⟩

/-- One observed change of a unit's state. -/
structure Transition where
  unit : UnitId
  previous : ActiveState
  current : ActiveState
  time : Microseconds
  deriving DecidableEq, Inhabited

/-- What a notifier is told. -/
structure Notification where
  time : Microseconds
  unit : String
  states : List String
  scope : String
  deriving DecidableEq, Inhabited

/-- The signature of a notification's arguments on the wire. -/
def Notification.signature : String := "tsass"

def Notification.ofTransition (t : Transition) : Notification :=
  ⟨t.time, t.unit.name, [t.current.word, t.previous.word], t.unit.scope.word⟩

end UnitWatch
