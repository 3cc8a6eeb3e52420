import UnitWatch.Bus.Name
import UnitWatch.Bus.Scope
import UnitWatch.Expression
import UnitWatch.Unit.State

/-!
# Settings

**Notifiers** are services on a bus, known by a label. A **rule** selects units on one bus scope by
an expression, says which states are of interest, and names the notifiers to contact when a selected
unit enters one of them, in the order of contact.

In `Settings` the notifiers of a rule are resolved, so a rule cannot name one that does not exist.
The states of a rule are kept in the order of `ActiveState.all` without repetitions, so rules with
the same states have the same list.
-/

namespace UnitWatch

/-- A service that is contacted about events of interest. -/
structure Notifier where
  label : String
  scope : BusScope
  busName : String
  deriving DecidableEq, Inhabited

def Notifier.objectPath (n : Notifier) : String := BusName.objectPath n.busName

structure Rule where
  scope : BusScope
  states : List ActiveState
  expression : Expression
  /-- Whom to contact, in order; one that is named twice is contacted twice. -/
  notifiers : List Notifier
  deriving Inhabited

namespace Rule

def labels (r : Rule) : List String := r.notifiers.map (·.label)

/-- Whether the rule selects a unit, whatever its state. -/
def selects (r : Rule) (unit : String) : Bool := r.expression.selects unit

/-- Whether the rule is about a unit that enters a state. -/
def fires (r : Rule) (unit : String) (state : ActiveState) : Bool :=
  r.states.contains state && r.selects unit

/-- Whether two rules say the same; how a pattern was compiled does not count. -/
def sameAs (a b : Rule) : Bool :=
  a.scope == b.scope && a.states == b.states && a.expression.sameAs b.expression
    && a.labels == b.labels

end Rule

structure Settings where
  rules : List Rule
  notifiers : List Notifier
  deriving Inhabited

namespace Settings

/-- The scopes that rules are about, in the order of `BusScope.all`. -/
def scopes (s : Settings) : List BusScope :=
  BusScope.all.filter fun scope => s.rules.any fun r => r.scope == scope

/-- The rules about one scope, in declared order. -/
def rulesFor (s : Settings) (scope : BusScope) : List Rule :=
  s.rules.filter fun r => r.scope == scope

/-- Whether a rule about the scope selects the unit, whatever its state. -/
def watches (s : Settings) (scope : BusScope) (unit : String) : Bool :=
  (s.rulesFor scope).any (·.selects unit)

/-- The rules about a unit of a scope that enters a state, in declared order. -/
def matchingRules (s : Settings) (scope : BusScope) (unit : String) (state : ActiveState) :
    List Rule :=
  (s.rulesFor scope).filter (·.fires unit state)

def notifier? (s : Settings) (label : String) : Option Notifier :=
  s.notifiers.find? (·.label == label)

end Settings

end UnitWatch
