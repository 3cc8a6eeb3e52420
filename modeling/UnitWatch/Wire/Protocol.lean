import UnitWatch.Bus.Name
import UnitWatch.Bus.Properties
import UnitWatch.Log.Record
import UnitWatch.Process
import UnitWatch.Session.Protocol

/-!
# What the message-bus library is asked

Real buses are reached through a message-bus library and an event loop that both may be missing.
Every connection is private: it belongs to whoever opened it and has a number of its own. Signals are
subscribed to by what they are of interest for (`Interest`); an `Interest` also says what the
arguments of such a signal mean.

Every call of the library is one request, so that anything may happen on the bus between two of them.
A call that goes wrong is answered by an `Error`: one that is reported in the terms of the bus, by a
name and a text, seldom by a text alone, or one of the library's own.
-/

namespace UnitWatch.Wire

open Session (Signal)

/-- The number of a private connection. -/
abbrev BusId := Nat

/-- The number of a signal subscription. -/
abbrev MatchId := Nat

/-- What has to be installed. -/
inductive Component where
  | library | loop
  deriving DecidableEq, Repr, Inhabited

def Component.package : Component → String
  | .library => "dbus-python"
  | .loop => "PyGObject"

inductive Error where
  | reported (name text : String)
  | unnamed (text : String)
  | broken (text : String)
  deriving DecidableEq, Inhabited

/-- An error of the bus has its name in front of its text, if it has one. -/
def Error.display : Error → String
  | .reported name text => name ++ ": " ++ text
  | .unnamed text | .broken text => text

/-! ## Signals of interest -/

inductive Interest where
  | removed
  | added
  /-- Changes of the properties of a unit, whose object has the path. -/
  | properties (unit path : String)
  deriving DecidableEq, Inhabited

namespace Interest

def member : Interest → String
  | removed => "UnitRemoved"
  | added => "UnitNew"
  | properties _ _ => "PropertiesChanged"

def interface : Interest → String
  | removed | added => BusName.managerInterface
  | properties _ _ => BusName.propertiesInterface

/-- The object whose signals are of interest. -/
def path : Interest → String
  | removed | added => BusName.managerPath
  | properties _ path => path

/-- What a change of properties tells about a unit: nothing if it is about another interface, or if
the state is not among the changes. -/
def readChange (unit : String) (interface changed : Value) : Except Crash (Option Signal) :=
  if interface.display ≠ BusName.unitInterface then .ok none
  else match changed with
    | .object props =>
      if (Value.field? props UnitProperties.stateKey).isSome then
        (UnitProperties.rawState unit props).map fun r => some (.changed r)
      else .ok none
    | .list _ | .text _ => .ok none
    | _ => .error .wrongType

/-- What the arguments of a signal tell. -/
def read (i : Interest) (args : List Value) : Except Crash (Option Signal) :=
  match i, args with
  | removed, [unit, _] => .ok (some (.removed unit.display))
  | added, [unit, _] => .ok (some (.added unit.display))
  | properties unit _, [interface, changed, _] => readChange unit interface changed
  | _, _ => .error .wrongType

end Interest

/-! ## Requests -/

/-- A call to a notifier. -/
structure NotifyCall where
  busName : String
  objectPath : String
  notification : Notification
  timeout : Span
  deriving Inhabited

/-- What is noted for the log. -/
inductive Notice where
  | loopStarted
  | connected (uniqueName : String)
  | matchNotRemoved (error : String)
  | notClosed (error : String)
  | notifierBusNotClosed (error : String)
  deriving DecidableEq, Inhabited

def Notice.record : Notice → Log.Record
  | loopStarted => ⟨.debug, "glib_main_loop_started", []⟩
  | connected name => ⟨.debug, "bus_connected", [("unique_name", .text name)]⟩
  | matchNotRemoved error => ⟨.debug, "signal_match_remove_failed", [("error", .text error)]⟩
  | notClosed error => ⟨.warning, "bus_close_failed", [("error", .text error)]⟩
  | notifierBusNotClosed error =>
      ⟨.debug, "notifier_bus_close_failed", [("error", .text error)]⟩

inductive Request where
  | installed (p : Component)
  | loopRunning
  | startLoop
  /-- Open a private connection. -/
  | openBus (scope : BusScope)
  /-- Do not end the process when the connection is lost. -/
  | outlive (bus : BusId)
  /-- Tell the owner when the connection is lost. -/
  | reportLoss (bus : BusId)
  | uniqueName (bus : BusId)
  | isConnected (bus : BusId)
  /-- Ask the service manager to send signals. -/
  | subscribe (bus : BusId) (timeout : Span)
  | listUnits (bus : BusId) (timeout : Span)
  /-- The path of a unit's object. -/
  | findUnit (bus : BusId) (unit : String) (timeout : Span)
  | readProperties (bus : BusId) (path : String) (timeout : Span)
  | addMatch (bus : BusId) (i : Interest)
  | removeMatch (m : MatchId)
  | notify (bus : BusId) (call : NotifyCall)
  | close (bus : BusId)
  | note (n : Notice)

def Answer : Request → Type
  | .installed _ | .loopRunning | .isConnected _ => Bool
  | .uniqueName _ => String
  | .openBus _ => Except Error BusId
  | .listUnits _ _ => Except Error (List String)
  | .findUnit _ _ _ => Except Error String
  | .readProperties _ _ _ => Except Error (List (String × Value))
  | .addMatch _ _ => Except Error MatchId
  | .subscribe _ _ | .removeMatch _ | .notify _ _ | .close _ => Except Error Unit
  | .startLoop | .outlive _ | .reportLoss _ | .note _ => Unit

/-- A step of a user of the library who keeps a state. -/
abbrev Step (σ α : Type) : Type := Action σ Answer α

variable {σ : Type}

def ask (q : Request) : Step σ (Answer q) := Action.ask q

def note (n : Notice) : Step σ Unit := Action.ask (A := Answer) (.note n)

def isInstalled (p : Component) : Step σ Bool := ask (.installed p)

def isLoopRunning : Step σ Bool := ask .loopRunning

/-- Fails unless a part is installed. -/
def need (scope : BusScope) (p : Component) : Step σ Unit := do
  if ← isInstalled p then return
  else Action.fail <| .ofBus <| .connection scope.word <|
    p.package ++ " is not installed. Run: pip install 'killjoy[dbus]'"

/-- Makes sure that the library can be used, and that the event loop runs. -/
def prepare (scope : BusScope) : Step σ Unit := do
  need scope .library
  if ← isLoopRunning then return
  else
    need scope .loop
    ask .startLoop
    note .loopStarted

/-- Opens a private connection that survives its loss. -/
def openBus (scope : BusScope) : Step σ (Except Error BusId) := do
  match ← ask (.openBus scope) with
  | .error e => return .error e
  | .ok bus => do
      ask (.outlive bus)
      return .ok bus

end UnitWatch.Wire
