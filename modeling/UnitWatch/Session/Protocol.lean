import UnitWatch.Log.Record
import UnitWatch.Process
import UnitWatch.Registry
import UnitWatch.Time

/-!
# What a session asks for

A session talks to its surroundings by **requests**. Most of them go to a connection to the service
manager: open it, subscribe, list units, fetch states, wait for the next signal, close it. The others
hand an event to whoever consumes them, wait, look at the clock, and note what happened.

Every request that the session waits for can be answered by a failure; a lost connection is the
failure `disconnected` of `nextSignal`, and being stopped while waiting is the failure `cancelled`.
-/

namespace UnitWatch.Session

/-- What a connection signals. -/
inductive Signal where
  | added (unit : String)
  | removed (unit : String)
  | changed (state : RawState)
  /-- A signal that the session does not know, by its kind. -/
  | other (kind : String)
  deriving DecidableEq, Inhabited

/-- What arrives at a connection: a signal, or the news that the connection is lost. -/
inductive Arrival where
  | signal (s : Signal)
  | loss
  deriving DecidableEq, Inhabited

/-- What a session notes for the log. -/
inductive Notice where
  | reconnectFailed (attempt : Nat) (retryIn : Span) (error : String)
  | resynced (units : Nat)
  | disconnected (units : Nat) (retryIn : Span)
  | started (listed tracked : Nat)
  | subscribeFailed (unit error : String)
  | stateUnrecognized (unit word : String)
  | stateUnavailable (unit error : String)
  | tracked (unit : String) (state : ActiveState)
  | transition (unit : String) (previous current : ActiveState)
  | untracked (unit : String)
  | signalIgnored (kind : String)
  | unsubscribeFailed (error : String)
  deriving Inhabited

def Notice.record : Notice → Log.Record
  | reconnectFailed attempt retryIn error =>
      ⟨.warning, "session_reconnect_failed",
        [("attempt", .int attempt), ("retry_in", .float retryIn.toBinary), ("error", .text error)]⟩
  | resynced units => ⟨.info, "session_resynced", [("units", .int units)]⟩
  | disconnected units retryIn =>
      ⟨.warning, "session_disconnected",
        [("units", .int units), ("retry_in", .float retryIn.toBinary)]⟩
  | started listed kept =>
      ⟨.info, "session_started", [("units_listed", .int listed), ("units_tracked", .int kept)]⟩
  | subscribeFailed unit error =>
      ⟨.warning, "unit_subscribe_failed", [("unit", .text unit), ("error", .text error)]⟩
  | stateUnrecognized unit word =>
      ⟨.warning, "unit_state_unrecognized", [("unit", .text unit), ("active_state", .text word)]⟩
  | stateUnavailable unit error =>
      ⟨.warning, "unit_state_unavailable", [("unit", .text unit), ("error", .text error)]⟩
  | tracked unit state =>
      ⟨.debug, "unit_tracked", [("unit", .text unit), ("active_state", .text state.word)]⟩
  | transition unit previous current =>
      ⟨.debug, "unit_transition",
        [("unit", .text unit), ("previous_state", .text previous.word),
         ("new_state", .text current.word)]⟩
  | untracked unit => ⟨.debug, "unit_untracked", [("unit", .text unit)]⟩
  | signalIgnored kind => ⟨.debug, "signal_ignored", [("signal", .text kind)]⟩
  | unsubscribeFailed error => ⟨.debug, "unit_unsubscribe_failed", [("error", .text error)]⟩

/-- What a session asks for; subscriptions are handles of type `η`. -/
inductive Request (η : Type) where
  /-- Make a new connection. -/
  | open
  | connect
  | subscribeManager
  | listUnits
  | subscribe (unit : String)
  | fetch (unit : String)
  | unsubscribe (subscription : η)
  | nextSignal
  | close
  /-- Hand an event to the consumer. -/
  | emit (event : Transition)
  | sleep (delay : Span)
  | clock
  | note (notice : Notice)

/-- What a request is answered with. -/
def Answer {η : Type} : Request η → Type
  | .listUnits => Except Failure (List String)
  | .subscribe _ => Except Failure η
  | .fetch _ => Except Failure RawState
  | .nextSignal => Except Failure Signal
  | .clock => Microseconds
  | .note _ => Unit
  | _ => Except Failure Unit

/-- The answer to a request for a session that is stopped while it waits; none for requests at which
a session does not wait. -/
def cancelled? {η : Type} : (q : Request η) → Option (Answer q)
  | .connect | .subscribeManager | .listUnits | .subscribe _ | .fetch _ | .unsubscribe _
  | .nextSignal | .close | .sleep _ => some (.error .cancelled)
  | .open | .emit _ | .clock | .note _ => none

/-- What a session keeps. -/
structure State (η : Type) where
  registry : Registry η
  connected : Bool
  deriving Inhabited

def State.initial {η : Type} (scope : BusScope) : State η := ⟨⟨scope, []⟩, false⟩

/-- A step of a session. -/
abbrev Step (η α : Type) : Type := Action (State η) (Answer (η := η)) α

end UnitWatch.Session
