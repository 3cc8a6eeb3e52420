import UnitWatch.Bus.Scope
import UnitWatch.Log.Record
import UnitWatch.Process

/-!
# What supervision asks for

The supervisor's operations (start, wait, stop, serve) are processes too. They ask for changes to the
sessions and workers that they oversee, wait until those have come to some point, and note what they
do. Operations run side by side, so one of them can ask for the result of another.
-/

namespace UnitWatch.Supervisor

/-- Why sessions have failed, in the order in which they did. -/
abbrev Failures := List (BusScope × String)

/-- What is noted for the log. -/
inductive Notice where
  | noRules
  | started (scopes : List BusScope)
  | allFailed (failures : Failures)
  | awaiting (pending : Nat)
  | stopped
  | shutdownRequested
  | sessionFailed (reason : String) (attempts : Int)
  | sessionCrashed
  | dispatchFailed (unit : String)
  deriving Inhabited

def Notice.record : Notice → Log.Record
  | noRules => ⟨.warning, "no_rules_configured", []⟩
  | started scopes =>
      ⟨.info, "supervisor_started", [("bus_scopes", .texts (scopes.map (·.word)))]⟩
  | allFailed failures =>
      ⟨.error, "all_sessions_failed",
        [("failures", .object (failures.map fun (scope, reason) => (scope.word, .text reason)))]⟩
  | awaiting pending => ⟨.debug, "awaiting_dispatches", [("pending", .int pending)]⟩
  | stopped => ⟨.info, "supervisor_stopped", []⟩
  | shutdownRequested => ⟨.info, "shutdown_requested", []⟩
  | sessionFailed reason attempts =>
      ⟨.error, "session_failed", [("reason", .text reason), ("attempts", .int attempts)]⟩
  | sessionCrashed => ⟨.exception, "session_crashed", []⟩
  | dispatchFailed unit => ⟨.exception, "dispatch_failed", [("unit", .text unit)]⟩

inductive Request where
  | scopes
  /-- Start the sessions, and their workers, that have not been started. -/
  | startSessions
  /-- Stop the sessions that have not ended. -/
  | cancelSessions
  /-- Wait until every session that has been started has ended. -/
  | sessionsEnded
  | failures
  | pending
  /-- Wait until nothing is pending. -/
  | drained
  | endWorkers
  | closeSender
  /-- Wait for the sessions in an operation of its own; the answer is its number. -/
  | waitAside
  /-- Wait until a stop has been requested or the operation with a number is over. -/
  | stopOrOver (job : Nat)
  /-- Wait for the result of the operation with a number. -/
  | result (job : Nat)
  /-- Have signals request a stop of this operation. -/
  | catchSignals
  | releaseSignals
  | isStopRequested
  | note (n : Notice)

def Answer : Request → Type
  | .scopes => List BusScope
  | .failures => Failures
  | .pending => Nat
  | .waitAside => Nat
  | .result _ => Int
  | .isStopRequested => Bool
  | _ => Unit

abbrev Step (α : Type) : Type := Action Unit Answer α

end UnitWatch.Supervisor
