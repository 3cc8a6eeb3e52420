import UnitWatch.Supervisor.Protocol

/-!
# Operations of the supervisor

- `start` starts one session per scope that a rule names, and a worker that dispatches its events in
  their order.
- `wait` waits until every session has ended; its result is the exit code.
- `stop` stops the sessions, lets what is pending be dispatched, and closes the sender.
- `serve` runs from start to stop, and stops when a signal asks for it or when every session has
  ended.

The exit code is 1 if there are sessions and all of them have failed, and 0 otherwise; a stop that
was asked for is no failure.
-/

namespace UnitWatch.Supervisor

def ask (q : Request) : Step (Answer q) := Action.ask q

/-- Asks for something whose answer does not matter. -/
def tell (q : Request) : Step Unit := do
  let _ ← ask q
  return ()

def note (n : Notice) : Step Unit := tell (.note n)

def start : Step Unit := do
  let scopes : List BusScope ← ask .scopes
  if scopes.isEmpty then note .noRules
  tell .startSessions
  note (.started scopes)

/-- The exit code once every session has ended. -/
def verdict : Step Int := do
  let scopes : List BusScope ← ask .scopes
  let failures : Failures ← ask .failures
  if !scopes.isEmpty && failures.length == scopes.length then
    note (.allFailed failures)
    return 1
  return 0

def wait : Step Int := do
  tell .sessionsEnded
  verdict

def stop : Step Unit := do
  tell .cancelSessions
  tell .sessionsEnded
  let pending : Nat ← ask .pending
  if pending != 0 then note (.awaiting pending)
  tell .drained
  tell .endWorkers
  tell .closeSender
  note .stopped

def serve : Step Int := do
  tell .catchSignals
  start
  let waiter : Nat ← ask .waitAside
  tell (.stopOrOver waiter)
  let requested : Bool ← ask .isStopRequested
  if requested then note .shutdownRequested
  stop
  let code : Int ← ask (.result waiter)
  let requested : Bool ← ask .isStopRequested
  tell .releaseSignals
  return if requested then 0 else code

/-- The operations that can be asked of a supervisor. -/
inductive Method where
  | start | wait | stop | serve
  deriving DecidableEq, Repr, Inhabited

/-- An operation at work; only some have an exit code. -/
abbrev Job : Type := Process Unit Answer (Except Failure (Option Int))

def Method.job : Method → Job
  | .start => (Functor.map (fun _ => none) Supervisor.start : Step (Option Int)) ()
  | .wait => (Functor.map some Supervisor.wait : Step (Option Int)) ()
  | .stop => (Functor.map (fun _ => none) Supervisor.stop : Step (Option Int)) ()
  | .serve => (Functor.map some Supervisor.serve : Step (Option Int)) ()

end UnitWatch.Supervisor
