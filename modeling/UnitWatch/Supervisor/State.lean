import UnitWatch.Dispatch.Program
import UnitWatch.Session.Program
import UnitWatch.Supervisor.Program

/-!
# State of a supervisor

For each scope there is a **lane**: a session, the queue of the events it has yielded and that have
not been taken up, and a worker that dispatches one event after the other. Lanes do not share
anything; a slow notifier holds up its own lane's worker and nobody else.

What is **pending** are the events in the queues and those that workers are busy with.

An **operation** at work is a process that asks for the requests of `Supervisor.Protocol`.
`State.respond` says what each request does to the state, and when one that waits can go on.
-/

namespace UnitWatch.Supervisor

/-- A dispatch at work. -/
abbrev Dispatching : Type := Process Unit Dispatch.Answer (Except Failure Nat)

inductive Worker where
  | absent
  | idle
  | busy (event : Transition) (p : Dispatching)
  | ended

/-- The session of a lane: it is made before it first runs. -/
inductive Task (η : Type) where
  | absent
  | created
  | running (p : Session.Phase η)

/-- A session, the events it has yielded, and the worker that dispatches them. -/
structure Lane (η : Type) where
  config : Session.Plan
  session : Task η := .absent
  queue : List Transition := []
  worker : Worker := .absent

namespace Lane

variable {η : Type}

def scope (l : Lane η) : BusScope := l.config.scope

/-- What the session keeps, also after it has ended. -/
def sessionState (l : Lane η) : Session.State η :=
  match l.session with
  | .running p => p.state
  | _ => Session.State.initial l.scope

/-- Whether the session has ended. -/
def hasEnded (l : Lane η) : Bool :=
  match l.session with
  | .running p => p.outcome?.isSome
  | _ => false

/-- Whether the session has been started and has not ended. -/
def isAlive (l : Lane η) : Bool :=
  match l.session with
  | .absent => false
  | _ => !l.hasEnded

/-- How many events are queued or being dispatched. -/
def pending (l : Lane η) : Nat :=
  l.queue.length + match l.worker with
    | .busy _ _ => 1
    | _ => 0

/-- Makes the session and its worker, unless they have been made. -/
def start (l : Lane η) : Lane η :=
  match l.session with
  | .absent => { l with session := .created, worker := .idle }
  | _ => l

/-- Stops the session where it waits; one that has not run yet does not run at all. -/
def cancel (l : Lane η) : Lane η :=
  match l.session with
  | .created =>
      { l with session := .running (.done (Session.State.initial l.scope) (.error .cancelled)) }
  | .running p => if p.outcome?.isSome then l else { l with session := .running p.cancel }
  | .absent => l

/-- The session has got to a phase and yielded events on the way. -/
def moveTo (l : Lane η) (p : Session.Phase η) (events : List Transition) : Lane η :=
  { l with session := .running p, queue := l.queue ++ events }

/-- The worker takes up the next event, if it is free and there is one. -/
def take (settings : Settings) (timeout : Span) (l : Lane η) : Lane η :=
  match l.worker, l.queue with
  | .idle, t :: rest =>
      { l with worker := .busy t (Dispatch.dispatch settings timeout t ()), queue := rest }
  | _, _ => l

/-- The worker is free again. -/
def release (l : Lane η) : Lane η := { l with worker := .idle }

/-- The worker stops for good. -/
def endWorker (l : Lane η) : Lane η :=
  match l.worker with
  | .absent => l
  | _ => { l with worker := .ended }

end Lane

/-- An operation that has been asked for. -/
structure Operation where
  method : Method
  job : Job
  /-- Whether a stop has been requested of it. -/
  stopRequested : Bool := false

/-- The exit code of an operation that is over; one without an exit code has 0. -/
def Operation.result? (o : Operation) : Option Int :=
  match o.job with
  | .done _ (.ok code) => some (code.getD 0)
  | .done _ (.error _) => some 0
  | .ask _ _ _ => none

structure State (η : Type) where
  settings : Settings
  /-- How long notifiers may take to reply. -/
  timeout : Span
  lanes : List (Lane η)
  failures : Failures := []
  /-- The operations asked for, oldest first. -/
  operations : List Operation := []
  /-- The operation that signals stop, if any. -/
  catcher : Option Nat := none

namespace State

variable {η : Type}

/-- A supervisor with a lane for each scope that a rule names. -/
def make (settings : Settings) (timeout : Span) (attempts : Int) (backoff : Backoff) : State η where
  settings
  timeout
  lanes := settings.scopes.map fun scope =>
    { config := { scope, watches := settings.watches scope, attempts, backoff } }

def mapLane (s : State η) (scope : BusScope) (f : Lane η → Lane η) : State η :=
  { s with lanes := s.lanes.map fun l => if l.scope = scope then f l else l }

def lane? (s : State η) (scope : BusScope) : Option (Lane η) := s.lanes.find? (·.scope == scope)

def pending (s : State η) : Nat := s.lanes.foldr (fun l n => l.pending + n) 0

/-- What is noted when a session ends in a way, if anything, and why it counts as failed, if so. -/
def ending : Failure → Option (String × Notice)
  | .fault (.sessionFailed _ reason attempts) => some (reason, .sessionFailed reason attempts)
  | .cancelled => none
  | e => some (e.summary, .sessionCrashed)

/-- Records how a session has ended. -/
def recordEnd (s : State η) (scope : BusScope) (e : Failure) : State η × List Notice :=
  match ending e with
  | some (reason, notice) => ({ s with failures := s.failures ++ [(scope, reason)] }, [notice])
  | none => (s, [])

/-- A session has got to a phase and yielded events on the way; it may have ended there. -/
def moveSession (s : State η) (scope : BusScope) (p : Session.Phase η) (events : List Transition) :
    State η × List Notice :=
  let s := s.mapLane scope (·.moveTo p events)
  match p.outcome? with
  | some e => s.recordEnd scope e
  | none => (s, [])

/-- Asks for an operation. -/
def call (s : State η) (m : Method) : State η :=
  { s with operations := s.operations ++ [{ method := m, job := m.job }] }

/-- A signal that requests a stop. -/
def requestStop (s : State η) : State η :=
  match s.catcher with
  | some n =>
      { s with operations := s.operations.modify n fun o => { o with stopRequested := true } }
  | none => s

def isStopRequested (s : State η) (job : Nat) : Bool :=
  (s.operations[job]?).any (·.stopRequested)

def result? (s : State η) (job : Nat) : Option Int := (s.operations[job]?).bind Operation.result?

/-- Whether no session that has been started is alive. -/
def sessionsEnded (s : State η) : Bool := s.lanes.all fun l => !l.isAlive

/-- What a request of the operation `self` does; none if it has to wait. Notes and the sender are the
caller's business. -/
def respond (self : Nat) (s : State η) : (q : Request) → Option (Answer q × State η)
  | .scopes => some (s.lanes.map (·.scope), s)
  | .startSessions => some ((), { s with lanes := s.lanes.map Lane.start })
  | .cancelSessions => some ((), { s with lanes := s.lanes.map Lane.cancel })
  | .sessionsEnded => if s.sessionsEnded then some ((), s) else none
  | .failures => some (s.failures, s)
  | .pending => some (s.pending, s)
  | .drained => if s.pending = 0 then some ((), s) else none
  | .endWorkers => some ((), { s with lanes := s.lanes.map Lane.endWorker })
  | .waitAside => some (s.operations.length, s.call .wait)
  | .stopOrOver job =>
      if s.isStopRequested self || (s.result? job).isSome then some ((), s) else none
  | .result job => (s.result? job).map fun code => (code, s)
  | .catchSignals => some ((), { s with catcher := some self })
  | .releaseSignals => some ((), { s with catcher := none })
  | .isStopRequested => some (s.isStopRequested self, s)
  | .closeSender | .note _ => some ((), s)

end State

end UnitWatch.Supervisor
