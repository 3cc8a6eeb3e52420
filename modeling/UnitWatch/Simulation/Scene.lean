import UnitWatch.Simulation.Sender
import UnitWatch.Simulation.Watch
import UnitWatch.Supervisor.State

/-!
# A supervisor on a virtual clock

A supervisor whose sessions run on buses in memory and whose events go to notifiers in memory.
Whatever can go on without time passing goes on at once (`Scene.settle`): in each round every session
runs until it waits, every worker begins at most one send, and every operation runs until it waits.
`Scene.passTo` moves the clock from one due moment to the next.
-/

namespace UnitWatch.Simulation

open Supervisor

/-- Which part of the daemon logs. -/
inductive Part where
  | supervisor | session | dispatch
  deriving DecidableEq, Repr, Inhabited

def Part.word : Part → String
  | .supervisor => "supervisor"
  | .session => "session"
  | .dispatch => "dispatch"

/-- A record with the scope and the part of the daemon that it comes from. -/
structure LogLine where
  scope : Option BusScope
  part : Part
  record : Log.Record
  deriving Inhabited

/-- The record as it is logged for its scope. -/
def LogLine.scoped (l : LogLine) : Log.Record := l.record.inScope (l.scope.map (·.word))

/-- What is outside of a lane: its bus, and the moments that its session and its worker wait for,
with the order in which they were set. -/
structure Outside where
  scope : BusScope
  around : Surroundings
  wake : Option (Moment × Nat) := none
  flight : Option (Flight × Nat) := none
  deriving Inhabited

structure Scene where
  state : State Handle
  /-- One for each lane, in the order in which lanes take turns. -/
  outsides : List Outside
  behaviours : Behaviours
  clock : Moment := 0
  /-- How many moments have been set. -/
  sequence : Nat := 0
  /-- What has been sent and logged, newest first. -/
  sends : List SendRecord := []
  logs : List LogLine := []

namespace Scene

def outside (x : Scene) (scope : BusScope) : Outside :=
  (x.outsides.find? (·.scope == scope)).getD default

def mapOutside (x : Scene) (scope : BusScope) (f : Outside → Outside) : Scene :=
  { x with outsides := x.outsides.map fun o => if o.scope = scope then f o else o }

def log (x : Scene) (scope : Option BusScope) (part : Part) (rs : List Log.Record) : Scene :=
  { x with logs := (rs.map (LogLine.mk scope part)).reverse ++ x.logs }

/-! ## Sessions -/

/-- Whether a phase can go on without time passing. -/
def canMove (a : Surroundings) : Session.Phase Handle → Bool
  | .ask _ q _ => (a.respond q).isSome
  | .done _ (.ok _) => true
  | .done _ (.error _) => false

/-- A session has got to a phase and yielded events on the way. -/
def moveSession (x : Scene) (scope : BusScope) (p : Session.Phase Handle)
    (events : List Transition) : Scene :=
  let (state, notices) := x.state.moveSession scope p events
  ({ x with state } : Scene).log (some scope) .supervisor (notices.map Notice.record)

/-- Runs a session from a phase until it waits. -/
def runSession (x : Scene) (l : Lane Handle) (p : Session.Phase Handle) : Scene :=
  let scope := l.scope
  let (p, a) := (x.outside scope).around.settle l.config p
  let wake := (due? x.clock p).map fun t => (t, x.sequence)
  let x := x.log (some scope) .session (a.notices.reverse.map Session.Notice.record)
  let x := { x with sequence := x.sequence + 1 }
  let x := x.mapOutside scope fun o =>
    { o with wake, around := { a with events := [], notices := [] } }
  x.moveSession scope p a.events.reverse

/-- The session's turn, if it can go on. -/
def turnSession (x : Scene) (scope : BusScope) : Option Scene := do
  let l ← x.state.lane? scope
  match l.session with
  | .absent => none
  | .created => some (x.runSession l (Session.begin l.config))
  | .running p => if canMove (x.outside scope).around p then some (x.runSession l p) else none

/-! ## Workers -/

/-- The worker is busy with a dispatch, or done with it. -/
def setDispatch (x : Scene) (scope : BusScope) (t : Transition) : Dispatching → Scene
  | .ask s q resume =>
    { x with state := x.state.mapLane scope fun l =>
      { l with worker := .busy t (.ask s q resume) } }
  | .done _ r =>
    let x := { x with state := x.state.mapLane scope Lane.release }
    match r with
    | .ok _ | .error .cancelled => x
    | .error _ => x.log (some scope) .supervisor [(Notice.dispatchFailed t.unit.name).record]

/-- Goes on with a dispatch up to its next send. -/
def writeNotes (x : Scene) (scope : BusScope) : Dispatching → Scene × Dispatching
  | .ask _ (.note n) resume =>
      writeNotes (x.log (some scope) .dispatch [n.record]) scope (resume ())
  | p => (x, p)

/-- Begins the send that a dispatch waits for. -/
def beginSend (x : Scene) (scope : BusScope) (t : Transition) (p : Dispatching) : Scene :=
  match p with
  | .ask _ (.send d) resume =>
    match course x.behaviours x.clock d with
    | .over outcome record =>
      let x := { x with sends := record.reverse ++ x.sends }
      let (x, p) := x.writeNotes scope (resume outcome)
      x.setDispatch scope t p
    | .flying record f =>
      let x := { x with sends := record.reverse ++ x.sends, sequence := x.sequence + 1 }
      (x.setDispatch scope t p).mapOutside scope fun o =>
        { o with flight := some (f, x.sequence) }
  | p =>
    let (x, p) := x.writeNotes scope p
    x.setDispatch scope t p

/-- The worker's turn, if it can go on. -/
def turnWorker (x : Scene) (scope : BusScope) : Option Scene := do
  let l ← x.state.lane? scope
  match l.worker, l.queue with
  | .idle, _ :: _ =>
    some { x with state := x.state.mapLane scope (Lane.take x.state.settings x.state.timeout) }
  | .busy t p, _ =>
    if (x.outside scope).flight.isSome then none else some (x.beginSend scope t p)
  | _, _ => none

/-! ## Operations -/

/-- Runs an operation until it waits. -/
def followJob (self : Nat) : Job → Scene → Scene × Job
  | .done s r, x => (x, .done s r)
  | .ask s q resume, x =>
    match x.state.respond self q with
    | none => (x, .ask s q resume)
    | some (answer, state) =>
      let x := { x with state }
      let x := match q with
        | .note n => x.log none .supervisor [n.record]
        | .closeSender => { x with sends := .closed :: x.sends }
        | _ => x
      followJob self (resume answer) x

/-- The turn of an operation, if it can go on. -/
def turnJob (x : Scene) (n : Nat) : Option Scene := do
  let o ← x.state.operations[n]?
  match o.job with
  | .done _ _ => none
  | .ask s q resume =>
    let _ ← x.state.respond n q
    let (x, job) := followJob n (.ask s q resume) x
    let operations := x.state.operations.modify n fun o => { o with job }
    some { x with state := { x.state with operations } }

/-! ## Rounds -/

/-- Lets each of a list take its turn; the result says whether any could. -/
def turns {ι : Type} (turn : Scene → ι → Option Scene) (is : List ι) (x : Scene × Bool) :
    Scene × Bool :=
  is.foldl (fun (x, moved) i =>
    match turn x i with
    | some x => (x, true)
    | none => (x, moved)) x

def round (x : Scene) : Scene × Bool :=
  let scopes := x.outsides.map (·.scope)
  turns turnJob (List.range x.state.operations.length)
    (turns turnWorker scopes (turns turnSession scopes (x, false)))

/-- Goes on until nothing can go on without time passing. `fuel` bounds the rounds. -/
def settleWith : Nat → Scene → Scene
  | 0, x => x
  | fuel + 1, x =>
    match x.round with
    | (x, true) => settleWith fuel x
    | (x, false) => x

/-- Enough for any number of rounds between two moments. -/
def roundLimit : Nat := 100000

def settle (x : Scene) : Scene := settleWith roundLimit x

/-! ## Time -/

/-- The moments for which the scene waits. -/
def dueMoments (x : Scene) : List Moment :=
  x.outsides.flatMap fun o =>
    (o.wake.map (·.1)).toList ++ (o.flight.map fun (f, _) => f.ends).toList

def earliest (ts : List Moment) : Option Moment :=
  ts.foldl (fun m t => some (m.elim t fun m => if t < m then t else m)) none

/-- The session's sleep is over. -/
def wakeSession (x : Scene) (scope : BusScope) : Scene :=
  match (x.state.lane? scope).map Lane.session with
  | some (Task.running p) =>
    (x.mapOutside scope fun o => { o with wake := none }).moveSession scope (awaken p) []
  | _ => x

/-- The worker's send has ended. -/
def land (x : Scene) (scope : BusScope) (f : Flight) : Scene :=
  let x := x.mapOutside scope fun o => { o with flight := none }
  let x := { x with sends := f.record.reverse ++ x.sends }
  match (x.state.lane? scope).map Lane.worker with
  | some (Worker.busy t (.ask _ (.send _) resume)) =>
    let (x, p) := x.writeNotes scope (resume f.outcome)
    x.setDispatch scope t p
  | _ => x

/-- What is due at the current moment, in the order in which it was set. -/
def dueNow (x : Scene) : List (Nat × BusScope × Option Flight) :=
  let due := x.outsides.flatMap fun o =>
    (match o.wake with
      | some (t, n) => if t ≤ x.clock then [(n, o.scope, none)] else []
      | none => []) ++
    (match o.flight with
      | some (f, n) => if f.ends ≤ x.clock then [(n, o.scope, some f)] else []
      | none => [])
  due.mergeSort fun a b => a.1 ≤ b.1

/-- Lets what is due happen; the lanes concerned take their turns first, in that order. -/
def fire (x : Scene) : Scene :=
  let due := x.dueNow
  let first := (due.map (·.2.1)).eraseDups
  let x := due.foldl (fun x (_, scope, f) =>
    match f with
    | some f => x.land scope f
    | none => x.wakeSession scope) x
  { x with outsides :=
      first.map x.outside ++ x.outsides.filter fun o => !first.contains o.scope }

/-- Moves the clock to a moment, through everything that is due on the way. `fuel` bounds that. -/
def passTo (target : Moment) : Nat → Scene → Scene
  | 0, x => { x with clock := target }
  | fuel + 1, x =>
    match earliest x.dueMoments with
    | some t =>
      if t ≤ target then passTo target fuel (({ x with clock := t } : Scene).fire.settle)
      else { x with clock := target }
    | none => { x with clock := target }

/-! ## What happens to it -/

def call (x : Scene) (m : Method) : Scene := { x with state := x.state.call m }.settle

def requestStop (x : Scene) : Scene := { x with state := x.state.requestStop }.settle

/-- Something happens on the bus of a scope. -/
def happen (x : Scene) (scope : BusScope) (hs : List Bus.Happening) : Scene :=
  (x.mapOutside scope fun o =>
    { o with around := { o.around with bus := hs.foldl Bus.happen o.around.bus } }).settle

/-- Changes what notifiers do. -/
def instruct (x : Scene) (bs : Behaviours) : Scene :=
  { x with behaviours := bs ++ x.behaviours }

/-- Forgets what has been recorded. -/
def forget (x : Scene) : Scene :=
  { x with sends := [], logs := [],
           outsides := x.outsides.map fun o => { o with around := o.around.forget } }

end Scene

end UnitWatch.Simulation
