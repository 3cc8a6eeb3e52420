import UnitWatch.Session.Protocol

/-!
# A service manager in memory

A bus with units whose states are kept in a table, for running sessions without a real one. Calls can
be made to fail: the first so many of a kind, or all calls of a stage that are about one unit. All
connections to the bus share its units; signals go to the queue of the newest connection.

`Bus.respond` answers the requests of a session that a connection can answer, and records each call.
-/

namespace UnitWatch.Simulation

open Session

/-- The stages of a session's dealings with one unit. -/
inductive UnitStage where
  | subscribe | get | unsubscribe
  deriving DecidableEq, Repr, Inhabited

def UnitStage.word : UnitStage → String
  | .subscribe => "subscribe"
  | .get => "get"
  | .unsubscribe => "unsubscribe"

def UnitStage.all : List UnitStage := [.subscribe, .get, .unsubscribe]

/-- The ways in which a call about a unit can be made to fail. -/
inductive ErrorKind where
  | call | disconnected | connection | runtime
  deriving DecidableEq, Repr, Inhabited

def ErrorKind.word : ErrorKind → String
  | .call => "call"
  | .disconnected => "disconnected"
  | .connection => "connection"
  | .runtime => "runtime"

def ErrorKind.all : List ErrorKind := [.call, .disconnected, .connection, .runtime]

/-- The failure of a kind at a stage. -/
def ErrorKind.failure (kind : ErrorKind) (scope : BusScope) (unit : String) (stage : UnitStage) :
    Failure :=
  match kind with
  | .call => .ofBus (.call stage.word ("Unit " ++ unit ++ " not loaded.") none)
  | .disconnected => .ofBus (.disconnected scope.word)
  | .connection => .ofBus (.connection scope.word ("lost during " ++ stage.word))
  | .runtime => .crash (.runtime (stage.word ++ " exploded"))

/-- A subscription to a unit; subscriptions are numbered over the whole bus. -/
structure Handle where
  unit : String
  number : Nat
  deriving DecidableEq, Inhabited

def Handle.display (h : Handle) : String := h.unit ++ "#" ++ toString h.number

structure Bus where
  scope : BusScope
  /-- The loaded units in order. -/
  units : List RawState := []
  /-- How many of the next calls fail; below zero, all of them. -/
  connectFailures : Int := 0
  managerFailures : Int := 0
  listFailures : Int := 0
  unitErrors : List (String × UnitStage × ErrorKind) := []
  /-- Why connections are refused, when they are. -/
  refusal : String := "connection refused"
  /-- Why no connection can be made, if so. -/
  factoryError : Option String := none
  /-- Whether a connection has been made. -/
  hasConnection : Bool := false
  /-- What has arrived at the newest connection. -/
  queue : List Arrival := []
  /-- How many subscriptions have been made. -/
  issued : Nat := 0
  /-- The calls made, newest first. -/
  calls : List String := []
  deriving Inhabited

namespace Bus

/-! ## Units -/

/-- Loads a unit or replaces its state in its place. -/
def load (b : Bus) (r : RawState) : Bus :=
  if b.units.any (·.unit == r.unit) then
    { b with units := b.units.map fun u => if u.unit == r.unit then r else u }
  else { b with units := b.units ++ [r] }

def unload (b : Bus) (unit : String) : Bus :=
  { b with units := b.units.filter fun u => !(u.unit == unit) }

/-! ## Answers -/

def record (b : Bus) (call : String) : Bus := { b with calls := call :: b.calls }

/-- The failure that a call about a unit is made to end in. -/
def unitFailure? (b : Bus) (unit : String) (stage : UnitStage) : Option Failure :=
  match b.unitErrors.lookup unit with
  | some (s, kind) => if s = stage then some (kind.failure b.scope unit stage) else none
  | none => none

/-- Counts a failure down. -/
def countDown (n : Int) : Int := if 0 < n then n - 1 else n

/-- The answer to a request that a connection can answer; none if it has to wait, or if the request
is not for a connection. -/
def respond (b : Bus) : (q : Request Handle) → Option (Answer q × Bus)
  | .open =>
    match b.factoryError with
    | some text => some (.error (.crash (.runtime text)), b)
    | none => some (.ok (), { b with hasConnection := true, queue := [] })
  | .connect =>
    let b := b.record "connect"
    if b.connectFailures = 0 then some (.ok (), b)
    else some (.error (.ofBus (.connection b.scope.word b.refusal)),
      { b with connectFailures := countDown b.connectFailures })
  | .subscribeManager =>
    let b := b.record "subscribe_manager"
    if b.managerFailures = 0 then some (.ok (), b)
    else some (.error (.ofBus (.call "Subscribe" "denied" none)),
      { b with managerFailures := countDown b.managerFailures })
  | .listUnits =>
    let b := b.record "list_units"
    if b.listFailures = 0 then some (.ok (b.units.map (·.unit)), b)
    else some (.error (.ofBus (.disconnected b.scope.word)),
      { b with listFailures := countDown b.listFailures })
  | .subscribe unit =>
    let b := b.record ("subscribe_unit:" ++ unit)
    match b.unitFailure? unit .subscribe with
    | some e => some (.error e, b)
    | none => some (.ok ⟨unit, b.issued + 1⟩, { b with issued := b.issued + 1 })
  | .fetch unit =>
    let b := b.record ("get_unit_state:" ++ unit)
    match b.unitFailure? unit .get, b.units.find? (·.unit == unit) with
    | some e, _ => some (.error e, b)
    | none, some r => some (.ok r, b)
    | none, none =>
      some (.error (.ofBus (.call "GetAll" ("Unit " ++ unit ++ " not loaded.") none)), b)
  | .unsubscribe h =>
    let b := b.record ("unsubscribe_unit:" ++ h.display)
    match b.unitFailure? h.unit .unsubscribe with
    | some e => some (.error e, b)
    | none => some (.ok (), b)
  | .nextSignal =>
    match b.queue with
    | [] => none
    | .signal s :: rest => some (.ok s, { b with queue := rest })
    | .loss :: rest =>
      some (.error (.ofBus (.disconnected b.scope.word)), { b with queue := rest })
  | .close => some (.ok (), b.record "close")
  | _ => none

/-! ## What happens on the bus -/

/-- Which calls are to fail from now on; none keeps what was. -/
structure Sabotage where
  connect : Option Int := none
  manager : Option Int := none
  list : Option Int := none
  factory : Option (Option String) := none
  /-- New failures by unit; none ends them. -/
  units : List (String × Option (UnitStage × ErrorKind)) := []
  deriving Inhabited

/-- Something that happens on the bus. -/
inductive Happening where
  /-- Units change without a signal; a row without a state unloads its unit. -/
  | set (rows : List (String × Option RawState))
  /-- A state is signalled, and holds if `stored`. -/
  | change (state : RawState) (stored : Bool)
  /-- A unit is signalled to be new, and is loaded if its state is given. -/
  | add (unit : String) (state : Option RawState)
  | remove (unit : String)
  | other (kind : String)
  /-- The newest connection is lost. -/
  | drop
  | sabotage (s : Sabotage)
  deriving Inhabited

/-- Queues an arrival at the newest connection, if there is one. -/
def deliver (b : Bus) (a : Arrival) : Bus :=
  if b.hasConnection then { b with queue := b.queue ++ [a] } else b

def applySabotage (b : Bus) (s : Sabotage) : Bus :=
  let errors := s.units.foldl (fun errors (unit, e) =>
    let others := errors.filter fun (u, _) => !(u == unit)
    match e with
    | some e => others ++ [(unit, e)]
    | none => others) b.unitErrors
  { b with
    connectFailures := s.connect.getD b.connectFailures
    managerFailures := s.manager.getD b.managerFailures
    listFailures := s.list.getD b.listFailures
    factoryError := s.factory.getD b.factoryError
    unitErrors := errors }

def happen (b : Bus) : Happening → Bus
  | .set rows => rows.foldl (fun b (unit, r) =>
      match r with
      | some r => b.load r
      | none => b.unload unit) b
  | .change r stored => (if stored then b.load r else b).deliver (.signal (.changed r))
  | .add unit state =>
      (match state with
        | some r => b.load r
        | none => b).deliver (.signal (.added unit))
  | .remove unit => (b.unload unit).deliver (.signal (.removed unit))
  | .other kind => b.deliver (.signal (.other kind))
  | .drop => b.deliver .loss
  | .sabotage s => b.applySabotage s

end Bus

end UnitWatch.Simulation
