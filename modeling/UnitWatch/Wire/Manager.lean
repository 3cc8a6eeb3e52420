import UnitWatch.Wire.Protocol

/-!
# Connections to the service manager

A session's requests to its connection, carried out on a real bus.

**Gaps.** `subscribeManager` subscribes to removed units before it subscribes to new ones: a unit
that comes and goes between the two cannot stay behind as a phantom.

**Errors.** What the bus reports becomes a fault of the operation that was under way
(`Error.during`). Errors of the library's own are not explained away: they end the operation as they
are.

**Closing.** A connection is closed once; whatever goes wrong then is no more than noted. From then
on its loss is no news (`Manager.lose`).
-/

namespace UnitWatch.Wire

open Session (Signal Arrival)

structure Manager where
  scope : BusScope
  /-- How long a call may take. -/
  timeout : Span
  bus : Option BusId := none
  /-- The subscriptions to new and removed units. -/
  unitMatches : List MatchId := []
  closing : Bool := false
  /-- What has arrived and has not been taken yet. -/
  arrivals : List Arrival := []

/-- The failure of an operation in which a call went wrong. -/
def Error.during (operation : String) : Error → Failure
  | .reported name text => .ofBus (.call operation (Error.reported name text).display (some name))
  | .unnamed text => .ofBus (.call operation (Error.unnamed text).display none)
  | .broken text => .crash (.runtime text)

namespace Manager

/-! ## Arrivals -/

def receive (m : Manager) (s : Signal) : Manager :=
  { m with arrivals := m.arrivals ++ [.signal s] }

/-- A connection is lost. -/
def lose (m : Manager) : Manager :=
  if m.closing then m else { m with arrivals := m.arrivals ++ [.loss] }

/-- Takes what has arrived first. -/
def take? (m : Manager) : Option (Except Failure Signal × Manager) :=
  match m.arrivals with
  | [] => none
  | .signal s :: rest => some (.ok s, { m with arrivals := rest })
  | .loss :: rest =>
      some (.error (.ofBus (.disconnected m.scope.word)), { m with arrivals := rest })

/-! ## Operations -/

/-- The result of a call; an error ends the operation. -/
def demand {α : Type} (operation : String) (x : Step Manager (Except Error α)) :
    Step Manager α := do
  match ← x with
  | .ok a => return a
  | .error e => Action.fail (e.during operation)

/-- An operation on the open bus. -/
def onBus {α : Type} (operation : String) (x : Manager → BusId → Step Manager α) :
    Step Manager α := do
  let m ← Action.get
  match m.bus with
  | some bus => x m bus
  | none => Action.fail (.ofBus (.call operation "not connected" none))

def connect : Step Manager Unit := do
  let m ← Action.get
  prepare m.scope
  match ← openBus m.scope with
  | .error (.reported name text) =>
      Action.fail (.ofBus (.connection m.scope.word (Error.reported name text).display))
  | .error (.unnamed text) =>
      Action.fail (.ofBus (.connection m.scope.word (Error.unnamed text).display))
  | .error (.broken text) => Action.fail (.crash (.runtime text))
  | .ok bus => do
      Action.modify fun m => { m with bus := some bus }
      ask (.reportLoss bus)
      note (.connected (← ask (.uniqueName bus)))

def subscribing : String := BusName.managerInterface ++ ".Subscribe"

/-- Subscribes to a kind of units signals of the manager. -/
def watchUnits (bus : BusId) (i : Interest) : Step Manager Unit := do
  let m ← demand subscribing (ask (.addMatch bus i))
  Action.modify fun s => { s with unitMatches := s.unitMatches ++ [m] }

def subscribeManager : Step Manager Unit := onBus subscribing fun m bus => do
  demand subscribing (ask (.subscribe bus m.timeout))
  watchUnits bus .removed
  watchUnits bus .added

def listUnits : Step Manager (List String) :=
  let operation := BusName.managerInterface ++ ".ListUnits"
  onBus operation fun m bus => demand operation (ask (.listUnits bus m.timeout))

/-- Subscribes to changes of a unit. -/
def subscribe (unit : String) : Step Manager MatchId :=
  let operation := "PropertiesChanged match for " ++ unit
  onBus operation fun m bus => do
    let path ← demand operation (ask (.findUnit bus unit m.timeout))
    demand operation (ask (.addMatch bus (.properties unit path)))

/-- Gives a subscription back; there is nothing to do without one or without a bus. -/
def unsubscribe (subscription : Option MatchId) : Step Manager Unit := do
  match subscription, (← Action.get).bus with
  | some m, some _ => demand "remove PropertiesChanged match" (ask (.removeMatch m))
  | _, _ => return

/-- The current state of a unit. -/
def fetch (unit : String) : Step Manager RawState :=
  let operation := BusName.propertiesInterface ++ ".GetAll"
  onBus operation fun m bus => do
    let path ← demand operation (ask (.findUnit bus unit m.timeout))
    let props ← demand operation (ask (.readProperties bus path m.timeout))
    Action.ofExcept ((UnitProperties.rawState unit props).mapError Failure.crash)

/-- Removes a subscription; that it cannot be removed is no more than noted. -/
def dropMatch (m : MatchId) : Step Manager Unit := do
  match ← ask (.removeMatch m) with
  | .ok () => return
  | .error e => note (.matchNotRemoved e.display)

def close : Step Manager Unit := do
  let m ← Action.get
  match m.bus with
  | none => return
  | some bus => do
      Action.modify fun m => { m with closing := true, bus := none, unitMatches := [] }
      Action.each dropMatch m.unitMatches
      match ← ask (.close bus) with
      | .ok () => return
      | .error e => note (.notClosed e.display)

/-! ## As a session's connection -/

/-- Carries out a request of a session. None while it has to wait for an arrival, or if the request
is not for a connection. -/
def serve (m : Manager) :
    (q : Session.Request (Option MatchId)) → Option (Process Manager Answer (Session.Answer q))
  | .connect => some (result connect)
  | .subscribeManager => some (result subscribeManager)
  | .listUnits => some (result listUnits)
  | .subscribe unit => some (result (some <$> subscribe unit))
  | .fetch unit => some (result (fetch unit))
  | .unsubscribe subscription => some (result (unsubscribe subscription))
  | .nextSignal => m.take?.map fun (r, m) => .done m r
  | .close => some (result close)
  | .open | .emit _ | .sleep _ | .clock | .note _ => none
where
  /-- Runs an operation from the current state. -/
  result {α : Type} (x : Step Manager α) : Process Manager Answer (Except Failure α) := x m

end Manager

end UnitWatch.Wire
