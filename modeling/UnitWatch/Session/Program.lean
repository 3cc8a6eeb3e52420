import UnitWatch.Session.Backoff
import UnitWatch.Session.Protocol

/-!
# Sessions

A session watches the units of one bus scope. It goes through stages:

- **opening**: make a connection, subscribe to the manager, list the units and track the watched
  ones. Manager signals are subscribed before units are listed, and each unit is subscribed before
  its state is fetched, so no change falls into a gap. Discovery yields no events.
- **listening**: wait for the next signal, update the registry, and yield the event if there is one.

**Loss.** When the connection is lost, the session takes a snapshot of the registry, waits, and opens
a new connection. Once that is done it yields one event for each unit whose state differs from the
snapshot. It gives up when the first opening fails, or when more openings in a row fail than the
configuration allows.

**Cleanup.** On the way out of a connection, whatever the reason, every subscription is released and
the connection is closed (`teardown`).
-/

namespace UnitWatch.Session

/-- What a session is to do. -/
structure Plan where
  scope : BusScope
  /-- The units to watch, by name. -/
  watches : String → Bool
  /-- How many failed openings in a row are tolerated after a loss. -/
  attempts : Int
  backoff : Backoff

/-- The states of settled units by name. -/
abbrev Snapshot := List (String × ActiveState)

inductive Stage where
  /-- `snapshot` is what was known when the last connection was lost, `attempt` how many openings
  have been tried since. -/
  | opening (snapshot : Option Snapshot) (attempt : Nat)
  | listening
  deriving Inhabited

variable {η : Type}

/-! ## Requests -/

def ask (q : Request η) : Step η (Answer q) := Action.ask q

def note (n : Notice) : Step η Unit := Action.ask (A := Answer) (.note n)

/-- The value of an answer; an answer that is a failure ends the step. -/
def demand {α : Type} (x : Step η (Except Failure α)) : Step η α := do Action.ofExcept (← x)

/-- Changes the registry. -/
def modifyRegistry (f : Registry η → Registry η) : Step η Unit :=
  Action.modify fun s => { s with registry := f s.registry }

/-! ## Tracking units -/

/-- Gives a subscription back; that the bus refuses is no more than noted. -/
def release (subscription : η) : Step η Unit := do
  match ← ask (.unsubscribe subscription) with
  | .ok () => return ()
  | .error (.fault f) =>
    if f.isBusFault then note (.unsubscribeFailed f.message) else Action.fail (.fault f)
  | .error e => Action.fail e

/-- Subscribes to a unit, fetches its state, and adds it to the registry. A unit for which a call
fails is skipped; a unit in a state that is not one of the five is kept as pending. -/
def track (unit : String) : Step η Unit := do
  match ← ask (.subscribe unit) with
  | .error (.fault (.bus (.call _ reason _))) => note (.subscribeFailed unit reason)
  | .error e => Action.fail e
  | .ok subscription =>
    match ← ask (.fetch unit) with
    | .error (.fault (.unknownActiveState word)) => do
        modifyRegistry fun r => r.insertPending unit subscription
        note (.stateUnrecognized unit word)
    | .error (.fault (.bus (.call call reason name))) => do
        note (.stateUnavailable unit (BusFault.call call reason name).message)
        release subscription
    | .error e => Action.fail e
    | .ok raw =>
      match raw.report? with
      | none => do
          modifyRegistry fun r => r.insertPending unit subscription
          note (.stateUnrecognized unit raw.state)
      | some report => do
          modifyRegistry fun r => r.insert report subscription
          note (.tracked unit report.state)

/-! ## Opening -/

/-- Connects, subscribes to the manager, and tracks the watched units in the order of the listing. -/
def start (c : Plan) : Step η Unit := do
  demand (ask .connect)
  Action.modify fun s => { s with connected := true }
  demand (ask .subscribeManager)
  let units ← demand (ask .listUnits)
  Action.each track (units.filter c.watches)
  let s ← Action.get
  note (.started units.length s.registry.size)

/-- How the state of a unit differs from what was known. -/
structure Difference where
  unit : UnitId
  previous : ActiveState
  current : ActiveState
  deriving DecidableEq

/-- The event of a difference that is found at this time. -/
def Difference.event (d : Difference) (now : Microseconds) : Transition :=
  ⟨d.unit, d.previous, d.current, now⟩

/-- How a registry differs from a snapshot, in the order of the registry. -/
def differences (registry : Registry η) (snapshot : Snapshot) : List Difference :=
  registry.entries.filterMap fun e =>
    match snapshot.lookup e.unit.name, e.state with
    | some previous, some current =>
      if previous = current then none else some ⟨e.unit, previous, current⟩
    | _, _ => none

/-- The events of a resync. The clock is looked at for each. -/
def resync (registry : Registry η) (snapshot : Snapshot) : Step η (List Transition) :=
  let date (d : Difference) : Step η Transition := do return d.event (← ask .clock)
  Action.collect date (differences registry snapshot)

/-! ## Listening -/

/-- Reacts to a signal; the result is the event to yield. -/
def handleSignal (c : Plan) : Signal → Step η (Option Transition)
  | .changed raw => do
      let s ← Action.get
      if !s.registry.contains raw.unit then return none
      match raw.report? with
      | none => do
          note (.stateUnrecognized raw.unit raw.state)
          return none
      | some report => do
          let now : Microseconds ← ask .clock
          let (registry, event) := s.registry.apply report now
          modifyRegistry fun _ => registry
          match event with
          | some t => do
              note (.transition raw.unit t.previous t.current)
              return some t
          | none => return none
  | .added unit => do
      let s ← Action.get
      if !s.registry.contains unit && c.watches unit then track unit
      return none
  | .removed unit => do
      let s ← Action.get
      match s.registry.get? unit with
      | some e => do
          modifyRegistry fun r => r.evict unit
          release e.subscription
          note (.untracked unit)
      | none => pure ()
      return none
  | .other kind => do
      note (.signalIgnored kind)
      return none

/-- Waits for one signal and yields the event that it brings. -/
def listenOnce (c : Plan) : Step η Unit := do
  let signal ← demand (ask .nextSignal)
  match ← handleSignal c signal with
  | some t => demand (ask (.emit t))
  | none => return ()

/-! ## Closing -/

/-- Empties the registry, releases every subscription, and closes the connection. -/
def teardown : Step η Unit := do
  let s ← Action.get
  modifyRegistry Registry.drain
  Action.each (fun e => release e.subscription) s.registry.entries
  Action.modify fun s => { s with connected := false }
  demand (ask .close)

/-! ## Stages -/

/-- The fault of a session that gives up. -/
def givingUp (c : Plan) (reason : String) (attempts : Int) : Failure :=
  .fault (.sessionFailed c.scope.word reason attempts)

/-- How long to wait before an attempt to connect again. -/
def pause (c : Plan) (attempt : Nat) : Step η Span :=
  Action.ofExcept ((c.backoff.delay? attempt).mapError .crash)

/-- What comes after a connection that could not be started, when `attempt` openings have been tried:
the session gives up, or waits for the next one. -/
def retry (c : Plan) (snapshot : Option Snapshot) (attempt : Nat) (reason : String) :
    Step η (Option Stage) :=
  match snapshot with
  | none => Action.fail (givingUp c reason 0)
  | some snap => do
      if c.attempts < (attempt + 1 : Nat) then
        Action.fail (givingUp c reason attempt)
      let delay ← pause c (attempt + 1)
      note (.reconnectFailed (attempt + 1) delay reason)
      demand (ask (.sleep delay))
      return some (.opening (some snap) (attempt + 1))

/-- What comes after a lost connection: what is known is kept, and the session waits for the next
connection. -/
def recover (c : Plan) : Step η (Option Stage) := do
  let s ← Action.get
  let snapshot := s.registry.states
  if c.attempts < 1 then Action.fail (givingUp c "connection lost" 0)
  let delay ← pause c 1
  note (.disconnected snapshot.length delay)
  demand (ask (.sleep delay))
  return some (.opening (some snapshot) 1)

/-- Opens a connection. The result is what comes next, if the connection is to be closed again. -/
def openConnection (c : Plan) (snapshot : Option Snapshot) (attempt : Nat) :
    Step η (Option Stage) := do
  match ← Action.attempt (start c), snapshot with
  | .ok (), none => return none
  | .ok (), some snap => do
      let s ← Action.get
      let events ← resync s.registry snap
      Action.each (fun t => demand (ask (.emit t))) events
      note (.resynced s.registry.size)
      return none
  | .error (.fault f), snapshot =>
    if f.isBusFault then retry c snapshot attempt f.message else Action.fail (.fault f)
  | .error e, _ => Action.fail e

/-- Handles one signal. The result is what comes next, if the connection is lost. -/
def listen (c : Plan) : Step η (Option Stage) := do
  match ← Action.attempt (listenOnce c) with
  | .ok () => return none
  | .error (.fault (.bus (.disconnected _))) => recover c
  | .error e => Action.fail e

/-- One stage of a session; the result is the next stage. -/
def stage (c : Plan) : Stage → Step η Stage
  | .opening snapshot attempt => do
      demand (ask .open)
      match ← Action.onFailure (openConnection c snapshot attempt) teardown with
      | none => return .listening
      | some next => do
          teardown
          return next
  | .listening => do
      match ← Action.onFailure (listen c) teardown with
      | none => return .listening
      | some next => do
          teardown
          return next

/-- A session at work: it ends a stage with the next one, or fails. -/
abbrev Phase (η : Type) : Type := Process (State η) (Answer (η := η)) (Except Failure Stage)

/-- The first phase of a session. -/
def begin (c : Plan) : Phase η := stage c (.opening none 0) (State.initial c.scope)

namespace Phase

/-- The phase after a stage is done; a phase that waits or has failed stays as it is. -/
def next (c : Plan) : Phase η → Phase η
  | .done s (.ok next) => stage c next s
  | p => p

/-- How the session has ended, if it has. -/
def outcome? : Phase η → Option Failure
  | .done _ (.error e) => some e
  | _ => none

/-- The phase after being stopped where it waits. -/
def cancel : Phase η → Phase η
  | .ask s q resume =>
    match cancelled? q with
    | some answer => resume answer
    | none => .ask s q resume
  | p => p

end Phase

end UnitWatch.Session
