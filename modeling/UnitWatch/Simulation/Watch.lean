import UnitWatch.Session.Program
import UnitWatch.Simulation.Bus

/-!
# A session on a bus in memory

A session and its bus on a virtual clock. Whatever can go on without time passing goes on at once
(`Surroundings.settle`); then the session waits for a signal, for a moment on the clock, or for
nothing because it has ended.
-/

namespace UnitWatch.Simulation

open Session

/-- What answers a session, and what it has recorded. -/
structure Surroundings where
  bus : Bus
  /-- What the wall clock shows. -/
  wall : Microseconds
  /-- The events yielded and the notices made, newest first. -/
  events : List Transition := []
  notices : List Notice := []
  deriving Inhabited

namespace Surroundings

/-- The answer to a request that need not wait. -/
def respond (a : Surroundings) (q : Request Handle) : Option (Answer q × Surroundings) :=
  match q with
  | .emit t => some (.ok (), { a with events := t :: a.events })
  | .note n => some ((), { a with notices := n :: a.notices })
  | .clock => some (a.wall, a)
  | .sleep (.seconds d) => if d ≤ 0 then some (.ok (), a) else none
  | q => (a.bus.respond q).map fun (answer, bus) => (answer, { a with bus })

/-- Answers requests up to one that has to wait, or to the end of the phase. -/
def follow : Phase Handle → Surroundings → Phase Handle × Surroundings
  | .done s r, a => (.done s r, a)
  | .ask s q resume, a =>
    match a.respond q with
    | some (answer, a) => follow (resume answer) a
    | none => (.ask s q resume, a)

/-- Goes on through as many stages as `fuel` allows. -/
def settleWith (c : Plan) : Nat → Phase Handle → Surroundings → Phase Handle × Surroundings
  | 0, p, a => (p, a)
  | fuel + 1, p, a =>
    match follow p a with
    | (.done s (.ok stage), a) => settleWith c fuel (Phase.next c (.done s (.ok stage))) a
    | (p, a) => (p, a)

/-- Goes on until nothing can go on without time passing. Each stage takes a signal or a delay, so
their number is bounded. -/
def settle (a : Surroundings) (c : Plan) (p : Phase Handle) : Phase Handle × Surroundings :=
  settleWith c (2 * a.bus.queue.length + 1000) p a

/-- Forgets what has been recorded. -/
def forget (a : Surroundings) : Surroundings :=
  { a with events := [], notices := [], bus := { a.bus with calls := [] } }

end Surroundings

/-- The moment when the request at which a phase waits is due. -/
def due? (now : Moment) : Phase Handle → Option Moment
  | .ask _ (.sleep d) _ => now.after d
  | _ => none

/-- The phase after its sleep is over. -/
def awaken : Phase Handle → Phase Handle
  | .ask _ (.sleep _) resume => resume (.ok ())
  | p => p

/-- Whether a phase waits for a signal. -/
def isListening : Phase Handle → Bool
  | .ask _ .nextSignal _ => true
  | _ => false

/-! ## One session -/

structure Watch where
  config : Plan
  around : Surroundings
  phase : Option (Phase Handle) := none
  /-- When the session goes on, if it sleeps. -/
  wake : Option Moment := none

namespace Watch

/-- Goes on from a phase. -/
def goOn (w : Watch) (now : Moment) (p : Phase Handle) : Watch :=
  let (p, around) := w.around.settle w.config p
  { w with around, phase := some p, wake := due? now p }

def start (w : Watch) (now : Moment) : Watch :=
  if w.phase.isSome then w else w.goOn now (begin w.config)

/-- Goes on if the session waits for a signal. -/
def settle (w : Watch) (now : Moment) : Watch :=
  match w.phase with
  | some p => if isListening p then w.goOn now p else w
  | none => w

/-- Something happens on the bus, and the session goes on. -/
def happen (w : Watch) (now : Moment) (hs : List Bus.Happening) : Watch :=
  settle { w with around := { w.around with bus := hs.foldl Bus.happen w.around.bus } } now

/-- Stops the session where it waits. -/
def cancel (w : Watch) (now : Moment) : Watch :=
  match w.phase with
  | some p => if p.outcome?.isSome then w else w.goOn now p.cancel
  | none => w

/-- Moves the clock to a moment, through all the sleeps that end on the way. `fuel` bounds them. -/
def passTo (target : Moment) : Nat → Watch → Watch
  | 0, w => w
  | fuel + 1, w =>
    match w.wake, w.phase with
    | some t, some p => if t ≤ target then passTo target fuel (w.goOn t (awaken p)) else w
    | _, _ => w

/-- How the session has ended, if it has. -/
def outcome? (w : Watch) : Option Failure := w.phase.bind Phase.outcome?

def state (w : Watch) : State Handle :=
  match w.phase with
  | some p => p.state
  | none => State.initial w.config.scope

end Watch

end UnitWatch.Simulation
