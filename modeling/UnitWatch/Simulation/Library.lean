import UnitWatch.Wire.Manager
import UnitWatch.Wire.Sender

/-!
# A message-bus library in memory

A library over units with tables of properties, for running the users of a library without a real
one. Parts of it can be missing, and calls can be made to fail: an error stands under the name of the
call, or under that name with what the call is about behind a colon.

`Library.respond` answers the requests of a user and records each call; `Library.emit` sends a signal
to whoever is interested in it.
-/

namespace UnitWatch.Simulation

open Wire

/-- A signal subscription; one that has been given up stays in the list. -/
structure Subscription where
  bus : BusId
  interest : Interest
  active : Bool := true
  deriving Inhabited

structure Library where
  installed : List Component := [.library, .loop]
  running : Bool := false
  /-- The loaded units in order, with their properties. -/
  units : List (String × List (String × Value)) := []
  errors : List (String × Error) := []
  /-- Whether the connections, numbered from 1, are connected. -/
  connected : List Bool := []
  /-- The connections whose loss is reported. -/
  reported : List BusId := []
  subscriptions : List Subscription := []
  /-- The calls made and the notices, newest first. -/
  calls : List (List Value) := []
  notices : List Notice := []
  deriving Inhabited

namespace Library

def record (l : Library) (call : List Value) : Library := { l with calls := call :: l.calls }

/-- Runs a call unless one of its errors is set. -/
def guarded {α : Type} (l : Library) (keys : List String) (k : Library → Except Error α × Library) :
    Except Error α × Library :=
  match keys.findSome? fun k => l.errors.lookup k with
  | some e => (.error e, l)
  | none => k l

/-- The path of a unit's object. -/
def unitPath (unit : String) : String := "/unit/" ++ unit

/-- A call of a method of the service manager. -/
def managerCall (member : String) (args : List Value) (timeout : Span) : List Value :=
  [.text member, .text BusName.managerInterface, .text BusName.manager, .text BusName.managerPath,
    .bool false] ++ args ++ [.float timeout.toBinary]

/-- A connection loses its bus. -/
def disconnect (l : Library) (bus : BusId) : Library :=
  { l with connected := l.connected.set (bus - 1) false }

def respond (l : Library) : (q : Request) → Answer q × Library
  | .installed p => (l.installed.contains p, l)
  | .loopRunning => (l.running, l)
  | .startLoop =>
      ((), ({ l with running := true }.record [.text "threads_init"]).record
        [.text "DBusGMainLoop", .bool true])
  | .openBus scope =>
      let name := match scope with
        | .system => "SystemBus"
        | .session => "SessionBus"
      (l.record [.text name, .bool true]).guarded [name] fun l =>
        (.ok (l.connected.length + 1), { l with connected := l.connected ++ [true] })
  | .outlive bus => ((), l.record [.text "set_exit_on_disconnect", .int bus, .bool false])
  | .reportLoss bus => ((), { l with reported := bus :: l.reported })
  | .uniqueName bus => (":1." ++ toString bus, l)
  | .isConnected bus => ((l.connected[bus - 1]?).getD false, l)
  | .subscribe _ timeout =>
      (l.record (managerCall "Subscribe" [] timeout)).guarded ["Subscribe"] fun l => (.ok (), l)
  | .listUnits _ timeout =>
      (l.record (managerCall "ListUnits" [] timeout)).guarded ["ListUnits"] fun l =>
        (.ok (l.units.map (·.1)), l)
  | .findUnit _ unit timeout =>
      (l.record (managerCall "GetUnit" [.text unit] timeout)).guarded
        ["GetUnit", "GetUnit:" ++ unit] fun l =>
          if l.units.any (·.1 == unit) then (.ok (unitPath unit), l)
          else (.error (.reported "org.freedesktop.systemd1.NoSuchUnit"
            ("Unit " ++ unit ++ " not loaded.")), l)
  | .readProperties _ path timeout =>
      (l.record [.text "GetAll", .text BusName.propertiesInterface, .text BusName.manager,
        .text path, .bool false, .text BusName.unitInterface, .float timeout.toBinary]).guarded
        ["GetAll", "GetAll:" ++ BusName.unitInterface] fun l =>
          (.ok (((l.units.find? fun u => unitPath u.1 == path).map (·.2)).getD []), l)
  | .addMatch bus i =>
      (l.record [.text "match", .int bus, .text i.member, .text i.interface, .text BusName.manager,
        .text i.path]).guarded ["match:" ++ i.member] fun l =>
          (.ok l.subscriptions.length, { l with subscriptions := l.subscriptions ++ [⟨bus, i, true⟩] })
  | .removeMatch m =>
      let i := ((l.subscriptions[m]?).map (·.interest)).getD .added
      (l.record [.text "remove", .text i.member, .text i.path]).guarded ["remove:" ++ i.member]
        fun l => (.ok (), { l with
          subscriptions := l.subscriptions.modify m fun s => { s with active := false } })
  | .notify bus c =>
      let n := c.notification
      (l.record [.text "call_blocking", .int bus, .text c.busName, .text c.objectPath,
        .text BusName.notifierInterface, .text BusName.notifierMember, .text Notification.signature,
        .list [.int n.time, .text n.unit, .texts n.states, .text n.scope],
        .float c.timeout.toBinary]).guarded ["call:" ++ c.busName] fun l => (.ok (), l)
  | .close bus =>
      (l.record [.text "close", .int bus]).guarded ["close"] fun l => (.ok (), l.disconnect bus)
  | .note n => ((), { l with notices := n :: l.notices })

/-- Answers the requests of a user up to its end. -/
def run {σ α : Type} : Process σ Answer α → Library → (σ × α) × Library
  | .done s a, l => ((s, a), l)
  | .ask _ q resume, l =>
    match l.respond q with
    | (answer, l) => run (resume answer) l

/-- The subscriptions that a signal reaches: those to its name, and to its object if it has one. -/
def reached (l : Library) (member : String) (path : Option String) : List Subscription :=
  l.subscriptions.filter fun s =>
    s.active && s.interest.member == member && path.all (· == s.interest.path)

/-- Sends a signal to those whom it reaches, one after the other, and says how many they are. A
signal that cannot be read stops at its reader. -/
def emit (l : Library) (member : String) (path : Option String) (args : List Value) (m : Manager) :
    Except Crash Nat × Manager :=
  let reached := l.reached member path
  go reached.length reached m
where
  go (count : Nat) : List Subscription → Manager → Except Crash Nat × Manager
    | [], m => (.ok count, m)
    | s :: rest, m =>
      match s.interest.read args with
      | .ok (some signal) => go count rest (m.receive signal)
      | .ok none => go count rest m
      | .error c => (.error c, m)

/-- The loss of a connection, and the report of it if the manager asked for one. -/
def lose (l : Library) (bus : BusId) (m : Manager) : Library × Manager :=
  (l.disconnect bus, if l.reported.contains bus then m.lose else m)

/-- Forgets what has been recorded. -/
def forget (l : Library) : Library := { l with calls := [], notices := [] }

end Library

end UnitWatch.Simulation
