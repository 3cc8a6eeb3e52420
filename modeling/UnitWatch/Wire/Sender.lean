import UnitWatch.Dispatch.Protocol
import UnitWatch.Wire.Protocol

/-!
# Sending notifications

Notifications go out over one private connection for each scope. Connections are kept in a cache: one
is opened on first use, and again when the cached one is found to be lost. Closing empties the cache
first, and then closes what was in it.
-/

namespace UnitWatch.Wire

/-- The open connections in the order in which their scopes were first used. -/
abbrev Cache := List (BusScope × BusId)

namespace Cache

/-- Keeps a connection; it takes the place of the one kept for the scope. -/
def keep (c : Cache) (scope : BusScope) (bus : BusId) : Cache :=
  if c.any (·.1 == scope) then c.map fun e => if e.1 == scope then (scope, bus) else e
  else c ++ [(scope, bus)]

end Cache

/-- The names of errors that mean that no reply came in time. -/
def timeoutErrors : List String :=
  ["org.freedesktop.DBus.Error.NoReply", "org.freedesktop.DBus.Error.Timeout"]

/-- The failure of a call to a notifier. -/
def NotifyCall.failure (c : NotifyCall) : Error → Failure
  | .reported name text =>
    if timeoutErrors.contains name then
      .fault (.notifierTimeout c.busName (.float c.timeout.toBinary))
    else .fault (.notifierDelivery c.busName (Error.reported name text).display)
  | .unnamed text => .fault (.notifierDelivery c.busName (Error.unnamed text).display)
  | .broken text => .crash (.runtime text)

/-- The call that a delivery asks for. -/
def NotifyCall.ofDelivery (d : Dispatch.Delivery) : NotifyCall :=
  ⟨d.notifier.busName, d.notifier.objectPath, d.notification, d.timeout⟩

namespace Sender

/-- Whether a cached connection can still be used. -/
def isUsable : Option BusId → Step Cache Bool
  | some bus => ask (.isConnected bus)
  | none => return false

/-- The connection for a scope: the cached one if it is connected, else a new one. -/
def busFor (scope : BusScope) : Step Cache (Except Error BusId) := do
  let cached := (← Action.get).lookup scope
  match cached, ← isUsable cached with
  | some bus, true => return .ok bus
  | _, _ =>
    match ← openBus scope with
    | .error e => return .error e
    | .ok bus => do
        Action.modify fun c => c.keep scope bus
        return .ok bus

/-- Sends a notification and waits for the reply. -/
def send (scope : BusScope) (call : NotifyCall) : Step Cache Unit := do
  prepare scope
  match ← busFor scope with
  | .error e => Action.fail (call.failure e)
  | .ok bus =>
    match ← ask (.notify bus call) with
    | .error e => Action.fail (call.failure e)
    | .ok () => return

/-- Closes a connection; that it cannot be closed is no more than noted. -/
def closeBus (bus : BusId) : Step Cache Unit := do
  match ← ask (.close bus) with
  | .ok () => return
  | .error e => note (.notifierBusNotClosed e.display)

def close : Step Cache Unit := do
  let c ← Action.get
  Action.modify fun _ => []
  Action.each closeBus (c.map (·.2))

end Sender

end UnitWatch.Wire
