import UnitWatch.Event

/-!
# Registry

The units that a session tracks, each with its last observed state.

**Entries.** An entry is *settled* in a state, or *pending* as long as no recognised state has been
observed. It keeps the bus timestamp of its last report, if one had a timestamp, and the subscription
through which reports come.

**Updates** (`Entry.update`). A report that is not newer than the stored timestamp is stale and is
dropped. Any other report moves the timestamp on; it settles a pending entry silently, does nothing
more if it repeats the state, and otherwise is a transition.

**Order.** Entries stand in the order in which their units were last added. Replacing an entry keeps
its place.
-/

namespace UnitWatch

/-- A tracked unit. -/
structure Entry (σ : Type) where
  unit : UnitId
  /-- The last observed state; none while the entry is pending. -/
  state : Option ActiveState
  timestamp : Option Int := none
  subscription : σ
  deriving Inhabited

namespace Entry

variable {σ : Type}

/-- Whether a report with this timestamp is not newer than what the entry knows. -/
def isStale (e : Entry σ) (monotonic : Option Int) : Bool :=
  match monotonic, e.timestamp with
  | some m, some t => m ≤ t
  | _, _ => false

/-- The time of a transition: what the bus said, unless it said nothing or zero. -/
def eventTime (realtime : Option Int) (now : Microseconds) : Microseconds :=
  match realtime with
  | some r => if r = 0 then now else r
  | none => now

/-- The entry after a report, and the transition if the report is one. -/
def update (e : Entry σ) (r : Report) (now : Microseconds) : Entry σ × Option Transition :=
  if e.isStale r.monotonic then (e, none)
  else
    let timestamp := r.monotonic.orElse fun _ => e.timestamp
    let moved := { e with timestamp, state := some r.state }
    match e.state with
    | none => (moved, none)
    | some s =>
      if r.state = s then (moved, none)
      else (moved, some ⟨e.unit, s, r.state, eventTime r.realtime now⟩)

end Entry

/-- The tracked units of one bus scope; a name occurs once. -/
structure Registry (σ : Type) where
  scope : BusScope
  entries : List (Entry σ) := []
  deriving Inhabited

namespace Registry

variable {σ : Type}

def get? (r : Registry σ) (name : String) : Option (Entry σ) :=
  r.entries.find? (·.unit.name == name)

def contains (r : Registry σ) (name : String) : Bool := r.entries.any (·.unit.name == name)

/-- Replaces the entry of the same name in its place, or adds one at the end. -/
def put (r : Registry σ) (e : Entry σ) : Registry σ :=
  { r with entries :=
      if r.contains e.unit.name then
        r.entries.map fun old => if old.unit.name == e.unit.name then e else old
      else r.entries ++ [e] }

/-- The entry that a first report settles. -/
def settledEntry (r : Registry σ) (report : Report) (subscription : σ) : Entry σ :=
  ⟨⟨r.scope, report.unit⟩, some report.state, report.monotonic, subscription⟩

/-- The entry of a unit whose state is not known. -/
def pendingEntry (r : Registry σ) (name : String) (subscription : σ) : Entry σ :=
  ⟨⟨r.scope, name⟩, none, none, subscription⟩

/-- Tracks a unit from a report on. -/
def insert (r : Registry σ) (report : Report) (subscription : σ) : Registry σ :=
  r.put (r.settledEntry report subscription)

/-- Tracks a unit before its state is known. -/
def insertPending (r : Registry σ) (name : String) (subscription : σ) : Registry σ :=
  r.put (r.pendingEntry name subscription)

/-- Stops tracking a unit. -/
def evict (r : Registry σ) (name : String) : Registry σ :=
  { r with entries := r.entries.filter fun e => !(e.unit.name == name) }

/-- Updates a tracked unit; reports about other units change nothing. -/
def apply (r : Registry σ) (report : Report) (now : Microseconds) :
    Registry σ × Option Transition :=
  match r.get? report.unit with
  | some e => let (e, t) := e.update report now; (r.put e, t)
  | none => (r, none)

/-- The states of the settled entries by name. -/
def states (r : Registry σ) : List (String × ActiveState) :=
  r.entries.filterMap fun e => e.state.map fun s => (e.unit.name, s)

/-- Forgets every entry. -/
def drain (r : Registry σ) : Registry σ := { r with entries := [] }

def size (r : Registry σ) : Nat := r.entries.length

end Registry

end UnitWatch
