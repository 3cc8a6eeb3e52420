import UnitWatch.Proofs.Dispatch.Sends
import UnitWatch.Proofs.Session.Home
import UnitWatch.Supervisor.State

/-!
# A daemon at work

A supervisor among everything that goes on beside it, step by step. In any order, a session is
answered, a worker goes on with its dispatch, a send ends, an operation is asked for or goes on.
Sessions are answered anything; a send ends in any way except that it is stopped from outside. A
stop is asked for once the lanes have been started; `serve` starts them itself.

What can be seen from outside is written down in the order in which it happens.
-/

namespace UnitWatch.Supervisor

open Dispatch (Delivery Outcome)
open UnitWatch.Span (isInstant)
open Function (update)

variable {η : Type}

/-- What can be seen of a lane. -/
inductive Happening where
  | yielded (event : Transition)
  | begun (send : Delivery)
  | ended (send : Delivery) (outcome : Outcome)

namespace Happening

def event? : Happening → Option Transition
  | yielded t => some t
  | _ => none

def begun? : Happening → Option Delivery
  | begun x => some x
  | _ => none

def ended? : Happening → Option Delivery
  | ended x _ => some x
  | _ => none

end Happening

/-- What can be seen of a daemon. -/
inductive Incident where
  | lane (scope : BusScope) (h : Happening)
  /-- An operation has closed the sender. -/
  | closed (operation : Nat)

namespace Incident

def of? (scope : BusScope) : Incident → Option Happening
  | lane s h => if s = scope then some h else none
  | closed _ => none

def IsClosing : Incident → Prop
  | lane _ _ => False
  | closed _ => True

def IsClosingOf (n : Nat) (x : Incident) : Bool :=
  match x with
  | lane _ _ => false
  | closed m => m == n

end Incident

structure Daemon (η : Type) where
  state : State η
  /-- The sends that have begun and not ended. -/
  flying : BusScope → Option Delivery := fun _ => none
  /-- What has happened, in order. -/
  log : List Incident := []

namespace Daemon

def records (d : Daemon η) (scope : BusScope) : List Happening :=
  d.log.filterMap (Incident.of? scope)

/-- The events that the session of a scope has yielded, in order. -/
def yielded (d : Daemon η) (scope : BusScope) : List Transition :=
  (d.records scope).filterMap Happening.event?

/-- The sends that the worker of a scope has begun, in order. -/
def begun (d : Daemon η) (scope : BusScope) : List Delivery :=
  (d.records scope).filterMap Happening.begun?

/-- The sends of a scope that have ended, in order. -/
def ended (d : Daemon η) (scope : BusScope) : List Delivery :=
  (d.records scope).filterMap Happening.ended?

/-- How often an operation has closed the sender. -/
def closings (d : Daemon η) (n : Nat) : Nat := d.log.countP (Incident.IsClosingOf n)

end Daemon

/-! ## Steps of a lane -/

/-- The events that an answer hands on. -/
def handed : (q : Session.Request η) → Session.Answer q → List Transition
  | .emit t, .ok () => [t]
  | _, _ => []

namespace Lane

/-- The session gets to a phase, and yields events on the way. -/
inductive Proceeds : Lane η → Session.Phase η → List Transition → Prop
  | begins (l : Lane η) (created : l.session = .created) : Proceeds l (Session.begin l.config) []
  | answered (l : Lane η) (s : Session.State η) (q : Session.Request η)
      (resume : Session.Answer q → Session.Phase η) (a : Session.Answer q)
      (waits : l.session = .running (.ask s q resume)) : Proceeds l (resume a) (handed q a)
  | continues (l : Lane η) (s : Session.State η) (st : Session.Stage)
      (done : l.session = .running (.done s (.ok st))) :
      Proceeds l (Session.stage l.config st s) []

/-- The worker of a lane goes on, with a send in flight before and after. -/
inductive Works (settings : Settings) (timeout : Span) :
    Lane η → Option Delivery → List Happening → Lane η → Option Delivery → Prop
  | takes (l : Lane η) (flying : Option Delivery) (idle : l.worker = .idle)
      (some : l.queue ≠ []) :
      Works settings timeout l flying [] (l.take settings timeout) flying
  | notes (l : Lane η) (flying : Option Delivery) (t : Transition) (n : Dispatch.Notice)
      (resume : Dispatch.Answer (.note n) → Dispatching)
      (busy : l.worker = .busy t (.ask () (.note n) resume)) :
      Works settings timeout l flying [] { l with worker := .busy t (resume ()) } flying
  | begins (l : Lane η) (t : Transition) (x : Delivery)
      (resume : Dispatch.Answer (.send x) → Dispatching)
      (busy : l.worker = .busy t (.ask () (.send x) resume)) (lasting : isInstant x.limit = false) :
      Works settings timeout l none [.begun x] l (some x)
  /-- A send whose limit is over at once does not even begin. -/
  | skips (l : Lane η) (t : Transition) (x : Delivery)
      (resume : Dispatch.Answer (.send x) → Dispatching)
      (busy : l.worker = .busy t (.ask () (.send x) resume)) (instant : isInstant x.limit = true) :
      Works settings timeout l none [] { l with worker := .busy t (resume .overdue) } none
  | ends (l : Lane η) (t : Transition) (x : Delivery)
      (resume : Dispatch.Answer (.send x) → Dispatching) (o : Outcome)
      (busy : l.worker = .busy t (.ask () (.send x) resume)) (alive : o ≠ .failed .cancelled) :
      Works settings timeout l (some x) [.ended x o] { l with worker := .busy t (resume o) } none
  | releases (l : Lane η) (flying : Option Delivery) (t : Transition) (r : Except Failure Nat)
      (busy : l.worker = .busy t (.done () r)) :
      Works settings timeout l flying [] l.release flying

end Lane

/-! ## Steps of a daemon -/

namespace Lane

def Started (l : Lane η) : Prop := l.session ≠ .absent

/-- The session has been started, and has ended. -/
def Over (l : Lane η) : Prop := ∃ s f, l.session = .running (.done s (.error f))

/-- Nothing goes on any more. -/
structure Quiet (l : Lane η) : Prop where
  session : l.Over
  queue : l.queue = []
  worker : ∀ t p, l.worker ≠ .busy t p

end Lane

/-- A property of every lane. -/
def State.Every (P : Lane η → Prop) (s : State η) : Prop := ∀ l ∈ s.lanes, P l

/-- Who takes a step. -/
inductive Actor where
  | lane (scope : BusScope)
  | caller
  | operation (n : Nat)

/-- An operation has got somewhere. -/
def State.advance (s : State η) (n : Nat) (job : Job) : State η :=
  { s with operations := s.operations.modify n fun o => { o with job } }

/-- What is seen of a request. -/
def closing (n : Nat) : Request → List Incident
  | .closeSender => [.closed n]
  | _ => []

theorem closing_of_ne {n : Nat} {q : Request} (h : q ≠ .closeSender) : closing n q = [] := by
  unfold closing
  split
  · exact absurd rfl h
  · rfl

namespace Daemon

inductive Step : Actor → Daemon η → Daemon η → Prop
  | session (d : Daemon η) (scope : BusScope) (l : Lane η) (p : Session.Phase η)
      (ts : List Transition) (here : d.state.lane? scope = some l) (proceeds : l.Proceeds p ts) :
      Step (.lane scope) d { d with
        state := (d.state.moveSession scope p ts).1
        log := d.log ++ ts.map fun t => .lane scope (.yielded t) }
  | worker (d : Daemon η) (scope : BusScope) (l l' : Lane η) (flying : Option Delivery)
      (hs : List Happening) (here : d.state.lane? scope = some l)
      (works : l.Works d.state.settings d.state.timeout (d.flying scope) hs l' flying) :
      Step (.lane scope) d {
        state := d.state.mapLane scope fun _ => l'
        flying := update d.flying scope flying
        log := d.log ++ hs.map (.lane scope) }
  | calls (d : Daemon η) (m : Method) (ready : m = .stop → d.state.Every Lane.Started) :
      Step .caller d { d with state := d.state.call m }
  | signalled (d : Daemon η) : Step .caller d { d with state := d.state.requestStop }
  | operates (d : Daemon η) (n : Nat) (o : Operation) (q : Request) (resume : Answer q → Job)
      (a : Answer q) (state : State η) (here : d.state.operations[n]? = some o)
      (waits : o.job = .ask () q resume) (responds : d.state.respond n q = some (a, state)) :
      Step (.operation n) d
        { d with state := state.advance n (resume a), log := d.log ++ closing n q }

/-- Any number of steps. -/
def Reaches : Daemon η → Daemon η → Prop := Relation.ReflTransGen fun d d' => ∃ a, Step a d d'

end Daemon

/-! ## What a step does to the lanes -/

namespace State

variable {s : State η} {scope : BusScope}

theorem mem_of_lane? {l : Lane η} (h : s.lane? scope = some l) : l ∈ s.lanes :=
  List.mem_of_find?_eq_some h

theorem scope_of_lane? {l : Lane η} (h : s.lane? scope = some l) : l.scope = scope := by
  simpa using List.find?_some h

theorem lane?_map {f : Lane η → Lane η} (h : ∀ l, (f l).scope = l.scope) (scope : BusScope)
    {s' : State η} (hs : s'.lanes = s.lanes.map f) :
    s'.lane? scope = (s.lane? scope).map f := by
  have same : (fun l : Lane η => l.scope == scope) ∘ f = fun l => l.scope == scope := by
    funext l
    simp only [Function.comp_apply, h]
  unfold lane?
  rw [hs, List.find?_map, same]

section

variable {f : Lane η → Lane η}

theorem lane?_mapLane (h : ∀ l, l.scope = scope → (f l).scope = scope) (other : BusScope) :
    (s.mapLane scope f).lane? other =
      (s.lane? other).map fun l => if l.scope = scope then f l else l := by
  refine lane?_map (fun l => ?_) other rfl
  split
  · next here => rw [h l here, here]
  · rfl

theorem lane?_mapLane_self (h : ∀ l, l.scope = scope → (f l).scope = scope) {l : Lane η}
    (here : s.lane? scope = some l) : (s.mapLane scope f).lane? scope = some (f l) := by
  rw [lane?_mapLane h, here, Option.map_some, if_pos (scope_of_lane? here)]

/-- The lanes of other scopes stay as they are. -/
theorem lane?_mapLane_of_ne (h : ∀ l, l.scope = scope → (f l).scope = scope) {other : BusScope}
    (differs : other ≠ scope) : (s.mapLane scope f).lane? other = s.lane? other := by
  rw [lane?_mapLane h]
  cases found : s.lane? other with
  | none => rfl
  | some l => rw [Option.map_some, if_neg (scope_of_lane? found ▸ differs)]

theorem scopes_mapLane (h : ∀ l, l.scope = scope → (f l).scope = scope) :
    (s.mapLane scope f).lanes.map Lane.scope = s.lanes.map Lane.scope := by
  simp only [mapLane, List.map_map]
  refine List.map_congr_left fun l _ => ?_
  rw [Function.comp_apply]
  split
  · next here => rw [h l here, here]
  · rfl

end

theorem Every.mapLane {P : Lane η → Prop} {f : Lane η → Lane η} (h : s.Every P)
    (hf : ∀ l, P l → P (f l)) : (s.mapLane scope f).Every P := by
  intro x hx
  obtain ⟨l, hl, rfl⟩ := List.mem_map.1 hx
  split
  · exact hf l (h l hl)
  · exact h l hl

/-- What a request does to every lane. -/
inductive Sweeps : Request → (Lane η → Lane η) → Prop
  | starts : Sweeps .startSessions Lane.start
  | cancels : Sweeps .cancelSessions Lane.cancel
  | endsWorkers : Sweeps .endWorkers Lane.endWorker
  | nothing (q : Request) : Sweeps q id

theorem Sweeps.scope_eq {q : Request} {f : Lane η → Lane η} (h : Sweeps q f) (l : Lane η) :
    (f l).scope = l.scope := by
  cases h with
  | starts =>
    unfold Lane.start
    split <;> rfl
  | cancels =>
    unfold Lane.cancel
    split
    · rfl
    · split <;> rfl
    · rfl
  | endsWorkers =>
    unfold Lane.endWorker
    split <;> rfl
  | nothing => rfl

/-- What responding can do. -/
structure Responds (s s' : State η) (q : Request) : Prop where
  settings : s'.settings = s.settings
  timeout : s'.timeout = s.timeout
  lanes : ∃ f, Sweeps q f ∧ s'.lanes = s.lanes.map f
  operations : s'.operations = s.operations ∨
    s'.operations = s.operations ++ [{ method := .wait, job := Method.wait.job }]

theorem responds_of_respond {n : Nat} {q : Request} {a : Answer q} {s' : State η}
    (h : s.respond n q = some (a, s')) : Responds s s' q := by
  have unchanged : Responds s s q := ⟨rfl, rfl, ⟨id, .nothing q, by simp⟩, .inl rfl⟩
  cases q with
  | startSessions =>
    cases h
    exact ⟨rfl, rfl, ⟨_, .starts, rfl⟩, .inl rfl⟩
  | cancelSessions =>
    cases h
    exact ⟨rfl, rfl, ⟨_, .cancels, rfl⟩, .inl rfl⟩
  | endWorkers =>
    cases h
    exact ⟨rfl, rfl, ⟨_, .endsWorkers, rfl⟩, .inl rfl⟩
  | waitAside =>
    cases h
    exact ⟨rfl, rfl, ⟨id, .nothing _, by simp [call]⟩, .inr rfl⟩
  | sessionsEnded | drained | stopOrOver =>
    simp only [respond] at h
    split at h
    · cases h
      exact unchanged
    · cases h
  | result job =>
    obtain ⟨code, -, eq⟩ := Option.map_eq_some_iff.1 h
    cases eq
    exact unchanged
  | scopes | failures | pending | isStopRequested | closeSender | note =>
    cases h
    exact unchanged
  | catchSignals | releaseSignals =>
    cases h
    exact ⟨rfl, rfl, ⟨id, .nothing _, by simp⟩, .inl rfl⟩

/-- A session that moves changes its lane, and may add to the failures. -/
theorem moveSession_eq (s : State η) (scope : BusScope) (p : Session.Phase η)
    (ts : List Transition) :
    ∃ failures, (s.moveSession scope p ts).1 =
      { s.mapLane scope (·.moveTo p ts) with failures := failures } := by
  unfold moveSession
  simp only
  split
  · unfold recordEnd
    split
    · exact ⟨_, rfl⟩
    · exact ⟨_, rfl⟩
  · exact ⟨_, rfl⟩

end State

namespace Lane

variable {settings : Settings} {timeout : Span} {l l' : Lane η} {flying flying' : Option Delivery}
  {hs : List Happening}

theorem Works.session_eq (h : l.Works settings timeout flying hs l' flying') :
    l'.session = l.session ∧ l'.config = l.config := by
  cases h with
  | takes =>
    unfold take
    split <;> exact ⟨rfl, rfl⟩
  | _ => exact ⟨rfl, rfl⟩

theorem Works.scope_eq (h : l.Works settings timeout flying hs l' flying') : l'.scope = l.scope :=
  congrArg Session.Plan.scope h.session_eq.2

theorem Works.scope_of_lane? (h : l.Works settings timeout flying hs l' flying') {s : State η}
    {scope : BusScope} (here : s.lane? scope = some l) : l'.scope = scope :=
  h.scope_eq.trans (State.scope_of_lane? here)

theorem Over.not_proceeds (h : l.Over) {p : Session.Phase η} {ts : List Transition} :
    ¬l.Proceeds p ts := by
  obtain ⟨s, f, ended⟩ := h
  intro proceeds
  cases proceeds with
  | begins created => simp [ended] at created
  | answered _ _ _ _ waits => simp [ended] at waits
  | continues _ _ done => simp [ended] at done

theorem Quiet.not_works (h : l.Quiet) : ¬l.Works settings timeout flying hs l' flying' := by
  intro works
  cases works with
  | takes _ idle some => exact some h.queue
  | notes _ _ _ _ busy => exact h.worker _ _ busy
  | begins _ _ _ busy => exact h.worker _ _ busy
  | skips _ _ _ busy => exact h.worker _ _ busy
  | ends _ _ _ _ busy => exact h.worker _ _ busy
  | releases _ _ _ busy => exact h.worker _ _ busy

theorem started_start (l : Lane η) : l.start.Started := by
  unfold Started start
  split
  · simp
  · next other => exact other

variable {q : Request} {f : Lane η → Lane η}

theorem Started.sweep (h : l.Started) (sweeps : State.Sweeps q f) : (f l).Started := by
  unfold Started at h ⊢
  cases sweeps with
  | starts =>
    unfold start
    split
    · simp
    · exact h
  | cancels =>
    unfold cancel
    split
    · simp
    · split
      · exact h
      · simp
    · exact h
  | endsWorkers =>
    unfold endWorker
    split <;> exact h
  | nothing => exact h

theorem Over.sweep (h : l.Over) (sweeps : State.Sweeps q f) : (f l).Over := by
  obtain ⟨s, e, ended⟩ := h
  refine ⟨s, e, ?_⟩
  cases sweeps with
  | starts => simp only [start, ended]
  | cancels =>
    simp only [cancel, ended]
    exact ended
  | endsWorkers =>
    unfold endWorker
    split <;> exact ended
  | nothing => exact ended

theorem Quiet.sweep (h : l.Quiet) (sweeps : State.Sweeps q f) : (f l).Quiet := by
  refine ⟨h.session.sweep sweeps, ?_, ?_⟩
  all_goals
    obtain ⟨⟨s, e, ended⟩, queue, worker⟩ := h
    cases sweeps with
    | starts => simpa only [start, ended]
    | cancels =>
      simp only [cancel, ended]
      assumption
    | endsWorkers =>
      unfold endWorker
      split
      · assumption
      · first | exact queue | simp
    | nothing => assumption

end Lane

namespace Daemon

variable {d d' : Daemon η} {a : Actor}

/-- What holds of every lane, if the steps of a lane and the operations keep it. -/
theorem Step.every {P : Lane η → Prop}
    (proceeds : ∀ l x p ts, P l → l.Proceeds p ts → P x → P (x.moveTo p ts))
    (works : ∀ settings timeout l flying hs l' flying', P l →
      l.Works settings timeout flying hs l' flying' → P l')
    (sweeps : ∀ q f l, State.Sweeps q f → P l → P (f l)) (step : Step a d d')
    (h : d.state.Every P) : d'.state.Every P := by
  cases step with
  | session _ scope l p ts here moves =>
    obtain ⟨failures, eq⟩ := d.state.moveSession_eq scope p ts
    rw [State.Every, eq]
    exact h.mapLane fun x => proceeds l x p ts (h l (State.mem_of_lane? here)) moves
  | worker _ scope l l' flying hs here moves =>
    exact h.mapLane fun _ _ => works _ _ _ _ _ _ _ (h l (State.mem_of_lane? here)) moves
  | calls => exact h
  | signalled =>
    unfold State.requestStop
    split <;> exact h
  | operates _ n o q resume a state here waits responds =>
    obtain ⟨f, sweep, lanes⟩ := (State.responds_of_respond responds).lanes
    intro x hx
    rw [show (state.advance n (resume a)).lanes = d.state.lanes.map f from lanes] at hx
    obtain ⟨l, hl, rfl⟩ := List.mem_map.1 hx
    exact sweeps q f l sweep (h l hl)

theorem Step.started (step : Step a d d') (h : d.state.Every Lane.Started) :
    d'.state.Every Lane.Started := by
  refine step.every ?_ ?_
    (fun _ _ _ sweep hl => hl.sweep sweep) h
  · intro l x p ts _ _ _
    simp [Lane.Started, Lane.moveTo]
  · intro _ _ l _ _ l' _ hl works
    unfold Lane.Started
    rwa [works.session_eq.1]

/-- Sessions that have ended stay so. -/
theorem Step.over (step : Step a d d') (h : d.state.Every Lane.Over) :
    d'.state.Every Lane.Over := by
  refine step.every (fun l x p ts hl moves _ => absurd moves hl.not_proceeds)
    ?_ (fun _ _ _ sweep hl => hl.sweep sweep) h
  intro _ _ l _ _ l' _ hl works
  unfold Lane.Over
  rwa [works.session_eq.1]

/-- When nothing goes on any more, it stays so. -/
theorem Step.quiet (step : Step a d d') (h : d.state.Every Lane.Quiet) :
    d'.state.Every Lane.Quiet :=
  step.every (fun _ _ _ _ hl moves _ => absurd moves hl.session.not_proceeds)
    (fun _ _ _ _ _ _ _ hl works => absurd works hl.not_works)
    (fun _ _ _ sweep hl => hl.sweep sweep) h

end Daemon

namespace State

variable {s : State η}

/-- Sessions that have been started and are not alive have ended. -/
theorem Every.over (h : s.Every Lane.Started) (ended : s.sessionsEnded = true) :
    s.Every Lane.Over := by
  intro l hl
  have dead := List.all_eq_true.1 ended l hl
  have started := h l hl
  unfold Lane.Started at started
  cases hp : l.session with
  | absent => exact absurd hp started
  | created => simp [Lane.isAlive, Lane.hasEnded, hp] at dead
  | running p =>
    have outcome : p.outcome?.isSome = true := by
      simpa [Lane.isAlive, Lane.hasEnded, hp] using dead
    match p, outcome with
    | .done st (.error f), _ => exact ⟨st, f, hp⟩

theorem pending_eq_zero : s.pending = 0 ↔ ∀ l ∈ s.lanes, l.pending = 0 := by
  unfold pending
  induction s.lanes with
  | nil => simp
  | cons l lanes ih => simp [ih]

theorem Every.quiet (h : s.Every Lane.Over) (drained : s.pending = 0) :
    s.Every Lane.Quiet := by
  intro l hl
  have nothing : l.pending = 0 := pending_eq_zero.1 drained l hl
  unfold Lane.pending at nothing
  refine ⟨h l hl, List.length_eq_zero_iff.1 (by omega), ?_⟩
  intro t p busy
  rw [busy] at nothing
  simp at nothing

theorem Every.pending (h : s.Every Lane.Quiet) : s.pending = 0 := by
  refine pending_eq_zero.2 ?_
  intro l hl
  have quiet := h l hl
  unfold Lane.pending
  rw [quiet.queue]
  cases busy : l.worker with
  | busy t p => exact absurd busy (quiet.worker t p)
  | _ => rfl

end State

end UnitWatch.Supervisor
