import UnitWatch.Proofs.Supervisor.Failures
import UnitWatch.Proofs.Supervisor.Pace

/-!
# A daemon on a clock

A daemon's steps at their moments. Every half of a lane that is due goes on before the clock does;
in which order they do is open, and so is what operations do meanwhile, except that the lanes are
left as they are: nobody stops them.

`Step.locally` says what a step is for one scope: a move of its session, a move of its worker, or
nothing. So the sessions of a run go their own course (`Follows`), and so do the workers with what
their sessions yield (`Attends`).
-/

namespace UnitWatch.Supervisor

open Dispatch (Delivery Outcome)
open Function (update)

variable {η : Type}

/-- What is around a daemon: a wall clock, the buses, and what becomes of sends, which may go by all
that has been seen so far. -/
structure Conditions (η : Type) where
  wall : Moment → Microseconds
  buses : BusScope → Script η
  replies : List Incident → Replies

structure World (η : Type) where
  daemon : Daemon η
  clock : Moment
  diaries : BusScope → Diary η
  ledgers : BusScope → Ledger

/-- What a daemon is told to do stays the same. -/
theorem Daemon.Step.settings_eq {d d' : Daemon η} {a : Actor} (step : Daemon.Step a d d') :
    d'.state.settings = d.state.settings ∧ d'.state.timeout = d.state.timeout := by
  cases step with
  | session _ scope l p ts =>
    obtain ⟨failures, state⟩ := d.state.moveSession_eq scope p ts
    simp only [state]
    exact ⟨rfl, rfl⟩
  | worker | calls => exact ⟨rfl, rfl⟩
  | signalled =>
    simp only [State.requestStop]
    split <;> exact ⟨rfl, rfl⟩
  | operates _ n o q resume a state here waits responds =>
    have kept := State.responds_of_respond responds
    exact ⟨kept.settings, kept.timeout⟩

theorem Daemon.Reaches.settings_eq {d d' : Daemon η} (run : Daemon.Reaches d d') :
    d'.state.settings = d.state.settings ∧ d'.state.timeout = d.state.timeout := by
  induction run with
  | refl => exact ⟨rfl, rfl⟩
  | tail _ last ih =>
    obtain ⟨a, step⟩ := last
    exact ⟨step.settings_eq.1.trans ih.1, step.settings_eq.2.trans ih.2⟩

namespace Lane.Works

variable {settings : Settings} {timeout : Span} {l l' : Lane η} {flying flying' : Option Delivery}
  {hs : List Happening}

/-- A worker yields no events. -/
theorem events_eq_nil (h : l.Works settings timeout flying hs l' flying') :
    hs.filterMap Happening.event? = [] := by
  cases h <;> rfl

/-- An idle worker takes the first event off the queue. -/
theorem queue_of_idle (h : l.Works settings timeout flying hs l' flying')
    (idle : l.worker = .idle) : l'.queue = l.queue.tail := by
  cases h with
  | takes _ _ some =>
    obtain ⟨t, rest, queue⟩ := List.exists_cons_of_ne_nil some
    simp only [take, idle, queue, List.tail_cons]
  | notes _ _ _ _ busy => simp [idle] at busy
  | begins _ _ _ busy => simp [idle] at busy
  | skips _ _ _ busy => simp [idle] at busy
  | ends _ _ _ _ busy => simp [idle] at busy
  | releases _ _ _ busy => simp [idle] at busy

/-- A busy worker leaves the queue as it is. -/
theorem queue_of_busy (h : l.Works settings timeout flying hs l' flying') {event : Transition}
    {p : Dispatching} (busy : l.worker = .busy event p) : l'.queue = l.queue := by
  cases h with
  | takes _ idle => simp [idle] at busy
  | _ => rfl

end Lane.Works

namespace World

/-- A daemon that has just been started. -/
def fresh (d : Daemon η) (t : Moment) : World η where
  daemon := d
  clock := t
  diaries _ := { since := t }
  ledgers _ := { since := t }

def lane? (w : World η) (scope : BusScope) : Option (Lane η) := w.daemon.state.lane? scope

/-- The session of a scope in time. -/
def course (w : World η) (scope : BusScope) : Course η :=
  { w.diaries scope with session := (w.lane? scope).elim .absent Lane.session }

/-- The worker of a scope in time. -/
def desk (w : World η) (scope : BusScope) : Desk :=
  { w.ledgers scope with worker := (w.lane? scope).elim .absent Lane.worker }

/-- The events that the session of a scope has yielded, each with its moment. -/
def yields (w : World η) (scope : BusScope) : List (Moment × Transition) :=
  (w.diaries scope).yields

variable (c : Conditions η)

/-- Where the session of a scope gets to next. -/
def session? (w : World η) (scope : BusScope) : Option (Move η) :=
  (w.lane? scope).bind fun l => (w.course scope).move? l.config (c.buses scope) c.wall

/-- Where the worker of a scope gets to next. -/
def worker? (w : World η) (scope : BusScope) : Option (Desk × List Happening) :=
  (w.desk scope).move? w.daemon.state.settings w.daemon.state.timeout (c.replies w.daemon.log)
    (w.yields scope)

inductive Step : World η → World η → Prop
  | session (w : World η) (scope : BusScope) (l : Lane η) (m : Move η)
      (here : w.lane? scope = some l) (moves : w.session? c scope = some m)
      (now : m.moment = w.clock) :
      Step w { w with
        daemon := { w.daemon with
          state := (w.daemon.state.moveSession scope m.phase m.events).1
          log := w.daemon.log ++ m.events.map fun event => .lane scope (.yielded event) }
        diaries := update w.diaries scope ((w.course scope).after m).toDiary }
  | worker (w : World η) (scope : BusScope) (l l' : Lane η) (flying : Option Delivery) (k : Desk)
      (hs : List Happening) (here : w.lane? scope = some l)
      (works : l.Works w.daemon.state.settings w.daemon.state.timeout (w.daemon.flying scope) hs l'
        flying)
      (moves : w.worker? c scope = some (k, hs)) (same : k.worker = l'.worker)
      (now : k.since = w.clock) :
      Step w { w with
        daemon := {
          state := w.daemon.state.mapLane scope fun _ => l'
          flying := update w.daemon.flying scope flying
          log := w.daemon.log ++ hs.map (.lane scope) }
        ledgers := update w.ledgers scope k.toLedger }
  | aside (w : World η) (a : Actor) (d : Daemon η) (step : Daemon.Step a w.daemon d)
      (others : ∀ scope, a ≠ .lane scope) (running : d.state.lanes = w.daemon.state.lanes) :
      Step w { w with daemon := d }
  | passes (w : World η) (t : Moment) (later : w.clock < t)
      (sessions : ∀ scope m, w.session? c scope = some m → t ≤ m.moment)
      (workers : ∀ scope k hs, w.worker? c scope = some (k, hs) → t ≤ k.since) :
      Step w { w with clock := t }

/-- Any number of steps. -/
def Runs : World η → World η → Prop := Relation.ReflTransGen (Step c)

/-- The session of a scope has done all that it does by a moment. -/
def SessionSettled (t : Moment) (scope : BusScope) (w : World η) : Prop :=
  w.clock ≤ t ∧ ∀ m, w.session? c scope = some m → t < m.moment

/-- The worker of a scope has done all that it does by a moment. -/
def WorkerSettled (t : Moment) (scope : BusScope) (w : World η) : Prop :=
  w.clock ≤ t ∧ ∀ k hs, w.worker? c scope = some (k, hs) → t < k.since

variable {c} {w w' w₀ : World η} {t : Moment} {scope : BusScope}

/-! ## Steps of the daemon -/

theorem course_session {l : Lane η} (here : w.lane? scope = some l) :
    (w.course scope).session = l.session := by
  simp [course, here]

theorem desk_worker {l : Lane η} (here : w.lane? scope = some l) :
    (w.desk scope).worker = l.worker := by
  simp [desk, here]

theorem yields_of_move {m : Move η} (diary : w'.diaries scope = ((w.course scope).after m).toDiary) :
    w'.yields scope = w.yields scope ++ m.dealings.flatMap Dealing.yields := by
  rw [yields, diary]
  exact Course.yields_after _ m

theorem proceeds {l : Lane η} {m : Move η} (here : w.lane? scope = some l)
    (moves : w.session? c scope = some m) : l.Proceeds m.phase m.events := by
  rw [session?, here, Option.bind_some] at moves
  exact Course.proceeds_of_move? (course_session here) moves

/-- What goes on in time is what may go on in a daemon. -/
theorem Step.reaches (step : Step c w w') : Daemon.Reaches w.daemon w'.daemon := by
  cases step with
  | session scope l m here moves now =>
    exact .single ⟨_, .session w.daemon scope l _ _ here (proceeds here moves)⟩
  | worker scope l l' flying k hs here works moves same now =>
    exact .single ⟨_, .worker w.daemon scope l l' flying hs here works⟩
  | aside a d step others running => exact .single ⟨a, step⟩
  | passes => exact .refl

theorem Runs.reaches (run : Runs c w w') : Daemon.Reaches w.daemon w'.daemon := by
  induction run with
  | refl => exact .refl
  | tail _ step ih => exact ih.trans step.reaches

/-! ## One scope -/

/-- What a step can be for a scope. -/
inductive Local (c : Conditions η) (scope : BusScope) (w w' : World η) : Prop
  | session (l : Lane η) (m : Move η) (here : w.lane? scope = some l)
      (moves : w.session? c scope = some m) (now : m.moment = w.clock)
      (lane : w'.lane? scope = some (l.moveTo m.phase m.events))
      (diary : w'.diaries scope = ((w.course scope).after m).toDiary)
      (ledger : w'.ledgers scope = w.ledgers scope)
      (records : w'.daemon.records scope = w.daemon.records scope ++ m.events.map .yielded)
      (flying : w'.daemon.flying scope = w.daemon.flying scope) (clock : w'.clock = w.clock)
  | worker (l l' : Lane η) (k : Desk) (hs : List Happening) (here : w.lane? scope = some l)
      (works : l.Works w.daemon.state.settings w.daemon.state.timeout (w.daemon.flying scope) hs l'
        (w'.daemon.flying scope))
      (moves : w.worker? c scope = some (k, hs)) (same : k.worker = l'.worker)
      (now : k.since = w.clock) (lane : w'.lane? scope = some l')
      (diary : w'.diaries scope = w.diaries scope) (ledger : w'.ledgers scope = k.toLedger)
      (records : w'.daemon.records scope = w.daemon.records scope ++ hs)
      (clock : w'.clock = w.clock)
  | untouched (lane : w'.lane? scope = w.lane? scope)
      (diary : w'.diaries scope = w.diaries scope) (ledger : w'.ledgers scope = w.ledgers scope)
      (records : w'.daemon.records scope = w.daemon.records scope)
      (flying : w'.daemon.flying scope = w.daemon.flying scope) (clock : w.clock ≤ w'.clock)

theorem seen_aside {d d' : Daemon η} {a : Actor} (step : Daemon.Step a d d')
    (others : ∀ scope, a ≠ .lane scope) (scope : BusScope) :
    d'.records scope = d.records scope ∧ d'.flying = d.flying := by
  cases step with
  | session _ other => exact absurd rfl (others other)
  | worker _ other => exact absurd rfl (others other)
  | calls | signalled => exact ⟨rfl, rfl⟩
  | operates _ n o q => exact ⟨d.records_closing n q scope, rfl⟩

/-- **What a step is for a scope**: a move of its session, a move of its worker, or nothing. -/
theorem Step.locally (step : Step c w w') (scope : BusScope) : Local c scope w w' := by
  cases step with
  | session other l m here moves now =>
    -- What the session yields is a happening of its lane.
    have log : w.daemon.log ++ m.events.map (fun event => Incident.lane other (.yielded event)) =
        w.daemon.log ++ (m.events.map Happening.yielded).map (Incident.lane other) := by
      rw [List.map_map]
      rfl
    have records := w.daemon.records_lane other (m.events.map .yielded) scope
    rw [← log] at records
    obtain ⟨failures, state⟩ := w.daemon.state.moveSession_eq other m.phase m.events
    by_cases same : scope = other
    · subst same
      refine .session l m here moves now ?_ (Function.update_self ..) rfl ?_ rfl rfl
      · show State.lane? (w.daemon.state.moveSession scope m.phase m.events).1 scope = _
        rw [state]
        exact State.lane?_mapLane_self (f := (·.moveTo m.phase m.events)) (fun _ h => h) here
      · rw [if_pos rfl] at records
        exact records
    · refine .untouched ?_ (Function.update_of_ne same ..) rfl ?_ rfl le_rfl
      · show State.lane? (w.daemon.state.moveSession other m.phase m.events).1 scope = _
        rw [state]
        exact State.lane?_mapLane_of_ne (f := (·.moveTo m.phase m.events)) (fun _ h => h) same
      · rw [if_neg same, List.append_nil] at records
        exact records
  | worker other l l' flying k hs here works moves same now =>
    have kept (x : Lane η) (_ : x.scope = other) := works.scope_of_lane? here
    have records := w.daemon.records_lane other hs scope
    by_cases mine : scope = other
    · subst mine
      refine .worker l l' k hs here ?_ moves same now ?_ rfl (Function.update_self ..) ?_ rfl
      · show l.Works _ _ _ hs l' (update w.daemon.flying scope flying scope)
        rw [Function.update_self]
        exact works
      · exact State.lane?_mapLane_self (f := fun _ => l') kept here
      · rw [if_pos rfl] at records
        exact records
    · refine .untouched ?_ rfl (Function.update_of_ne mine ..) ?_ (Function.update_of_ne mine ..)
        le_rfl
      · exact State.lane?_mapLane_of_ne (f := fun _ => l') kept mine
      · rw [if_neg mine, List.append_nil] at records
        exact records
  | aside a d step others running =>
    obtain ⟨records, flying⟩ := seen_aside step others scope
    refine .untouched ?_ rfl rfl records (congrFun flying scope) le_rfl
    show d.state.lanes.find? _ = w.daemon.state.lanes.find? _
    rw [running]
  | passes t later =>
    exact .untouched rfl rfl rfl rfl rfl later.le

/-! ### Sessions -/

/-- The session of a scope goes its own course since the start. -/
structure Follows (c : Conditions η) (plan : Session.Plan) (scope : BusScope) (w₀ w : World η) :
    Prop where
  present : (w.lane? scope).isSome = (w₀.lane? scope).isSome
  config : ∀ l, w.lane? scope = some l → l.config = plan
  course : Relation.ReflTransGen (Course.Goes plan (c.buses scope) c.wall) (w₀.course scope)
    (w.course scope)
  since : (w.diaries scope).since ≤ w.clock
  yielded : w.daemon.yielded scope = (w.yields scope).map Prod.snd

theorem Follows.step {plan : Session.Plan} (h : Follows c plan scope w₀ w) (step : Step c w w') :
    Follows c plan scope w₀ w' := by
  cases step.locally scope with
  | session l m here moves now lane diary ledger records flying clock =>
    have course : w'.course scope = (w.course scope).after m := by
      simp only [World.course, lane, diary]
      rfl
    -- The move that is due is the next one on the course.
    have goes : Course.Goes plan (c.buses scope) c.wall (w.course scope) (w'.course scope) := by
      rw [session?, here, Option.bind_some, h.config l here] at moves
      exact ⟨m, moves, course⟩
    refine ⟨?_, ?_, h.course.tail goes, ?_, ?_⟩
    · rw [← h.present, lane, here]
      rfl
    · intro l' here'
      rw [lane] at here'
      cases here'
      exact h.config l here
    · rw [diary, clock]
      exact now.le
    · have events : (m.events.map Happening.yielded).filterMap Happening.event? = m.events := by
        simp [List.filterMap_map, Function.comp_def, Happening.event?]
      have yields := yields_of_move diary
      rw [Daemon.yielded, records, List.filterMap_append, events, yields, List.map_append,
        ← h.yielded]
      rfl
  | worker l l' k hs here works moves same now lane diary ledger records clock =>
    have unchanged : w'.course scope = w.course scope := by
      simp [World.course, lane, here, diary, works.session_eq.1]
    refine ⟨?_, ?_, unchanged ▸ h.course, ?_, ?_⟩
    · rw [← h.present, lane, here]
      rfl
    · intro x here'
      rw [lane] at here'
      cases here'
      rw [works.session_eq.2]
      exact h.config l here
    · rw [diary, clock]
      exact h.since
    · rw [World.yields, diary, Daemon.yielded, records, List.filterMap_append, works.events_eq_nil,
        List.append_nil]
      exact h.yielded
  | untouched lane diary ledger records flying clock =>
    have unchanged : w'.course scope = w.course scope := by
      simp [World.course, lane, diary]
    refine ⟨lane ▸ h.present, lane ▸ h.config, unchanged ▸ h.course, ?_, ?_⟩
    · rw [diary]
      exact h.since.trans clock
    · rw [World.yields, diary, Daemon.yielded, records]
      exact h.yielded

/-! ### Queues -/

/-- The queue of a scope holds what has been yielded and not taken up. -/
structure Stocked (scope : BusScope) (w : World η) : Prop where
  inside : (w.ledgers scope).taken ≤ (w.yields scope).length
  queue : ∀ l, w.lane? scope = some l →
    l.queue = ((w.yields scope).drop (w.ledgers scope).taken).map Prod.snd
  begun : w.daemon.begun scope = (w.ledgers scope).sends.map Prod.snd

theorem Stocked.step (h : Stocked scope w) (step : Step c w w') : Stocked scope w' := by
  cases step.locally scope with
  | session l m here moves now lane diary ledger records flying clock =>
    have yields := yields_of_move diary
    refine ⟨?_, ?_, ?_⟩
    · rw [ledger, yields, List.length_append]
      exact h.inside.trans (Nat.le_add_right _ _)
    · intro x here'
      rw [lane] at here'
      cases here'
      rw [ledger, yields, List.drop_append_of_le_length h.inside, List.map_append, ← h.queue l here]
      rfl
    · have begun : (m.events.map Happening.yielded).filterMap Happening.begun? = [] := by
        simp [List.filterMap_map, Function.comp_def, Happening.begun?]
      rw [Daemon.begun, records, List.filterMap_append, begun, List.append_nil, ledger]
      exact h.begun
  | worker l l' k hs here works moves same now lane diary ledger records clock =>
    have yields : w'.yields scope = w.yields scope := congrArg Diary.yields diary
    refine ⟨?_, ?_, ?_⟩
    · rw [ledger, yields]
      rcases Desk.move?_cases moves with ⟨-, inside, taken, -⟩ | ⟨-, taken, -⟩
      · rw [taken]
        exact inside
      · rw [taken]
        exact h.inside
    · intro x here'
      rw [lane] at here'
      cases here'
      rw [ledger, yields]
      -- An idle worker takes the first event off the queue; a busy one leaves it.
      rcases Desk.move?_cases moves with ⟨idle, -, taken, -⟩ | ⟨⟨event, p, busy⟩, taken, -⟩
      · rw [desk_worker here] at idle
        rw [taken, works.queue_of_idle idle, h.queue l here, ← List.map_tail, List.tail_drop]
        rfl
      · rw [desk_worker here] at busy
        rw [taken, works.queue_of_busy busy]
        exact h.queue l here
    · have sends : k.sends.map Prod.snd =
          (w.ledgers scope).sends.map Prod.snd ++ hs.filterMap Happening.begun? := by
        rcases Desk.move?_cases moves with ⟨-, -, -, sends, rfl⟩ | ⟨-, -, sends⟩
        · rw [sends]
          simp [World.desk]
        · exact sends
      rw [Daemon.begun, records, List.filterMap_append, ledger, sends, ← h.begun]
      rfl
  | untouched lane diary ledger records flying clock =>
    have yields : w'.yields scope = w.yields scope := congrArg Diary.yields diary
    refine ⟨?_, ?_, ?_⟩
    · rw [ledger, yields]
      exact h.inside
    · rw [ledger, yields, lane]
      exact h.queue
    · rw [Daemon.begun, records, ledger]
      exact h.begun

/-! ### Workers -/

/-- The worker of a scope goes its own course since the start, with what the session yields. -/
structure Attends (settings : Settings) (timeout : Span) (replies : Replies) (scope : BusScope)
    (w₀ w : World η) : Prop where
  settings_eq : w.daemon.state.settings = settings
  timeout_eq : w.daemon.state.timeout = timeout
  desk : Relation.ReflTransGen (Desk.Goes settings timeout replies (w.yields scope))
    (w₀.desk scope) (w.desk scope)
  since : (w.ledgers scope).since ≤ w.clock

theorem Attends.step {settings : Settings} {timeout : Span} {replies : Replies}
    (separate : ∀ log, c.replies log = replies) (h : Attends settings timeout replies scope w₀ w)
    (step : Step c w w') : Attends settings timeout replies scope w₀ w' := by
  obtain ⟨settings', timeout'⟩ := step.reaches.settings_eq
  rw [h.settings_eq] at settings'
  rw [h.timeout_eq] at timeout'
  cases step.locally scope with
  | session l m here moves now lane diary ledger records flying clock =>
    have more : w.yields scope <+: w'.yields scope := by
      rw [yields_of_move diary]
      exact List.prefix_append _ _
    have unchanged : w'.desk scope = w.desk scope := by
      simp [World.desk, lane, here, ledger, Lane.moveTo]
    refine ⟨settings', timeout', ?_, ?_⟩
    · rw [unchanged]
      refine h.desk.lift id ?_
      intro k k' goes
      exact goes.later more
    · rw [ledger, clock]
      exact h.since
  | worker l l' k hs here works moves same now lane diary ledger records clock =>
    have yields : w'.yields scope = w.yields scope := congrArg Diary.yields diary
    have desk : w'.desk scope = k := by
      simp [World.desk, lane, ledger, ← same]
    rw [worker?, separate, h.settings_eq, h.timeout_eq] at moves
    refine ⟨settings', timeout', ?_, ?_⟩
    · rw [yields, desk]
      exact h.desk.tail ⟨hs, moves⟩
    · rw [ledger, clock]
      exact now.le
  | untouched lane diary ledger records flying clock =>
    have yields : w'.yields scope = w.yields scope := congrArg Diary.yields diary
    have unchanged : w'.desk scope = w.desk scope := by simp [World.desk, lane, ledger]
    refine ⟨settings', timeout', ?_, ?_⟩
    · rw [yields, unchanged]
      exact h.desk
    · rw [ledger]
      exact h.since.trans clock

end World

/-! ## The start -/

/-- What the session of a scope is to do. -/
def planFor (settings : Settings) (attempts : Int) (backoff : Backoff) (scope : BusScope) :
    Session.Plan :=
  { scope, watches := settings.watches scope, attempts, backoff }

/-- Lanes of which nothing has been seen since their start. -/
structure Daemon.JustStarted (settings : Settings) (timeout : Span) (attempts : Int)
    (backoff : Backoff) (d : Daemon η) : Prop where
  reached : Reaches (initial settings timeout attempts backoff) d
  lanes : d.state.lanes =
    (initial (η := η) settings timeout attempts backoff).state.lanes.map Lane.start
  unseen : ∀ scope, d.records scope = []
  landed : ∀ scope, d.flying scope = none

namespace World

section

variable {settings : Settings} {timeout : Span} {attempts : Int} {backoff : Backoff}
  {d : Daemon η} {c : Conditions η} {w : World η} {scope : BusScope} {t₀ : Moment}
  (started : d.JustStarted settings timeout attempts backoff)

include started

theorem fresh_lane {l : Lane η} (here : (fresh d t₀).lane? scope = some l) :
    l.config = planFor settings attempts backoff scope ∧ l.queue = [] := by
  have member : l ∈ d.state.lanes := State.mem_of_lane? here
  have at' : l.scope = scope := State.scope_of_lane? here
  rw [started.lanes] at member
  obtain ⟨x, hx, rfl⟩ := List.mem_map.1 member
  obtain ⟨other, -, rfl⟩ := List.mem_map.1 hx
  obtain rfl : other = scope := at'
  exact ⟨rfl, rfl⟩

theorem follows_fresh : Follows c (planFor settings attempts backoff scope) scope (fresh d t₀)
    (fresh d t₀) where
  present := rfl
  config _ here := (fresh_lane started here).1
  course := .refl
  since := le_rfl
  yielded := by
    rw [Daemon.yielded, fresh, started.unseen]
    rfl

theorem attends_fresh {replies : Replies} : Attends settings timeout replies scope (fresh d t₀)
    (fresh d t₀) where
  settings_eq := started.reached.settings_eq.1
  timeout_eq := started.reached.settings_eq.2
  desk := .refl
  since := le_rfl

theorem stocked_fresh : Stocked scope (fresh d t₀) where
  inside := le_rfl
  queue _ here := (fresh_lane started here).2
  begun := by
    rw [Daemon.begun, fresh, started.unseen]
    rfl

theorem Runs.follows (run : Runs c (fresh d t₀) w) (scope : BusScope) :
    Follows c (planFor settings attempts backoff scope) scope (fresh d t₀) w := by
  induction run with
  | refl => exact follows_fresh started
  | tail _ step ih => exact ih.step step

theorem Runs.attends {replies : Replies} (separate : ∀ log, c.replies log = replies)
    (run : Runs c (fresh d t₀) w) (scope : BusScope) :
    Attends settings timeout replies scope (fresh d t₀) w := by
  induction run with
  | refl => exact attends_fresh started
  | tail _ step ih => exact ih.step separate step

theorem Runs.stocked (run : Runs c (fresh d t₀) w) (scope : BusScope) : Stocked scope w := by
  induction run with
  | refl => exact stocked_fresh started
  | tail _ step ih => exact ih.step step

theorem Runs.recorded (run : Runs c (fresh d t₀) w) : Recorded w.daemon.state :=
  (Daemon.Reaches.accounted (started.reached.trans run.reaches)
    (Daemon.accounted_initial settings timeout attempts backoff)).recorded

end

end World

end UnitWatch.Supervisor
