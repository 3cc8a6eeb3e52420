import UnitWatch.Proofs.Dispatch.Sends
import UnitWatch.Proofs.Session.Resync
import UnitWatch.Proofs.Session.Trace
import UnitWatch.Wire.Sender

/-!
# The times of events

An event says when its unit entered the new state. The bus knows that time for most states and says
it with the state (`RawState.realtime`); a session can also look at the clock.

**Events of signals** take the time that the bus said, and the clock only if it said none.

**Events of a resync** take the clock, also if the bus said the time when the state was fetched
(`fetched_time_dropped`).

The registry keeps no such times, so the proof goes by what the session was told (`told`): as long as
it has taken no signal from a connection, the state of every settled entry is what it was told last
about the unit (`Informed`).
-/

namespace UnitWatch

namespace Session

open Safe (Succeeds Ends)

variable {η : Type}

/-! ## What a session is told -/

/-- What is fetched for a unit is about this unit. Anything else may be answered. -/
def Sincere : (q : Request η) → Answer q → Prop
  | .fetch u, .ok x => x.unit = u
  | _, _ => True

/-- What the session was told last about the state of a unit, on this connection. -/
def told (u : String) : Trace η → Option RawState
  | [] => none
  | ⟨.open, _⟩ :: _ => none
  | ⟨.fetch _, .ok x⟩ :: w => if x.unit = u then some x else told u w
  | ⟨.nextSignal, .ok (.changed x)⟩ :: w => if x.unit = u then some x else told u w
  | _ :: w => told u w

/-- Whether the session has taken a signal from this connection. -/
def heard : Trace η → Bool
  | [] => false
  | ⟨.open, _⟩ :: _ => false
  | ⟨.nextSignal, .ok _⟩ :: _ => true
  | _ :: w => heard w

/-- What the clock has shown since the last signal, or on the new connection, for events that are
still to be handed on, the first one first. -/
def readings : Trace η → List Microseconds
  | [] => []
  | ⟨.open, _⟩ :: _ => []
  | ⟨.nextSignal, _⟩ :: _ => []
  | ⟨.clock, now⟩ :: w => readings w ++ ([now] : List Microseconds)
  | ⟨.emit _, _⟩ :: w => (readings w).tail
  | _ :: w => readings w

/-- What the clock showed for the event that comes next. -/
def reading (w : Trace η) : Option Microseconds := (readings w).head?

/-- Where the data of an event are from: its state is what the session was told last about the unit;
its time is the one that the bus said with a signal, or what the clock showed for the event. -/
def Sourced (w : Trace η) (t : Transition) : Prop :=
  ∃ x now, told t.unit.name w = some x ∧ x.state = t.current.word ∧ reading w = some now ∧
    t.time = if heard w then Entry.eventTime x.realtime now else now

def AtEmit (w : Trace η) (_ : State η) : Request η → Prop
  | .emit t => Sourced w t
  | _ => True

/-- As long as no signal has been taken from a connection, what has been discovered on it is what the
session was told, and the clock has been looked at for events `ts` that are still to come. -/
structure Informed (ts : List Transition) (w : Trace η) (s : State η) : Prop where
  silent : heard w = false
  readings : readings w = ts.map (·.time)
  known : ∀ e ∈ s.registry.entries, ∀ state, e.state = some state →
    ∃ x, told e.unit.name w = some x ∧ x.state = state.word

/-- Nothing is tracked. -/
def Idle (_ : Trace η) (s : State η) : Prop := s.registry.entries = []

/-- Requests whose answers say nothing about units and times. -/
def Plain : Request η → Prop
  | .open | .fetch _ | .nextSignal | .emit _ | .clock => False
  | _ => True

section

variable {q : Request η} {w : Trace η} {u : String} {ts : List Transition}

theorem told_of_plain (h : Plain q) (a : Answer q) : told u (⟨q, a⟩ :: w) = told u w := by
  cases q with
  | «open» | fetch | nextSignal | emit | clock => exact h.elim
  | _ => rfl

theorem heard_of_plain (h : Plain q) (a : Answer q) : heard (⟨q, a⟩ :: w) = heard w := by
  cases q with
  | «open» | fetch | nextSignal | emit | clock => exact h.elim
  | _ => rfl

theorem readings_of_plain (h : Plain q) (a : Answer q) : readings (⟨q, a⟩ :: w) = readings w := by
  cases q with
  | «open» | fetch | nextSignal | emit | clock => exact h.elim
  | _ => rfl

theorem Sourced.plain {t : Transition} (h : Plain q) (a : Answer q) (sourced : Sourced w t) :
    Sourced (⟨q, a⟩ :: w) t := by
  simpa only [Sourced, reading, told_of_plain h, heard_of_plain h, readings_of_plain h]
    using sourced

theorem Informed.plain {s : State η} (h : Plain q) (a : Answer q) (informed : Informed ts w s) :
    Informed ts (⟨q, a⟩ :: w) s := by
  obtain ⟨silent, readings, known⟩ := informed
  refine ⟨(heard_of_plain h a).trans silent, (readings_of_plain h a).trans readings, ?_⟩
  simpa only [told_of_plain h] using known

/-- The clock is looked at for one more event. -/
theorem Informed.look {s : State η} (informed : Informed ts w s) (t : Transition) :
    Informed (ts ++ [t]) (⟨.clock, t.time⟩ :: w) s where
  silent := informed.silent
  readings := by
    rw [List.map_append, ← informed.readings]
    rfl
  known := informed.known

/-- The first event is handed on. -/
theorem Informed.emit {s : State η} {t : Transition} (informed : Informed (t :: ts) w s)
    (a : Answer (.emit t : Request η)) : Informed ts (⟨.emit t, a⟩ :: w) s where
  silent := informed.silent
  readings := congrArg List.tail informed.readings
  known := informed.known

theorem Idle.plain {s : State η} (_ : Plain q) (a : Answer q) (idle : Idle w s) :
    Idle (⟨q, a⟩ :: w) s := idle

theorem Idle.informed {s : State η} (idle : Idle w s) (silent : heard w = false)
    (readings : readings w = []) : Informed [] w s := by
  refine ⟨silent, readings, ?_⟩
  intro e he
  rw [idle] at he
  cases he

/-- What is fetched for a unit is what its new entry says. -/
theorem Informed.enroll {s : State η} {x : RawState} (informed : Informed ts w s)
    (named : x.unit = u) (k : η) : Informed ts (⟨.fetch u, .ok x⟩ :: w)
      { s with registry := s.registry.enroll u k x } := by
  refine ⟨informed.silent, informed.readings, ?_⟩
  intro e he state hs
  rw [Registry.enroll_eq_put s.registry k named] at he
  rcases Registry.mem_put he with rfl | ⟨he, other⟩
  · refine ⟨x, if_pos named, ?_⟩
    obtain ⟨report, hr, rfl⟩ := Option.map_eq_some_iff.1 hs
    obtain ⟨state, word, rfl⟩ := Option.map_eq_some_iff.1 hr
    exact ActiveState.ofWord?_eq_some_iff.1 word
  · have other : x.unit ≠ e.unit.name := fun same => other (same.symm.trans named)
    obtain ⟨y, hy, hs⟩ := informed.known e he state hs
    exact ⟨y, (if_neg other).trans hy, hs⟩

/-- A new entry without a state says nothing. -/
theorem Informed.pend {s : State η} (informed : Informed ts w s) (k : η) (f : Failure) :
    Informed ts (⟨.fetch u, .error f⟩ :: w)
      { s with registry := s.registry.insertPending u k } := by
  refine ⟨informed.silent, informed.readings, ?_⟩
  intro e he state hs
  rcases Registry.mem_put he with rfl | ⟨he, -⟩
  · cases hs
  · exact informed.known e he state hs

theorem Informed.skip {s : State η} (informed : Informed ts w s) (f : Failure) :
    Informed ts (⟨.fetch u, .error f⟩ :: w) s :=
  ⟨informed.silent, informed.readings, informed.known⟩

end

/-! ## Steps -/

/-- A step that keeps `I`, with values of which `P` holds. The events that it has taken are sourced. -/
abbrev Timely (I : Trace η → State η → Prop) {α : Type} (P : α → Prop) (x : Step η α) : Prop :=
  Upholds Sincere AtEmit I (fun _ _ _ => True) P x

theorem answer_timely {α : Type} {post : Trace η → State η → Except Failure α → Prop}
    {q : Request η} {f : Answer q → Step η α} {w : Trace η} {s : State η} (now : AtEmit w s q)
    (later : ∀ a, Sincere q a → Safe (observed Sincere) AtEmit post (f a s) (⟨q, a⟩ :: w)) :
    Safe (observed Sincere) AtEmit post ((ask q >>= f) s) w :=
  ask_observed now later

section

variable {I : Trace η → State η → Prop}
  (plain : ∀ {q : Request η} {w s}, Plain q → ∀ a, I w s → I (⟨q, a⟩ :: w) s)

include plain

theorem ask_timely {q : Request η} (h : Plain q) (now : ∀ w s, AtEmit w s q) :
    Timely I (fun _ => True) (ask q) :=
  (Upholds.ask (fun w s _ => now w s) fun _ _ a _ => plain h a).imp fun _ _ => trivial

omit plain in
theorem demand_timely {α : Type} {x : Step η (Except Failure α)}
    (h : Timely I (fun _ => True) x) : Timely I (fun _ => True) (demand x) :=
  h.demand fun _ _ _ _ => trivial

theorem note_timely (n : Notice) : Timely I (fun _ => True) (note n) :=
  ask_timely plain (q := .note n) trivial fun _ _ => trivial

theorem release_timely (k : η) : Timely I (fun _ => True) (release k) := by
  refine Upholds.bind (ask_timely plain (q := .unsubscribe k) trivial fun _ _ => trivial) ?_
  intro a _
  split
  · exact .pure trivial
  · split
    · exact note_timely plain _
    · exact .fail fun _ _ _ => trivial
  · exact .fail fun _ _ _ => trivial

theorem track_timely
    (enrolls : ∀ {w s u x} k, x.unit = u → I w s →
      I (⟨.fetch u, .ok x⟩ :: w) { s with registry := s.registry.enroll u k x })
    (pends : ∀ {w s u} k f, I w s →
      I (⟨.fetch u, .error f⟩ :: w) { s with registry := s.registry.insertPending u k })
    (skips : ∀ {w s u} f, I w s → I (⟨.fetch u, .error f⟩ :: w) s) (u : String) :
    Timely I (fun _ => True) (track u) := by
  refine Upholds.bind (ask_timely plain (q := .subscribe u) trivial fun _ _ => trivial) ?_
  intro a _
  split
  · exact note_timely plain _
  · exact .fail fun _ _ _ => trivial
  · next k =>
    intro w s hw
    refine answer_timely trivial ?_
    intro a named
    split
    · exact note_timely plain _ _ _ (pends k _ hw)
    · exact ((note_timely plain _).bind fun _ _ => release_timely plain k) _ _ (skips _ hw)
    · exact done_observed trivial
    · next x =>
      refine Safe.of_eq (enroll_eq u k x s) ?_
      exact note_timely plain _ _ _ (enrolls k named hw)

end

/-- An event is taken, or not. -/
theorem emit_timely {post : Trace η → State η → Except Failure Unit → Prop} {t : Transition}
    {w : Trace η} {s : State η} (sourced : Sourced w t)
    (taken : ∀ a, post (⟨.emit t, a⟩ :: w) s a) :
    Safe (observed Sincere) AtEmit post (demand (ask (.emit t)) s) w := by
  refine ask_observed sourced ?_
  intro a _
  cases a with
  | ok _ => exact done_observed (taken (.ok ()))
  | error f => exact done_observed (taken (.error f))

/-- A step that has no event taken. -/
abbrev Eventless {α : Type} (P : α → Prop) (x : Step η α) : Prop := Timely (fun _ _ => True) P x

theorem note_eventless (n : Notice) : Eventless (fun _ => True) (note n : Step η Unit) :=
  note_timely (fun _ _ => id) n

theorem release_eventless (k : η) : Eventless (fun _ => True) (release k) :=
  release_timely (fun _ _ => id) k

theorem track_eventless (u : String) : Eventless (fun _ => True) (track u : Step η Unit) :=
  track_timely (fun _ _ => id) (fun _ _ => id) (fun _ _ => id) (fun _ => id) u

theorem sleepThen_eventless (n : Notice) (delay : Span) (next : Stage) :
    Eventless (fun _ => True) (sleepThen n delay next : Step η (Option Stage)) := by
  refine (note_eventless n).bind fun _ _ => ?_
  refine Upholds.bind (demand_timely (ask_timely (fun _ _ => id) (q := .sleep delay)
    trivial fun _ _ => trivial)) fun _ _ => ?_
  exact .pure trivial

variable {c : Plan} {w : Trace η} {s : State η}

theorem Upholds.anyhow {α : Type} {P : α → Prop} {x : Step η α} (h : Eventless P x) :
    Safe (observed Sincere) AtEmit (fun _ _ _ => True) (x s) w :=
  (h w s trivial).weaken fun _ _ _ _ => trivial

/-! ## Signals -/

/-- The event of a step, if it has one, is sourced where the step has ended. -/
abbrev Sourcing (x : Step η (Option Transition)) (s : State η) (w : Trace η) : Prop :=
  Safe (observed Sincere) AtEmit
    (Ends (fun w _ event => ∀ t, event = some t → Sourced w t) fun _ _ _ => True) (x s) w

theorem Upholds.sourcing {x : Step η (Option Transition)} (h : Eventless (· = none) x) :
    Sourcing x s w := by
  refine (h w s trivial).weaken ?_
  rintro w s (f | event) hr
  · exact trivial
  · obtain ⟨-, rfl⟩ := hr
    rintro t ⟨⟩

/-- The event of a change is sourced in the signal, with the time that it says or the clock's. -/
theorem changed_sourcing (x : RawState) :
    Sourcing (handleSignal c (.changed x)) s (⟨.nextSignal, .ok (.changed x)⟩ :: w) := by
  unfold Sourcing
  cases he : s.registry.get? x.unit with
  | none =>
    rw [handleSignal_changed_of_none he]
    exact Upholds.sourcing (.pure rfl)
  | some e =>
    cases hx : x.report? with
    | none =>
      rw [handleSignal_changed_of_unrecognized he hx]
      exact Upholds.sourcing ((note_eventless _).bind fun _ _ => .pure rfl)
    | some report =>
      rw [handleSignal_changed he hx]
      refine ask_observed trivial ?_
      intro now _
      cases event : (e.update report now).2 with
      | none =>
        refine done_observed ?_
        rintro t ⟨⟩
      | some t =>
        refine ask_observed trivial ?_
        intro a _
        refine done_observed ?_
        rintro _ ⟨⟩
        obtain ⟨-, previous, -, -, rfl⟩ := Entry.update_snd_eq_some.1 event
        obtain ⟨state, word, rfl⟩ := Option.map_eq_some_iff.1 hx
        refine Sourced.plain (q := .note _) trivial a ?_
        refine ⟨x, now, if_pos (Registry.name_of_get? he).symm, ?_, rfl, rfl⟩
        exact ActiveState.ofWord?_eq_some_iff.1 word

/-- The event of a signal is sourced there. -/
theorem handleSignal_sourcing (signal : Signal) :
    Sourcing (handleSignal c signal) s (⟨.nextSignal, .ok signal⟩ :: w) := by
  cases signal with
  | other kind => exact Upholds.sourcing ((note_eventless _).bind fun _ _ => .pure rfl)
  | added u =>
    refine Upholds.sourcing (Upholds.bind Upholds.get fun s _ => ?_)
    dsimp only
    split
    · exact (track_eventless u).bind fun _ _ => .pure rfl
    · exact .pure rfl
  | removed u =>
    refine Upholds.sourcing (Upholds.bind Upholds.get fun s _ => ?_)
    dsimp only
    split
    · refine Upholds.bind (Upholds.modify fun _ _ h => h) fun _ _ => ?_
      refine (release_eventless _).bind fun _ _ => ?_
      exact (note_eventless _).bind fun _ _ => .pure rfl
    · exact .pure rfl
  | changed x => exact changed_sourcing x

theorem listenOnce_timely :
    Safe (observed Sincere) AtEmit (fun _ _ _ => True) (listenOnce c s) w := by
  refine ask_observed trivial ?_
  intro a _
  cases a with
  | error _ => exact done_observed trivial
  | ok signal =>
    refine Safe.andThen (handleSignal_sourcing signal) ?_ fun _ _ _ _ => done_observed trivial
    intro w s event sourced
    cases event with
    | none => exact done_observed trivial
    | some t => exact emit_timely (sourced t rfl) fun _ => trivial

/-! ## Resyncs -/

/-- What is discovered is what the session is told. -/
theorem start_informed (informed : Informed [] w s) :
    Safe (observed Sincere) AtEmit (Ends (fun w s _ => Informed [] w s) fun _ _ _ => True)
      (start c s) w := by
  have starts : Timely (Informed []) (fun _ => True) (start c : Step η Unit) := by
    refine Upholds.bind (demand_timely (ask_timely Informed.plain (q := .connect) trivial
      fun _ _ => trivial)) fun _ _ => ?_
    refine Upholds.bind (Upholds.modify fun _ _ h => ⟨h.silent, h.readings, h.known⟩) fun _ _ => ?_
    refine Upholds.bind (demand_timely (ask_timely Informed.plain (q := .subscribeManager) trivial
      fun _ _ => trivial)) fun _ _ => ?_
    refine Upholds.bind (demand_timely (ask_timely Informed.plain (q := .listUnits) trivial
      fun _ _ => trivial)) fun units _ => ?_
    refine Upholds.bind (Upholds.each (track_timely Informed.plain
      (fun k named h => h.enroll named k) (fun k f h => h.pend k f) fun f h => h.skip f) _)
      fun _ _ => ?_
    exact Upholds.bind Upholds.get fun s _ => note_timely Informed.plain _
  refine (starts w s informed).weaken ?_
  intro w s r hr
  cases r with
  | ok _ => exact hr.1
  | error _ => trivial

/-- The clock is looked at for every event of a resync. -/
theorem resync_informed (snapshot : Snapshot) (informed : Informed [] w s) :
    Safe (observed Sincere) AtEmit (Succeeds fun w s' ts => s' = s ∧ Informed ts w s ∧
      ts.map Transition.difference = differences s.registry snapshot)
      (resync s.registry snapshot s) w := by
  refine resync_gathers (K := fun ts w => Informed ts w s) (fun _ => stable_observed) ?_
    s.registry snapshot informed
  intro ts d w informed
  refine ask_observed trivial ?_
  intro (now : Microseconds) _
  exact done_observed ⟨rfl, informed.look (d.event now)⟩

/-- The next event of a resync is sourced where its state was fetched. -/
theorem sourced_of_informed {ts : List Transition} {t : Transition}
    (informed : Informed (t :: ts) w s) {e : Entry η} (he : e ∈ s.registry.entries)
    (unit : t.unit = e.unit) (state : e.state = some t.current) : Sourced w t := by
  obtain ⟨x, known, word⟩ := informed.known e he t.current state
  refine ⟨x, t.time, unit ▸ known, word, congrArg List.head? informed.readings, ?_⟩
  simp [informed.silent]

/-! ## Stages -/

theorem interlude_timely {basis : Option Snapshot}
    {p : Process (State η) (Answer (η := η)) (Except Failure (Option Stage))}
    (h : Interlude basis s p) :
    Safe (observed Sincere) AtEmit (fun _ _ _ => True) p w := by
  cases h with
  | fails f => exact done_observed trivial
  | pauses quiet delay attempt => exact (sleepThen_eventless _ delay _).anyhow

theorem openConnection_timely {snapshot : Option Snapshot} {attempt : Nat}
    (informed : Informed [] w s) :
    Safe (observed Sincere) AtEmit (fun _ _ _ => True) (openConnection c snapshot attempt s) w := by
  refine (start_informed informed).attempt.seq ?_
  intro w s r hr
  cases r with
  | error f =>
    cases f with
    | fault f =>
      dsimp only
      split
      · exact interlude_timely (retry_interlude c snapshot attempt f.message s)
      · exact done_observed trivial
    | crash | cancelled => exact done_observed trivial
  | ok _ =>
    cases snapshot with
    | none => exact done_observed trivial
    | some snapshot =>
      refine (resync_informed snapshot hr).seq ?_
      intro w s' ts taken
      obtain ⟨rfl, informed, known⟩ := taken
      -- Each event of the resync has a fetched entry in the state that it tells.
      have entered : ∀ t ∈ ts, ∃ e ∈ s'.registry.entries, t.unit = e.unit ∧
          e.state = some t.current := by
        intro t ht
        obtain ⟨e, he, -, state, -, unit⟩ :=
          mem_differences.1 (known ▸ List.mem_map_of_mem ht : t.difference ∈ differences _ _)
        exact ⟨e, he, unit, state⟩
      have emits : Safe (observed Sincere) AtEmit (fun _ _ _ => True)
          (Action.each (fun t => demand (ask (.emit t))) ts s') w := by
        refine Safe.each (I := fun rest w s => Informed rest w s ∧ ∀ t ∈ rest,
          ∃ e ∈ s.registry.entries, t.unit = e.unit ∧ e.state = some t.current) ?_ ?_ ?_ ts
          ⟨informed, entered⟩
        · rintro t rest w s ⟨informed, entered⟩
          obtain ⟨⟨e, he, unit, state⟩, later⟩ := List.forall_mem_cons.1 entered
          refine emit_timely (sourced_of_informed informed he unit state) ?_
          rintro (f | _)
          · trivial
          · exact ⟨informed.emit _, later⟩
        · exact fun _ _ _ => done_observed trivial
        · exact fun _ _ _ _ _ _ => trivial
      refine emits.andThen ?_ fun _ _ _ _ => done_observed trivial
      intro w s _ _
      refine Upholds.anyhow (P := fun _ => True) ?_
      exact (note_eventless _).bind fun _ _ => .pure trivial

/-- A connection is left with nothing tracked. -/
theorem teardown_idle : Safe (observed Sincere) AtEmit
    (Ends (fun w s _ => Idle w s) fun _ _ _ => True) (teardown s) w := by
  have closes : Timely Idle (fun _ => True) (do
      Action.each (fun e => release e.subscription) s.registry.entries
      Action.modify fun s => { s with connected := false }
      demand (ask .close) : Step η Unit) := by
    have releases (e : Entry η) : Timely Idle (fun _ => True) (release e.subscription) :=
      release_timely (I := Idle) Idle.plain e.subscription
    refine Upholds.bind (Upholds.each releases _) fun _ _ => ?_
    refine Upholds.bind (Upholds.modify fun _ _ h => h) fun _ _ => ?_
    exact demand_timely (ask_timely (I := Idle) Idle.plain (q := .close) trivial fun _ _ => trivial)
  refine (closes w { s with registry := s.registry.drain } rfl).weaken ?_
  intro w s r hr
  cases r with
  | ok _ => exact hr.1
  | error _ => trivial

/-- Where a stage can start: nothing is tracked between connections. -/
def Awaits : Stage → Trace η → State η → Prop
  | .opening _ _ => Idle
  | .listening => fun _ _ => True

theorem closing_timely {x : Step η (Option Stage)}
    (h : Safe (observed Sincere) AtEmit (fun _ _ _ => True) (x s) w) :
    Safe (observed Sincere) AtEmit (Hands Awaits fun _ _ _ => True) (closing x s) w := by
  have h : Safe (observed Sincere) AtEmit (Ends (fun _ _ _ => True) fun _ _ _ => True) (x s) w :=
    h.weaken fun _ _ r _ => by cases r <;> trivial
  refine closing_safe h ?_ ?_ ?_
  · intro w s _
    exact done_observed trivial
  · intro w s next _
    refine teardown_idle.andThen ?_ fun _ _ _ _ => done_observed trivial
    intro w s _ empty
    cases next with
    | opening => exact done_observed empty
    | listening => exact done_observed trivial
  · intro w s f _
    refine teardown_idle.andThen ?_ fun _ _ _ _ => done_observed trivial
    exact fun _ _ _ _ => done_observed trivial

theorem stage_timely (stage : Stage) (w : Trace η) (s : State η) (h : Awaits stage w s) :
    Safe (observed Sincere) AtEmit (Hands Awaits fun _ _ _ => True) (Session.stage c stage s) w := by
  cases stage with
  | listening =>
    refine closing_timely (listenOnce_timely.attempt.seq ?_)
    intro w s r _
    split
    · exact done_observed trivial
    · exact interlude_timely (recover_interlude c s)
    · exact done_observed trivial
  | opening snapshot attempt =>
    refine ask_observed trivial ?_
    intro a _
    cases a with
    | error _ => exact done_observed trivial
    | ok _ => exact closing_timely (openConnection_timely (h.informed rfl rfl))

/-! ## Runs -/

/-- **The times of events.** An event of a signal has the time that the bus said with it, and tells
notifiers this time; the clock is used if the bus said none. An event of a resync has the time of the
clock. -/
theorem time_of_event {t : Transition} {resume : Answer (.emit t : Request η) → Phase η}
    (run : Runs c (observed Sincere) ([], begin c) (w, .ask s (.emit t) resume)) :
    ∃ x now, told t.unit.name w = some x ∧ x.state = t.current.word ∧ reading w = some now ∧
      (heard w = true → ∀ r, x.realtime = some r → 0 < r →
        t.time = r ∧ ∀ settings timeout ends k,
          ∀ d ∈ Dispatch.sent ends k (Dispatch.dispatch settings timeout t ()),
            (Wire.NotifyCall.ofDelivery d).notification.time = r) ∧
      (heard w = true → x.realtime = none → t.time = now) ∧
      (heard w = false → t.time = now) := by
  have sourced : Sourced w t := run.holds stage_timely rfl
  obtain ⟨x, now, known, word, read, time⟩ := sourced
  refine ⟨x, now, known, word, read, ?_, ?_, ?_⟩
  · intro signalled r said positive
    have told : t.time = r := by
      rw [time, if_pos signalled, said]
      exact if_neg (Int.ne_of_gt positive)
    refine ⟨told, ?_⟩
    intro settings timeout ends k d hd
    have notified := Dispatch.notification_of_sent hd
    simp only [Wire.NotifyCall.ofDelivery, notified, Notification.ofTransition, told]
  · intro signalled unsaid
    rw [time, if_pos signalled, unsaid]
    rfl
  · intro silent
    simp [time, silent]

/-- A unit is found active. -/
theorem reaches_active :
    Reaches .everything Sincere (([] : Trace Nat), begin .everything) fun _ p =>
      p = stage .everything .listening
        ⟨⟨.system, [⟨⟨.system, "web"⟩, some .active, some 1, 0⟩]⟩, true⟩ := by
  refine .answer (a := .ok ()) trivial ?_
  refine .answer (a := .ok ()) trivial ?_
  refine .answer (a := .ok ()) trivial ?_
  refine .answer (a := .ok ["web"]) trivial ?_
  refine .answer (a := .ok 0) trivial ?_
  refine .answer (a := .ok ⟨"web", "active", some 1, none⟩) rfl ?_
  refine .answer (a := ()) trivial ?_
  refine .answer (a := ()) trivial ?_
  refine .next ?_
  exact .here rfl

/-- The bus says at which time a unit failed, and this is the time of the event. -/
theorem time_of_signalled_failure :
    ∃ w s resume, Runs .everything (observed Sincere) (([] : Trace Nat), begin .everything)
        (w, .ask s (.emit ⟨⟨.system, "web"⟩, .active, .failed, 5⟩) resume) ∧
      heard w = true ∧ told "web" w = some ⟨"web", "failed", some 2, some 5⟩ ∧
      ∀ settings timeout ends k, ∀ d ∈ Dispatch.sent ends k (Dispatch.dispatch settings timeout
        ⟨⟨.system, "web"⟩, .active, .failed, 5⟩ ()),
          (Wire.NotifyCall.ofDelivery d).notification.time = 5 := by
  have run : Reaches .everything Sincere (([] : Trace Nat), begin .everything) fun w p =>
      ∃ s resume, p = .ask s (.emit ⟨⟨.system, "web"⟩, .active, .failed, 5⟩) resume ∧
        heard w = true ∧ told "web" w = some ⟨"web", "failed", some 2, some 5⟩ := by
    refine reaches_active.trans ?_
    rintro w p rfl
    refine .answer (a := .ok (.changed ⟨"web", "failed", some 2, some 5⟩)) trivial ?_
    refine .answer (a := (9 : Int)) trivial ?_
    refine .answer (a := ()) trivial ?_
    exact .here ⟨_, _, rfl, rfl, rfl⟩
  obtain ⟨w, p, run, s, resume, rfl, signalled, known⟩ := run
  refine ⟨w, s, resume, run, signalled, known, ?_⟩
  obtain ⟨x, now, known', -, -, said, -⟩ := time_of_event run
  obtain rfl : x = _ := Option.some.inj (known'.symm.trans known)
  exact (said signalled 5 rfl (by decide)).2

/-- **The time of a rediscovered state is dropped**: the bus says at which time a unit failed, and the
event has another time. -/
theorem fetched_time_dropped :
    ∃ w s t resume x r, Runs .everything (observed Sincere) (([] : Trace Nat), begin .everything)
        (w, .ask s (.emit t) resume) ∧
      told t.unit.name w = some x ∧ x.state = t.current.word ∧ x.realtime = some r ∧ 0 < r ∧
      t.time ≠ r := by
  have run : Reaches .everything Sincere (([] : Trace Nat), begin .everything) fun w p =>
      ∃ s resume, p = .ask s (.emit ⟨⟨.system, "web"⟩, .active, .failed, 9⟩) resume ∧
        told "web" w = some ⟨"web", "failed", some 2, some 5⟩ := by
    refine reaches_active.trans ?_
    rintro w p rfl
    -- The connection is lost while the unit is active, and the unit is fetched again as failed.
    refine .answer (a := .error (.ofBus (.disconnected "system"))) trivial ?_
    refine .answer (a := ()) trivial ?_
    refine .answer (a := .ok ()) trivial ?_
    refine .answer (a := .ok ()) trivial ?_
    refine .answer (a := .ok ()) trivial ?_
    refine .next ?_
    refine .answer (a := .ok ()) trivial ?_
    refine .answer (a := .ok ()) trivial ?_
    refine .answer (a := .ok ()) trivial ?_
    refine .answer (a := .ok ["web"]) trivial ?_
    refine .answer (a := .ok 1) trivial ?_
    refine .answer (a := .ok ⟨"web", "failed", some 2, some 5⟩) rfl ?_
    refine .answer (a := ()) trivial ?_
    refine .answer (a := ()) trivial ?_
    refine .answer (a := (9 : Int)) trivial ?_
    exact .here ⟨_, _, rfl, rfl⟩
  obtain ⟨w, p, run, s, resume, rfl, known⟩ := run
  exact ⟨w, s, _, resume, _, 5, run, known, rfl, rfl, by decide, by decide⟩

end Session

end UnitWatch
