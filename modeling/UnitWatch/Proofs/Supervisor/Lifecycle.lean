import UnitWatch.Proofs.Supervisor.Turns

/-!
# Serving

`serve` runs until a stop is requested of it, or every session has ended; then it stops. Its result
is the exit code. That is a race between the sessions, the signal, and the operation that waits for
the sessions; what it comes to is said here for every way in which it can go.

What holds at the points of `serve`, one after the other:

- the lanes have been started (`Lane.Started`);
- the operation that waits aside will know the exit code of sessions that have ended (`Awaits`);
- a stop has been requested, or the sessions have ended: now it starts to stop (`ServesRightly`);
- the sessions have ended (`Lane.Over`), nothing goes on (`Lane.Quiet`), the workers have ended
  (`Lane.Finished`);
- it returns (`Returned`).
-/

namespace UnitWatch.Supervisor

open Safe (Succeeds)

variable {η : Type}

/-! ## Lanes and their workers -/

namespace Lane

/-- A session that has been started has a worker. -/
def Staffed (l : Lane η) : Prop := l.session ≠ .absent → l.worker ≠ .absent

/-- The session and the worker have ended, and nothing is queued. -/
structure Finished (l : Lane η) : Prop where
  session : l.Over
  queue : l.queue = []
  worker : l.worker = .ended

variable {l : Lane η}

theorem Finished.quiet (h : l.Finished) : l.Quiet :=
  ⟨h.session, h.queue, fun t p => by simp [h.worker]⟩

theorem Over.started (h : l.Over) : l.Started := by
  obtain ⟨s, f, running⟩ := h
  simp [Started, running]

theorem Quiet.finished (h : l.Quiet) (staffed : l.Staffed) : l.endWorker.Finished := by
  have present : l.worker ≠ .absent := staffed h.session.started
  cases worker : l.worker with
  | absent => exact absurd worker present
  | busy t p => exact absurd worker (h.worker t p)
  | idle | ended =>
    simp only [endWorker, worker]
    exact ⟨h.session, h.queue, rfl⟩

theorem Proceeds.started {p : Session.Phase η} {ts : List Transition} (h : l.Proceeds p ts) :
    l.Started := by
  cases h with
  | begins created => simp [Started, created]
  | answered _ _ _ _ waits => simp [Started, waits]
  | continues _ _ done => simp [Started, done]

variable {q : Request} {f : Lane η → Lane η}

theorem Staffed.sweep (h : l.Staffed) (sweeps : State.Sweeps q f) : (f l).Staffed := by
  cases sweeps with
  | starts =>
    unfold Lane.start
    split
    · simp [Staffed]
    · exact h
  | cancels =>
    intro present
    rw [l.cancel_eq.1]
    exact h fun absent => present (by simp [Lane.cancel, absent])
  | endsWorkers =>
    unfold endWorker
    split
    · exact h
    · simp [Staffed]
  | nothing => exact h

theorem Finished.sweep (h : l.Finished) (sweeps : State.Sweeps q f) : (f l).Finished := by
  have past := h.session.sweep sweeps
  obtain ⟨⟨s, e, ended⟩, queue, worker⟩ := h
  cases sweeps with
  | starts =>
    refine ⟨past, ?_, ?_⟩
    · simpa only [start, ended]
    · simpa only [start, ended]
  | cancels =>
    refine ⟨past, ?_, ?_⟩
    · rw [l.cancel_eq.1]
      exact queue
    · rw [l.cancel_eq.1]
      exact worker
  | endsWorkers =>
    simp only [endWorker, worker]
    exact ⟨⟨s, e, ended⟩, queue, rfl⟩
  | nothing => exact ⟨⟨s, e, ended⟩, queue, worker⟩

variable {settings : Settings} {timeout : Span} {l' : Lane η}
  {flying flying' : Option Dispatch.Delivery} {hs : List Happening}

theorem Staffed.works (h : l.Staffed) (works : l.Works settings timeout flying hs l' flying') :
    l'.Staffed := by
  intro present
  rw [works.session_eq.1] at present
  have worker := h present
  cases works with
  | takes _ idle some =>
    obtain ⟨t, rest, queue⟩ := List.exists_cons_of_ne_nil some
    simp [take, idle, queue]
  | begins => exact worker
  | _ => simp [release]

end Lane

/-- The exit code of a supervisor whose lanes have these scopes. -/
def exitCodeOf (scopes : List BusScope) (failures : Failures) : Int :=
  if !scopes.isEmpty && failures.length == scopes.length then 1 else 0

/-- The exit code once every session has ended: all of them have failed, or not. -/
def State.exitCode (s : State η) : Int := exitCodeOf (s.lanes.map Lane.scope) s.failures

namespace Daemon

variable {d d' : Daemon η} {a : Actor} {n w : Nat}

/-! ## What endures -/

theorem enduring_started : Enduring fun d : Daemon η => d.state.Every Lane.Started :=
  fun _ _ _ => Step.started

theorem enduring_over : Enduring fun d : Daemon η => d.state.Every Lane.Over :=
  fun _ _ _ => Step.over

theorem enduring_quiet : Enduring fun d : Daemon η => d.state.Every Lane.Quiet :=
  fun _ _ _ => Step.quiet

/-- What is kept of the lanes and of their sessions, workers and failures. -/
theorem enduring_staffed :
    Enduring fun d : Daemon η => Accounted d ∧ d.state.Every Lane.Staffed := by
  rintro a d d' step ⟨accounted, h⟩
  refine ⟨step.accounted accounted, ?_⟩
  cases step with
  | session _ scope l p ts here moves =>
    obtain ⟨failures, eq⟩ := d.state.moveSession_eq scope p ts
    rw [State.Every, eq]
    intro x hx
    obtain ⟨y, hy, rfl⟩ := List.mem_map.1 hx
    by_cases same : y.scope = scope
    · -- No other lane has this scope.
      have mem := State.mem_of_lane? here
      obtain rfl : y = l :=
        accounted.recorded.eq_of_scope hy mem (same.trans (State.scope_of_lane? here).symm)
      rw [if_pos same]
      exact fun _ => h y hy moves.started
    · rw [if_neg same]
      exact h y hy
  | worker _ scope l l' flying hs here works =>
    exact h.mapLane fun _ _ => (h l (State.mem_of_lane? here)).works works
  | calls => exact h
  | signalled =>
    unfold State.requestStop
    split <;> exact h
  | operates _ n o q resume a state here waits responds =>
    obtain ⟨f, sweep, lanes⟩ := (State.responds_of_respond responds).lanes
    intro x hx
    rw [show (state.advance n (resume a)).lanes = d.state.lanes.map f from lanes] at hx
    obtain ⟨l, hl, rfl⟩ := List.mem_map.1 hx
    exact (h l hl).sweep sweep

theorem enduring_finished : Enduring fun d : Daemon η => d.state.Every Lane.Finished :=
  fun _ _ _ step => step.every
    (fun _ _ _ _ h moves _ => absurd moves h.session.not_proceeds)
    (fun _ _ _ _ _ _ _ h works => absurd works h.quiet.not_works)
    (fun _ _ _ sweep h => h.sweep sweep)

theorem enduring_requested (n : Nat) :
    Enduring fun d : Daemon η => d.state.isStopRequested n = true := by
  intro a d d' step requested
  obtain ⟨o, here, asked⟩ := (Option.any_eq_true _ _).1 requested
  by_cases own : a = .operation n
  · subst own
    obtain ⟨q, b, asks⟩ := step.asks
    obtain ⟨o', resume, here', -, after⟩ := asks.operation
    cases here.symm.trans here'
    simp [State.isStopRequested, after, asked]
  · obtain ⟨o', after, -, -, kept, -⟩ := step.aside here own
    simp [State.isStopRequested, after, kept asked]

/-! ## The exit code -/

/-- The sessions have ended, with this exit code. -/
structure Ended (code : Int) (d : Daemon η) : Prop where
  past : d.state.Every Lane.Over
  code_eq : d.state.exitCode = code

/-- No step changes the scopes of the lanes. -/
theorem Step.scopes_eq (step : Step a d d') :
    d'.state.lanes.map Lane.scope = d.state.lanes.map Lane.scope := by
  cases step with
  | session _ scope l p ts here moves =>
    obtain ⟨failures, eq⟩ := d.state.moveSession_eq scope p ts
    rw [eq]
    exact State.scopes_mapLane (f := (·.moveTo p ts)) fun _ h => h
  | worker _ scope l l' flying hs here works =>
    exact State.scopes_mapLane (f := fun _ => l') fun _ _ => works.scope_of_lane? here
  | calls => rfl
  | signalled =>
    unfold State.requestStop
    split <;> rfl
  | operates _ n o q resume b state here waits responds =>
    obtain ⟨f, sweep, lanes⟩ := (State.responds_of_respond responds).lanes
    show state.lanes.map Lane.scope = _
    rw [lanes, List.map_map]
    exact List.map_congr_left fun l _ => sweep.scope_eq l

/-- When sessions have ended, no step adds to the failures. -/
theorem Step.failures_eq (step : Step a d d') (past : d.state.Every Lane.Over) :
    d'.state.failures = d.state.failures := by
  cases step with
  | session _ scope l p ts here moves =>
    exact absurd moves (past l (State.mem_of_lane? here)).not_proceeds
  | worker | calls => rfl
  | signalled =>
    unfold State.requestStop
    split <;> rfl
  | operates _ n o q resume b state here waits responds =>
    have kept : state.failures = d.state.failures := State.failures_of_respond responds
    exact kept

theorem enduring_ended (code : Int) : Enduring (Ended (η := η) code) := by
  rintro a d d' step ⟨past, code_eq⟩
  refine ⟨step.over past, ?_⟩
  rw [← code_eq, State.exitCode, State.exitCode, step.scopes_eq, step.failures_eq past]

/-! ## The operation that waits aside -/

/-- It waits for the sessions, and for nothing else. -/
def AwaitsSessions (_ : Daemon η) (_ : Unit) (q : Request) : Prop := q.Waits → q = .sessionsEnded

/-- A wait knows the exit code of sessions that have ended. -/
def Knows (d : Daemon η) (_ : Unit) (r : Except Failure (Option Int)) : Prop :=
  ∃ code, r = .ok (some code) ∧ Ended code d

/-- An operation with this number will know the exit code. -/
def Awaits (w : Nat) (d : Daemon η) : Prop :=
  ∃ o, d.state.operations[w]? = some o ∧ Safe (amid w) AwaitsSessions Knows o.job d

theorem enduring_awaits (w : Nat) : Enduring (Awaits (η := η) w) := by
  rintro a d d' step ⟨o, here, safe⟩
  by_cases own : a = .operation w
  · subst own
    obtain ⟨q, b, asks⟩ := step.asks
    obtain ⟨o', resume, here', waits, after⟩ := asks.operation
    cases here.symm.trans here'
    rw [waits] at safe
    exact ⟨_, after, (safe d .refl).2 b d' asks⟩
  · obtain ⟨o', after, job, -⟩ := step.aside here own
    refine ⟨o', after, ?_⟩
    rw [job]
    exact safe.move ⟨a, own, step⟩

/-- The sessions have ended, and this is what can be seen of them. -/
structure Seen (scopes : List BusScope) (failures : Failures) (d : Daemon η) : Prop where
  past : d.state.Every Lane.Over
  scopes_eq : d.state.lanes.map Lane.scope = scopes
  failures_eq : d.state.failures = failures

theorem enduring_seen (scopes : List BusScope) (failures : Failures) :
    Enduring (Seen (η := η) scopes failures) := by
  rintro a d d' step ⟨past, rfl, rfl⟩
  exact ⟨step.over past, step.scopes_eq, step.failures_eq past⟩

/-- Who is told that sessions have ended finds them so. -/
theorem Asks.over {b : Answer .sessionsEnded} (asks : Asks n .sessionsEnded b d d')
    (started : d.state.Every Lane.Started) : d.state.Every Lane.Over := by
  obtain ⟨o, resume, state, here, waits, responds, rfl⟩ := asks
  by_cases ended : d.state.sessionsEnded = true
  · exact started.over ended
  · simp [State.respond, ended] at responds

theorem verdict_knows (h : d.state.Every Lane.Over) :
    Safe (amid n) AwaitsSessions (Succeeds fun d _ code => Ended code d) (verdict ()) d := by
  have seen : Seen (d.state.lanes.map Lane.scope) d.state.failures d := ⟨h, rfl, rfl⟩
  -- Scopes and failures are read one after the other, so both are fixed from here on.
  revert seen
  generalize d.state.lanes.map Lane.scope = scopes
  generalize d.state.failures = failures
  intro seen
  have code (d : Daemon η) (seen : Seen scopes failures d) :
      Ended (exitCodeOf scopes failures) d := by
    refine ⟨seen.past, ?_⟩
    rw [State.exitCode, seen.scopes_eq, seen.failures_eq]
  have enduring := enduring_seen (η := η) scopes failures
  refine (asks_amid (q := .scopes) (K := fun d a => Seen scopes failures d ∧ scopes = a) enduring
    seen (fun _ _ => False.elim) (fun a => (enduring.and fun _ _ _ _ same => same).stable)
    ?_).seq ?_
  · rintro d _ d' before ⟨o, resume, state, here, waits, responds, rfl⟩ after
    cases responds
    exact ⟨after, before.scopes_eq.symm⟩
  rintro d _ _ ⟨seen, rfl⟩
  refine (asks_amid (q := .failures) (K := fun d a => Seen scopes failures d ∧ failures = a)
    enduring seen (fun _ _ => False.elim)
    (fun a => (enduring.and fun _ _ _ _ same => same).stable) ?_).seq ?_
  · rintro d _ d' before ⟨o, resume, state, here, waits, responds, rfl⟩ after
    cases responds
    exact ⟨after, before.failures_eq.symm⟩
  rintro d _ _ ⟨seen, rfl⟩
  unfold exitCodeOf at code
  split
  · next all =>
    rw [if_pos all] at code
    refine (tells_amid (q := .note _) enduring (enduring_ended 1) seen (fun _ _ => False.elim)
      fun d _ d' _ _ after => code d' after).seq ?_
    intro d _ _ ended
    exact Safe.done (enduring_ended 1).stable ended fun _ ended => ended
  · next some =>
    rw [if_neg some] at code
    exact Safe.done enduring.stable seen code

theorem wait_knows (h : d.state.Every Lane.Started) :
    Safe (amid n) AwaitsSessions Knows Method.wait.job d := by
  have ended : Safe (amid n) AwaitsSessions (Succeeds fun d _ code => Ended code d)
      (wait ()) d := by
    refine (tells_amid enduring_started enduring_over h (fun _ _ _ => rfl) ?_).seq ?_
    · intro d b d' started asks _
      exact asks.step.over (asks.over started)
    · intro d _ _ past
      exact verdict_knows past
  refine ended.seq ?_
  intro d _ code ended
  exact Safe.done (enduring_ended code).stable ended fun d ended => ⟨code, rfl, ended⟩

/-- Who waits aside has a result only if it knows it. -/
theorem Awaits.ended {code : Int} (h : Awaits w d) (result : d.state.result? w = some code) :
    Ended code d := by
  obtain ⟨o, here, safe⟩ := h
  have past : o.result? = some code := by simpa [State.result?, here] using result
  unfold Operation.result? at past
  cases job : o.job with
  | ask s q resume => simp [job] at past
  | done s r =>
    rw [job] at safe past
    obtain ⟨code', rfl, ended⟩ := safe d .refl
    simp only [Option.getD_some, Option.some.injEq] at past
    exact past ▸ ended

/-! ## Serving -/

/-- `serve` starts to stop when a stop has been requested of it, or every session has ended, and it
looks only to an operation that waits aside. -/
def ServesRightly (n : Nat) (d : Daemon η) (_ : Unit) : Request → Prop
  | .cancelSessions =>
    d.state.Every Lane.Started ∧ (d.state.isStopRequested n = true ∨ d.state.Every Lane.Over)
  | .stopOrOver w | .result w => Awaits w d
  | _ => True

/-- How `serve` returns with an exit code. -/
structure Returned (n : Nat) (code : Int) (d : Daemon η) : Prop where
  finished : d.state.Every Lane.Finished
  code_eq : code = if d.state.isStopRequested n then 0 else d.state.exitCode
  released : d.state.catcher ≠ some n

/-- Sessions that have been started have workers. -/
abbrev Staffed (d : Daemon η) : Prop := Accounted d ∧ d.state.Every Lane.Staffed

abbrev Begun (d : Daemon η) : Prop := Staffed d ∧ d.state.Every Lane.Started

theorem enduring_begun : Enduring (Begun (η := η)) := enduring_staffed.and enduring_started

/-- Serving, with an operation that waits aside. -/
abbrev Watched (w : Nat) (P : Lane η → Prop) (d : Daemon η) : Prop :=
  Staffed d ∧ Awaits w d ∧ d.state.Every P

theorem Enduring.watched {P : Lane η → Prop} (w : Nat)
    (h : Enduring fun d : Daemon η => d.state.Every P) : Enduring (Watched w P) :=
  enduring_staffed.and ((enduring_awaits w).and h)

/-- The operation may start to stop. -/
abbrev Stopping (n w : Nat) (d : Daemon η) : Prop :=
  Watched w Lane.Started d ∧ (d.state.isStopRequested n = true ∨ d.state.Every Lane.Over)

theorem enduring_stopping (n w : Nat) : Enduring (Stopping (η := η) n w) := by
  refine (enduring_started.watched w).and ?_
  intro a d d' step h
  exact h.imp (fun h => enduring_requested n step h) step.over

theorem Asks.startSessions {b : Answer .startSessions} (asks : Asks n .startSessions b d d') :
    d'.state.Every Lane.Started := by
  obtain ⟨o, resume, state, here, waits, responds, rfl⟩ := asks
  cases responds
  intro x hx
  obtain ⟨l, -, rfl⟩ := List.mem_map.1 hx
  exact l.started_start

theorem start_begins (h : Staffed d) :
    Safe (alongside n) (ServesRightly n) (Succeeds fun d _ _ => Begun d) (start ()) d := by
  have rest (scopes : List BusScope) (d : Daemon η) (h : Staffed d) :
      Safe (alongside n) (ServesRightly n) (Succeeds fun d _ _ => Begun d)
        ((do tell .startSessions; note (.started scopes) : Supervisor.Step Unit) ()) d := by
    refine (tells_alongside (Q := Begun) enduring_staffed.stable h trivial ?_).seq ?_
    · intro d b d' h asks
      exact ⟨enduring_staffed asks.step h, asks.startSessions⟩
    · intro d _ _ h
      exact tells_enduring (q := .note _) enduring_begun h trivial
  refine (asks_enduring (q := .scopes) enduring_staffed h trivial).seq ?_
  intro d _ scopes h
  simp only
  split
  · refine (tells_enduring (q := .note _) enduring_staffed h trivial).seq ?_
    intro d _ _ h
    exact rest scopes d h
  · exact rest scopes d h

/-- The operation that waits aside is asked for. -/
theorem Asks.waitAside {b : Answer .waitAside} (asks : Asks n .waitAside b d d') (h : Begun d) :
    Watched b Lane.Started d' := by
  have begun := enduring_begun asks.step h
  refine ⟨begun.1, ?_, begun.2⟩
  obtain ⟨o, resume, state, here, waits, responds, rfl⟩ := asks
  cases responds
  have differs : n ≠ d.state.operations.length :=
    Nat.ne_of_lt (List.getElem?_eq_some_iff.1 here).1
  refine ⟨{ method := .wait, job := Method.wait.job }, ?_, wait_knows begun.2⟩
  simp [State.advance, State.call, differs]

theorem Asks.stopOrOver {b : Answer (.stopOrOver w)} (asks : Asks n (.stopOrOver w) b d d')
    (h : Watched w Lane.Started d) : Stopping n w d' := by
  refine enduring_stopping n w asks.step ⟨h, ?_⟩
  obtain ⟨o, resume, state, here, waits, responds, rfl⟩ := asks
  by_cases requested : d.state.isStopRequested n = true
  · exact .inl requested
  · right
    cases result : d.state.result? w with
    | none => simp [State.respond, requested, result] at responds
    | some code => exact (h.2.1.ended result).past

theorem Asks.drained {b : Answer .drained} (asks : Asks n .drained b d d')
    (past : d.state.Every Lane.Over) : d'.state.Every Lane.Quiet := by
  refine asks.step.quiet ?_
  obtain ⟨o, resume, state, here, waits, responds, rfl⟩ := asks
  by_cases drained : d.state.pending = 0
  · exact past.quiet drained
  · simp [State.respond, drained] at responds

theorem Asks.endWorkers {b : Answer .endWorkers} (asks : Asks n .endWorkers b d d')
    (staffed : Staffed d) (quiet : d.state.Every Lane.Quiet) : d'.state.Every Lane.Finished := by
  obtain ⟨o, resume, state, here, waits, responds, rfl⟩ := asks
  cases responds
  intro x hx
  obtain ⟨l, hl, rfl⟩ := List.mem_map.1 hx
  exact (quiet l hl).finished (staffed.2 l hl)

/-- A stop ends the sessions, lets what is pending be dispatched, and ends the workers. -/
theorem stop_ends (h : Stopping n w d) :
    Safe (alongside n) (ServesRightly n) (Succeeds fun d _ _ => Watched w Lane.Finished d)
      (stop ()) d := by
  have started := enduring_started (η := η) |>.watched w
  have past := enduring_over (η := η) |>.watched w
  have quiet := enduring_quiet (η := η) |>.watched w
  have finished := enduring_finished (η := η) |>.watched w
  refine (tells_alongside (q := .cancelSessions) (Q := Watched w Lane.Started)
    (enduring_stopping n w).stable h ⟨h.1.2.2, h.2⟩
    fun _ _ _ h asks => started asks.step h.1).seq ?_
  intro d _ _ h
  refine (tells_alongside (q := .sessionsEnded) (Q := Watched w Lane.Over)
    started.stable h trivial ?_).seq ?_
  · intro d b d' h asks
    obtain ⟨staffed, awaits, -⟩ := started asks.step h
    exact ⟨staffed, awaits, asks.step.over (asks.over h.2.2)⟩
  intro d _ _ h
  refine (asks_enduring (q := .pending) past h trivial).seq ?_
  intro d _ pending h
  -- Whatever is pending, the rest is the same.
  have rest (d : Daemon η) (h : Watched w Lane.Over d) :
      Safe (alongside n) (ServesRightly n) (Succeeds fun d _ _ => Watched w Lane.Finished d)
        ((do tell .drained; tell .endWorkers; tell .closeSender; note .stopped :
          Supervisor.Step Unit) ()) d := by
    refine (tells_alongside (q := .drained) (Q := Watched w Lane.Quiet)
      past.stable h trivial ?_).seq ?_
    · intro d b d' h asks
      obtain ⟨staffed, awaits, -⟩ := past asks.step h
      exact ⟨staffed, awaits, asks.drained h.2.2⟩
    intro d _ _ h
    refine (tells_alongside (q := .endWorkers) (Q := Watched w Lane.Finished)
      quiet.stable h trivial ?_).seq ?_
    · intro d b d' h asks
      obtain ⟨staffed, awaits, -⟩ := quiet asks.step h
      exact ⟨staffed, awaits, asks.endWorkers h.1 h.2.2⟩
    intro d _ _ h
    refine (tells_enduring (q := .closeSender) finished h trivial).seq ?_
    intro d _ _ h
    exact tells_enduring (q := .note _) finished h trivial
  simp only
  split
  · refine (tells_enduring (q := .note _) past h trivial).seq ?_
    intro d _ _ h
    exact rest d h
  · exact rest d h

/-- Lanes have finished, and this is the exit code. -/
abbrev Closed (code : Int) (d : Daemon η) : Prop :=
  d.state.Every Lane.Finished ∧ Ended code d

theorem enduring_closed (code : Int) : Enduring (Closed (η := η) code) :=
  enduring_finished.and (enduring_ended code)

theorem Asks.result {b : Answer (.result w)} (asks : Asks n (.result w) b d d')
    (h : Watched w Lane.Finished d) : Closed b d' := by
  refine enduring_closed b asks.step ⟨h.2.2, ?_⟩
  obtain ⟨o, resume, state, here, waits, responds, rfl⟩ := asks
  obtain ⟨code, result, eq⟩ := Option.map_eq_some_iff.1 responds
  cases eq
  exact h.2.1.ended result

/-- An operation does not request a stop of itself. -/
theorem Asks.requested {q : Request} {b : Answer q} (asks : Asks n q b d d') :
    d'.state.isStopRequested n = d.state.isStopRequested n := by
  obtain ⟨o, resume, here, -, after⟩ := asks.operation
  simp [State.isStopRequested, here, after]

theorem Asks.isStopRequested {b : Answer .isStopRequested}
    (asks : Asks n .isStopRequested b d d') : b = d'.state.isStopRequested n := by
  rw [asks.requested]
  obtain ⟨o, resume, state, here, waits, responds, rfl⟩ := asks
  cases responds
  rfl

theorem Asks.releaseSignals {b : Answer .releaseSignals} (asks : Asks n .releaseSignals b d d') :
    d'.state.catcher = none := by
  obtain ⟨o, resume, state, here, waits, responds, rfl⟩ := asks
  cases responds
  rfl

/-- From the end of a stop to the return nobody comes in between. -/
theorem return_returns (h : Watched w Lane.Finished d) :
    Safe (alongside n) (ServesRightly n) (Succeeds fun d _ code => Returned n code d)
      ((do
        let code : Int ← ask (.result w)
        let requested : Bool ← ask .isStopRequested
        tell .releaseSignals
        return if requested then 0 else code : Supervisor.Step Int) ()) d := by
  refine (asks_alongside (q := .result w) (K := fun d code => Closed code d)
    (enduring_finished.watched w).stable h h.2.1 fun _ _ _ h asks => asks.result h).seq ?_
  intro d _ code h
  refine (asks_inTurn (q := .isStopRequested)
    (K := fun d requested => Closed code d ∧ requested = d.state.isStopRequested n) id h trivial
    fun b d' h asks => ⟨enduring_closed code asks.step h, asks.isStopRequested⟩).seq ?_
  rintro d _ requested ⟨h, rfl⟩
  refine (tells_inTurn (q := .releaseSignals)
    (Q := fun d' => Closed code d' ∧ d'.state.catcher = none ∧
      d'.state.isStopRequested n = d.state.isStopRequested n) id h trivial
    fun b d' h asks =>
      ⟨enduring_closed code asks.step h, asks.releaseSignals, asks.requested⟩).seq ?_
  rintro d' _ _ ⟨⟨finished, ended⟩, caught, requested⟩
  refine done_alongside ⟨finished, ?_, by simp [caught]⟩
  rw [requested, ended.code_eq]

/-- **Serving.** -/
theorem serve_returns (h : Staffed d) :
    Safe (alongside n) (ServesRightly n) (Succeeds fun d _ code => Returned n code d) (serve ())
      d := by
  refine (tells_enduring (q := .catchSignals) enduring_staffed h trivial).seq ?_
  intro d _ _ h
  refine (start_begins h).seq ?_
  intro d _ _ h
  refine (asks_alongside (q := .waitAside) (K := fun d w => Watched w Lane.Started d)
    enduring_begun.stable h trivial fun _ _ _ h asks => asks.waitAside h).seq ?_
  intro d _ w h
  refine (tells_alongside (q := .stopOrOver w) (Q := Stopping n w)
    (enduring_started.watched w).stable h h.2.1 fun _ _ _ h asks => asks.stopOrOver h).seq ?_
  intro d _ _ h
  refine (asks_enduring (q := .isStopRequested) (enduring_stopping n w) h trivial).seq ?_
  intro d _ requested h
  have rest (d : Daemon η) (h : Stopping n w d) :
      Safe (alongside n) (ServesRightly n) (Succeeds fun d _ code => Returned n code d)
        ((do
          stop
          let code : Int ← ask (.result w)
          let requested : Bool ← ask .isStopRequested
          tell .releaseSignals
          return if requested then 0 else code : Supervisor.Step Int) ()) d :=
    (stop_ends h).seq fun d _ _ h => return_returns h
  simp only
  split
  · refine (tells_enduring (q := .note _) (enduring_stopping n w) h trivial).seq ?_
    intro d _ _ h
    exact rest d h
  · exact rest d h

/-- A `serve` returns as it should. -/
def Comes (n : Nat) (d : Daemon η) (_ : Unit) (r : Except Failure (Option Int)) : Prop :=
  ∃ code, r = .ok (some code) ∧ Returned n code d

theorem job_comes (h : Staffed d) :
    Safe (alongside n) (ServesRightly n) (Comes n) Method.serve.job d :=
  (serve_returns h).seq fun _ _ code h => done_alongside ⟨code, rfl, h⟩

/-! ## Runs -/

/-- Only an operation itself has signals request a stop of it. -/
theorem Step.catcher (step : Step a d d') (other : a ≠ .operation n)
    (h : d.state.catcher ≠ some n) : d'.state.catcher ≠ some n := by
  cases step with
  | session _ scope l p ts here moves =>
    obtain ⟨failures, eq⟩ := d.state.moveSession_eq scope p ts
    rw [eq]
    exact h
  | worker | calls => exact h
  | signalled =>
    unfold State.requestStop
    split <;> exact h
  | operates _ m o q resume b state here waits responds =>
    have differs : m ≠ n := by
      rintro rfl
      exact other rfl
    show state.catcher ≠ some n
    -- Only catching and releasing signals say whom they stop.
    cases q with
    | sessionsEnded | drained | stopOrOver =>
      simp only [State.respond] at responds
      split at responds
      · cases responds
        exact h
      · cases responds
    | result job =>
      obtain ⟨code, -, eq⟩ := Option.map_eq_some_iff.1 responds
      cases eq
      exact h
    | catchSignals =>
      cases responds
      simpa using differs
    | releaseSignals =>
      cases responds
      simp
    | _ =>
      cases responds
      exact h

/-- What has been returned stays right. -/
theorem Returned.aside {code : Int} {o : Operation} (h : Returned n code d) (step : Step a d d')
    (here : d.state.operations[n]? = some o) (other : a ≠ .operation n) : Returned n code d' := by
  obtain ⟨finished, code_eq, released⟩ := h
  have past : d.state.Every Lane.Over := fun l hl => (finished l hl).session
  have ended := enduring_ended _ step ⟨past, rfl⟩
  obtain ⟨o', here', -, -, -, same⟩ := step.aside here other
  have requested : d'.state.isStopRequested n = d.state.isStopRequested n := by
    simp [State.isStopRequested, here, here', same released]
  refine ⟨enduring_finished step finished, ?_, step.catcher other released⟩
  rw [code_eq, requested, ended.code_eq]

/-- Every `serve` will return as it should. -/
structure Serving (d : Daemon η) : Prop where
  staffed : Staffed d
  comes : ∀ (n : Nat) (o : Operation), d.state.operations[n]? = some o → o.method = .serve →
    Safe (alongside n) (ServesRightly n) (Comes n) o.job d

/-- Where it waits it stays right. -/
theorem ServesRightly.aside {q : Request} (h : ServesRightly n d () q) (waits : q.Waits)
    (step : Step a d d') : ServesRightly n d' () q := by
  cases q with
  | stopOrOver w | result w => exact enduring_awaits w step h
  | cancelSessions => exact waits.elim
  | _ => trivial

theorem Serving.turn (h : Serving d) (turn : Turn a d d') : Serving d' := by
  have step := turn.step
  have staffed := enduring_staffed step h.staffed
  refine ⟨staffed, ?_⟩
  intro n o' here' serves
  by_cases own : a = .operation n
  · subst own
    obtain ⟨q, b, asks⟩ := step.asks
    obtain ⟨o, resume, here, waits, after⟩ := asks.operation
    cases after.symm.trans here'
    -- The operation itself goes on.
    have safe := h.comes n o here serves
    rw [waits] at safe
    exact (safe d .refl).2 b d' ⟨d, .refl, .inr rfl, asks⟩
  · rcases step.before here' with ⟨o, here⟩ | ⟨m, rfl⟩
    · obtain ⟨_, after, job, method, -⟩ := step.aside here own
      cases after.symm.trans here'
      rw [method] at serves
      rw [job]
      have safe := h.comes n o here serves
      cases now : o.job with
      | done s r =>
        rw [now] at safe
        obtain ⟨code, rfl, returned⟩ := safe d .refl
        exact done_alongside ⟨code, rfl, returned.aside step here own⟩
      | ask s q resume =>
        by_cases waits : q.Waits
        · rw [now] at safe
          exact past_alongside safe waits ((safe d .refl).1.aside waits step) step own
        · -- Others go on, so this operation has not begun.
          have fresh : o.job = o.method.job := by
            by_contra begun
            exact own (turn.operations n ⟨o, q, resume, here, now, waits, begun⟩)
          rw [← now, fresh, serves]
          exact job_comes staffed
    · cases serves
      exact job_comes staffed

theorem Turns.serving (run : Turns d d') (h : Serving d) : Serving d' := by
  induction run with
  | refl => exact h
  | tail _ turn ih =>
    obtain ⟨a, turn⟩ := turn
    exact ih.turn turn

theorem serving_initial (settings : Settings) (timeout : Span) (attempts : Int)
    (backoff : Backoff) : Serving (initial (η := η) settings timeout attempts backoff) := by
  refine ⟨⟨accounted_initial settings timeout attempts backoff, ?_⟩, ?_⟩
  · intro l hl present
    obtain ⟨_, -, rfl⟩ := List.mem_map.1 hl
    exact absurd rfl present
  · rintro n o ⟨⟩

theorem Reaches.scopes_eq (run : Reaches d d') :
    d'.state.lanes.map Lane.scope = d.state.lanes.map Lane.scope := by
  induction run with
  | refl => rfl
  | tail _ step ih =>
    obtain ⟨a, step⟩ := step
    exact step.scopes_eq.trans ih

end Daemon

end UnitWatch.Supervisor
