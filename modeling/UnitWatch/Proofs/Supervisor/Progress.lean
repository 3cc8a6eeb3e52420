import UnitWatch.Proofs.Supervisor.Lifecycle

/-!
# Something can go on

When sessions have been stopped and `serve` has not returned, somebody can take a turn.

- A session on its way out can be answered (`Lane.Leaves`).
- A worker with something to do can do it (`Lane.Manned`).
- At most one operation is in the middle of its turn, and it can go on; no session keeps it from
  that but those that it has stopped (`Courteous`).
- `serve` waits for the sessions, for the workers, or for an operation that waits for the sessions
  (`ready_of_serve`).

So nobody waits for ever for each other (`exists_turn`).
-/

namespace UnitWatch.Supervisor

open Dispatch (Delivery Outcome)
open Safe (Ends)
open UnitWatch.Span (isInstant)
open Session (cancelled? done_observed)

variable {η : Type}

/-! ## Sessions on their way out -/

namespace Lane

/-- The session is on its way out of its connection, and ends as failed. -/
def Leaves (l : Lane η) : Prop :=
  ∃ w p, l.session = .running p ∧
    Safe Session.leaving Session.OnTheWayOut (Ends (fun _ _ _ => False) fun _ _ _ => True) p w

variable {l : Lane η}

theorem Over.leaves (h : l.Over) : l.Leaves := by
  obtain ⟨s, f, running⟩ := h
  exact ⟨[], _, running, done_observed trivial⟩

theorem Leaves.congr {l' : Lane η} (h : l.Leaves) (same : l'.session = l.session) : l'.Leaves := by
  obtain ⟨w, p, running, safe⟩ := h
  exact ⟨w, p, same.trans running, safe⟩

theorem Leaves.started (h : l.Leaves) : l.Started := by
  obtain ⟨w, p, running, -⟩ := h
  simp [Started, running]

/-- On its way out a session goes on by being answered, and stays on its way out. -/
theorem Leaves.answered {p : Session.Phase η} {ts : List Transition} (h : l.Leaves)
    (moves : l.Proceeds p ts) : (l.moveTo p ts).Leaves ∧ ∃ s q resume a,
      l.session = .running (.ask s q resume) ∧ p = resume a := by
  obtain ⟨w, p', running, safe⟩ := h
  cases moves with
  | begins created => simp [running] at created
  | answered s q resume a waits =>
    obtain rfl : p' = .ask s q resume := by simpa [running] using waits
    exact ⟨⟨_, _, rfl, (safe w .refl).2 a _ ⟨trivial, rfl⟩⟩, s, q, resume, a, waits, rfl⟩
  | continues s st done =>
    obtain rfl : p' = .done s (.ok st) := by simpa [running] using done
    exact (safe w .refl).elim

/-- A session on its way out can always be answered. -/
theorem Leaves.exists_proceeds (h : l.Leaves) (alive : ¬l.Over) : ∃ p ts, l.Proceeds p ts := by
  obtain ⟨w, p, running, safe⟩ := h
  match p, running, safe with
  | .done s (.ok st), _, safe => exact (safe w .refl).elim
  | .done s (.error f), running, _ => exact absurd ⟨s, f, running⟩ alive
  | .ask s q resume, running, safe =>
    have leaves : q.Leaves := (safe w .refl).1
    cases q with
    | unsubscribe k => exact ⟨_, _, .answered l s (.unsubscribe k) resume (.ok ()) running⟩
    | close => exact ⟨_, _, .answered l s .close resume (.ok ()) running⟩
    | note n => exact ⟨_, _, .answered l s (.note n) resume () running⟩
    | _ => exact leaves.elim

theorem Leaves.cancel (h : l.Leaves) : l.cancel.Leaves := by
  obtain ⟨w, p, running, safe⟩ := h
  simp only [Lane.cancel, running]
  split
  · exact ⟨w, p, running, safe⟩
  · refine Exists.imp (fun w' safe => ⟨p.cancel, rfl, safe⟩) ?_
    unfold Session.Phase.cancel
    split
    · next s q resume =>
      split
      · next a _ => exact ⟨_, (safe w .refl).2 a _ ⟨trivial, rfl⟩⟩
      · exact ⟨w, safe⟩
    · exact ⟨w, safe⟩

/-- A session that is stopped is on its way out, unless it is in the middle of its turn and was not
before. -/
theorem GivesWay.leaves_cancel (h : l.GivesWay) (started : l.Started)
    (stopped : l.MidTurn → l.Leaves) : l.cancel.Leaves := by
  by_cases mid : l.MidTurn
  · exact (stopped mid).cancel
  unfold Lane.cancel
  split
  · exact Over.leaves ⟨_, _, rfl⟩
  · next p running =>
    match p, running with
    | .done s (.ok st), running => exact absurd (.inl ⟨s, st, running⟩) mid
    | .done s (.error f), running => exact Over.leaves ⟨s, f, running⟩
    | .ask s q resume, running =>
      cases waits : cancelled? q with
      | none => exact absurd (.inr ⟨s, q, resume, running, waits⟩) mid
      | some a =>
        refine ⟨[], resume a, by simp [Session.Phase.outcome?, Session.Phase.cancel, waits], ?_⟩
        refine ((h _ running).1 a waits).weaken ?_
        intro w s r quits
        cases r with
        | ok st => exact quits
        | error f => trivial
  · next absent => exact absurd absent started

theorem Leaves.sweep {q : Request} {f : Lane η → Lane η} (h : l.Leaves)
    (sweeps : State.Sweeps q f) : (f l).Leaves := by
  cases sweeps with
  | starts =>
    unfold Lane.start
    split
    · next absent => exact absurd absent h.started
    · exact h
  | cancels => exact h.cancel
  | endsWorkers =>
    unfold endWorker
    split
    · exact h
    · exact h.congr rfl
  | nothing => exact h

end Lane

theorem Daemon.enduring_leaves : Daemon.Enduring fun d : Daemon η => d.state.Every Lane.Leaves := by
  intro a d d' step h
  refine step.every ?_ ?_ (fun _ _ _ sweep hl => hl.sweep sweep) h
  · intro l x p ts hl moves _
    exact (hl.answered moves).1.congr rfl
  · intro _ _ l _ _ l' _ hl works
    exact hl.congr works.session_eq.1

/-! ## Workers -/

namespace Lane

/-- A lane and the send that is in flight: a worker waits for it. A worker that has ended has left
nothing undone. -/
structure Manned (l : Lane η) (flying : Option Delivery) : Prop where
  unstarted : l.session = .absent → l.worker = .absent
  flight : ∀ x, flying = some x → ∃ t resume, l.worker = .busy t (.ask () (.send x) resume)
  ended : l.worker = .ended → l.Quiet

namespace Manned

variable {l l' : Lane η} {settings : Settings} {timeout : Span} {flying flying' : Option Delivery}
  {hs : List Happening}

theorem proceeds {p : Session.Phase η} {ts : List Transition} (h : l.Manned flying)
    (moves : l.Proceeds p ts) : (l.moveTo p ts).Manned flying where
  unstarted := nofun
  flight := h.flight
  ended gone := absurd moves (h.ended gone).session.not_proceeds

/-- A worker that waits for no send has none in flight. -/
theorem landed (h : l.Manned flying)
    (rests : ∀ t x resume, l.worker ≠ .busy t (.ask () (.send x) resume)) : flying = none := by
  cases flying with
  | none => rfl
  | some x =>
    obtain ⟨t, resume, busy⟩ := h.flight x rfl
    exact absurd busy (rests t x resume)

/-- A started lane whose worker is at work, with no send in flight. -/
theorem unsent (started : l.session ≠ .absent) (here : l.worker ≠ .ended) : l.Manned none where
  unstarted absent := absurd absent started
  flight _ flies := absurd flies.symm (Option.some_ne_none _)
  ended gone := absurd gone here

theorem works (h : l.Manned flying) (works : l.Works settings timeout flying hs l' flying') :
    l'.Manned flying' := by
  have present : l.worker ≠ .absent → l.session ≠ .absent := mt h.unstarted
  cases works with
  | takes _ idle some =>
    obtain rfl := h.landed (by simp [idle])
    obtain ⟨t, rest, queue⟩ := List.exists_cons_of_ne_nil some
    simp only [take, idle, queue]
    exact unsent (present (by simp [idle])) (by simp)
  | notes _ t n resume busy =>
    obtain rfl := h.landed (by simp [busy])
    exact unsent (present (by simp [busy])) (by simp)
  | begins t x resume busy =>
    refine ⟨h.unstarted, ?_, h.ended⟩
    rintro _ ⟨⟩
    exact ⟨t, resume, busy⟩
  | skips t x resume busy | ends t x resume o busy =>
    exact unsent (present (by simp [busy])) (by simp)
  | releases _ t r busy =>
    obtain rfl := h.landed (by simp [busy])
    exact unsent (present (by simp [busy])) (by simp [release])

theorem sweep {q : Request} {f : Lane η → Lane η} (h : l.Manned flying)
    (sweeps : State.Sweeps q f) (quiet : q = .endWorkers → l.Quiet) : (f l).Manned flying := by
  cases sweeps with
  | starts =>
    unfold Lane.start
    split
    · next absent =>
      obtain rfl := h.landed (by simp [h.unstarted absent])
      exact unsent (by simp) (by simp)
    · exact h
  | cancels =>
    obtain ⟨lane, started⟩ := l.cancel_eq
    have worker : l.cancel.worker = l.worker := by rw [lane]
    refine ⟨?_, ?_, ?_⟩
    · intro absent
      rw [worker]
      exact h.unstarted (started absent)
    · rw [worker]
      exact h.flight
    · rw [worker]
      exact fun gone => (h.ended gone).sweep .cancels
  | endsWorkers =>
    have quiet := quiet rfl
    obtain rfl := h.landed fun t x resume => quiet.worker t _
    refine ⟨?_, nofun, fun _ => quiet.sweep .endsWorkers⟩
    intro absent
    unfold endWorker at absent ⊢
    split
    · assumption
    · next present =>
      -- Ending the worker leaves the session as it is.
      have session : l.session = .absent := by
        split at absent <;> exact absent
      exact absurd (h.unstarted session) present
  | nothing => exact h

/-- A worker with something to do can do it. -/
theorem exists_works (settings : Settings) (timeout : Span) (h : l.Manned flying)
    (present : l.worker ≠ .absent) (pending : l.pending ≠ 0) :
    ∃ hs l' flying', l.Works settings timeout flying hs l' flying' := by
  cases worker : l.worker with
  | absent => exact absurd worker present
  | idle =>
    have queued : l.queue ≠ [] := by
      intro empty
      simp [Lane.pending, worker, empty] at pending
    exact ⟨_, _, _, .takes l flying worker queued⟩
  | ended =>
    simp [Lane.pending, worker, (h.ended worker).queue] at pending
  | busy t p =>
    match p, worker with
    | .done _ r, worker => exact ⟨_, _, _, .releases l flying t r worker⟩
    | .ask _ (.note n) resume, worker => exact ⟨_, _, _, .notes l flying t n resume worker⟩
    | .ask _ (.send x) resume, worker =>
      -- A send is begun or skipped if none is on its way, and ended otherwise.
      cases flying with
      | none =>
        cases instant : isInstant x.limit with
        | true => exact ⟨_, _, _, .skips l t x resume worker instant⟩
        | false => exact ⟨_, _, _, .begins l t x resume worker instant⟩
      | some y =>
        obtain ⟨_, _, busy⟩ := h.flight y rfl
        obtain ⟨rfl, rfl, -⟩ : t = _ ∧ x = y ∧ _ := by simpa [worker] using busy
        exact ⟨_, _, _, .ends l t x resume .overdue worker (by simp)⟩

end Manned

end Lane

namespace Daemon

variable {d d' : Daemon η} {a : Actor} {n w : Nat} {scope : BusScope}

/-- A step of a lane leaves the other lanes as they are. -/
theorem Step.lane?_eq {other : BusScope} (step : Step (.lane scope) d d')
    (differs : other ≠ scope) :
    d'.state.lane? other = d.state.lane? other ∧ d'.flying other = d.flying other := by
  cases step with
  | session _ _ l p ts here moves =>
    obtain ⟨failures, eq⟩ := d.state.moveSession_eq scope p ts
    refine ⟨?_, rfl⟩
    rw [eq]
    exact State.lane?_mapLane_of_ne (f := (·.moveTo p ts)) (fun _ h => h) differs
  | worker _ _ l l' flying hs here works =>
    have kept (x : Lane η) (_ : x.scope = scope) := works.scope_of_lane? here
    exact ⟨State.lane?_mapLane_of_ne kept differs, Function.update_of_ne differs ..⟩

/-- A step of a lane is one of its session, or one of its worker. -/
theorem Step.lane?_cases (step : Step (.lane scope) d d') :
    ∃ l l', d.state.lane? scope = some l ∧ d'.state.lane? scope = some l' ∧
      ((∃ p ts, l.Proceeds p ts ∧ l' = l.moveTo p ts ∧ d'.flying scope = d.flying scope) ∨
        ∃ hs, l.Works d.state.settings d.state.timeout (d.flying scope) hs l'
          (d'.flying scope)) := by
  cases step with
  | session _ _ l p ts here moves =>
    obtain ⟨failures, eq⟩ := d.state.moveSession_eq scope p ts
    refine ⟨l, l.moveTo p ts, here, ?_, .inl ⟨p, ts, moves, rfl, rfl⟩⟩
    rw [eq]
    exact State.lane?_mapLane_self (f := (·.moveTo p ts)) (fun _ h => h) here
  | worker _ _ l l' flying hs here works =>
    have kept (x : Lane η) (_ : x.scope = scope) := works.scope_of_lane? here
    exact ⟨l, l', here, State.lane?_mapLane_self kept here, .inr ⟨hs, by simpa using works⟩⟩

/-- Every lane is manned. -/
def Crewed (d : Daemon η) : Prop :=
  ∀ scope l, d.state.lane? scope = some l → l.Manned (d.flying scope)

theorem Step.crewed (step : Step a d d') (orderly : Orderly d) (h : Crewed d) : Crewed d' := by
  intro scope x here'
  cases a with
  | lane mine =>
    by_cases same : scope = mine
    · subst same
      obtain ⟨l, l', here, there, goes⟩ := step.lane?_cases
      obtain rfl : l' = x := by simpa [there] using here'
      rcases goes with ⟨p, ts, moves, rfl, flying⟩ | ⟨hs, works⟩
      · rw [flying]
        exact (h scope l here).proceeds moves
      · exact (h scope l here).works works
    · obtain ⟨lane, flying⟩ := step.lane?_eq same
      rw [flying]
      exact h scope x (lane ▸ here')
  | caller =>
    cases step with
    | calls => exact h scope x here'
    | signalled =>
      refine h scope x ?_
      rw [← here']
      unfold State.requestStop
      split <;> rfl
  | operation n =>
    cases step with
    | operates _ _ o q resume b state here waits responds =>
      obtain ⟨f, sweep, lanes⟩ := (State.responds_of_respond responds).lanes
      have lane : (state.advance n (resume b)).lane? scope = (d.state.lane? scope).map f :=
        State.lane?_map sweep.scope_eq scope lanes
      obtain ⟨l, hl, rfl⟩ := Option.map_eq_some_iff.1 (lane.symm.trans here')
      refine (h scope l hl).sweep sweep ?_
      rintro rfl
      -- Workers are ended only when their lanes are quiet.
      exact orderly.lawful here waits l (State.mem_of_lane? hl)

/-! ## In the middle of a turn -/

/-- Who is in the middle of a turn has just taken a step. -/
theorem Turn.midTurn (turn : Turn a d d') (mid : d'.MidTurn n) : a = .operation n := by
  by_contra other
  obtain ⟨o', q, resume, here', waits, still, begun⟩ := mid
  rcases turn.step.before here' with ⟨o, here⟩ | ⟨m, rfl⟩
  · obtain ⟨_, after, job, method, -⟩ := turn.step.aside here other
    cases after.symm.trans here'
    refine other (turn.operations n ⟨o, q, resume, here, job ▸ waits, still, ?_⟩)
    rwa [← job, ← method]
  · exact begun rfl

/-- Before a step of an operation that is not in the middle of its turn, nobody is. -/
theorem Turn.rested (turn : Turn (.operation n) d d') (begins : ¬d.MidTurn n) {l : Lane η}
    (hl : l ∈ d.state.lanes) : ¬l.MidTurn := by
  intro mid
  have none (m : Nat) : ¬d.MidTurn m := by
    intro other
    cases turn.operations m other
    exact begins other
  obtain ⟨_, -, -, ⟨⟩⟩ := turn.sessions none ⟨l, hl, mid⟩

/-- At most one operation is in the middle of its turn, and meanwhile only sessions that it has
stopped. -/
structure Courteous (d : Daemon η) : Prop where
  sole : ∀ m n, d.MidTurn m → d.MidTurn n → m = n
  stopped : ∀ n, d.MidTurn n → ∀ l ∈ d.state.lanes, l.MidTurn → l.Leaves

theorem Turn.stopped (turn : Turn (.operation n) d d') (h : Courteous d) :
    ∀ l ∈ d.state.lanes, l.MidTurn → l.Leaves := by
  intro l hl mid
  by_cases begun : d.MidTurn n
  · exact h.stopped n begun l hl mid
  · exact absurd mid (turn.rested begun hl)

theorem Turn.courteous (turn : Turn a d d') (way : d.state.Every Lane.GivesWay)
    (h : Courteous d) : Courteous d' := by
  refine ⟨?_, ?_⟩
  · intro m n first second
    cases turn.midTurn first
    cases turn.midTurn second
    rfl
  · intro n begun x hx mid
    obtain rfl := turn.midTurn begun
    have stopped := turn.stopped h
    cases turn.step with
    | operates _ _ o q resume b state here waits responds =>
      obtain ⟨f, sweep, lanes⟩ := (State.responds_of_respond responds).lanes
      rw [show (state.advance n (resume b)).lanes = d.state.lanes.map f from lanes] at hx
      obtain ⟨l, hl, rfl⟩ := List.mem_map.1 hx
      -- Unless the request bears on the session, it leaves as it did.
      have same (session : (f l).session = l.session) : (f l).Leaves := by
        refine (stopped l hl ?_).congr session
        simpa only [Lane.MidTurn, session] using mid
      cases sweep with
      | starts =>
        by_cases absent : l.session = .absent
        · simp [Lane.MidTurn, Lane.start, absent] at mid
        · refine same ?_
          unfold Lane.start
          split
          · contradiction
          · rfl
      | cancels =>
        by_cases absent : l.session = .absent
        · simp [Lane.MidTurn, Lane.cancel, absent] at mid
        · exact (way l hl).leaves_cancel absent (stopped l hl)
      | endsWorkers =>
        refine same ?_
        unfold Lane.endWorker
        split <;> rfl
      | nothing => exact same rfl

/-! ## Something can go on -/

/-- What a daemon keeps from turn to turn. -/
structure Sane (d : Daemon η) : Prop where
  serving : Serving d
  orderly : Orderly d
  crewed : Crewed d
  courteous : Courteous d

theorem Sane.turn (h : Sane d) (turn : Turn a d d') : Sane d' where
  serving := h.serving.turn turn
  orderly := h.orderly.step turn.step
  crewed := turn.step.crewed h.orderly h.crewed
  courteous := turn.courteous h.serving.staffed.1.way h.courteous

theorem sane_initial (settings : Settings) (timeout : Span) (attempts : Int)
    (backoff : Backoff) : Sane (initial (η := η) settings timeout attempts backoff) where
  serving := serving_initial settings timeout attempts backoff
  orderly := (sound_initial settings timeout attempts backoff).toOrderly
  crewed := by
    intro scope l here
    obtain ⟨_, -, rfl⟩ := List.mem_map.1 (State.mem_of_lane? here)
    exact ⟨fun _ => rfl, nofun, nofun⟩
  courteous := by
    refine ⟨?_, ?_⟩
    · rintro m n ⟨o, q, resume, ⟨⟩, -⟩
    · rintro n ⟨o, q, resume, ⟨⟩, -⟩

theorem Enduring.turns {P : Daemon η → Prop} (h : Enduring P) (run : Turns d d') (hd : P d) :
    P d' := by
  induction run with
  | refl => exact hd
  | tail _ turn ih =>
    obtain ⟨a, turn⟩ := turn
    exact h turn.step ih

theorem Turns.sane (run : Turns d d') (h : Sane d) : Sane d' := by
  induction run with
  | refl => exact h
  | tail _ turn ih =>
    obtain ⟨a, turn⟩ := turn
    exact ih.turn turn

/-- A request at which nobody waits is answered at once. -/
theorem exists_respond {s : State η} {q : Request} (still : ¬q.Waits) :
    ∃ b s', s.respond n q = some (b, s') := by
  cases q with
  | sessionsEnded | drained | endWorkers | closeSender | stopOrOver | result =>
    exact absurd trivial still
  | _ => exact ⟨_, _, rfl⟩

/-- Somebody but the caller can take a step. -/
def Ready (d : Daemon η) : Prop := ∃ a d', a ≠ .caller ∧ Step a d d'

theorem ready_of_respond {o : Operation} {q : Request} {resume : Answer q → Job}
    (here : d.state.operations[n]? = some o) (waits : o.job = .ask () q resume)
    (responds : ∃ b s', d.state.respond n q = some (b, s')) : Ready d := by
  obtain ⟨b, s', responds⟩ := responds
  exact ⟨.operation n, _, nofun, .operates d n o q resume b s' here waits responds⟩

section

variable (sane : Sane d) (leaves : d.state.Every Lane.Leaves)

include sane

/-- Who is in the middle of a turn goes on with it. -/
theorem MidTurn.exists_turn (mid : d.MidTurn n) : ∃ d', Turn (.operation n) d d' := by
  obtain ⟨o, q, resume, here, waits, still, -⟩ := id mid
  obtain ⟨b, s', responds⟩ := exists_respond (s := d.state) (n := n) still
  refine ⟨_, .operates d n o q resume b s' here waits responds, ?_, ?_⟩
  · intro m other
    rw [sane.courteous.sole m n other mid]
  · exact fun none => absurd mid (none n)

theorem Sane.lane?_eq {l : Lane η} (hl : l ∈ d.state.lanes) : d.state.lane? l.scope = some l := by
  have recorded := sane.serving.staffed.1.recorded
  cases found : d.state.lane? l.scope with
  | none => simpa using List.find?_eq_none.1 found l hl
  | some x =>
    rw [recorded.eq_of_scope (State.mem_of_lane? found) hl (State.scope_of_lane? found)]

include leaves

theorem exists_step_of_alive {l : Lane η} (hl : l ∈ d.state.lanes) (alive : ¬l.Over) :
    ∃ d', Step (.lane l.scope) d d' := by
  obtain ⟨p, ts, moves⟩ := (leaves l hl).exists_proceeds alive
  exact ⟨_, .session d l.scope l p ts (sane.lane?_eq hl) moves⟩

/-- Who waits for the end of the sessions is told, or a session goes on. -/
theorem ready_of_sessionsEnded {o : Operation} {resume : Answer .sessionsEnded → Job}
    (here : d.state.operations[n]? = some o) (waits : o.job = .ask () .sessionsEnded resume) :
    Ready d := by
  by_cases ended : d.state.sessionsEnded = true
  · exact ready_of_respond here waits ⟨(), d.state, if_pos ended⟩
  · obtain ⟨l, hl, alive⟩ : ∃ l ∈ d.state.lanes, l.isAlive = true := by
      simpa [State.sessionsEnded] using ended
    have alive : ¬l.Over := by
      rintro ⟨s, f, running⟩
      simp [Lane.isAlive, Lane.hasEnded, running, Session.Phase.outcome?] at alive
    obtain ⟨d', step⟩ := exists_step_of_alive sane leaves hl alive
    exact ⟨.lane l.scope, d', by simp, step⟩

/-- Who waits until nothing is pending goes on, or a worker does. -/
theorem ready_of_drained {o : Operation} {resume : Answer .drained → Job}
    (here : d.state.operations[n]? = some o) (waits : o.job = .ask () .drained resume) :
    Ready d := by
  by_cases drained : d.state.pending = 0
  · exact ready_of_respond here waits ⟨(), d.state, if_pos drained⟩
  · obtain ⟨l, hl, pending⟩ : ∃ l ∈ d.state.lanes, l.pending ≠ 0 := by
      simpa [State.pending_eq_zero] using drained
    have there := sane.lane?_eq hl
    have present := sane.serving.staffed.2 l hl (leaves l hl).started
    obtain ⟨hs, l', flying, works⟩ :=
      (sane.crewed l.scope l there).exists_works d.state.settings d.state.timeout present pending
    exact ⟨.lane l.scope, _, nofun, .worker d l.scope l l' flying hs there works⟩

/-- Who looks to an operation that waits aside goes on, or that one does, or a session. -/
theorem ready_of_awaits (awaits : Awaits w d)
    (told : (d.state.result? w).isSome = true → Ready d) : Ready d := by
  obtain ⟨o, here, safe⟩ := awaits
  cases job : o.job with
  | done s r =>
    rw [job] at safe
    obtain ⟨code, rfl, -⟩ := safe d .refl
    exact told (by simp [State.result?, here, Operation.result?, job])
  | ask s q resume =>
    rw [job] at safe
    by_cases waits : q.Waits
    · obtain rfl := (safe d .refl).1 waits
      exact ready_of_sessionsEnded sane leaves here job
    · exact ready_of_respond here job (exists_respond waits)

/-- While a `serve` has not returned, somebody can take a step. -/
theorem ready_of_serve {o : Operation} {q : Request} {resume : Answer q → Job}
    (here : d.state.operations[n]? = some o) (serves : o.method = .serve)
    (waits : o.job = .ask () q resume) : Ready d := by
  have rightly : ServesRightly n d () q := by
    have safe := sane.serving.comes n o here serves
    rw [waits] at safe
    exact (safe d .refl).1
  by_cases still : q.Waits
  · cases q with
    | sessionsEnded => exact ready_of_sessionsEnded sane leaves here waits
    | drained => exact ready_of_drained sane leaves here waits
    | endWorkers | closeSender => exact ready_of_respond here waits ⟨_, _, rfl⟩
    | stopOrOver w =>
      refine ready_of_awaits sane leaves rightly fun told => ?_
      exact ready_of_respond here waits ⟨(), d.state, if_pos (by simp [told])⟩
    | result w =>
      refine ready_of_awaits sane leaves rightly fun told => ?_
      obtain ⟨code, told⟩ := Option.isSome_iff_exists.1 told
      refine ready_of_respond here waits ⟨code, d.state, ?_⟩
      rw [State.respond, told]
      rfl
    | _ => exact still.elim
  · exact ready_of_respond here waits (exists_respond still)

/-- **While a `serve` has not returned, somebody can take a turn**: who is in the middle of one,
or anybody. -/
theorem exists_turn {o : Operation} {q : Request} {resume : Answer q → Job}
    (here : d.state.operations[n]? = some o) (serves : o.method = .serve)
    (waits : o.job = .ask () q resume) : ∃ a d', a ≠ .caller ∧ Turn a d d' := by
  by_cases begun : ∃ m, d.MidTurn m
  · obtain ⟨m, mid⟩ := begun
    obtain ⟨d', turn⟩ := mid.exists_turn sane
    exact ⟨.operation m, d', nofun, turn⟩
  have none (m : Nat) : ¬d.MidTurn m := fun mid => begun ⟨m, mid⟩
  by_cases amid : ∃ l ∈ d.state.lanes, l.MidTurn
  · obtain ⟨l, hl, mid⟩ := amid
    have alive : ¬l.Over := by
      rintro ⟨s, f, running⟩
      simp [Lane.MidTurn, running] at mid
    obtain ⟨d', step⟩ := exists_step_of_alive sane leaves hl alive
    exact ⟨.lane l.scope, d', nofun, step, fun m mid => absurd mid (none m),
      fun _ _ => ⟨l, hl, mid, rfl⟩⟩
  · obtain ⟨a, d', other, step⟩ := ready_of_serve sane leaves here serves waits
    exact ⟨a, d', other, step, fun m mid => absurd mid (none m), fun _ mid => absurd mid amid⟩

end

end Daemon

end UnitWatch.Supervisor
